import PactNetwork.V2.Books

/-!
# Ledger operations as the books see them

Writing a struct, creating an account and moving tokens, each as a change of the
books. The account at the canonical config address is never a stranger's.
-/

set_option autoImplicit false

namespace PactNetwork.V2

open Solana TokenLedger

/-! ## The canonical config address -/

def Shaped (crypto : Crypto) (ledger : Ledger) : Prop :=
  ∀ address, crypto.Derives .protocol address → (ledger address).owner = programId ∨
    (ledger address).owner = systemProgram ∧ (ledger address).data = []

section Shaped

variable {crypto : Crypto} {context : Context} {ledger result : Ledger} {account : Address}

theorem Shaped.config (shaped : Shaped crypto ledger) {config : ProtocolConfig}
    (canonical : crypto.Derives .protocol account)
    (loaded : load ProtocolConfig ledger account = .ok config) :
    recordAt ProtocolConfig ledger account = some config := by
  rcases shaped account canonical with owned | ⟨-, empty⟩
  · exact recordAt_eq_some.mpr ⟨owned, loaded⟩
  · have sized := congrArg List.length (load_eq_ok.mp loaded).1
    rw [empty, Pod.layout.length_encode] at sized
    cases sized

theorem Shaped.congr (shaped : Shaped crypto ledger)
    (same : ∀ address, crypto.Derives .protocol address →
      (result address).owner = (ledger address).owner ∧
        (result address).data.length = (ledger address).data.length) :
    Shaped crypto result := by
  intro address canonical
  obtain ⟨owner, length⟩ := same address canonical
  rw [owner, ← List.length_eq_zero_iff, length, List.length_eq_zero_iff]
  exact shaped address canonical

end Shaped

theorem external_of_signed {crypto : Crypto} {context : Context} {signer : Address}
    (unsigned : ∀ address, crypto.Derived address → context.signer address = false)
    (signed : context.signer signer = true) : ¬ crypto.Derived signer := by
  intro derived
  rw [unsigned signer derived] at signed
  cases signed

theorem requireCanonical_eq_ok {crypto : Crypto} {account : Address} {done : Unit} :
    requireCanonical crypto account = .ok done ↔ crypto.Derives .protocol account := by
  simp only [requireCanonical, bind_eq_ok, failIf_eq_ok, ne_eq, not_not, Prod.exists,
    Crypto.Derives]
  constructor
  · rintro ⟨_, bump, derived, rfl⟩
    exact ⟨bump, derived⟩
  · rintro ⟨bump, derived⟩
    exact ⟨account, bump, derived, rfl⟩

/-! ## Writing structs -/

section Write

variable {crypto : Crypto} {context : Context} {ledger result : Ledger} {account : Address}
  {α : Type} [Pod α] {value old : α}

/-- A write to an account of the program, as every view of the ledger sees it. -/
structure Written (account : Address) (value : α) (before after : Ledger) : Prop where
  same : recordAt α after = Function.update (recordAt α before) account (some value)
  others : ∀ (β : Type) [Pod β], Pod.discriminator α ≠ Pod.discriminator β →
    Pod.discriminator β ≠ 0 ∨ (Pod.layout (α := α)).size ≠ (Pod.layout (α := β)).size →
      recordAt β after = recordAt β before
  tokens : tokenAt after = tokenAt before

theorem write_written (owned : (ledger account).owner = programId)
    (sized : (ledger account).data.length = (Pod.layout (α := α)).size)
    (vacant : ∀ (β : Type) [Pod β], Pod.discriminator α ≠ Pod.discriminator β →
      Pod.discriminator β ≠ 0 ∨ (Pod.layout (α := α)).size ≠ (Pod.layout (α := β)).size →
        recordAt β ledger account = none)
    (tagged : Pod.tag value = Pod.discriminator α)
    (written : write context ledger account value = .ok result) :
    Written account value ledger result where
  same := recordAt_write owned sized tagged written
  others β _ different kind :=
    recordAt_write_of_ne sized tagged different (vacant β different kind) written
  tokens := tokenAt_write owned sized written

theorem Shaped.write (shaped : Shaped crypto ledger)
    (sized : (ledger account).data.length = (Pod.layout (α := α)).size)
    (written : write context ledger account value = .ok result) : Shaped crypto result := by
  obtain ⟨rfl, -⟩ := write_of_layout sized written
  refine shaped.congr fun address _ => ?_
  by_cases same : address = account
  · subst same
    rw [Function.update_self, sized]
    exact ⟨rfl, Pod.layout.length_encode value⟩
  · rw [Function.update_of_ne same]
    exact ⟨rfl, rfl⟩

theorem write_over (owned : (ledger account).owner = programId)
    (loaded : load α ledger account = .ok old)
    (written : V2.write context ledger account value = .ok result)
    (tagged : Pod.tag value = Pod.discriminator α) :
    Written account value ledger result ∧ (Shaped crypto ledger → Shaped crypto result) := by
  have sized : (ledger account).data.length = (Pod.layout (α := α)).size := by
    rw [(load_eq_ok.mp loaded).1, Pod.layout.length_encode]
  exact ⟨write_written owned sized (fun _ _ different _ => recordAt_eq_none_of_load loaded different)
    tagged written, fun shaped => shaped.write sized written⟩

theorem load_stored {loaded : α} (stored : recordAt α ledger account = some old)
    (found : load α ledger account = .ok loaded) : loaded = old :=
  Except.ok.inj (found.symm.trans (recordAt_eq_some.mp stored).2)

theorem write_owner (written : V2.write context ledger account value = .ok result)
    (address : Address) : (result address).owner = (ledger address).owner := by
  obtain ⟨rfl, -⟩ := store_eq_ok written
  exact setData_owner _ _ _ _

theorem owned_of_write (loaded : load α ledger account = .ok old) (changed : value ≠ old)
    (written : V2.write context ledger account value = .ok result) :
    (ledger account).owner = programId := by
  have data := (load_eq_ok.mp loaded).1
  have sized : (ledger account).data.length = (Pod.layout (α := α)).size := by
    rw [data, Pod.layout.length_encode]
  refine (write_of_layout sized written).2 fun same => changed ?_
  rw [data] at same
  have decoded := congrArg (Pod.layout (α := α)).decode same
  rwa [Layout.decode_encode, Layout.decode_encode] at decoded

namespace Written

variable {before after : Ledger}

theorem config {config : ProtocolConfig} (written : Written account config before after) :
    booksOf after = (booksOf before).setConfig account config := by
  simp only [booksOf, Books.setConfig, written.same, written.tokens,
    written.others CoveragePool (by decide) (by decide), written.others UnderwriterPosition (by decide) (by decide),
    written.others Policy (by decide) (by decide), written.others Claim (by decide) (by decide)]

theorem pool {pool : CoveragePool} (written : Written account pool before after) :
    booksOf after = (booksOf before).setPool account pool := by
  simp only [booksOf, Books.setPool, written.same, written.tokens,
    written.others ProtocolConfig (by decide) (by decide), written.others UnderwriterPosition (by decide) (by decide),
    written.others Policy (by decide) (by decide), written.others Claim (by decide) (by decide)]

theorem position {position : UnderwriterPosition}
    (written : Written account position before after) :
    booksOf after = (booksOf before).setPosition account position := by
  simp only [booksOf, Books.setPosition, written.same, written.tokens,
    written.others ProtocolConfig (by decide) (by decide), written.others CoveragePool (by decide) (by decide),
    written.others Policy (by decide) (by decide), written.others Claim (by decide) (by decide)]

theorem policy {policy : Policy} (written : Written account policy before after) :
    booksOf after = (booksOf before).setPolicy account policy := by
  simp only [booksOf, Books.setPolicy, written.same, written.tokens,
    written.others ProtocolConfig (by decide) (by decide), written.others CoveragePool (by decide) (by decide),
    written.others UnderwriterPosition (by decide) (by decide), written.others Claim (by decide) (by decide)]

theorem claim {claim : Claim} (written : Written account claim before after) :
    booksOf after = (booksOf before).setClaim account claim := by
  simp only [booksOf, Books.setClaim, written.same, written.tokens,
    written.others ProtocolConfig (by decide) (by decide), written.others CoveragePool (by decide) (by decide),
    written.others UnderwriterPosition (by decide) (by decide), written.others Policy (by decide) (by decide)]

end Written

end Write

/-! ## Creating accounts and moving tokens -/

section Create

variable {crypto : Crypto} {context : Context} {ledger result : Ledger}
  {account payer owner : Address} {lamports space : Nat}

theorem createAccount_contents
    (made : createAccount context ledger payer account lamports space owner = .ok result)
    {address : Address} (different : address ≠ account) :
    (result address).owner = (ledger address).owner ∧
      (result address).data = (ledger address).data := by
  obtain ⟨-, -, -, rfl⟩ := createAccount_eq_ok.mp made
  rw [Function.update_of_ne different]
  by_cases funder : address = payer
  · subst funder
    rw [Function.update_self]
    exact ⟨rfl, rfl⟩
  · rw [Function.update_of_ne funder]
    exact ⟨rfl, rfl⟩

theorem recordAt_of_contents {α : Type} [Pod α] {address : Address}
    (same : (result address).owner = (ledger address).owner ∧
      (result address).data = (ledger address).data) :
    recordAt α result address = recordAt α ledger address := by
  simp only [recordAt, load, same.1, same.2]

theorem recordAt_zeroed {α : Type} [Pod α] {address : Address}
    (zeroed : ∀ byte ∈ (ledger address).data, byte = 0)
    (kind : Pod.discriminator α ≠ 0 ∨ (ledger address).data.length ≠ (Pod.layout (α := α)).size) :
    recordAt α ledger address = none := by
  cases found : recordAt α ledger address with
  | none => rfl
  | some value =>
      obtain ⟨data, tagged⟩ := load_eq_ok.mp (recordAt_eq_some.mp found).2
      have head := Pod.head_encode value
      rw [← data, tagged] at head
      rcases kind with nonzero | sized
      · exact (nonzero (zeroed _ (List.mem_of_mem_head? head))).elim
      · rw [data, Pod.layout.length_encode] at sized
        exact (sized rfl).elim

theorem createAccount_vacant
    (made : createAccount context ledger payer account lamports space owner = .ok result) :
    (ledger account).data = [] ∧ (ledger account).owner = systemProgram ∧
      (result account).owner = owner ∧ (result account).data = List.replicate space 0 := by
  obtain ⟨-, absent, -, rfl⟩ := createAccount_eq_ok.mp made
  rw [absent, Function.update_self]
  exact ⟨rfl, rfl, rfl, rfl⟩

theorem createAccount_owned {address : Address}
    (made : createAccount context ledger payer account lamports space programId = .ok result)
    (owned : (ledger address).owner = programId) : (result address).owner = programId := by
  by_cases same : address = account
  · rw [same]
    exact (createAccount_vacant made).2.2.1
  · rw [(createAccount_contents made same).1, owned]

theorem recordAt_eq_none_of_empty {α : Type} [Pod α] (empty : (ledger account).data = []) :
    recordAt α ledger account = none := by
  apply recordAt_eq_none_of_head
  rw [empty]
  exact nofun

theorem recordAt_createAccount {α : Type} [Pod α]
    (made : createAccount context ledger payer account lamports space owner = .ok result)
    (kind : Pod.discriminator α ≠ 0 ∨ space ≠ (Pod.layout (α := α)).size) :
    recordAt α result = recordAt α ledger := by
  obtain ⟨empty, -, -, zeroed⟩ := createAccount_vacant made
  funext address
  by_cases same : address = account
  · subst same
    rw [recordAt_eq_none_of_empty empty]
    apply recordAt_zeroed
    · rw [zeroed]
      exact fun _ member => List.eq_of_mem_replicate member
    · rwa [zeroed, List.length_replicate]
  · exact recordAt_of_contents (createAccount_contents made same)

theorem tokenAt_createAccount
    (made : createAccount context ledger payer account lamports space owner = .ok result) :
    tokenAt ledger account = none ∧ tokenAt result = tokenAt ledger := by
  obtain ⟨empty, system, -, zeroed⟩ := createAccount_vacant made
  have absent : tokenAt ledger account = none := by
    apply tokenAt_eq_none_of_owner
    rw [system]
    decide
  refine ⟨absent, ?_⟩
  funext address
  by_cases same : address = account
  · subst same
    rw [absent]
    refine if_neg ?_
    rintro ⟨-, sized, valid, -⟩
    rw [zeroed, List.length_replicate] at sized
    rw [zeroed, sized] at valid
    revert valid
    decide
  · obtain ⟨owner, data⟩ := createAccount_contents made same
    simp only [tokenAt, owner, data]

theorem createAccount_books
    (made : createAccount context ledger payer account lamports space owner = .ok result)
    (kind : space ≠ (Pod.layout (α := ProtocolConfig)).size) :
    booksOf result = booksOf ledger := by
  simp only [booksOf, recordAt_createAccount made (.inr kind), (tokenAt_createAccount made).2,
    recordAt_createAccount (α := CoveragePool) made (.inl (by decide)),
    recordAt_createAccount (α := UnderwriterPosition) made (.inl (by decide)),
    recordAt_createAccount (α := Policy) made (.inl (by decide)),
    recordAt_createAccount (α := Claim) made (.inl (by decide))]

theorem createAccount_setConfig {config : ProtocolConfig}
    (made : createAccount context ledger payer account lamports space owner = .ok result) :
    (booksOf result).setConfig account config = (booksOf ledger).setConfig account config := by
  have configs : Function.update (recordAt ProtocolConfig result) account (some config) =
      Function.update (recordAt ProtocolConfig ledger) account (some config) := by
    funext address
    by_cases same : address = account
    · rw [same, Function.update_self, Function.update_self]
    · rw [Function.update_of_ne same, Function.update_of_ne same]
      exact recordAt_of_contents (createAccount_contents made same)
  simp only [booksOf, Books.setConfig, configs, (tokenAt_createAccount made).2,
    recordAt_createAccount (α := CoveragePool) made (.inl (by decide)),
    recordAt_createAccount (α := UnderwriterPosition) made (.inl (by decide)),
    recordAt_createAccount (α := Policy) made (.inl (by decide)),
    recordAt_createAccount (α := Claim) made (.inl (by decide))]

theorem Shaped.createAccount (shaped : Shaped crypto ledger)
    (made : Solana.createAccount context ledger payer account lamports space owner = .ok result)
    (ours : owner = programId ∨ ¬ crypto.Derives .protocol account) : Shaped crypto result := by
  intro address canonical
  by_cases same : address = account
  · subst same
    obtain ⟨-, -, owner, -⟩ := createAccount_vacant made
    rw [owner]
    exact .inl (ours.resolve_right (not_not_intro canonical))
  · obtain ⟨owner, data⟩ := createAccount_contents made same
    rw [owner, data]
    exact shaped address canonical

theorem write_zeroed {α : Type} [Pod α] {value : α} (owned : (ledger account).owner = programId)
    (zeroed : (ledger account).data = List.replicate (Pod.layout (α := α)).size 0)
    (written : write context ledger account value = .ok result)
    (tagged : Pod.tag value = Pod.discriminator α) :
    Written account value ledger result ∧ (Shaped crypto ledger → Shaped crypto result) := by
  have sized : (ledger account).data.length = (Pod.layout (α := α)).size := by
    rw [zeroed, List.length_replicate]
  refine ⟨write_written owned sized (fun β _ _ kind => recordAt_zeroed ?_ ?_) tagged written,
    fun shaped => shaped.write sized written⟩
  · rw [zeroed]
    exact fun _ member => List.eq_of_mem_replicate member
  · rwa [sized]

theorem SameOutsideTokens.books (moved : SameOutsideTokens ledger result) :
    booksOf result = (booksOf ledger).withTokens (tokenAt result) := by
  have records (α : Type) [Pod α] : recordAt α result = recordAt α ledger := by
    funext address
    by_cases token : (ledger address).owner = tokenProgram
    · have foreign : tokenProgram ≠ programId := by decide
      rw [recordAt, recordAt, moved.owner, token, if_neg foreign, if_neg foreign]
    · exact recordAt_congr (moved.same address token)
  simp only [booksOf, Books.withTokens, records]

theorem SameOutsideTokens.shaped (moved : SameOutsideTokens ledger result)
    (shaped : Shaped crypto ledger) : Shaped crypto result :=
  shaped.congr fun _ _ => ⟨moved.owner _, moved.length _⟩

theorem transferPoolSigned_spec {source destination : Address} {amount : UInt64}
    {pool : CoveragePool} (paid : transferPoolSigned crypto context ledger source destination
      account amount pool = .ok result) :
    Pays (tokenAt ledger) ⟨source, destination, account, amount⟩ (tokenAt result) ∧
      SameOutsideTokens ledger result := by
  simp only [transferPoolSigned, bind_eq_ok, failIf_eq_ok, exists_const] at paid
  exact transfer_spec paid.2

theorem transferUserSigned_spec {source destination : Address} {amount : UInt64}
    (paid : transferUserSigned context ledger source destination account amount = .ok result) :
    Pays (tokenAt ledger) ⟨source, destination, account, amount⟩ (tokenAt result) ∧
      SameOutsideTokens ledger result := by
  simp only [transferUserSigned, bind_eq_ok, failIf_eq_ok, exists_const] at paid
  exact transfer_spec paid.2

theorem initializeAccount3_books {vault mint : Address}
    (opened : initializeAccount3 context ledger vault mint owner = .ok result) :
    ∃ token : TokenAccount, token.Exclusive owner ∧ token.amount = 0 ∧
      SameOutsideTokens ledger result ∧
      tokenAt result = Function.update (tokenAt ledger) vault (some token) := by
  obtain ⟨owned, -, token, exclusive, unfunded, -, rfl, tokens⟩ := initializeAccount3_spec opened
  simp only [initializeAccount3, bind_eq_ok, failIf_eq_ok, exists_const, not_or, ne_eq, not_not]
    at opened
  obtain ⟨-, ⟨-, sized⟩, -⟩ := opened
  refine ⟨token, exclusive, unfunded, ⟨fun _ => writeToken_owner _ _ _ _, fun address => ?_,
    fun address foreign => ?_⟩, tokens⟩
  · by_cases same : address = vault
    · rw [same, writeToken, Function.update_self, TokenAccount.layout.length_encode, sized]
    · rw [writeToken_apply_ne same]
  · refine writeToken_apply_ne ?_
    rintro rfl
    exact foreign owned

end Create

end PactNetwork.V2
