import PactNetwork.V1.Batching
import PactNetwork.V1.Program

/-!
# Instructions are steps of the books

Every accepted instruction takes the books through their steps and keeps the
shape of the program's accounts. The invariants of the books are then
invariants of the chain.
-/

set_option autoImplicit false

namespace PactNetwork.V1

open Solana

/-! ## Changing one account -/

/-- Only the account at `address` may have other contents than before. -/
def SameBut (address : Address) (before after : Ledger) : Prop :=
  ∀ other, other ≠ address → (after other).owner = (before other).owner ∧
    (after other).data = (before other).data

section SameBut

variable {address : Address} {before middle after : Ledger}

theorem SameBut.trans (left : SameBut address before middle) (right : SameBut address middle after) :
    SameBut address before after := fun other different =>
  ⟨(right other different).1.trans (left other different).1,
    (right other different).2.trans (left other different).2⟩

theorem sameBut_setStruct {α : Type} (layout : Layout α) (ledger : Ledger) (value : α) :
    SameBut address ledger (setStruct layout ledger address value) := fun _ different => by
  rw [setStruct_of_ne different]
  exact ⟨rfl, rfl⟩

theorem sameBut_createAccount {context : Context} {funder owner : Address} {lamports space : Nat}
    (made : createAccount context before funder address lamports space owner = .ok after) :
    SameBut address before after := by
  obtain ⟨-, -, -, rfl⟩ := createAccount_eq_ok.mp made
  intro other different
  rw [Function.update_of_ne different]
  by_cases payer : other = funder
  · subst payer
    rw [Function.update_self]
    exact ⟨rfl, rfl⟩
  · rw [Function.update_of_ne payer]
    exact ⟨rfl, rfl⟩

theorem SameBut.tokenAt (same : SameBut address before after) {other : Address}
    (different : other ≠ address) : tokenAt after other = tokenAt before other := by
  obtain ⟨owner, data⟩ := same other different
  simp only [Solana.tokenAt, owner, data]

theorem SameBut.structOf {addresses : Addresses} (same : SameBut address before after) {pda : Pda}
    (different : addresses.of pda ≠ address) :
    structOf addresses after pda = structOf addresses before pda := by
  obtain ⟨owner, data⟩ := same _ different
  simp only [V1.structOf, structAt, owner, data]

end SameBut

/-! ## Shapes -/

section Shaped

variable {addresses : Addresses} {ledger result before after : Ledger} {pda : Pda}

theorem Shaped.congr (shaped : Shaped addresses before)
    (owner : ∀ pda, (after (addresses.of pda)).owner = (before (addresses.of pda)).owner)
    (length : ∀ pda, (after (addresses.of pda)).data.length =
      (before (addresses.of pda)).data.length) : Shaped addresses after := by
  intro pda
  rw [owner, length]
  exact shaped pda

theorem Pda.size_pos (pda : Pda) : 0 < pda.layout.size := by
  cases pda <;> simp only [Pda.layout, CoveragePool.layout_size, EndpointConfig.layout_size,
    CallRecord.layout_size, SettlementAuthority.layout_size, Treasury.layout_size,
    ProtocolConfig.layout_size] <;> omega

theorem Shaped.owned_of_found {α : Type} {layout : Layout α} {value : α}
    (shaped : Shaped addresses ledger) (sized : 0 < layout.size)
    (found : structAt layout ledger (addresses.of pda) = some value) :
    (ledger (addresses.of pda)).owner = programId := by
  have long := Layout.size_le_of_read found
  rcases shaped pda with ⟨-, empty⟩ | ⟨owned, -⟩
  · omega
  · exact owned

theorem Shaped.foreign (shaped : Shaped addresses ledger) (pda : Pda) :
    (ledger (addresses.of pda)).owner ≠ tokenProgram := by
  rcases shaped pda with ⟨owner, -⟩ | ⟨owner, -⟩
  · rw [owner]
    exact SettleBatch.systemProgram_ne_tokenProgram
  · rw [owner]
    exact SettleBatch.programId_ne_tokenProgram

theorem structOf_eq_some {value : pda.Struct} : structOf addresses ledger pda = some value ↔
    (ledger (addresses.of pda)).owner = programId ∧
      structAt pda.layout ledger (addresses.of pda) = some value := by
  unfold structOf
  split
  case isTrue owned => simp [owned]
  case isFalse foreign => simp [foreign]

theorem Shaped.structOf_of_found {value : pda.Struct} (shaped : Shaped addresses ledger)
    (found : structAt pda.layout ledger (addresses.of pda) = some value) :
    structOf addresses ledger pda = some value :=
  structOf_eq_some.mpr ⟨shaped.owned_of_found pda.size_pos found, found⟩

theorem Shaped.structOf_eq (shaped : Shaped addresses ledger) (pda : Pda) :
    structOf addresses ledger pda = structAt pda.layout ledger (addresses.of pda) := by
  cases found : structAt pda.layout ledger (addresses.of pda) with
  | some value => exact shaped.structOf_of_found found
  | none =>
      unfold structOf
      rw [found, ite_self]

theorem structOf_eq_none_of_owner (foreign : (ledger (addresses.of pda)).owner ≠ programId) :
    structOf addresses ledger pda = none := if_neg foreign

theorem structOf_absent (absent : ledger (addresses.of pda) = Account.absent) :
    structOf addresses ledger pda = none := by
  refine structOf_eq_none_of_owner ?_
  rw [absent]
  exact Ne.symm SettleBatch.programId_ne_systemProgram

/-! ## Writing structs -/

variable (fees : Slug → Nat)

theorem books_put {value : pda.Struct} (owned : (after (addresses.of pda)).owner = programId)
    (written : structAt pda.layout after (addresses.of pda) = some value)
    (foreign : (before (addresses.of pda)).owner ≠ tokenProgram)
    (same : SameBut (addresses.of pda) before after) :
    Chain.books addresses ⟨after, fees⟩ = (Chain.books addresses ⟨before, fees⟩).put pda value := by
  have structs : structOf addresses after =
      Function.update (structOf addresses before) pda (some value) := by
    funext other
    by_cases here : other = pda
    · subst here
      rw [Function.update_self, structOf_eq_some]
      exact ⟨owned, written⟩
    · rw [Function.update_of_ne here]
      exact same.structOf (by simpa using here)
  have tokens : tokenAt after = tokenAt before := by
    funext address
    by_cases here : address = addresses.of pda
    · subst here
      rw [tokenAt_eq_none_of_owner foreign, tokenAt_eq_none_of_owner]
      rw [owned]
      exact SettleBatch.programId_ne_tokenProgram
    · exact same.tokenAt here
  simp only [Chain.books, Books.put, structs, tokens]

theorem books_setStruct (value : pda.Struct)
    (owned : (ledger (addresses.of pda)).owner = programId) :
    Chain.books addresses ⟨setStruct pda.layout ledger (addresses.of pda) value, fees⟩ =
      (Chain.books addresses ⟨ledger, fees⟩).put pda value :=
  books_put fees (by rw [setStruct_owner, owned]) structAt_setStruct_self
    (by rw [owned]; exact SettleBatch.programId_ne_tokenProgram) (sameBut_setStruct _ _ _)

theorem Shaped.setStruct {α : Type} {layout : Layout α} {address : Address} {old value : α}
    (shaped : Shaped addresses ledger) (found : structAt layout ledger address = some old) :
    Shaped addresses (setStruct layout ledger address value) :=
  shaped.congr (fun _ => setStruct_owner) fun _ => setStruct_length found

theorem save_spec {context : Context} {old value : pda.Struct} (shaped : Shaped addresses ledger)
    (found : structAt pda.layout ledger (addresses.of pda) = some old)
    (saved : save pda.layout programId context ledger (addresses.of pda) value = .ok result) :
    Shaped addresses result ∧ Chain.books addresses ⟨result, fees⟩ =
      (Chain.books addresses ⟨ledger, fees⟩).put pda value := by
  obtain ⟨rfl, -⟩ := save_eq_ok found saved
  exact ⟨shaped.setStruct found, books_setStruct fees value (shaped.owned_of_found pda.size_pos found)⟩

def Pda.blank (pda : Pda) : pda.Struct := pda.layout.decode (List.replicate pda.layout.size 0)

theorem createAccount_spec {context : Context} {payer : Address} {lamports : Nat}
    (shaped : Shaped addresses ledger)
    (made : createAccount context ledger payer (addresses.of pda) lamports pda.layout.size
      programId = .ok result) :
    Shaped addresses result ∧ structOf addresses ledger pda = none ∧
      structAt pda.layout result (addresses.of pda) = some pda.blank ∧
      Chain.books addresses ⟨result, fees⟩ =
        (Chain.books addresses ⟨ledger, fees⟩).put pda pda.blank := by
  have same := sameBut_createAccount made
  obtain ⟨-, absent, -, rfl⟩ := createAccount_eq_ok.mp made
  have found : structAt pda.layout (Function.update (Function.update ledger payer
      { ledger payer with lamports := (ledger payer).lamports - lamports }) (addresses.of pda)
      ⟨lamports, programId, List.replicate pda.layout.size 0⟩) (addresses.of pda) =
        some pda.blank := by
    rw [structAt, Function.update_self]
    exact pda.layout.read_of_length (List.length_replicate)
  refine ⟨fun other => ?_, structOf_absent absent, found, books_put fees ?_ found ?_ same⟩
  · by_cases here : other = pda
    · subst here
      rw [Function.update_self]
      exact .inr ⟨rfl, List.length_replicate⟩
    · obtain ⟨owner, data⟩ := same (addresses.of other) (by simpa using here)
      rw [owner, data]
      exact shaped other
  · rw [Function.update_self]
  · rw [absent]
    exact SettleBatch.systemProgram_ne_tokenProgram

theorem createStruct_spec {context : Context} {payer : Address} {value : pda.Struct}
    (shaped : Shaped addresses ledger)
    (made : createStruct context pda.layout ledger payer (addresses.of pda) value = .ok result) :
    Shaped addresses result ∧ structOf addresses ledger pda = none ∧
      Chain.books addresses ⟨result, fees⟩ =
        (Chain.books addresses ⟨ledger, fees⟩).put pda value := by
  simp only [createStruct, bind_eq_ok] at made
  obtain ⟨created, creation, saved⟩ := made
  obtain ⟨shaped', absent, found, put⟩ := createAccount_spec fees shaped creation
  obtain ⟨shaped'', written⟩ := save_spec fees shaped' found saved
  exact ⟨shaped'', absent, by rw [written, put, Books.put_put]⟩

theorem initializeAccount3_books {context : Context} {vault mint owner : Address}
    (shaped : Shaped addresses ledger)
    (opened : initializeAccount3 context ledger vault mint owner = .ok result) :
    Shaped addresses result ∧ tokenAt ledger vault = none ∧
      ∃ token : TokenAccount, token.Exclusive owner ∧
        (∀ pda, result (addresses.of pda) = ledger (addresses.of pda)) ∧
        Chain.books addresses ⟨result, fees⟩ = (Chain.books addresses ⟨ledger, fees⟩).withTokens
          (Function.update (tokenAt ledger) vault (some token)) := by
  obtain ⟨owned, absent, token, exclusive, -, -, rfl, tokens⟩ := initializeAccount3_spec opened
  have apart : ∀ pda, writeToken ledger vault token (addresses.of pda) =
      ledger (addresses.of pda) := fun pda =>
    writeToken_apply_ne fun same => shaped.foreign pda (by rw [same, owned])
  refine ⟨shaped.congr (fun pda => by rw [apart]) (fun pda => by rw [apart]), absent, token,
    exclusive, apart, ?_⟩
  have structs : structOf addresses (writeToken ledger vault token) = structOf addresses ledger := by
    funext pda
    simp only [structOf, structAt, apart]
  simp only [Chain.books, Books.withTokens, structs, tokens]

end Shaped

/-! ## Administration -/

/-- The books take steps and the accounts keep their shape. -/
structure Advances (addresses : Addresses) (before after : Chain) : Prop where
  shaped : Shaped addresses after.ledger
  steps : Relation.ReflTransGen (Books.Step addresses) (before.books addresses)
    (after.books addresses)

section Administration

variable {addresses : Addresses} {context : Context} {ledger result : Ledger}
  {accounts : List Address} {data : List UInt8} (fees : Slug → Nat)

theorem Advances.step (shaped : Shaped addresses result)
    (step : Books.Step addresses (Chain.books addresses ⟨ledger, fees⟩)
      (Chain.books addresses ⟨result, fees⟩)) :
    Advances addresses ⟨ledger, fees⟩ ⟨result, fees⟩ := ⟨shaped, .single step⟩

theorem structOf_config {protocolConfig authority : Address} {config : ProtocolConfig}
    (verified : (ledger protocolConfig).owner = programId)
    (canonical : protocolConfig = addresses.of .protocolConfig)
    (required : requireAuthority ledger protocolConfig authority = .ok config) :
    structOf addresses ledger .protocolConfig = some config := by
  subst canonical
  simp only [requireAuthority, bind_eq_ok, okOr_eq_ok, failIf_eq_ok, exists_const,
    Except.ok.injEq] at required
  obtain ⟨stored, found, -, rfl⟩ := required
  exact structOf_eq_some.mpr ⟨verified, found⟩

theorem InitializeProtocolConfig.spec (shaped : Shaped addresses ledger)
    (accepted : InitializeProtocolConfig.process addresses context ledger accounts data =
      .ok result) :
    Shaped addresses result ∧ structOf addresses ledger .protocolConfig = none ∧
      ∃ config : ProtocolConfig, config.maxTotalFeeBps.toNat ≤ 10000 ∧
        Fee.WithinBounds (config.defaultFeeRecipients.toList.take
          config.defaultFeeRecipientCount.toNat) config.maxTotalFeeBps.toNat ∧
        Fee.Known config.defaultFeeRecipientCount config.defaultFeeRecipients ∧
        Chain.books addresses ⟨result, fees⟩ =
          (Chain.books addresses ⟨ledger, fees⟩).put .protocolConfig config := by
  unfold InitializeProtocolConfig.process at accepted
  split at accepted
  case h_1 authority protocolConfig mint systemProgram rest =>
    simp only [bind_eq_ok, failIf_eq_ok, exists_const, ne_eq, not_not] at accepted
    obtain ⟨-, -, -, -, -, rfl, -, entries, parsed, made⟩ := accepted
    obtain ⟨shaped', absent, put⟩ := createStruct_spec fees shaped made
    obtain ⟨cap, template⟩ := parseTemplate_spec parsed addresses authority mint
    exact ⟨shaped', absent, _, cap, template, parseTemplate_known parsed, put⟩
  case h_2 => cases accepted

theorem InitializeProtocolConfig.advances (shaped : Shaped addresses ledger)
    (accepted : InitializeProtocolConfig.process addresses context ledger accounts data =
      .ok result) : Advances addresses ⟨ledger, fees⟩ ⟨result, fees⟩ := by
  obtain ⟨shaped', absent, config, cap, template, -, put⟩ :=
    InitializeProtocolConfig.spec fees shaped accepted
  exact .step fees shaped' (put ▸ .configure config absent cap template)

theorem InitializeTreasury.spec (shaped : Shaped addresses ledger)
    (accepted : InitializeTreasury.process addresses context ledger accounts = .ok result) :
    Shaped addresses result ∧ structOf addresses ledger .treasury = none ∧
      ∃ (treasury : Treasury) (token : TokenAccount), tokenAt ledger treasury.usdcVault = none ∧
        Chain.books addresses ⟨result, fees⟩ =
          ((Chain.books addresses ⟨ledger, fees⟩).put .treasury treasury).withTokens
            (Function.update (tokenAt ledger) treasury.usdcVault (some token)) := by
  unfold InitializeTreasury.process at accepted
  split at accepted
  case h_1 authority protocolConfig treasury vault mint systemProgram tokenProgram rest =>
    simp only [bind_eq_ok, failIf_eq_ok, exists_const, ne_eq, not_not] at accepted
    obtain ⟨-, -, -, -, _, -, _, -, -, rfl, -, created, creation, opened, opening, saved⟩ :=
      accepted
    obtain ⟨shaped', absent, blank, put⟩ := createAccount_spec fees shaped creation
    obtain ⟨shaped'', fresh, token, -, apart, open_⟩ :=
      initializeAccount3_books fees shaped' opening
    obtain ⟨shaped3, written⟩ := save_spec fees shaped''
      ((structAt_congr (apart .treasury)).trans blank) saved
    have tokens : tokenAt created = tokenAt ledger := congrArg Books.tokens put
    rw [open_, put, tokens, Books.withTokens_put, Books.put_put] at written
    rw [tokens] at fresh
    exact ⟨shaped3, absent, treasury addresses context.now authority vault, token, fresh, written⟩
  case h_2 => cases accepted

theorem InitializeTreasury.advances (shaped : Shaped addresses ledger)
    (accepted : InitializeTreasury.process addresses context ledger accounts = .ok result) :
    Advances addresses ⟨ledger, fees⟩ ⟨result, fees⟩ := by
  obtain ⟨shaped', absent, treasury, token, fresh, books⟩ :=
    InitializeTreasury.spec fees shaped accepted
  have step : Books.Step addresses (Chain.books addresses ⟨ledger, fees⟩) _ :=
    .openTreasury treasury token absent fresh
  refine .step fees shaped' ?_
  rw [books]
  exact step

theorem InitializeSettlementAuthority.spec (shaped : Shaped addresses ledger)
    (accepted : InitializeSettlementAuthority.process addresses context ledger accounts data =
      .ok result) :
    Shaped addresses result ∧ structOf addresses ledger .settlementAuthority = none ∧
      ∃ authority : SettlementAuthority, Chain.books addresses ⟨result, fees⟩ =
        (Chain.books addresses ⟨ledger, fees⟩).put .settlementAuthority authority := by
  unfold InitializeSettlementAuthority.process at accepted
  split at accepted
  case h_1 authority protocolConfig settlementAuth systemProgram rest =>
    simp only [bind_eq_ok, failIf_eq_ok, exists_const, ne_eq, not_not] at accepted
    obtain ⟨-, -, -, -, -, -, _, -, rfl, -, made⟩ := accepted
    obtain ⟨shaped', absent, put⟩ := createStruct_spec fees shaped made
    exact ⟨shaped', absent, _, put⟩
  case h_2 => cases accepted

theorem InitializeSettlementAuthority.advances (shaped : Shaped addresses ledger)
    (accepted : InitializeSettlementAuthority.process addresses context ledger accounts data =
      .ok result) : Advances addresses ⟨ledger, fees⟩ ⟨result, fees⟩ := by
  obtain ⟨shaped', absent, authority, put⟩ :=
    InitializeSettlementAuthority.spec fees shaped accepted
  exact .step fees shaped' (put ▸ .authorize authority absent)

theorem PauseProtocol.spec (shaped : Shaped addresses ledger)
    (accepted : PauseProtocol.process addresses context ledger accounts data = .ok result) :
    Shaped addresses result ∧ ∃ (config : ProtocolConfig) (paused : UInt8),
      structOf addresses ledger .protocolConfig = some config ∧
      Chain.books addresses ⟨result, fees⟩ =
        (Chain.books addresses ⟨ledger, fees⟩).put .protocolConfig { config with paused } := by
  unfold PauseProtocol.process at accepted
  split at accepted
  case h_1 authority protocolConfig rest =>
    simp only [bind_eq_ok, failIf_eq_ok, exists_const, verifyProtocolConfig,
      verifyCanonical_eq_ok] at accepted
    obtain ⟨-, -, -, ⟨rfl, owned⟩, config, required, saved⟩ := accepted
    have stored := structOf_config owned rfl required
    obtain ⟨shaped', put⟩ := save_spec fees shaped (structOf_eq_some.mp stored).2 saved
    exact ⟨shaped', config, _, stored, put⟩
  case h_2 => cases accepted

theorem PauseProtocol.advances (shaped : Shaped addresses ledger)
    (accepted : PauseProtocol.process addresses context ledger accounts data = .ok result) :
    Advances addresses ⟨ledger, fees⟩ ⟨result, fees⟩ := by
  obtain ⟨shaped', config, paused, stored, put⟩ := PauseProtocol.spec fees shaped accepted
  exact .step fees shaped' (put ▸ .pause paused stored)

end Administration

/-! ## Endpoints -/

section Endpoints

variable {addresses : Addresses} {context : Context} {ledger result : Ledger}
  {accounts : List Address} {data : List UInt8} (fees : Slug → Nat)

theorem structs_eq {pda : Pda} {found : pda.Struct} {books : Books}
    (same : Chain.books addresses ⟨ledger, fees⟩ = books) (stored : books.structs pda = some found) :
    structAt pda.layout ledger (addresses.of pda) = some found :=
  (structOf_eq_some.mp ((congrFun (congrArg Books.structs same) pda).trans stored)).2

theorem RegisterEndpoint.create_spec {named : RegisterEndpoint.Accounts}
    {args : RegisterEndpoint.Args} {entries : FeeRecipients} {count : UInt8}
    (shaped : Shaped addresses ledger)
    (created : RegisterEndpoint.create addresses context ledger named args entries count =
      .ok result) :
    Shaped addresses result ∧ structOf addresses ledger (.coveragePool args.slug) = none ∧
      structOf addresses ledger (.endpointConfig args.slug) = none ∧
      tokenAt ledger named.poolVault = none ∧
      ∃ token : TokenAccount, token.Exclusive (addresses.of (.coveragePool args.slug)) ∧
        Chain.books addresses ⟨result, fees⟩ =
          (((Chain.books addresses ⟨ledger, fees⟩).put (.coveragePool args.slug)
              (pool addresses context.now args named.authority named.mint named.poolVault)).put
              (.endpointConfig args.slug)
              (endpoint addresses context.now args named.pool entries count)).withTokens
            (Function.update (tokenAt ledger) named.poolVault (some token)) := by
  simp only [RegisterEndpoint.create, bind_eq_ok, failIf_eq_ok, exists_const, ne_eq, not_not]
    at created
  obtain ⟨endpointAddress, -, poolAddress, -, first, makePool, second, opening, third,
    makeEndpoint, fourth, savePool, saveEndpoint⟩ := created
  rw [poolAddress] at makePool savePool opening
  rw [endpointAddress] at makeEndpoint saveEndpoint
  obtain ⟨shaped1, poolAbsent, -, books1⟩ := createAccount_spec fees shaped makePool
  obtain ⟨shaped2, fresh, token, exclusive, -, books2⟩ :=
    initializeAccount3_books fees shaped1 opening
  have tokens : tokenAt first = tokenAt ledger := congrArg Books.tokens books1
  rw [books1, tokens] at books2
  obtain ⟨shaped3, endpointAbsent, -, books3⟩ := createAccount_spec fees shaped2 makeEndpoint
  rw [books2] at books3
  have different : (.endpointConfig args.slug : Pda) ≠ .coveragePool args.slug := by simp
  have poolBlank : structAt CoveragePool.layout third
      (addresses.of (.coveragePool args.slug)) = some (Pda.coveragePool args.slug).blank :=
    structs_eq fees books3 (by simp)
  obtain ⟨shaped4, books4⟩ := save_spec fees shaped3 poolBlank savePool
  rw [books3, Books.withTokens_put, Books.withTokens_put, Books.put_comm _ _ _ different,
    Books.put_put] at books4
  have endpointBlank : structAt EndpointConfig.layout fourth
      (addresses.of (.endpointConfig args.slug)) = some (Pda.endpointConfig args.slug).blank :=
    structs_eq fees books4 (by simp)
  obtain ⟨shaped5, books5⟩ := save_spec fees shaped4 endpointBlank saveEndpoint
  rw [books4, Books.withTokens_put, Books.put_put] at books5
  refine ⟨shaped5, poolAbsent, ?_, tokens ▸ fresh, token, exclusive, books5⟩
  have earlier := (congrFun (congrArg Books.structs books2) (.endpointConfig args.slug)).symm.trans
    endpointAbsent
  simpa [Chain.books] using earlier

theorem structOf_treasury {account : Address} {treasury : Treasury}
    (verified : (ledger account).owner = programId) (canonical : account = addresses.of .treasury)
    (found : structAt Treasury.layout ledger account = some treasury) :
    structOf addresses ledger .treasury = some treasury := by
  subst canonical
  exact structOf_eq_some.mpr ⟨verified, found⟩

theorem RegisterEndpoint.process_created
    (valid : (Chain.books addresses ⟨ledger, fees⟩).FeesValid)
    (accepted : RegisterEndpoint.process addresses context ledger accounts data = .ok result) :
    ∃ (named : RegisterEndpoint.Accounts) (args : RegisterEndpoint.Args) (entries : FeeRecipients)
      (count : UInt8) (config : ProtocolConfig) (treasury : Treasury),
      structOf addresses ledger .protocolConfig = some config ∧
      structOf addresses ledger .treasury = some treasury ∧
      Fee.ValidRecipients (entries.toList.take count.toNat) config.maxTotalFeeBps.toNat
        treasury.usdcVault ∧
      RegisterEndpoint.create addresses context ledger named args entries count = .ok result ∧
      args = RegisterEndpoint.Args.layout.decode (data.take RegisterEndpoint.Args.layout.size) ∧
      (∀ byte ∈ args.slug.toList, byte = 0 ∨ 0x20 ≤ byte ∧ byte ≤ 0x7e) ∧
      (Fee.Known config.defaultFeeRecipientCount config.defaultFeeRecipients →
        Fee.Known count entries) := by
  unfold RegisterEndpoint.process at accepted
  split at accepted
  case h_1 authority protocolConfig treasury endpoint pool poolVault mint systemProgram
      tokenProgram tail =>
    simp only [RegisterEndpoint.register, bind_eq_ok, failIf_eq_ok, exists_const,
      verifyProtocolConfig, verifyTreasury, verifyCanonical_eq_ok, okOr_eq_ok, Prod.exists]
      at accepted
    obtain ⟨-, -, -, -, -, ⟨configAddress, configOwned⟩, ⟨treasuryAddress, treasuryOwned⟩, config,
      required, -, stored, found, printable, entries, count, chosen, resolved, checked,
      created⟩ := accepted
    have configured := structOf_config configOwned configAddress required
    have opened := structOf_treasury treasuryOwned treasuryAddress found
    have within := chooseEntries_spec (valid.config config configured).2 chosen
    refine ⟨_, _, _, _, config, stored, configured, opened,
      Fee.resolveRecipients_spec within checked, created, rfl, fun byte member => ?_,
      fun template => Fee.resolveRecipients_known (chooseEntries_known template chosen) checked⟩
    by_contra unprintable
    rw [not_or, not_and_or, UInt8.not_le, UInt8.not_le] at unprintable
    exact printable ⟨byte, member, unprintable⟩
  case h_2 => cases accepted

theorem RegisterEndpoint.advances (shaped : Shaped addresses ledger)
    (valid : (Chain.books addresses ⟨ledger, fees⟩).FeesValid)
    (accepted : RegisterEndpoint.process addresses context ledger accounts data = .ok result) :
    Advances addresses ⟨ledger, fees⟩ ⟨result, fees⟩ := by
  obtain ⟨named, args, entries, count, config, treasury, configured, opened, recipients,
    created, -⟩ := process_created fees valid accepted
  obtain ⟨shaped', poolAbsent, endpointAbsent, fresh, token, exclusive, books⟩ :=
    create_spec fees shaped created
  refine .step fees shaped' ?_
  rw [books]
  exact .register poolAbsent endpointAbsent fresh exclusive rfl rfl configured opened recipients

theorem UpdateFeeRecipients.process_saved
    (accepted : UpdateFeeRecipients.process addresses context ledger accounts data = .ok result) :
    ∃ (slug : Slug) (state : EndpointConfig) (entries : FeeRecipients) (count : UInt8)
      (config : ProtocolConfig) (treasury : Treasury),
      structOf addresses ledger .protocolConfig = some config ∧
      structOf addresses ledger .treasury = some treasury ∧
      Fee.ValidRecipients (entries.toList.take count.toNat) config.maxTotalFeeBps.toNat
        treasury.usdcVault ∧
      structAt EndpointConfig.layout ledger (addresses.of (.endpointConfig slug)) = some state ∧
      save EndpointConfig.layout programId context ledger (addresses.of (.endpointConfig slug))
        { state with
          feeRecipientCount := count
          feeRecipients := entries
          lastUpdated := context.now } = .ok result ∧
      Fee.Known count entries := by
  unfold UpdateFeeRecipients.process at accepted
  split at accepted
  case h_1 authority protocolConfig treasury endpoint tail =>
    simp only [bind_eq_ok, failIf_eq_ok, exists_const, verifyProtocolConfig, verifyTreasury,
      verifyCanonical_eq_ok, okOr_eq_ok, Prod.exists, ne_eq, not_not] at accepted
    obtain ⟨-, -, -, ⟨configAddress, configOwned⟩, ⟨treasuryAddress, treasuryOwned⟩, config,
      required, stored, found, -, -, entries, _, parsed, resolved, checked, rfl, state,
      stateFound, saved⟩ := accepted
    exact ⟨_, state, resolved, _, config, stored,
      structOf_config configOwned configAddress required,
      structOf_treasury treasuryOwned treasuryAddress found,
      Fee.resolveRecipients_spec (Fee.parseAndValidate_spec parsed).2 checked, stateFound, saved,
      Fee.resolveRecipients_known (Fee.parseAndValidate_known parsed) checked⟩
  case h_2 => cases accepted

theorem UpdateFeeRecipients.advances (shaped : Shaped addresses ledger)
    (accepted : UpdateFeeRecipients.process addresses context ledger accounts data = .ok result) :
    Advances addresses ⟨ledger, fees⟩ ⟨result, fees⟩ := by
  obtain ⟨slug, state, entries, count, config, treasury, configured, opened, recipients, found,
    saved, -⟩ := process_saved accepted
  obtain ⟨shaped', books⟩ := save_spec fees shaped found saved
  refine .step fees shaped' ?_
  rw [books]
  exact .adjust (shaped.structOf_of_found found) rfl
    (.inr ⟨config, treasury, configured, opened, recipients⟩)

theorem Shaped.endpoint_of_found {pda : Pda} {endpoint : EndpointConfig}
    (shaped : Shaped addresses ledger)
    (found : structAt EndpointConfig.layout ledger (addresses.of pda) = some endpoint) :
    ∃ slug, pda = .endpointConfig slug := by
  have long := Layout.size_le_of_read found
  rw [EndpointConfig.layout_size] at long
  rcases shaped pda with ⟨-, length⟩ | ⟨-, length⟩
  · omega
  · cases pda with
    | endpointConfig slug => exact ⟨slug, rfl⟩
    | coveragePool slug => simp [Pda.layout, CoveragePool.layout_size] at length; omega
    | callRecord id => simp [Pda.layout, CallRecord.layout_size] at length; omega
    | settlementAuthority =>
        simp [Pda.layout, SettlementAuthority.layout_size] at length; omega
    | treasury => simp [Pda.layout, Treasury.layout_size] at length; omega
    | protocolConfig => simp [Pda.layout, ProtocolConfig.layout_size] at length; omega

/-- Rewriting an endpoint nobody checked the address of: either it is one of
the program's, or the books do not notice. -/
theorem endpoint_saved {account : Address} {state state' : EndpointConfig}
    (shaped : Shaped addresses ledger)
    (found : structAt EndpointConfig.layout ledger account = some state)
    (saved : save EndpointConfig.layout programId context ledger account state' = .ok result) :
    Shaped addresses result ∧
      ((∃ slug, structOf addresses ledger (.endpointConfig slug) = some state ∧
        Chain.books addresses ⟨result, fees⟩ =
          (Chain.books addresses ⟨ledger, fees⟩).put (.endpointConfig slug) state') ∨
      Chain.books addresses ⟨result, fees⟩ = Chain.books addresses ⟨ledger, fees⟩) := by
  by_cases derived : ∃ pda, account = addresses.of pda
  · obtain ⟨pda, rfl⟩ := derived
    obtain ⟨slug, rfl⟩ := shaped.endpoint_of_found found
    obtain ⟨shaped', books⟩ := save_spec fees shaped found saved
    exact ⟨shaped', .inl ⟨slug, shaped.structOf_of_found found, books⟩⟩
  · obtain ⟨rfl, owned⟩ := save_eq_ok found saved
    refine ⟨shaped.setStruct found, .inr ?_⟩
    by_cases unchanged : state' = state
    · subst unchanged
      rw [setStruct_self found]
    · have foreign : (ledger account).owner ≠ tokenProgram := by
        rw [owned unchanged]
        exact SettleBatch.programId_ne_tokenProgram
      have structs : structOf addresses (setStruct EndpointConfig.layout ledger account state') =
          structOf addresses ledger := by
        funext pda
        exact (sameBut_setStruct _ _ _).structOf fun same => derived ⟨pda, same.symm⟩
      have tokens : tokenAt (setStruct EndpointConfig.layout ledger account state') =
          tokenAt ledger := SettleBatch.tokenAt_setStruct state' foreign
      simp only [Chain.books, structs, tokens]

theorem advances_of_endpoint_saved {account : Address} {state state' : EndpointConfig}
    (shaped : Shaped addresses ledger)
    (found : structAt EndpointConfig.layout ledger account = some state)
    (saved : save EndpointConfig.layout programId context ledger account state' = .ok result)
    (refunds : state'.totalRefunds = state.totalRefunds)
    (recipients : state'.recipients = state.recipients) :
    Advances addresses ⟨ledger, fees⟩ ⟨result, fees⟩ := by
  obtain ⟨shaped', ⟨slug, stored, books⟩ | books⟩ := endpoint_saved fees shaped found saved
  · refine .step fees shaped' ?_
    rw [books]
    exact .adjust stored refunds (.inl recipients)
  · refine ⟨shaped', ?_⟩
    rw [books]

theorem UpdateEndpointConfig.process_saved
    (accepted : UpdateEndpointConfig.process addresses context ledger accounts data =
      .ok result) :
    ∃ (account : Address) (state : EndpointConfig) (args : UpdateEndpointConfig.Args),
      structAt EndpointConfig.layout ledger account = some state ∧
      save EndpointConfig.layout programId context ledger account
        (UpdateEndpointConfig.apply state args context.now) = .ok result := by
  unfold UpdateEndpointConfig.process at accepted
  split at accepted
  case h_1 authority protocolConfig endpoint rest =>
    simp only [bind_eq_ok, failIf_eq_ok, exists_const, okOr_eq_ok] at accepted
    obtain ⟨-, -, -, _, -, _, -, state, found, saved⟩ := accepted
    exact ⟨endpoint, state, _, found, saved⟩
  case h_2 => cases accepted

theorem UpdateEndpointConfig.advances (shaped : Shaped addresses ledger)
    (accepted : UpdateEndpointConfig.process addresses context ledger accounts data =
      .ok result) : Advances addresses ⟨ledger, fees⟩ ⟨result, fees⟩ := by
  obtain ⟨account, state, args, found, saved⟩ := process_saved accepted
  exact advances_of_endpoint_saved fees shaped found saved rfl rfl

theorem PauseEndpoint.process_saved
    (accepted : PauseEndpoint.process addresses context ledger accounts data = .ok result) :
    ∃ (account : Address) (state : EndpointConfig) (paused : UInt8),
      structAt EndpointConfig.layout ledger account = some state ∧
      save EndpointConfig.layout programId context ledger account { state with paused } =
        .ok result := by
  unfold PauseEndpoint.process at accepted
  split at accepted
  case h_1 authority protocolConfig endpoint rest =>
    simp only [bind_eq_ok, failIf_eq_ok, exists_const, okOr_eq_ok] at accepted
    obtain ⟨-, -, -, _, -, _, -, state, found, saved⟩ := accepted
    exact ⟨endpoint, state, _, found, saved⟩
  case h_2 => cases accepted

theorem PauseEndpoint.advances (shaped : Shaped addresses ledger)
    (accepted : PauseEndpoint.process addresses context ledger accounts data = .ok result) :
    Advances addresses ⟨ledger, fees⟩ ⟨result, fees⟩ := by
  obtain ⟨account, state, paused, found, saved⟩ := process_saved accepted
  exact advances_of_endpoint_saved fees shaped found saved rfl rfl

theorem SameOutsideTokens.structOf (moved : SameOutsideTokens ledger result)
    (shaped : Shaped addresses ledger) : structOf addresses result = structOf addresses ledger := by
  funext pda
  have same := moved.same _ (shaped.foreign pda)
  simp only [V1.structOf, structAt, same]

theorem TopUpCoveragePool.spec (shaped : Shaped addresses ledger)
    (unsigned : ∀ pda, context.signer (addresses.of pda) = false)
    (accepted : TopUpCoveragePool.process addresses context ledger accounts data = .ok result) :
    Shaped addresses result ∧ ∃ (slug : Slug) (pool pool' : CoveragePool) (payment : Payment)
      (tokens : TokenLedger), structOf addresses ledger (.coveragePool slug) = some pool ∧
      TokenLedger.Pays (tokenAt ledger) payment tokens ∧ payment.destination = pool.usdcVault ∧
      (∀ pda, payment.authority ≠ addresses.of pda) ∧ pool'.SameTerms pool ∧
      pool'.ledger = { pool.ledger with
        balance := pool.ledger.balance + payment.amount.toNat
        deposits := pool.ledger.deposits + payment.amount.toNat } ∧
      Chain.books addresses ⟨result, fees⟩ =
        ((Chain.books addresses ⟨ledger, fees⟩).put (.coveragePool slug) pool').withTokens
          tokens := by
  unfold TopUpCoveragePool.process at accepted
  split at accepted
  case h_1 authority pool authorityAta poolVault tokenProgram rest =>
    simp only [bind_eq_ok, failIf_eq_ok, exists_const, okOr_eq_ok, ne_eq, not_not, borrow]
      at accepted
    obtain ⟨-, -, signed, -, rfl, state, found, -, vault, moved, transferred, stored, again,
      state', deposited, saved⟩ := accepted
    obtain ⟨paid, kept⟩ := transfer_spec transferred
    have structs := SameOutsideTokens.structOf kept shaped
    have shaped' : Shaped addresses moved :=
      shaped.congr (fun _ => kept.owner _) fun _ => kept.length _
    have same : structAt CoveragePool.layout moved _ = some state :=
      (structAt_congr (kept.same _ (shaped.foreign _))).trans found
    cases again.symm.trans same
    obtain ⟨shaped'', books⟩ := save_spec fees shaped' again saved
    obtain ⟨terms, total⟩ := deposit_spec deposited
    have outsider : ∀ pda, authority ≠ addresses.of pda := by
      rintro pda rfl
      exact signed (unsigned pda)
    have middle : Chain.books addresses ⟨moved, fees⟩ =
        (Chain.books addresses ⟨ledger, fees⟩).withTokens (tokenAt moved) := by
      simp only [Chain.books, Books.withTokens, structs]
    rw [middle, Books.withTokens_put] at books
    exact ⟨shaped'', _, state, state', _, _, shaped.structOf_of_found found, paid, vault.symm,
      outsider, terms, total, books⟩
  case h_2 => cases accepted

theorem TopUpCoveragePool.advances (shaped : Shaped addresses ledger)
    (unsigned : ∀ pda, context.signer (addresses.of pda) = false)
    (accepted : TopUpCoveragePool.process addresses context ledger accounts data = .ok result) :
    Advances addresses ⟨ledger, fees⟩ ⟨result, fees⟩ := by
  obtain ⟨shaped', slug, pool, pool', payment, tokens, stored, paid, vault, outsider, terms,
    total, books⟩ := TopUpCoveragePool.spec fees shaped unsigned accepted
  have step : Books.Step addresses (Chain.books addresses ⟨ledger, fees⟩) _ :=
    .topUp stored paid vault outsider terms total
  refine .step fees shaped' ?_
  rw [books]
  exact step

end Endpoints

/-! ## Settlement -/

namespace SettleBatch

variable {addresses : Addresses} {context : Context} {fixed : FixedAccounts}
  {event : SettlementEvent} {accounts : EventAccounts} {pool pool' : CoveragePool}
  {endpoint endpoint' : EndpointConfig} {before after : Ledger} {status : SettlementStatus}
  {actual : UInt64} {receipt : Receipt} (fees : Slug → Nat)

theorem Effect.payerKept (effect : Effect addresses context fixed event accounts pool pool'
      endpoint endpoint' before after status actual receipt)
    (notRecord : fixed.settlerSigner ≠ accounts.callRecord) :
    (after fixed.settlerSigner).owner = (before fixed.settlerSigner).owner ∧
      (after fixed.settlerSigner).data = (before fixed.settlerSigner).data := by
  have empty := effect.payer.2
  have length := effect.length _ notRecord
  rw [empty, List.length_nil, List.length_eq_zero_iff] at length
  exact ⟨effect.owner _ notRecord, length.trans empty.symm⟩

theorem Effect.contents (effect : Effect addresses context fixed event accounts pool pool'
      endpoint endpoint' before after status actual receipt) (address : Address)
    (notRecord : address ≠ accounts.callRecord) (notPool : address ≠ accounts.coveragePool)
    (notEndpoint : address ≠ accounts.endpointConfig)
    (foreign : (before address).owner ≠ tokenProgram) :
    (after address).owner = (before address).owner ∧
      (after address).data = (before address).data := by
  by_cases payer : address = fixed.settlerSigner
  · subst payer
    exact effect.payerKept notRecord
  · rw [effect.frame address notRecord payer notPool notEndpoint foreign]
    exact ⟨rfl, rfl⟩

theorem Effect.shaped (effect : Effect addresses context fixed event accounts pool pool'
      endpoint endpoint' before after status actual receipt) (shaped : Shaped addresses before) :
    Shaped addresses after := by
  intro pda
  by_cases record : pda = .callRecord event.callId
  · subst record
    rw [← effect.bound.callRecord, effect.record]
    exact .inr ⟨rfl, CallRecord.layout.length_encode _⟩
  · have different : addresses.of pda ≠ accounts.callRecord := by
      rw [effect.bound.callRecord]
      simpa using record
    rw [effect.owner _ different, effect.length _ different]
    exact shaped pda

theorem Effect.recordWritten (effect : Effect addresses context fixed event accounts pool pool'
      endpoint endpoint' before after status actual receipt) :
    structOf addresses before (.callRecord event.callId) = none ∧
      structOf addresses after (.callRecord event.callId) = some
        (event.record (addresses.bump (.callRecord event.callId)) status actual) := by
  have fresh := effect.fresh
  have record := effect.record
  rw [effect.bound.callRecord] at fresh record
  refine ⟨structOf_absent fresh, structOf_eq_some.mpr ⟨by rw [record], ?_⟩⟩
  rw [structAt, record, ← effect.written]
  exact (CallRecord.layout.read_of_length (CallRecord.layout.length_encode _)).trans
    (congrArg some (CallRecord.layout.decode_encode _))

theorem Effect.books (effect : Effect addresses context fixed event accounts pool pool'
      endpoint endpoint' before after status actual receipt) (shaped : Shaped addresses before) :
    Chain.books addresses ⟨after, chargeFees fees [receipt]⟩ =
        (Chain.books addresses ⟨before, fees⟩).put (.callRecord event.callId)
          (event.record (addresses.bump (.callRecord event.callId)) .delegateFailed 0) ∨
      structOf addresses before (.coveragePool event.endpointSlug) = some pool ∧
      structOf addresses before (.endpointConfig event.endpointSlug) = some endpoint ∧
      (∃ outcome, Settled context.now fixed event accounts endpoint.recipients pool pool'
        endpoint endpoint' (tokenAt before) (tokenAt after) status actual receipt.fees outcome) ∧
      Chain.books addresses ⟨after, chargeFees fees [receipt]⟩ =
        ((((((Chain.books addresses ⟨before, fees⟩).put (.coveragePool event.endpointSlug)
          pool').put (.endpointConfig event.endpointSlug) endpoint').put
          (.callRecord event.callId)
          (event.record (addresses.bump (.callRecord event.callId)) status actual)).withTokens
          (tokenAt after)).charge event.endpointSlug (amounts receipt.fees).sum) := by
  have bound := effect.bound
  obtain ⟨absent, written⟩ := effect.recordWritten
  have slug : receipt.record.endpointSlug = event.endpointSlug := by rw [effect.written]; rfl
  rcases effect.outcome with
    ⟨-, rfl, rfl, unpaid, -, -, -, kept⟩ | ⟨-, poolOwned, endpointOwned, outcome, settled⟩
  · have same : SameBut (addresses.of (.callRecord event.callId)) before after := by
      intro other notRecord
      rw [← bound.callRecord] at notRecord
      by_cases payer : other = fixed.settlerSigner
      · subst payer
        exact effect.payerKept notRecord
      · rw [kept other notRecord payer]
        exact ⟨rfl, rfl⟩
    have free : chargeFees fees [receipt] = fees := by
      simp [chargeFees, unpaid, amounts]
    left
    rw [free, books_put fees (structOf_eq_some.mp written).1 (structOf_eq_some.mp written).2
      (shaped.foreign _) same]
  · have poolFound := effect.bound.poolFound
    have endpointFound := effect.bound.endpointFound
    have poolAfter := effect.poolAfter
    have endpointAfter := effect.endpointAfter
    rw [bound.coveragePool] at poolFound poolAfter
    rw [bound.endpointConfig] at endpointFound endpointAfter
    have shaped' := effect.shaped shaped
    have structs : structOf addresses after = ((((Chain.books addresses ⟨before, fees⟩).put
        (.coveragePool event.endpointSlug) pool').put (.endpointConfig event.endpointSlug)
        endpoint').put (.callRecord event.callId)
        (event.record (addresses.bump (.callRecord event.callId)) status actual)).structs := by
      funext pda
      by_cases record : pda = .callRecord event.callId
      · subst record
        rw [written, Books.put_self]
      rw [Books.put_of_ne _ _ record]
      by_cases isEndpoint : pda = .endpointConfig event.endpointSlug
      · subst isEndpoint
        rw [shaped'.structOf_of_found endpointAfter, Books.put_self]
      rw [Books.put_of_ne _ _ isEndpoint]
      by_cases isPool : pda = .coveragePool event.endpointSlug
      · subst isPool
        rw [shaped'.structOf_of_found poolAfter, Books.put_self]
      rw [Books.put_of_ne _ _ isPool]
      obtain ⟨owner, data⟩ := effect.contents (addresses.of pda)
        (by rw [bound.callRecord]; simpa using record)
        (by rw [bound.coveragePool]; simpa using isPool)
        (by rw [bound.endpointConfig]; simpa using isEndpoint) (shaped.foreign pda)
      simp only [Chain.books, structOf, structAt, owner, data]
    refine .inr ⟨shaped.structOf_of_found poolFound, shaped.structOf_of_found endpointFound,
      ⟨outcome, settled⟩, ?_⟩
    simp only [Chain.books, Books.withTokens, Books.charge, structs, chargeFees, slug]
    rfl

theorem Effect.advances (effect : Effect addresses context fixed event accounts pool pool'
      endpoint endpoint' before after status actual receipt) (shaped : Shaped addresses before)
    (authority : fixed.settlementAuth = addresses.of .settlementAuthority) :
    Advances addresses ⟨before, fees⟩ ⟨after, chargeFees fees [receipt]⟩ := by
  have absent := effect.recordWritten.1
  refine ⟨effect.shaped shaped, .single ?_⟩
  rcases effect.books fees shaped with failed | ⟨poolFound, endpointFound, ⟨_, settled⟩, books⟩
  · rw [failed]
    exact .fail event _ absent
  · rw [books]
    exact .settle _ poolFound endpointFound effect.bound.vault effect.bound.coveragePool authority
      absent settled

theorem settleStep_spec {bump : UInt8} {earlier later : Progress}
    (stepped : settleStep addresses context fixed bump earlier event = .ok later) :
    ∃ named receipt pool pool' endpoint endpoint' status actual,
      takeEvent event.feeCountHint earlier.rest = .ok (named, later.rest) ∧
      later.receipts = earlier.receipts ++ [receipt] ∧ 0 < event.premiumLamports.toNat ∧
      Effect addresses context fixed event named pool pool' endpoint endpoint' earlier.ledger
        later.ledger status actual receipt := by
  simp only [settleStep, bind_eq_ok, Prod.exists, Except.ok.injEq] at stepped
  obtain ⟨_, admitted, named, more, taken, ledger, receipt, settled, rfl⟩ := stepped
  have positive := premium_pos admitted
  obtain ⟨pool, pool', endpoint, endpoint', status, actual, effect⟩ :=
    settleEvent_spec positive settled
  exact ⟨named, receipt, pool, pool', endpoint, endpoint', status, actual, taken, rfl, positive,
    effect⟩

theorem loop_advances {bump : UInt8} {events : List SettlementEvent} {start finish : Progress}
    (authority : fixed.settlementAuth = addresses.of .settlementAuthority)
    (shaped : Shaped addresses start.ledger)
    (loop : events.foldlM (settleStep addresses context fixed bump) start = .ok finish) :
    Advances addresses ⟨start.ledger, chargeFees fees start.receipts⟩
      ⟨finish.ledger, chargeFees fees finish.receipts⟩ := by
  refine foldlM_invariant (fun progress : Progress => Advances addresses
    ⟨start.ledger, chargeFees fees start.receipts⟩
    ⟨progress.ledger, chargeFees fees progress.receipts⟩) loop ⟨shaped, .refl⟩ ?_
  intro earlier event later _ advanced stepped
  obtain ⟨named, receipt, pool, pool', endpoint, endpoint', status, actual, -, appended, -,
    effect⟩ := settleStep_spec stepped
  rw [appended, chargeFees_append]
  have one := effect.advances (chargeFees fees earlier.receipts) advanced.shaped authority
  exact ⟨one.shaped, advanced.steps.trans one.steps⟩

theorem process_eq_ok {list : List Address} {data : List UInt8} {receipts : List Receipt}
    (accepted : process addresses context before list data = .ok (after, receipts)) :
    ∃ fixed rest bump events, takeFixed list = .ok (fixed, rest) ∧
      checkFixed addresses context before fixed = .ok bump ∧ parseEvents data = .ok events ∧
      ∃ progress, events.foldlM (settleStep addresses context fixed bump) ⟨before, rest, []⟩ =
        .ok progress ∧ progress.ledger = after ∧ progress.receipts = receipts := by
  simp only [process, bind_eq_ok, failIf_eq_ok, exists_const, Prod.exists, Except.ok.injEq,
    Prod.mk.injEq] at accepted
  obtain ⟨fixed, rest, taken, -, bump, checked, events, parsed, progress, loop, ledger,
    receipts⟩ := accepted
  exact ⟨fixed, rest, bump, events, taken, checked, parsed, progress, loop, ledger, receipts⟩

theorem advances (shaped : Shaped addresses before) {list : List Address} {data : List UInt8}
    {receipts : List Receipt}
    (accepted : process addresses context before list data = .ok (after, receipts)) :
    Advances addresses ⟨before, fees⟩ ⟨after, chargeFees fees receipts⟩ := by
  obtain ⟨fixed, rest, bump, events, -, checked, -, progress, loop, rfl, rfl⟩ :=
    process_eq_ok accepted
  exact loop_advances fees (checkFixed_spec checked).2.1.1 shaped loop

end SettleBatch

/-! ## The chain -/

section Chain

variable {addresses : Addresses} {before after : Chain} {ledger result : Ledger}
  {receipts : List Receipt} (fees : Slug → Nat)

theorem dispatch_advances {context : Context} {accounts : List Address} {data : List UInt8}
    {discriminator : Discriminator} (shaped : Shaped addresses ledger)
    (valid : (Chain.books addresses ⟨ledger, fees⟩).FeesValid)
    (unsigned : ∀ pda, context.signer (addresses.of pda) = false)
    (accepted : dispatch addresses context ledger accounts data discriminator =
      .ok (result, receipts)) :
    Advances addresses ⟨ledger, fees⟩ ⟨result, chargeFees fees receipts⟩ := by
  have plain : ∀ {outcome : Except ProgramError Ledger},
      outcome.map (·, ([] : List Receipt)) = .ok (result, receipts) →
        outcome = .ok result ∧ receipts = [] := by
    intro outcome mapped
    cases outcome with
    | error => cases mapped
    | ok => cases mapped; exact ⟨rfl, rfl⟩
  cases discriminator with
  | settleBatch => exact SettleBatch.advances fees shaped accepted
  | initializeSettlementAuthority =>
      obtain ⟨processed, rfl⟩ := plain accepted
      exact InitializeSettlementAuthority.advances fees shaped processed
  | registerEndpoint =>
      obtain ⟨processed, rfl⟩ := plain accepted
      exact RegisterEndpoint.advances fees shaped valid processed
  | updateEndpointConfig =>
      obtain ⟨processed, rfl⟩ := plain accepted
      exact UpdateEndpointConfig.advances fees shaped processed
  | pauseEndpoint =>
      obtain ⟨processed, rfl⟩ := plain accepted
      exact PauseEndpoint.advances fees shaped processed
  | topUpCoveragePool =>
      obtain ⟨processed, rfl⟩ := plain accepted
      exact TopUpCoveragePool.advances fees shaped unsigned processed
  | initializeProtocolConfig =>
      obtain ⟨processed, rfl⟩ := plain accepted
      exact InitializeProtocolConfig.advances fees shaped processed
  | initializeTreasury =>
      obtain ⟨processed, rfl⟩ := plain accepted
      exact InitializeTreasury.advances fees shaped processed
  | updateFeeRecipients =>
      obtain ⟨processed, rfl⟩ := plain accepted
      exact UpdateFeeRecipients.advances fees shaped processed
  | pauseProtocol =>
      obtain ⟨processed, rfl⟩ := plain accepted
      exact PauseProtocol.advances fees shaped processed

/-- The shape of the accounts and the invariants of the books. -/
structure Chain.Sound (addresses : Addresses) (chain : Chain) : Prop where
  shaped : Shaped addresses chain.ledger
  books : Books.Sound addresses (chain.books addresses)

theorem Chain.Genesis.sound (genesis : Genesis addresses before) : Sound addresses before where
  shaped pda := .inl ⟨(genesis.vacant pda).1, by rw [(genesis.vacant pda).2]; rfl⟩
  books := Books.Blank.sound ⟨fun pda => structOf_eq_none_of_owner (by
    rw [(genesis.vacant pda).1]
    exact Ne.symm SettleBatch.programId_ne_systemProgram), genesis.unpaid⟩

theorem Outside.advances (shaped : Shaped addresses ledger)
    (outside : Outside addresses ledger result) :
    Advances addresses ⟨ledger, fees⟩ ⟨result, fees⟩ := by
  have structs : structOf addresses result = structOf addresses ledger := by
    funext pda
    obtain ⟨owner, data⟩ := outside.derived pda
    simp only [structOf, structAt, owner, data]
  have books : Chain.books addresses ⟨result, fees⟩ =
      (Chain.books addresses ⟨ledger, fees⟩).withTokens (tokenAt result) := by
    simp only [Chain.books, Books.withTokens, structs]
  refine .step fees (shaped.congr (fun pda => (outside.derived pda).1) fun pda => ?_) ?_
  · rw [(outside.derived pda).2]
  · rw [books]
    exact .outside _ outside.tokens

theorem Chain.Next.advances (sound : Sound addresses before) (next : Next addresses before after) :
    Advances addresses before after := by
  cases next with
  | instruction instruction unsigned =>
      unfold execute
      split
      case h_1 ledger receipts processed =>
        unfold processInstruction at processed
        split at processed
        · cases processed
        · rw [bind_eq_ok] at processed
          obtain ⟨discriminator, -, accepted⟩ := processed
          exact dispatch_advances before.fees sound.shaped sound.books.fees unsigned accepted
      case h_2 => exact ⟨sound.shaped, .refl⟩
  | outside outside => exact outside.advances before.fees sound.shaped

theorem Chain.Next.sound (sound : Sound addresses before) (next : Next addresses before after) :
    Sound addresses after :=
  ⟨(next.advances sound).shaped, Books.sound_of_steps (next.advances sound).steps sound.books⟩

theorem Chain.Reached.sound (reached : Reached addresses after) : Sound addresses after :=
  Reachable.invariant (Sound addresses) reached (fun _ genesis => genesis.sound)
    fun _ _ sound next => next.sound sound

end Chain

end PactNetwork.V1
