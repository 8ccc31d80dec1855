import PactNetwork.V1.CallIds

/-!
# Authority over the V1 program

What an accepted instruction may do to the program's accounts without the
signature of the stored authority or of the stored settlement signer.
-/

set_option autoImplicit false

namespace PactNetwork.V1

open Solana

/-! ## What stays of an account -/

/-- The two configurations differ in what an administrator or a settlement sets. -/
def EndpointConfig.SameEndpoint (left right : EndpointConfig) : Prop :=
  left = { right with
    paused := left.paused
    flatPremiumLamports := left.flatPremiumLamports
    percentBps := left.percentBps
    slaLatencyMs := left.slaLatencyMs
    imputedCostLamports := left.imputedCostLamports
    exposureCapPerHourLamports := left.exposureCapPerHourLamports
    currentPeriodStart := left.currentPeriodStart
    currentPeriodRefunds := left.currentPeriodRefunds
    totalCalls := left.totalCalls
    totalBreaches := left.totalBreaches
    totalPremiums := left.totalPremiums
    totalRefunds := left.totalRefunds
    lastUpdated := left.lastUpdated
    feeRecipientCount := left.feeRecipientCount
    feeRecipients := left.feeRecipients }

/-- What may become of a struct when `signed` says whether the authority signed:
the configuration may be paused and an endpoint's terms may change if it did,
the ledger of a pool and the counters of an endpoint may change anyway, and
nothing else does. -/
def Pda.Kept (signed : Prop) : (pda : Pda) → pda.Struct → pda.Struct → Prop
  | .coveragePool _, pool, pool' => pool'.SameTerms pool
  | .endpointConfig _, endpoint, endpoint' =>
      endpoint'.SameEndpoint endpoint ∧ (endpoint'.SameTerms endpoint ∨ signed)
  | .callRecord _, stored, stored' => stored' = stored
  | .settlementAuthority, stored, stored' => stored' = stored
  | .treasury, stored, stored' => stored' = stored
  | .protocolConfig, config, config' =>
      config' = { config with paused := config'.paused } ∧ (config' = config ∨ signed)

section Kept

variable {signed : Prop}

theorem EndpointConfig.SameTerms.sameEndpoint {left right : EndpointConfig}
    (same : left.SameTerms right) : left.SameEndpoint right := by
  unfold EndpointConfig.SameTerms at same
  unfold EndpointConfig.SameEndpoint
  rw [same]

theorem EndpointConfig.SameEndpoint.trans {first second third : EndpointConfig}
    (left : first.SameEndpoint second) (right : second.SameEndpoint third) :
    first.SameEndpoint third := by
  unfold EndpointConfig.SameEndpoint at left right ⊢
  rw [left, right]

theorem Pda.Kept.refl (pda : Pda) (value : pda.Struct) : pda.Kept signed value value := by
  cases pda with
  | coveragePool => exact Eq.refl value
  | endpointConfig => exact ⟨rfl, .inl rfl⟩
  | callRecord | settlementAuthority | treasury => exact Eq.refl value
  | protocolConfig => exact ⟨rfl, .inl rfl⟩

theorem Pda.Kept.trans {pda : Pda} {first second third : pda.Struct}
    (left : pda.Kept signed first second) (right : pda.Kept signed second third) :
    pda.Kept signed first third := by
  cases pda with
  | coveragePool => exact CoveragePool.SameTerms.trans right left
  | endpointConfig =>
      refine ⟨right.1.trans left.1, ?_⟩
      rcases left.2, right.2 with ⟨same | signature, same' | signature'⟩
      · exact .inl (same'.trans same)
      · exact .inr signature'
      · exact .inr signature
      · exact .inr signature
  | callRecord | settlementAuthority | treasury => exact Eq.trans right left
  | protocolConfig =>
      obtain ⟨paused, change⟩ := left
      obtain ⟨paused', change'⟩ := right
      refine ⟨?_, ?_⟩
      · rw [paused', paused]
      · rcases change, change' with ⟨same | signature, same' | signature'⟩
        · exact .inl (same'.trans same)
        · exact .inr signature'
        · exact .inr signature
        · exact .inr signature

end Kept

/-! ## Confinement -/

/-- How token accounts change: one is opened where none was, or a transfer is
made by an authority that is allowed to. -/
inductive TokenStep (allowed : Address → Prop) (tokens : TokenLedger) : TokenLedger → Prop
  | opened {vault : Address} (token : TokenAccount) (fresh : tokens vault = none) :
      TokenStep allowed tokens (Function.update tokens vault (some token))
  | paid {payment : Payment} {tokens' : TokenLedger} (paid : TokenLedger.Pays tokens payment tokens')
      (authorized : allowed payment.authority) : TokenStep allowed tokens tokens'

def Pda.IsRecord : Pda → Prop
  | .callRecord _ => True
  | _ => False

namespace Books

/-- What an instruction that creates the accounts `created` does to the books. -/
structure Confined (signed : Prop) (allowed : Address → Prop) (created : List Pda)
    (before after : Books) : Prop where
  kept : ∀ pda value, before.structs pda = some value →
    ∃ value', after.structs pda = some value' ∧ pda.Kept signed value value'
  only : ∀ pda, before.structs pda = none → (after.structs pda ≠ none ↔ pda ∈ created)
  fresh : ∀ pda ∈ created, before.structs pda = none
  once : created.Nodup
  authorized : ∀ pda ∈ created, ¬ pda.IsRecord → signed
  tokens : Relation.ReflTransGen (TokenStep allowed) before.tokens after.tokens

section Confined

variable {signed : Prop} {allowed : Address → Prop} {created : List Pda} {books books' : Books}

theorem Confined.refl (books : Books) : Confined signed allowed [] books books where
  kept pda value found := ⟨value, found, .refl pda value⟩
  only pda absent := by simp [absent]
  fresh _ member := absurd member List.not_mem_nil
  once := List.nodup_nil
  authorized _ member := absurd member List.not_mem_nil
  tokens := .refl

theorem Confined.trans {more : List Pda} {first second third : Books}
    (left : Confined signed allowed created first second)
    (right : Confined signed allowed more second third) :
    Confined signed allowed (created ++ more) first third := by
  have earlier : ∀ pda, second.structs pda = none → first.structs pda = none := by
    intro pda absent
    cases found : first.structs pda with
    | none => rfl
    | some value =>
        obtain ⟨value', stays, -⟩ := left.kept pda value found
        rw [absent] at stays
        cases stays
  have exists_ : ∀ pda ∈ created, second.structs pda ≠ none := fun pda member =>
    (left.only pda (left.fresh pda member)).mpr member
  constructor
  · intro pda value found
    obtain ⟨value', stays, kept⟩ := left.kept pda value found
    obtain ⟨value'', stays', kept'⟩ := right.kept pda value' stays
    exact ⟨value'', stays', kept.trans kept'⟩
  · intro pda absent
    rw [List.mem_append, ← left.only pda absent]
    cases found : second.structs pda with
    | none =>
        have same := right.only pda found
        simpa using same
    | some value =>
        obtain ⟨value', stays, -⟩ := right.kept pda value found
        simp [stays]
  · intro pda member
    rcases List.mem_append.mp member with member | member
    · exact left.fresh pda member
    · exact earlier pda (right.fresh pda member)
  · refine List.nodup_append'.mpr ⟨left.once, right.once, ?_⟩
    intro pda member again
    exact exists_ pda member (right.fresh pda again)
  · intro pda member
    rcases List.mem_append.mp member with member | member
    · exact left.authorized pda member
    · exact right.authorized pda member
  · exact left.tokens.trans right.tokens

theorem Confined.rewrite {pda : Pda} {value value' : pda.Struct}
    (found : books.structs pda = some value) (kept : pda.Kept signed value value') :
    Confined signed allowed [] books (books.put pda value') := by
  refine ⟨?_, ?_, ?_, List.nodup_nil, ?_, .refl⟩
  · intro other stored present
    by_cases here : other = pda
    · subst here
      cases found.symm.trans present
      exact ⟨value', put_self _ _ _, kept⟩
    · exact ⟨stored, by rw [put_of_ne _ _ here, present], .refl other stored⟩
  · intro other absent
    have here : other ≠ pda := by
      rintro rfl
      rw [absent] at found
      cases found
    simp [put_of_ne _ _ here, absent]
  · exact fun _ member => absurd member List.not_mem_nil
  · exact fun _ member => absurd member List.not_mem_nil

theorem Confined.create {pda : Pda} {value : pda.Struct} (absent : books.structs pda = none)
    (authorized : ¬ pda.IsRecord → signed) :
    Confined signed allowed [pda] books (books.put pda value) := by
  refine ⟨?_, ?_, ?_, List.nodup_singleton _, ?_, .refl⟩
  · intro other stored present
    have here : other ≠ pda := by
      rintro rfl
      rw [absent] at present
      cases present
    exact ⟨stored, by rw [put_of_ne _ _ here, present], .refl other stored⟩
  · intro other missing
    rw [List.mem_singleton]
    by_cases here : other = pda
    · subst here
      simp
    · simp [missing, here]
  · intro other member
    rw [List.mem_singleton.mp member]
    exact absent
  · intro other member
    rw [List.mem_singleton.mp member]
    exact authorized

theorem Confined.moveTokens (confined : Confined signed allowed created books books')
    {tokens : TokenLedger} (moved : Relation.ReflTransGen (TokenStep allowed) books'.tokens tokens) :
    Confined signed allowed created books (books'.withTokens tokens) :=
  ⟨confined.kept, confined.only, confined.fresh, confined.once, confined.authorized,
    confined.tokens.trans moved⟩

theorem Confined.charge (confined : Confined signed allowed created books books') (slug : Slug)
    (amount : Nat) : Confined signed allowed created books (books'.charge slug amount) :=
  ⟨confined.kept, confined.only, confined.fresh, confined.once, confined.authorized,
    confined.tokens⟩

end Confined

end Books

theorem TokenStep.of_paysAll {allowed : Address → Prop} {before after : TokenLedger}
    {payments : List Payment} (paid : TokenLedger.PaysAll before payments after)
    (authorized : ∀ payment ∈ payments, allowed payment.authority) :
    Relation.ReflTransGen (TokenStep allowed) before after := by
  induction payments generalizing before with
  | nil =>
      cases paid
      exact .refl
  | cons payment rest ih =>
      obtain ⟨middle, first, later⟩ := paid
      have one : TokenStep allowed before middle :=
        .paid first (authorized payment List.mem_cons_self)
      exact .head one (ih later fun other member => authorized other (List.mem_cons_of_mem _ member))

/-! ## The accounts an instruction creates -/

/-- The derived addresses at which an accepted instruction creates accounts. -/
def Discriminator.creates (data : List UInt8) : Discriminator → List Pda
  | .initializeSettlementAuthority => [.settlementAuthority]
  | .registerEndpoint =>
      let args := RegisterEndpoint.Args.layout.decode (data.take RegisterEndpoint.Args.layout.size)
      [.coveragePool args.slug, .endpointConfig args.slug]
  | .settleBatch =>
      match SettleBatch.parseEvents data with
      | .ok events => events.map fun event => .callRecord event.callId
      | .error _ => []
  | .initializeProtocolConfig => [.protocolConfig]
  | .initializeTreasury => [.treasury]
  | .updateEndpointConfig | .pauseEndpoint | .topUpCoveragePool | .updateFeeRecipients
  | .pauseProtocol => []

def Instruction.discriminator (instruction : Instruction) : Option Discriminator :=
  instruction.data.head?.bind Discriminator.fromU8

def Instruction.creates (instruction : Instruction) : List Pda :=
  match instruction.discriminator with
  | some discriminator => discriminator.creates instruction.data.tail
  | none => []

/-! ## Signatures -/

section Handlers

variable {addresses : Addresses} {context : Context} {ledger result : Ledger}
  {accounts : List Address} {data : List UInt8} (fees : Slug → Nat)

def Authorized (addresses : Addresses) (context : Context) (ledger : Ledger) : Prop :=
  ∃ config, structOf addresses ledger .protocolConfig = some config ∧
    context.signer config.authority = true

theorem authorized_of_required {protocolConfig authority : Address} {stored : ProtocolConfig}
    (verified : protocolConfig = addresses.of .protocolConfig ∧
      (ledger protocolConfig).owner = programId)
    (required : requireAuthority ledger protocolConfig authority = .ok stored)
    (signature : context.signer authority = true) : Authorized addresses context ledger := by
  refine ⟨stored, structOf_config verified.2 verified.1 required, ?_⟩
  simp only [requireAuthority, bind_eq_ok, failIf_eq_ok, exists_const, ne_eq, not_not,
    Except.ok.injEq] at required
  obtain ⟨_, -, same, rfl⟩ := required
  rw [same]
  exact signature

theorem InitializeTreasury.authorized
    (accepted : InitializeTreasury.process addresses context ledger accounts = .ok result) :
    Authorized addresses context ledger := by
  unfold InitializeTreasury.process at accepted
  split at accepted
  case h_1 authority protocolConfig treasury vault mint systemProgram tokenProgram rest =>
    simp only [bind_eq_ok, failIf_eq_ok, exists_const, verifyProtocolConfig, verifyCanonical_eq_ok,
      Bool.not_eq_false] at accepted
    obtain ⟨-, -, signature, -, verified, stored, required, -⟩ := accepted
    exact authorized_of_required verified required signature
  case h_2 => cases accepted

theorem InitializeSettlementAuthority.authorized
    (accepted : InitializeSettlementAuthority.process addresses context ledger accounts data =
      .ok result) : Authorized addresses context ledger := by
  unfold InitializeSettlementAuthority.process at accepted
  split at accepted
  case h_1 authority protocolConfig settlementAuth systemProgram rest =>
    simp only [bind_eq_ok, failIf_eq_ok, exists_const, verifyProtocolConfig, verifyCanonical_eq_ok,
      Bool.not_eq_false] at accepted
    obtain ⟨-, -, signature, -, verified, stored, required, -⟩ := accepted
    exact authorized_of_required verified required signature
  case h_2 => cases accepted

theorem PauseProtocol.authorized
    (accepted : PauseProtocol.process addresses context ledger accounts data = .ok result) :
    Authorized addresses context ledger := by
  unfold PauseProtocol.process at accepted
  split at accepted
  case h_1 authority protocolConfig rest =>
    simp only [bind_eq_ok, failIf_eq_ok, exists_const, verifyProtocolConfig, verifyCanonical_eq_ok,
      Bool.not_eq_false] at accepted
    obtain ⟨-, signature, -, verified, stored, required, -⟩ := accepted
    exact authorized_of_required verified required signature
  case h_2 => cases accepted

theorem RegisterEndpoint.authorized
    (accepted : RegisterEndpoint.process addresses context ledger accounts data = .ok result) :
    Authorized addresses context ledger := by
  unfold RegisterEndpoint.process at accepted
  split at accepted
  case h_1 authority protocolConfig treasury endpoint pool poolVault mint systemProgram
      tokenProgram tail =>
    simp only [RegisterEndpoint.register, bind_eq_ok, failIf_eq_ok, exists_const,
      verifyProtocolConfig, verifyTreasury, verifyCanonical_eq_ok, Bool.not_eq_false] at accepted
    obtain ⟨-, -, -, signature, -, verified, -, stored, required, -⟩ := accepted
    exact authorized_of_required verified required signature
  case h_2 => cases accepted

theorem UpdateFeeRecipients.authorized
    (accepted : UpdateFeeRecipients.process addresses context ledger accounts data = .ok result) :
    Authorized addresses context ledger := by
  unfold UpdateFeeRecipients.process at accepted
  split at accepted
  case h_1 authority protocolConfig treasury endpoint tail =>
    simp only [bind_eq_ok, failIf_eq_ok, exists_const, verifyProtocolConfig, verifyTreasury,
      verifyCanonical_eq_ok, Bool.not_eq_false] at accepted
    obtain ⟨-, signature, -, verified, -, stored, required, -⟩ := accepted
    exact authorized_of_required verified required signature
  case h_2 => cases accepted

theorem UpdateEndpointConfig.authorized
    (accepted : UpdateEndpointConfig.process addresses context ledger accounts data =
      .ok result) : Authorized addresses context ledger := by
  unfold UpdateEndpointConfig.process at accepted
  split at accepted
  case h_1 authority protocolConfig endpoint rest =>
    simp only [bind_eq_ok, failIf_eq_ok, exists_const, verifyProtocolConfig, verifyCanonical_eq_ok,
      Bool.not_eq_false] at accepted
    obtain ⟨-, signature, -, verified, stored, required, -⟩ := accepted
    exact authorized_of_required verified required signature
  case h_2 => cases accepted

theorem PauseEndpoint.authorized
    (accepted : PauseEndpoint.process addresses context ledger accounts data = .ok result) :
    Authorized addresses context ledger := by
  unfold PauseEndpoint.process at accepted
  split at accepted
  case h_1 authority protocolConfig endpoint rest =>
    simp only [bind_eq_ok, failIf_eq_ok, exists_const, verifyProtocolConfig, verifyCanonical_eq_ok,
      Bool.not_eq_false] at accepted
    obtain ⟨-, signature, -, verified, stored, required, -⟩ := accepted
    exact authorized_of_required verified required signature
  case h_2 => cases accepted

/-! ## Handlers -/

variable {signed : Prop} {allowed : Address → Prop} (shaped : Shaped addresses ledger)
  (signs : Authorized addresses context ledger → signed)

include shaped

theorem InitializeProtocolConfig.confined
    (first : structOf addresses ledger .protocolConfig = none → signed)
    (accepted : InitializeProtocolConfig.process addresses context ledger accounts data =
      .ok result) :
    Books.Confined signed allowed [.protocolConfig]
      (Chain.books addresses ⟨ledger, fees⟩) (Chain.books addresses ⟨result, fees⟩) := by
  obtain ⟨-, absent, config, -, -, -, books⟩ := InitializeProtocolConfig.spec fees shaped accepted
  rw [books]
  exact .create absent fun _ => first absent

include signs

theorem InitializeTreasury.confined
    (accepted : InitializeTreasury.process addresses context ledger accounts = .ok result) :
    Books.Confined signed allowed [.treasury]
      (Chain.books addresses ⟨ledger, fees⟩) (Chain.books addresses ⟨result, fees⟩) := by
  have signature := signs (InitializeTreasury.authorized accepted)
  obtain ⟨-, absent, treasury, token, fresh, books⟩ :=
    InitializeTreasury.spec fees shaped accepted
  rw [books]
  exact (Books.Confined.create absent fun _ => signature).moveTokens (.single (.opened token fresh))

theorem InitializeSettlementAuthority.confined
    (accepted : InitializeSettlementAuthority.process addresses context ledger accounts data =
      .ok result) :
    Books.Confined signed allowed [.settlementAuthority]
      (Chain.books addresses ⟨ledger, fees⟩) (Chain.books addresses ⟨result, fees⟩) := by
  have signature := signs (InitializeSettlementAuthority.authorized accepted)
  obtain ⟨-, absent, authority, books⟩ := InitializeSettlementAuthority.spec fees shaped accepted
  rw [books]
  exact .create absent fun _ => signature

theorem PauseProtocol.confined
    (accepted : PauseProtocol.process addresses context ledger accounts data = .ok result) :
    Books.Confined signed allowed []
      (Chain.books addresses ⟨ledger, fees⟩) (Chain.books addresses ⟨result, fees⟩) := by
  have signature := signs (PauseProtocol.authorized accepted)
  obtain ⟨-, stored, paused, found, books⟩ := PauseProtocol.spec fees shaped accepted
  rw [books]
  exact .rewrite found ⟨rfl, .inr signature⟩

theorem RegisterEndpoint.confined (valid : (Chain.books addresses ⟨ledger, fees⟩).FeesValid)
    (accepted : RegisterEndpoint.process addresses context ledger accounts data = .ok result) :
    Books.Confined signed allowed
      (Discriminator.creates data .registerEndpoint)
      (Chain.books addresses ⟨ledger, fees⟩) (Chain.books addresses ⟨result, fees⟩) := by
  have signature := signs (RegisterEndpoint.authorized accepted)
  obtain ⟨named, args, entries, count, _, treasury, -, -, -, created, rfl, -⟩ :=
    process_created fees valid accepted
  obtain ⟨-, poolAbsent, endpointAbsent, fresh, token, -, books⟩ :=
    create_spec fees shaped created
  rw [books]
  refine Books.Confined.moveTokens ?_ (.single (.opened token fresh))
  exact .trans (.create poolAbsent fun _ => signature)
    (.create ((Books.put_of_ne _ _ (by simp)).trans endpointAbsent) fun _ => signature)

theorem UpdateFeeRecipients.confined
    (accepted : UpdateFeeRecipients.process addresses context ledger accounts data = .ok result) :
    Books.Confined signed allowed []
      (Chain.books addresses ⟨ledger, fees⟩) (Chain.books addresses ⟨result, fees⟩) := by
  have signature := signs (UpdateFeeRecipients.authorized accepted)
  obtain ⟨slug, state, entries, count, _, treasury, -, -, -, found, saved, -⟩ :=
    process_saved accepted
  obtain ⟨-, books⟩ := save_spec fees shaped found saved
  rw [books]
  exact .rewrite (shaped.structOf_of_found found) ⟨rfl, .inr signature⟩

omit signs in
theorem confined_of_endpoint_saved {account : Address} {state state' : EndpointConfig}
    (found : structAt EndpointConfig.layout ledger account = some state)
    (saved : save EndpointConfig.layout programId context ledger account state' = .ok result)
    (same : state'.SameEndpoint state) (signature : signed) :
    Books.Confined signed allowed []
      (Chain.books addresses ⟨ledger, fees⟩) (Chain.books addresses ⟨result, fees⟩) := by
  obtain ⟨-, ⟨slug, stored, books⟩ | books⟩ := endpoint_saved fees shaped found saved
  · rw [books]
    exact .rewrite stored ⟨same, .inr signature⟩
  · rw [books]
    exact .refl _

theorem UpdateEndpointConfig.confined
    (accepted : UpdateEndpointConfig.process addresses context ledger accounts data =
      .ok result) :
    Books.Confined signed allowed []
      (Chain.books addresses ⟨ledger, fees⟩) (Chain.books addresses ⟨result, fees⟩) := by
  have signature := signs (UpdateEndpointConfig.authorized accepted)
  obtain ⟨account, state, args, found, saved⟩ := process_saved accepted
  exact confined_of_endpoint_saved fees shaped found saved rfl signature

theorem PauseEndpoint.confined
    (accepted : PauseEndpoint.process addresses context ledger accounts data = .ok result) :
    Books.Confined signed allowed []
      (Chain.books addresses ⟨ledger, fees⟩) (Chain.books addresses ⟨result, fees⟩) := by
  have signature := signs (PauseEndpoint.authorized accepted)
  obtain ⟨account, state, paused, found, saved⟩ := process_saved accepted
  exact confined_of_endpoint_saved fees shaped found saved rfl signature

omit signs in
theorem TopUpCoveragePool.confined
    (unsigned : ∀ pda, context.signer (addresses.of pda) = false)
    (outsiders : ∀ authority, (∀ pda, authority ≠ addresses.of pda) → allowed authority)
    (accepted : TopUpCoveragePool.process addresses context ledger accounts data = .ok result) :
    Books.Confined signed allowed []
      (Chain.books addresses ⟨ledger, fees⟩) (Chain.books addresses ⟨result, fees⟩) := by
  obtain ⟨-, slug, pool, pool', payment, tokens, stored, paid, -, outsider, terms, -, books⟩ :=
    TopUpCoveragePool.spec fees shaped unsigned accepted
  have kept : (Pda.coveragePool slug).Kept signed pool pool' := terms
  rw [books]
  exact (Books.Confined.rewrite stored kept).moveTokens
    (.single (.paid paid (outsiders _ outsider)))

end Handlers

/-! ## Settlement -/

namespace SettleBatch

section Batch

variable {addresses : Addresses} {context : Context} {fixed : FixedAccounts} {bump : UInt8}
  {before after : Ledger} {signed : Prop} {allowed : Address → Prop} (fees : Slug → Nat)
  (anyone : ∀ authority, allowed authority)

include anyone

theorem Settled.moves {now : Int64} {event : SettlementEvent} {accounts : EventAccounts}
    {recipients : List FeeRecipient} {pool pool' : CoveragePool}
    {endpoint endpoint' : EndpointConfig} {tokens tokens' : TokenLedger}
    {status : SettlementStatus} {actual : UInt64} {paid : List (Address × UInt64)}
    {outcome : Settlement.Outcome}
    (settled : Settled now fixed event accounts recipients pool pool' endpoint endpoint' tokens
      tokens' status actual paid outcome) :
    Relation.ReflTransGen (TokenStep allowed) tokens tokens' := by
  obtain ⟨credited, spread, premium, fanOut, refund⟩ := settled.tokens
  have taken : Relation.ReflTransGen (TokenStep allowed) tokens spread :=
    .head (.paid premium (anyone _)) (TokenStep.of_paysAll fanOut fun _ _ => anyone _)
  rcases refund with ⟨-, rfl⟩ | refunded
  · exact taken
  · exact taken.tail (.paid refunded (anyone _))

theorem Effect.confined {event : SettlementEvent} {accounts : EventAccounts}
    {pool pool' : CoveragePool} {endpoint endpoint' : EndpointConfig} {status : SettlementStatus}
    {actual : UInt64} {receipt : Receipt}
    (effect : Effect addresses context fixed event accounts pool pool' endpoint endpoint' before
      after status actual receipt) (shaped : Shaped addresses before) :
    Books.Confined signed allowed [.callRecord event.callId]
      (Chain.books addresses ⟨before, fees⟩)
      (Chain.books addresses ⟨after, chargeFees fees [receipt]⟩) := by
  have absent := effect.recordWritten.1
  have record : ¬ (Pda.callRecord event.callId).IsRecord → signed := fun other => absurd trivial other
  rcases effect.books fees shaped with failed | ⟨poolFound, endpointFound, ⟨_, settled⟩, books⟩
  · rw [failed]
    exact .create absent record
  · rw [books]
    refine (Books.Confined.moveTokens ?_ (settled.moves anyone)).charge _ _
    have poolKept : (Pda.coveragePool event.endpointSlug).Kept signed pool pool' :=
      settled.poolTerms
    have endpointKept : (Pda.endpointConfig event.endpointSlug).Kept signed endpoint endpoint' :=
      ⟨settled.endpointTerms.sameEndpoint, .inl settled.endpointTerms⟩
    refine .trans (.trans (.rewrite poolFound poolKept) (.rewrite ?_ endpointKept))
      (.create ?_ record)
    · exact (Books.put_of_ne _ _ (by simp)).trans endpointFound
    · rw [Books.put_of_ne _ _ (by simp), Books.put_of_ne _ _ (by simp)]
      exact absent

theorem confined {list : List Address} {data : List UInt8} {receipts : List Receipt}
    (shaped : Shaped addresses before)
    (accepted : process addresses context before list data = .ok (after, receipts)) :
    Books.Confined signed allowed (Discriminator.creates data .settleBatch)
      (Chain.books addresses ⟨before, fees⟩)
      (Chain.books addresses ⟨after, chargeFees fees receipts⟩) := by
  obtain ⟨fixed, rest, bump, events, -, checked, parsed, progress, loop, rfl, rfl⟩ :=
    process_eq_ok accepted
  have whole := foldlM_invariant (fun progress : Progress => Shaped addresses progress.ledger ∧
    Books.Confined signed allowed ((callIds progress.receipts).map .callRecord)
      (Chain.books addresses ⟨before, fees⟩)
      (Chain.books addresses ⟨progress.ledger, chargeFees fees progress.receipts⟩)) loop
    ⟨shaped, .refl _⟩ ?_
  · have ids := callIds_of_loop loop
    simp only [Discriminator.creates, parsed]
    have records : (callIds progress.receipts).map Pda.callRecord =
        events.map fun event => .callRecord event.callId := by
      rw [ids]
      simp [callIds]
    rw [← records]
    exact whole.2
  · rintro earlier event later - ⟨sound, sofar⟩ stepped
    obtain ⟨named, receipt, pool, pool', endpoint, endpoint', status, actual, -, appended, -,
      effect⟩ := settleStep_spec stepped
    have one : callIds [receipt] = [event.callId] := by
      rw [callIds, List.map_singleton, effect.written]
      rfl
    refine ⟨effect.shaped sound, ?_⟩
    rw [appended, callIds, List.map_append, List.map_append, chargeFees_append]
    refine sofar.trans ?_
    change Books.Confined signed allowed ((callIds [receipt]).map .callRecord) _ _
    rw [one]
    exact effect.confined _ anyone sound

end Batch

end SettleBatch

/-! ## The chain -/

/-- Who may transfer tokens in an instruction: a derived address only in a batch
that the stored settlement signer signed. -/
def Instruction.MayTransfer (addresses : Addresses) (ledger : Ledger) (instruction : Instruction)
    (authority : Address) : Prop :=
  (∃ pda, authority = addresses.of pda) → instruction.discriminator = some .settleBatch ∧
    ∃ stored, structOf addresses ledger .settlementAuthority = some stored ∧
      instruction.context.signer stored.signer = true

section Chain

variable {addresses : Addresses} {chain later : Chain} {config : ProtocolConfig}

theorem processInstruction_confined {instruction : Instruction} {ledger : Ledger}
    {receipts : List Receipt} {signed : Prop} (sound : Chain.Sound addresses chain)
    (first : structOf addresses chain.ledger .protocolConfig = none → signed)
    (signs : Authorized addresses instruction.context chain.ledger → signed)
    (unsigned : ∀ pda, instruction.context.signer (addresses.of pda) = false)
    (processed : processInstruction addresses chain.ledger instruction = .ok (ledger, receipts)) :
    Books.Confined signed
      (instruction.MayTransfer addresses chain.ledger) instruction.creates
      (chain.books addresses)
      (Chain.books addresses ⟨ledger, chargeFees chain.fees receipts⟩) := by
  have shaped := sound.shaped
  obtain ⟨context, accounts, data⟩ := instruction
  cases data with
  | nil => cases processed
  | cons tag data =>
      rw [processInstruction, bind_eq_ok] at processed
      obtain ⟨discriminator, named, accepted⟩ := processed
      rw [okOr_eq_ok] at named
      have reads : (Instruction.mk context accounts (tag :: data)).discriminator =
          some discriminator := named
      have creates : (Instruction.mk context accounts (tag :: data)).creates =
          discriminator.creates data := by
        rw [Instruction.creates, reads]
        rfl
      have plain : ∀ {outcome : Except ProgramError Ledger},
          outcome.map (·, ([] : List Receipt)) = .ok (ledger, receipts) →
            outcome = .ok ledger ∧ receipts = [] := by
        intro outcome mapped
        cases outcome with
        | error => cases mapped
        | ok => cases mapped; exact ⟨rfl, rfl⟩
      rw [creates]
      cases discriminator with
      | settleBatch =>
          refine SettleBatch.confined chain.fees (fun authority _ => ⟨reads, ?_⟩) shaped accepted
          obtain ⟨fixed, rest, bump, events, -, checked, -⟩ := SettleBatch.process_eq_ok accepted
          obtain ⟨-, -, signature, _, stored, -, -, found, signer, -⟩ :=
            SettleBatch.checkFixed_spec checked
          refine ⟨stored, shaped.structOf_of_found found, ?_⟩
          rw [signer]
          exact signature
      | initializeSettlementAuthority =>
          obtain ⟨handled, rfl⟩ := plain accepted
          exact InitializeSettlementAuthority.confined chain.fees shaped signs handled
      | registerEndpoint =>
          obtain ⟨handled, rfl⟩ := plain accepted
          exact RegisterEndpoint.confined chain.fees shaped signs sound.books.fees handled
      | updateEndpointConfig =>
          obtain ⟨handled, rfl⟩ := plain accepted
          exact UpdateEndpointConfig.confined chain.fees shaped signs handled
      | pauseEndpoint =>
          obtain ⟨handled, rfl⟩ := plain accepted
          exact PauseEndpoint.confined chain.fees shaped signs handled
      | topUpCoveragePool =>
          obtain ⟨handled, rfl⟩ := plain accepted
          refine TopUpCoveragePool.confined chain.fees shaped unsigned ?_ handled
          rintro authority outsider ⟨pda, same⟩
          exact absurd same (outsider pda)
      | initializeProtocolConfig =>
          obtain ⟨handled, rfl⟩ := plain accepted
          exact InitializeProtocolConfig.confined chain.fees shaped first handled
      | initializeTreasury =>
          obtain ⟨handled, rfl⟩ := plain accepted
          exact InitializeTreasury.confined chain.fees shaped signs handled
      | updateFeeRecipients =>
          obtain ⟨handled, rfl⟩ := plain accepted
          exact UpdateFeeRecipients.confined chain.fees shaped signs handled
      | pauseProtocol =>
          obtain ⟨handled, rfl⟩ := plain accepted
          exact PauseProtocol.confined chain.fees shaped signs handled

def Books.Lasting (before after : Books) : Prop :=
  ∀ pda value, before.structs pda = some value →
    ∃ value', after.structs pda = some value' ∧ pda.Kept True value value'

theorem Books.Lasting.refl (books : Books) : Lasting books books :=
  fun pda value found => ⟨value, found, .refl pda value⟩

theorem Books.Lasting.trans {first second third : Books} (left : Lasting first second)
    (right : Lasting second third) : Lasting first third := by
  intro pda value found
  obtain ⟨value', stays, kept⟩ := left pda value found
  obtain ⟨value'', stays', kept'⟩ := right pda value' stays
  exact ⟨value'', stays', kept.trans kept'⟩

theorem Chain.Next.lasting {before after : Chain} (sound : Sound addresses before)
    (next : Next addresses before after) :
    Books.Lasting (before.books addresses) (after.books addresses) := by
  cases next with
  | instruction instruction unsigned =>
      unfold execute
      split
      case h_1 ledger receipts processed =>
        exact (processInstruction_confined sound (fun _ => trivial) (fun _ => trivial) unsigned
          processed).kept
      case h_2 => exact .refl _
  | @outside ledger outside =>
      intro pda value found
      obtain ⟨owner, data⟩ := outside.derived pda
      have same : structOf addresses ledger pda = structOf addresses before.ledger pda := by
        simp only [structOf, structAt, owner, data]
      exact ⟨value, same.trans found, .refl pda value⟩

theorem Chain.Reached.lasting (reached : Reached addresses chain)
    (run : Relation.ReflTransGen (Next addresses) chain later) :
    Reached addresses later ∧ Books.Lasting (chain.books addresses) (later.books addresses) := by
  induction run with
  | refl => exact ⟨reached, .refl _⟩
  | tail _ next ih =>
      obtain ⟨middle, lasts⟩ := ih
      exact ⟨.next middle next, lasts.trans (next.lasting middle.sound)⟩

/-- Once the protocol is configured its authority's signature is needed for all
administration and its settlement signer's for every transfer the program signs,
no account is created twice, and what they are bound to never changes. -/
theorem authority_confined (reached : Chain.Reached addresses chain)
    (initialized : structOf addresses chain.ledger .protocolConfig = some config) :
    (∀ instruction ledger receipts,
      (∀ pda, instruction.context.signer (addresses.of pda) = false) →
      processInstruction addresses chain.ledger instruction = .ok (ledger, receipts) →
      Books.Confined (instruction.context.signer config.authority = true)
        (instruction.MayTransfer addresses chain.ledger) instruction.creates
        (chain.books addresses)
        (Chain.books addresses ⟨ledger, chargeFees chain.fees receipts⟩)) ∧
    ∀ later, Relation.ReflTransGen (Chain.Next addresses) chain later →
      Books.Lasting (chain.books addresses) (later.books addresses) := by
  refine ⟨fun instruction ledger receipts unsigned processed => ?_,
    fun _ run => (reached.lasting run).2⟩
  refine processInstruction_confined reached.sound ?_ ?_ unsigned processed
  · intro absent
    rw [absent] at initialized
    cases initialized
  · rintro ⟨stored, found, signature⟩
    cases initialized.symm.trans found
    exact signature

namespace Demo

def batch : Instruction := instruction batchAccounts (10 :: batchData)

/-- A batch after setup: the settler signed, and one record was created. -/
theorem authority_confined_demo : ∃ config ledger receipts,
    structOf SettleBatch.Demo.addresses funded.ledger .protocolConfig = some config ∧
    processInstruction SettleBatch.Demo.addresses funded.ledger batch = .ok (ledger, receipts) ∧
    Books.Confined (batch.context.signer config.authority = true)
      (batch.MayTransfer SettleBatch.Demo.addresses funded.ledger) batch.creates
      (funded.books SettleBatch.Demo.addresses)
      (Chain.books SettleBatch.Demo.addresses ⟨ledger, chargeFees funded.fees receipts⟩) ∧
    Books.Lasting (funded.books SettleBatch.Demo.addresses)
      (settled.books SettleBatch.Demo.addresses) := by
  have stored : (structOf SettleBatch.Demo.addresses funded.ledger .protocolConfig).isSome = true := by
    decide +kernel
  have accepted : (processInstruction SettleBatch.Demo.addresses funded.ledger batch).isOk = true := by
    decide +kernel
  obtain ⟨config, found⟩ := Option.isSome_iff_exists.mp stored
  cases processed : processInstruction SettleBatch.Demo.addresses funded.ledger batch with
  | error =>
      rw [processed] at accepted
      cases accepted
  | ok outcome =>
      obtain ⟨ledger, receipts⟩ := outcome
      obtain ⟨step, run⟩ := authority_confined funded_reached found
      refine ⟨config, ledger, receipts, found, rfl, step batch ledger receipts ?_ processed, run _ ?_⟩
      · exact unsigned batchAccounts (10 :: batchData)
      · refine Chain.run_execute funded [batch] fun _ member => ?_
        cases List.mem_singleton.mp member
        exact unsigned batchAccounts (10 :: batchData)

end Demo

end Chain

end PactNetwork.V1
