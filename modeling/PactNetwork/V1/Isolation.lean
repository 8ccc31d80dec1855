import PactNetwork.V1.Acceptance
import PactNetwork.V1.AgentAccounts
import PactNetwork.V1.Donations

/-!
# An agent's account fails its own events only

A batch on two ledgers that differ in one agent's token account, which the pre-flight
refuses on the second. What the two runs share at every turn carries the acceptance of the
first run over to the second.
-/

set_option autoImplicit false

namespace PactNetwork

namespace Settlement

theorem settle_endpoint_counts (pool : Pool) (endpoint : Endpoint) (now : Int) (call : Call) :
    (settle pool endpoint now call).endpoint.calls = endpoint.calls + 1 ∧
      (settle pool endpoint now call).endpoint.breaches =
        endpoint.breaches + call.breach.toNat ∧
      (settle pool endpoint now call).endpoint.premiums = endpoint.premiums + call.premium ∧
      ((settle pool endpoint now call).endpoint.periodStart = endpoint.periodStart ∨
        (settle pool endpoint now call).endpoint.periodStart = now) := by
  have rolled : (endpoint.roll now).calls = endpoint.calls ∧
      (endpoint.roll now).breaches = endpoint.breaches ∧
      (endpoint.roll now).premiums = endpoint.premiums ∧
      ((endpoint.roll now).periodStart = endpoint.periodStart ∨
        (endpoint.roll now).periodStart = now) := by
    unfold Endpoint.roll
    split
    case isTrue => exact ⟨rfl, rfl, rfl, .inr rfl⟩
    case isFalse => exact ⟨rfl, rfl, rfl, .inl rfl⟩
  obtain ⟨calls, breaches, premiums, start⟩ := rolled
  rcases Nat.lt_or_ge (pool.collect call).balance
    ((endpoint.roll now).payable call.refund) with short | covered
  · rw [settle_of_short short]
    exact ⟨congrArg (· + 1) calls, congrArg (· + _) breaches, congrArg (· + _) premiums, start⟩
  · rw [settle_of_covered rfl covered]
    exact ⟨congrArg (· + 1) calls, congrArg (· + _) breaches, congrArg (· + _) premiums, start⟩

end Settlement

end PactNetwork

namespace PactNetwork.V1

open Solana Solana.TokenLedger

/-! ## Terms and counters -/

theorem CoveragePool.SameTerms.symm {left right : CoveragePool} (same : left.SameTerms right) :
    right.SameTerms left := by
  unfold SameTerms at same ⊢
  rw [same]

theorem CoveragePool.SameTerms.eq_of_ledger {left right : CoveragePool}
    (same : left.SameTerms right) (ledger : left.ledger = right.ledger) : left = right := by
  have deposits := UInt64.toNat_inj.mp (congrArg Settlement.Pool.deposits ledger)
  have premiums := UInt64.toNat_inj.mp (congrArg Settlement.Pool.premiums ledger)
  have refunds := UInt64.toNat_inj.mp (congrArg Settlement.Pool.refunds ledger)
  have balance := UInt64.toNat_inj.mp (congrArg Settlement.Pool.balance ledger)
  unfold SameTerms at same
  rw [deposits, premiums, refunds, balance] at same
  exact same

theorem EndpointConfig.SameTerms.symm {left right : EndpointConfig} (same : left.SameTerms right) :
    right.SameTerms left := by
  unfold SameTerms at same ⊢
  rw [same]

theorem EndpointConfig.SameTerms.eq_of_counters {left right : EndpointConfig}
    (same : left.SameTerms right) (counters : left.counters = right.counters) : left = right := by
  have periodStart := Int64.toInt_inj.mp (congrArg Settlement.Endpoint.periodStart counters)
  have periodRefunds := UInt64.toNat_inj.mp (congrArg Settlement.Endpoint.periodRefunds counters)
  have calls := UInt64.toNat_inj.mp (congrArg Settlement.Endpoint.calls counters)
  have breaches := UInt64.toNat_inj.mp (congrArg Settlement.Endpoint.breaches counters)
  have premiums := UInt64.toNat_inj.mp (congrArg Settlement.Endpoint.premiums counters)
  have refunds := UInt64.toNat_inj.mp (congrArg Settlement.Endpoint.refunds counters)
  unfold SameTerms at same
  rw [periodStart, periodRefunds, calls, breaches, premiums, refunds] at same
  exact same

namespace SettleBatch

/-- The account can be read as the Token Program would: it is a token account or too short
to pass for one. -/
def Legible (ledger : Ledger) (address : Address) : Prop :=
  (ledger address).data.length < TokenAccount.layout.size ∨ (tokenAt ledger address).isSome = true

theorem delegateOk_congr {left right : Ledger} {address : Address} (legible : Legible left address)
    (length : (right address).data.length = (left address).data.length)
    (same : holding (tokenAt right) address = holding (tokenAt left) address)
    (settlementAuth : Address) (premium : UInt64) :
    delegateOk (right address).data settlementAuth premium =
      delegateOk (left address).data settlementAuth premium := by
  cases legible with
  | inl short =>
      have unread : ∀ {data : List UInt8}, data.length < TokenAccount.layout.size →
          delegateOk data settlementAuth premium = false := by
        intro data short
        have none_ : TokenAccount.layout.read data = none := if_pos short
        rw [delegateOk, none_]
      rw [unread short, unread (length ▸ short)]
  | inr token =>
      obtain ⟨token, found⟩ := Option.isSome_iff_exists.mp token
      unfold holding at same
      rw [found, Option.map_some, Option.map_eq_some_iff] at same
      obtain ⟨token', found', same⟩ := same
      rw [TokenAccount.of_holding same] at found'
      rw [Bool.eq_iff_iff, delegateOk_of_tokenAt found', delegateOk_of_tokenAt found]

/-! ## One event -/

section Effect

variable {addresses : Addresses} {context : Context} {fixed : FixedAccounts}
  {event : SettlementEvent} {accounts : EventAccounts} {pool pool' : CoveragePool}
  {endpoint endpoint' : EndpointConfig} {before after : Ledger} {status : SettlementStatus}
  {actual : UInt64} {receipt : Receipt}
  (effect : Effect addresses context fixed event accounts pool pool' endpoint endpoint' before
    after status actual receipt)

theorem vault_of_sound {chain : Chain} (sound : Chain.Sound addresses chain)
    (bound : Bound addresses chain.ledger event accounts pool endpoint) :
    ∃ vault, tokenAt chain.ledger accounts.poolVault = some vault ∧
      vault.Exclusive accounts.coveragePool ∧ pool.ledger.balance ≤ vault.amount.toNat := by
  have found := bound.poolFound
  rw [bound.coveragePool] at found
  obtain ⟨vault, held, exclusive, covered⟩ := sound.books.solvent.held event.endpointSlug pool
    (sound.shaped.structOf_of_found found)
  rw [← bound.coveragePool] at exclusive
  rw [bound.vault] at held
  exact ⟨vault, held, exclusive, covered⟩

include effect

theorem Effect.legible {address : Address} (legible : Legible before address) :
    Legible after address := by
  by_cases record : address = accounts.callRecord
  · subst record
    left
    rw [effect.record, CallRecord.layout.length_encode, CallRecord.layout_size,
      TokenAccount.layout_size]
    omega
  · cases legible with
    | inl short => exact .inl (effect.length address record ▸ short)
    | inr token =>
        have same := congrArg Option.isSome (effect.holder_eq address)
        rw [holder, holder, Option.isSome_map, Option.isSome_map] at same
        exact .inr (same.trans token)

theorem Effect.structOf_of_ne (shaped : Shaped addresses before) {pda : Pda}
    (notRecord : pda ≠ .callRecord event.callId) (notPool : pda ≠ .coveragePool event.endpointSlug)
    (notEndpoint : pda ≠ .endpointConfig event.endpointSlug) :
    structOf addresses after pda = structOf addresses before pda := by
  have bound := effect.bound
  obtain ⟨owner, data⟩ := effect.contents (addresses.of pda)
    (by rw [bound.callRecord]; simpa using notRecord)
    (by rw [bound.coveragePool]; simpa using notPool)
    (by rw [bound.endpointConfig]; simpa using notEndpoint) (shaped.foreign pda)
  simp only [structOf, structAt, owner, data]

theorem Effect.pool_before (shaped : Shaped addresses before) :
    structOf addresses before (.coveragePool event.endpointSlug) = some pool := by
  have found := effect.bound.poolFound
  rw [effect.bound.coveragePool] at found
  exact shaped.structOf_of_found found

theorem Effect.endpoint_before (shaped : Shaped addresses before) :
    structOf addresses before (.endpointConfig event.endpointSlug) = some endpoint := by
  have found := effect.bound.endpointFound
  rw [effect.bound.endpointConfig] at found
  exact shaped.structOf_of_found found

theorem Effect.pool_after (shaped : Shaped addresses before) :
    structOf addresses after (.coveragePool event.endpointSlug) = some pool' := by
  have found := effect.poolAfter
  rw [effect.bound.coveragePool] at found
  exact (effect.shaped shaped).structOf_of_found found

theorem Effect.endpoint_after (shaped : Shaped addresses before) :
    structOf addresses after (.endpointConfig event.endpointSlug) = some endpoint' := by
  have found := effect.endpointAfter
  rw [effect.bound.endpointConfig] at found
  exact (effect.shaped shaped).structOf_of_found found

theorem Effect.pools (shaped : Shaped addresses before) (slug : Slug) :
    structOf addresses after (.coveragePool slug) =
      if slug = event.endpointSlug then some pool'
      else structOf addresses before (.coveragePool slug) := by
  split
  case isTrue same =>
      subst same
      exact effect.pool_after shaped
  case isFalse other =>
      exact effect.structOf_of_ne shaped (by simp) (by simpa using other) (by simp)

theorem Effect.endpoints (shaped : Shaped addresses before) (slug : Slug) :
    structOf addresses after (.endpointConfig slug) =
      if slug = event.endpointSlug then some endpoint'
      else structOf addresses before (.endpointConfig slug) := by
  split
  case isTrue same =>
      subst same
      exact effect.endpoint_after shaped
  case isFalse other =>
      exact effect.structOf_of_ne shaped (by simp) (by simp) (by simpa using other)

theorem Effect.poolTerms : pool'.SameTerms pool := by
  cases effect.outcome with
  | inl failed =>
      obtain ⟨-, -, -, -, rfl, -⟩ := failed
      exact rfl
  | inr covered =>
      obtain ⟨-, -, -, outcome, settled⟩ := covered
      exact settled.poolTerms

theorem Effect.endpointTerms : endpoint'.SameTerms endpoint := by
  cases effect.outcome with
  | inl failed =>
      obtain ⟨-, -, -, -, -, rfl, -⟩ := failed
      exact rfl
  | inr covered =>
      obtain ⟨-, -, -, outcome, settled⟩ := covered
      exact settled.endpointTerms

end Effect

/-! ## Holdings under an event -/

section Holdings

variable {now : Int64} {fixed : FixedAccounts} {event : SettlementEvent}
  {accounts : EventAccounts} {recipients : List FeeRecipient} {pool pool' : CoveragePool}
  {endpoint endpoint' : EndpointConfig} {tokens tokens' : TokenLedger} {status : SettlementStatus}
  {actual : UInt64} {fees : List (Address × UInt64)} {outcome : Settlement.Outcome}
  {vault : TokenAccount}

theorem paysAll_of_exclusive {owner source : Address} {shares : List (Address × UInt64)}
    {before after : TokenLedger}
    (paid : PaysAll before (shares.map fun payout => ⟨source, payout.1, owner, payout.2⟩) after)
    (found : before source = some vault) (exclusive : vault.Exclusive owner) :
    (∃ vault', after source = some vault' ∧ vault'.Exclusive owner) ∧
      (∀ address, holding after address = holding before address) ∧
      ∀ delegate address, Backed before delegate address → Backed after delegate address := by
  induction shares generalizing before vault with
  | nil =>
      cases paid
      exact ⟨⟨vault, found, exclusive⟩, fun _ => rfl, fun _ _ backed => backed⟩
  | cons share shares ih =>
      obtain ⟨middle, first, more⟩ := paid
      obtain ⟨vault', stays, moved⟩ := first.moved source found
      obtain ⟨left, same, kept⟩ := ih more stays (moved.exclusive exclusive)
      exact ⟨left,
        fun address => (same address).trans (holding_pays_of_exclusive first found exclusive),
        fun delegate address backed =>
          kept delegate address (backed_pays_of_exclusive first found exclusive backed)⟩

theorem Settled.holding (settled : Settled now fixed event accounts recipients pool pool' endpoint
      endpoint' tokens tokens' status actual fees outcome)
    (found : tokens accounts.poolVault = some vault)
    (exclusive : vault.Exclusive accounts.coveragePool) :
    ∃ credited, Pays tokens
        ⟨accounts.agentAta, accounts.poolVault, fixed.settlementAuth, event.premiumLamports⟩
        credited ∧
      (∀ address, holding tokens' address = holding credited address) ∧
      ∀ delegate address, Backed credited delegate address → Backed tokens' delegate address := by
  obtain ⟨credited, spread, premium, shares, refund⟩ := settled.tokens
  obtain ⟨vault', stays, moved⟩ := premium.moved _ found
  obtain ⟨⟨vault'', stays', exclusive'⟩, same, kept⟩ :=
    paysAll_of_exclusive shares stays (moved.exclusive exclusive)
  refine ⟨credited, premium, ?_⟩
  cases refund with
  | inl nothing =>
      obtain ⟨-, rfl⟩ := nothing
      exact ⟨same, kept⟩
  | inr paid =>
      exact ⟨fun address => (holding_pays_of_exclusive paid stays' exclusive').trans (same address),
        fun delegate address backed =>
          backed_pays_of_exclusive paid stays' exclusive' (kept delegate address backed)⟩

theorem Settled.balance_le (settled : Settled now fixed event accounts recipients pool pool'
      endpoint endpoint' tokens tokens' status actual fees outcome)
    (different : accounts.agentAta ≠ accounts.poolVault)
    (whole : (amounts fees).sum ≤ event.premiumLamports.toNat)
    (bounded : actual.toNat ≤ event.refundLamports.toNat) (address : Address) :
    balance tokens' address ≤ balance tokens address +
      (event.premiumLamports.toNat + event.refundLamports.toNat) := by
  obtain ⟨credited, spread, premium, shares, refund⟩ := settled.tokens
  have first := balance_pays premium address
  have second := balance_paysAll_le shares address
  have third : balance tokens' address ≤ balance spread address +
      (if address = accounts.agentAta then actual.toNat else 0) := by
    cases refund with
    | inl nothing =>
        obtain ⟨-, rfl⟩ := nothing
        exact Nat.le_add_right _ _
    | inr paid =>
        have moved := balance_pays paid address
        dsimp only at moved
        omega
  dsimp only at first
  by_cases vault : address = accounts.poolVault
  · subst vault
    simp only [if_true, if_neg (Ne.symm different)] at first second third
    omega
  · rw [if_neg vault] at first second
    split at third <;> omega

end Holdings

/-! ## Two runs -/

/-- Two ledgers that differ in one token account, and in what the events of some slugs moved. -/
structure Alike (addresses : Addresses) (target : Address) (touched : Slug → Prop)
    (left right : Ledger) : Prop where
  lamports : ∀ address, address ≠ target → (right address).lamports = (left address).lamports
  owner : ∀ address, address ≠ target → (right address).owner = (left address).owner
  length : ∀ address, address ≠ target →
    (right address).data.length = (left address).data.length
  holding : ∀ address, address ≠ target →
    holding (tokenAt right) address = holding (tokenAt left) address
  pool : ∀ slug pool, structOf addresses left (.coveragePool slug) = some pool →
    ∃ pool', structOf addresses right (.coveragePool slug) = some pool' ∧ pool'.SameTerms pool ∧
      (¬touched slug → pool' = pool)
  endpoint : ∀ slug endpoint, structOf addresses left (.endpointConfig slug) = some endpoint →
    ∃ endpoint', structOf addresses right (.endpointConfig slug) = some endpoint' ∧
      endpoint'.SameTerms endpoint ∧ (¬touched slug → endpoint' = endpoint)

section Alike

variable {addresses : Addresses} {context : Context} {fixed : FixedAccounts} {bump : UInt8}
  {target : Address} {touched : Slug → Prop} {event : SettlementEvent} {accounts : EventAccounts}
  {pool pool' : CoveragePool} {endpoint endpoint' : EndpointConfig}
  {left left' right right' : Ledger} {receipt receipt' : Receipt}

theorem Alike.start {account : Account}
    (outside : Outside addresses left (Function.update left target account)) :
    Alike addresses target touched left (Function.update left target account) := by
  have others : ∀ address, address ≠ target →
      Function.update left target account address = left address :=
    fun address different => Function.update_of_ne different _ _
  have structs : ∀ pda, structOf addresses (Function.update left target account) pda =
      structOf addresses left pda := by
    intro pda
    obtain ⟨owner, data⟩ := outside.derived pda
    simp only [structOf, structAt, owner, data]
  refine ⟨fun address different => by rw [others address different],
    fun address different => by rw [others address different],
    fun address different => by rw [others address different], fun address different => ?_,
    fun slug pool found => ⟨pool, (structs _).trans found, rfl, fun _ => rfl⟩,
    fun slug endpoint found => ⟨endpoint, (structs _).trans found, rfl, fun _ => rfl⟩⟩
  unfold TokenLedger.holding
  rw [tokenAt_congr (others address different)]

theorem Alike.bound (alike : Alike addresses target touched left right)
    (shaped : Shaped addresses left) (bound : Bound addresses left event accounts pool endpoint)
    (notRecord : accounts.callRecord ≠ target) :
    ∃ pool' endpoint', Bound addresses right event accounts pool' endpoint' ∧
      endpoint'.SameTerms endpoint := by
  have poolFound := bound.poolFound
  have endpointFound := bound.endpointFound
  rw [bound.coveragePool] at poolFound
  rw [bound.endpointConfig] at endpointFound
  obtain ⟨pool', poolFound', poolTerms, -⟩ :=
    alike.pool _ pool (shaped.structOf_of_found poolFound)
  obtain ⟨endpoint', endpointFound', endpointTerms, -⟩ :=
    alike.endpoint _ endpoint (shaped.structOf_of_found endpointFound)
  refine ⟨pool', endpoint', {
    callRecord := bound.callRecord
    coveragePool := bound.coveragePool
    endpointConfig := bound.endpointConfig
    fresh := List.length_eq_zero_iff.mp (by rw [alike.length _ notRecord, bound.fresh]; rfl)
    endpointFound := by
      rw [bound.endpointConfig]
      exact (structOf_eq_some.mp endpointFound').2
    unpaused := by
      rw [endpointTerms]
      exact bound.unpaused
    count := by
      rw [endpointTerms]
      exact bound.count
    poolBound := by
      rw [endpointTerms]
      exact bound.poolBound
    poolFound := by
      rw [bound.coveragePool]
      exact (structOf_eq_some.mp poolFound').2
    vault := poolTerms.usdcVault.trans bound.vault
    feeAtas := by rw [endpointTerms.recipients, bound.feeAtas] }, endpointTerms⟩

theorem Alike.createAccount (alike : Alike addresses target touched left right) {rent space : Nat}
    {owner record settler : Address} {created : Ledger}
    (made : createAccount context left settler record rent space owner = .ok created)
    (notRecord : record ≠ target) (notSettler : settler ≠ target) :
    ∃ created', Solana.createAccount context right settler record rent space owner =
      .ok created' := by
  obtain ⟨flags, absent, ⟨payer, empty, rich⟩, -⟩ := createAccount_eq_ok.mp made
  have fresh : right record = Account.absent := by
    have lamports := alike.lamports _ notRecord
    have owned := alike.owner _ notRecord
    have length := alike.length _ notRecord
    rw [absent] at lamports owned length
    have data : (right record).data = [] := List.length_eq_zero_iff.mp length
    cases here : right record
    simp only [here, Account.absent] at lamports owned data ⊢
    rw [lamports, owned, data]
  have data : (right settler).data = [] :=
    List.length_eq_zero_iff.mp (by rw [alike.length _ notSettler, empty]; rfl)
  exact ⟨_, createAccount_eq_ok.mpr ⟨flags, fresh,
    ⟨(alike.owner _ notSettler).trans payer, data, by rwa [alike.lamports _ notSettler]⟩, rfl⟩⟩

theorem lamports_of_settleEvent {before after : Ledger}
    (settled : settleEvent addresses context before fixed bump event accounts =
      .ok (after, receipt)) :
    ∃ created, Solana.createAccount context before fixed.settlerSigner accounts.callRecord
        (context.minimumBalance CallRecord.layout.size) CallRecord.layout.size programId =
          .ok created ∧
      ∀ address, (after address).lamports = (created address).lamports := by
  simp only [settleEvent, bind_eq_ok] at settled
  obtain ⟨endpoint, -, created, made, settled⟩ := settled
  have ended : settleCreated addresses context fixed bump event accounts endpoint created =
      .ok (after, receipt) := settled
  rw [← @endow_self created, settleCreated_endow, map_eq_ok] at ended
  obtain ⟨⟨ledger, receipt⟩, -, same⟩ := ended
  refine ⟨created, made, fun address => ?_⟩
  rw [← (Prod.mk.inj same).1, endow_lamports]

theorem Alike.lamports_after (alike : Alike addresses target touched left right)
    (settled : settleEvent addresses context left fixed bump event accounts = .ok (left', receipt))
    (settled' : settleEvent addresses context right fixed bump event accounts =
      .ok (right', receipt'))
    (notSettler : fixed.settlerSigner ≠ target) (address : Address) (different : address ≠ target) :
    (right' address).lamports = (left' address).lamports := by
  obtain ⟨created, made, same⟩ := lamports_of_settleEvent settled
  obtain ⟨created', made', same'⟩ := lamports_of_settleEvent settled'
  obtain ⟨-, -, -, rfl⟩ := createAccount_eq_ok.mp made
  obtain ⟨-, -, -, rfl⟩ := createAccount_eq_ok.mp made'
  rw [same, same']
  by_cases record : address = accounts.callRecord
  · subst record
    rw [Function.update_self, Function.update_self]
  · rw [Function.update_of_ne record, Function.update_of_ne record]
    by_cases settler : address = fixed.settlerSigner
    · subst settler
      rw [Function.update_self, Function.update_self, alike.lamports _ notSettler]
    · rw [Function.update_of_ne settler, Function.update_of_ne settler,
        alike.lamports _ different]

end Alike

/-! ## What an event keeps -/

section Kept

variable {addresses : Addresses} {context : Context} {fixed : FixedAccounts}
  {event : SettlementEvent} {accounts : EventAccounts} {pool pool' : CoveragePool}
  {endpoint endpoint' : EndpointConfig} {before after : Ledger} {status : SettlementStatus}
  {actual : UInt64} {receipt : Receipt} {total : Slug → Nat}
  (sound : Chain.Sound addresses ⟨before, total⟩)
include sound

theorem whole_of_sound (bound : Bound addresses before event accounts pool endpoint)
    (premium : UInt64) : (amounts (feeShares premium endpoint.recipients)).sum ≤ premium.toNat := by
  have found := bound.endpointFound
  rw [bound.endpointConfig] at found
  obtain ⟨config, treasury, configured, -, valid⟩ :=
    sound.books.fees.endpoint event.endpointSlug endpoint (sound.shaped.structOf_of_found found)
  exact sum_feeShares_le (valid.sum_le.trans (sound.books.fees.config config configured).1)

variable (effect : Effect addresses context fixed event accounts pool pool' endpoint endpoint'
  before after status actual receipt)
include effect

theorem Effect.keeps_sound (authority : fixed.settlementAuth = addresses.of .settlementAuthority) :
    Chain.Sound addresses ⟨after, chargeFees total [receipt]⟩ := by
  have advances := effect.advances total sound.shaped authority
  exact ⟨advances.shaped, Books.sound_of_steps advances.steps sound.books⟩

theorem Effect.agent_ne_vault
    (preflight : delegateOk (before accounts.agentAta).data fixed.settlementAuth
      event.premiumLamports = true) {token : TokenAccount}
    (found : tokenAt before accounts.agentAta = some token) :
    accounts.agentAta ≠ accounts.poolVault := by
  intro same
  obtain ⟨vault, held, exclusive, -⟩ := vault_of_sound sound effect.bound
  rw [← same, found, Option.some.injEq] at held
  subst held
  have tag := ((delegateOk_of_tokenAt found).mp preflight).2.1
  rw [exclusive.noDelegate] at tag
  cases tag

theorem Effect.holding_of_ne {address : Address} (other : address ≠ accounts.agentAta) :
    holding (tokenAt after) address = holding (tokenAt before) address := by
  cases effect.outcome with
  | inl failed =>
      obtain ⟨-, -, -, -, -, -, tokens, -⟩ := failed
      rw [tokens]
  | inr covered =>
      obtain ⟨-, -, -, outcome, settled⟩ := covered
      obtain ⟨vault, held, exclusive, -⟩ := vault_of_sound sound effect.bound
      obtain ⟨credited, premium, same, -⟩ := settled.holding held exclusive
      exact (same address).trans (holding_pays_of_ne premium other)

theorem Effect.backed {address : Address}
    (backed : Backed (tokenAt before) fixed.settlementAuth address) :
    Backed (tokenAt after) fixed.settlementAuth address := by
  cases effect.outcome with
  | inl failed =>
      obtain ⟨-, -, -, -, -, -, tokens, -⟩ := failed
      rwa [tokens]
  | inr covered =>
      obtain ⟨preflight, -, -, outcome, settled⟩ := covered
      obtain ⟨vault, held, exclusive, -⟩ := vault_of_sound sound effect.bound
      obtain ⟨credited, premium, -, kept⟩ := settled.holding held exclusive
      obtain ⟨token, found⟩ := premium.source_found
      obtain ⟨-, tag, delegate, -⟩ := (delegateOk_of_tokenAt found).mp preflight
      exact kept _ _ (backed_pays_of_delegate premium found tag delegate
        (effect.agent_ne_vault sound preflight found) backed)

theorem Effect.balance_le (address : Address) :
    balance (tokenAt after) address ≤ balance (tokenAt before) address +
      (event.premiumLamports.toNat + event.refundLamports.toNat) := by
  cases effect.outcome with
  | inl failed =>
      obtain ⟨-, -, -, -, -, -, tokens, -⟩ := failed
      rw [tokens]
      exact Nat.le_add_right _ _
  | inr covered =>
      obtain ⟨preflight, -, -, outcome, settled⟩ := covered
      obtain ⟨credited, -, premium, -⟩ := id settled.tokens
      obtain ⟨token, found⟩ := premium.source_found
      refine settled.balance_le (effect.agent_ne_vault sound preflight found) ?_ ?_ address
      · rw [settled.shares]
        exact whole_of_sound sound effect.bound event.premiumLamports
      · rw [settled.refund, settled.outcome_eq]
        exact (Settlement.settle_status _ _ _ _).1

omit sound in
theorem Effect.pool_le :
    pool'.ledger.premiums ≤ pool.ledger.premiums + event.premiumLamports.toNat ∧
      pool'.ledger.refunds ≤ pool.ledger.refunds + event.refundLamports.toNat := by
  cases effect.outcome with
  | inl failed =>
      obtain ⟨-, -, -, -, rfl, -⟩ := failed
      exact ⟨Nat.le_add_right _ _, Nat.le_add_right _ _⟩
  | inr covered =>
      obtain ⟨-, -, -, outcome, settled⟩ := covered
      obtain ⟨paid, -⟩ := Settlement.settle_pool pool.ledger endpoint.counters context.now.toInt
        (event.call receipt.fees)
      have bounded := (Settlement.settle_status pool.ledger endpoint.counters context.now.toInt
        (event.call receipt.fees)).1
      rw [settled.poolLedger, settled.outcome_eq, paid]
      exact ⟨Nat.le_refl _, Nat.add_le_add_left bounded _⟩

omit sound in
theorem Effect.endpoint_le (positive : 0 < event.premiumLamports.toNat) :
    endpoint'.counters.calls ≤ endpoint.counters.calls + event.premiumLamports.toNat ∧
      endpoint'.counters.breaches ≤ endpoint.counters.breaches + event.premiumLamports.toNat ∧
      endpoint'.counters.premiums ≤ endpoint.counters.premiums + event.premiumLamports.toNat ∧
      endpoint'.counters.refunds ≤ endpoint.counters.refunds + event.refundLamports.toNat ∧
      (endpoint'.counters.periodStart = endpoint.counters.periodStart ∨
        endpoint'.counters.periodStart = context.now.toInt) := by
  cases effect.outcome with
  | inl failed =>
      obtain ⟨-, -, -, -, -, rfl, -⟩ := failed
      exact ⟨Nat.le_add_right _ _, Nat.le_add_right _ _, Nat.le_add_right _ _,
        Nat.le_add_right _ _, .inl rfl⟩
  | inr covered =>
      obtain ⟨-, -, -, outcome, settled⟩ := covered
      obtain ⟨calls, breaches, premiums, start⟩ := Settlement.settle_endpoint_counts pool.ledger
        endpoint.counters context.now.toInt (event.call receipt.fees)
      have refunds := Settlement.settle_endpoint_refunds pool.ledger endpoint.counters
        context.now.toInt (event.call receipt.fees)
      have bounded := (Settlement.settle_status pool.ledger endpoint.counters context.now.toInt
        (event.call receipt.fees)).1
      have breach := Bool.toNat_le (event.call receipt.fees).breach
      rw [settled.counters, settled.outcome_eq]
      have premium : (event.call receipt.fees).premium = event.premiumLamports.toNat := rfl
      have refund : (event.call receipt.fees).refund = event.refundLamports.toNat := rfl
      exact ⟨by omega, by omega, by omega, by omega, start⟩

end Kept

/-! ## Other agents' events -/

def volume (slots : List Slot) : Nat :=
  (slots.map fun slot => slot.event.premiumLamports.toNat + slot.event.refundLamports.toNat).sum

@[simp] theorem volume_nil : volume [] = 0 := rfl

@[simp] theorem volume_cons (slot : Slot) (slots : List Slot) : volume (slot :: slots) =
    slot.event.premiumLamports.toNat + slot.event.refundLamports.toNat + volume slots := by
  simp [volume]

@[simp] theorem volume_append (front back : List Slot) :
    volume (front ++ back) = volume front + volume back := by
  simp [volume]

/-- What an event relies on to be accepted: its agent's account is open and holds what it
lets the program take, and `volume` more overflows nothing. -/
structure Steady (addresses : Addresses) (settlementAuth : Address) (ledger : Ledger)
    (volume : Nat) (slot : Slot) : Prop where
  legible : Legible ledger slot.accounts.agentAta
  backed : Backed (tokenAt ledger) settlementAuth slot.accounts.agentAta
  balances : ∀ address ∈
    slot.accounts.poolVault :: slot.accounts.agentAta :: slot.accounts.feeAtas,
    balance (tokenAt ledger) address + volume < 2 ^ 64
  pool : ∀ pool, structOf addresses ledger (.coveragePool slot.event.endpointSlug) = some pool →
    pool.ledger.premiums + volume < 2 ^ 64 ∧ pool.ledger.refunds + volume < 2 ^ 64
  endpoint : ∀ endpoint,
    structOf addresses ledger (.endpointConfig slot.event.endpointSlug) = some endpoint →
    endpoint.counters.calls + volume < 2 ^ 64 ∧ endpoint.counters.breaches + volume < 2 ^ 64 ∧
      endpoint.counters.premiums + volume < 2 ^ 64 ∧
      endpoint.counters.refunds + volume < 2 ^ 64 ∧
      endpoint.counters.periodStart + 3600 < 2 ^ 63

section Steady

variable {addresses : Addresses} {context : Context} {fixed : FixedAccounts} {bump : UInt8}
  {event : SettlementEvent} {accounts : EventAccounts} {pool pool' : CoveragePool}
  {endpoint endpoint' : EndpointConfig} {before after : Ledger} {status : SettlementStatus}
  {actual : UInt64} {receipt : Receipt} {total : Slug → Nat} {slot : Slot} {rest : Nat}

theorem Steady.keep
    (steady : Steady addresses fixed.settlementAuth before
      (event.premiumLamports.toNat + event.refundLamports.toNat + rest) slot)
    (sound : Chain.Sound addresses ⟨before, total⟩)
    (effect : Effect addresses context fixed event accounts pool pool' endpoint endpoint' before
      after status actual receipt)
    (positive : 0 < event.premiumLamports.toNat) (clock : context.now.toInt + 3600 < 2 ^ 63) :
    Steady addresses fixed.settlementAuth after rest slot where
  legible := effect.legible steady.legible
  backed := effect.backed sound steady.backed
  balances address member := by
    have room := steady.balances address member
    have grown := effect.balance_le sound address
    omega
  pool found stored := by
    rw [effect.pools sound.shaped] at stored
    split at stored
    case isTrue same =>
        cases stored
        have room := steady.pool pool (same ▸ effect.pool_before sound.shaped)
        have grown := effect.pool_le
        omega
    case isFalse =>
        have room := steady.pool found stored
        omega
  endpoint found stored := by
    rw [effect.endpoints sound.shaped] at stored
    split at stored
    case isTrue same =>
        cases stored
        have room := steady.endpoint endpoint (same ▸ effect.endpoint_before sound.shaped)
        have grown := effect.endpoint_le positive
        omega
    case isFalse =>
        have room := steady.endpoint found stored
        omega

theorem Steady.update {target : Address} {account : Account}
    (steady : Steady addresses fixed.settlementAuth before rest slot)
    (outside : Outside addresses before (Function.update before target account))
    (different : slot.accounts.agentAta ≠ target)
    (spared : target ∉ slot.accounts.poolVault :: slot.accounts.feeAtas) :
    Steady addresses fixed.settlementAuth (Function.update before target account) rest slot := by
  have tokens : ∀ address, address ≠ target →
      tokenAt (Function.update before target account) address = tokenAt before address :=
    fun address other => tokenAt_congr (Function.update_of_ne other _ _)
  have structs : ∀ pda, structOf addresses (Function.update before target account) pda =
      structOf addresses before pda := by
    intro pda
    obtain ⟨owner, data⟩ := outside.derived pda
    simp only [structOf, structAt, owner, data]
  refine ⟨?_, ?_, fun address member => ?_, fun pool found => steady.pool pool ?_,
    fun endpoint found => steady.endpoint endpoint ?_⟩
  · unfold Legible
    rw [tokens _ different, Function.update_of_ne different]
    exact steady.legible
  · have backed := steady.backed
    unfold Backed allowance balance at backed ⊢
    rwa [tokens _ different]
  · have other : address ≠ target := by
      rintro rfl
      cases List.mem_cons.mp member with
      | inl vault => exact spared (vault ▸ List.mem_cons_self)
      | inr more =>
          cases List.mem_cons.mp more with
          | inl agent => exact different agent.symm
          | inr fee => exact spared (List.mem_cons_of_mem _ fee)
    have room := steady.balances address member
    unfold balance at room ⊢
    rwa [tokens _ other]
  · rwa [structs] at found
  · rwa [structs] at found

theorem Steady.enough
    (steady : Steady addresses fixed.settlementAuth before
      (slot.event.premiumLamports.toNat + slot.event.refundLamports.toNat + rest) slot)
    (sound : Chain.Sound addresses ⟨before, total⟩)
    (bound : Bound addresses before slot.event slot.accounts pool endpoint)
    (positive : 0 < slot.event.premiumLamports.toNat)
    (preflight : delegateOk (before slot.accounts.agentAta).data fixed.settlementAuth
      slot.event.premiumLamports = true) {token : TokenAccount}
    (found : tokenAt before slot.accounts.agentAta = some token) :
    Enough slot.event slot.accounts
      (feeShares slot.event.premiumLamports endpoint.recipients) pool endpoint
      (tokenAt before) := by
  have poolFound := bound.poolFound
  have endpointFound := bound.endpointFound
  rw [bound.coveragePool] at poolFound
  rw [bound.endpointConfig] at endpointFound
  obtain ⟨poolPremiums, poolRefunds⟩ :=
    steady.pool pool (sound.shaped.structOf_of_found poolFound)
  obtain ⟨calls, breaches, premiums, refunds, period⟩ :=
    steady.endpoint endpoint (sound.shaped.structOf_of_found endpointFound)
  obtain ⟨vault, held, exclusive, covered⟩ := vault_of_sound sound bound
  have backed := steady.backed
  obtain ⟨-, tag, delegate, allowed⟩ := (delegateOk_of_tokenAt found).mp preflight
  refine ⟨?_, ⟨vault, held, exclusive, covered⟩, whole_of_sound sound bound _, ?_, by omega,
    by omega, by omega, by omega, by omega, by omega, period⟩
  · have allowance : TokenLedger.allowance (tokenAt before) slot.accounts.agentAta
        fixed.settlementAuth = token.delegatedAmount.toNat := by
      unfold TokenLedger.allowance
      rw [found]
      exact if_pos ⟨tag, delegate⟩
    unfold Backed at backed
    omega
  · intro address named
    have member : address ∈
        slot.accounts.poolVault :: slot.accounts.agentAta :: slot.accounts.feeAtas := by
      rcases named with rfl | rfl | share
      · exact List.mem_cons_self
      · exact List.mem_cons_of_mem _ List.mem_cons_self
      · refine List.mem_cons_of_mem _ (List.mem_cons_of_mem _ ?_)
        obtain ⟨share, paid, rfl⟩ := List.mem_map.mp share
        obtain ⟨recipient, listed, rfl⟩ := List.mem_map.mp (List.mem_of_mem_filter paid)
        rw [bound.feeAtas]
        exact List.mem_map_of_mem listed
    have room := steady.balances address member
    omega

end Steady

/-! ## Turns -/

/-- The two ledgers at a turn, with the batch's slots and what is left to move. -/
structure Paired (addresses : Addresses) (fixed : FixedAccounts) (target : Address)
    (touched : Slug → Prop) (slots : List Slot) (rest : Nat) (left right : Ledger) : Prop where
  alike : Alike addresses target touched left right
  leftSound : ∃ total, Chain.Sound addresses ⟨left, total⟩
  rightSound : ∃ total, Chain.Sound addresses ⟨right, total⟩
  token : (left target).owner = tokenProgram
  legible : Legible right target
  refused : ∀ slot ∈ slots, slot.accounts.agentAta = target →
    delegateOk (right target).data fixed.settlementAuth slot.event.premiumLamports = false
  steady : ∀ slot ∈ slots, slot.accounts.agentAta ≠ target →
    Steady addresses fixed.settlementAuth right rest slot

/-- How an event ends on the ledger with the changed account, next to how it ends without
the change. -/
structure Isolated (addresses : Addresses) (target : Address) (touched : Slug → Prop)
    (slot : Slot) (right right' : Ledger) (receipt receipt' : Receipt) : Prop where
  failed : slot.accounts.agentAta = target →
    receipt' = ⟨slot.event.record (addresses.bump (.callRecord slot.event.callId))
        .delegateFailed 0, []⟩ ∧ tokenAt right' = tokenAt right ∧
      ∀ pda, pda ≠ .callRecord slot.event.callId →
        structOf addresses right' pda = structOf addresses right pda
  others : slot.accounts.agentAta ≠ target →
    (receipt'.record.settlementStatus = SettlementStatus.delegateFailed.toU8 ↔
      receipt.record.settlementStatus = SettlementStatus.delegateFailed.toU8) ∧
      receipt'.fees = receipt.fees
  apart : ¬touched slot.event.endpointSlug → receipt' = receipt

section Turn

variable {addresses : Addresses} {context : Context} {fixed : FixedAccounts} {bump : UInt8}
  {target : Address} {touched : Slug → Prop} {slots : List Slot} {slot : Slot} {rest : Nat}
  {left left' right right' : Ledger} {receipt receipt' : Receipt}

theorem Paired.clear (paired : Paired addresses fixed target touched slots rest left right)
    {event : SettlementEvent} {accounts : EventAccounts} {pool pool' : CoveragePool}
    {endpoint endpoint' : EndpointConfig} {status : SettlementStatus} {actual : UInt64}
    (effect : Effect addresses context fixed event accounts pool pool' endpoint endpoint' left
      left' status actual receipt) :
    accounts.callRecord ≠ target ∧ fixed.settlerSigner ≠ target := by
  constructor
  · rintro rfl
    have token := paired.token
    rw [effect.fresh] at token
    exact systemProgram_ne_tokenProgram token
  · rintro rfl
    exact systemProgram_ne_tokenProgram (effect.payer.1.symm.trans paired.token)

theorem Paired.accepted
    (paired : Paired addresses fixed target touched slots
      (slot.event.premiumLamports.toNat + slot.event.refundLamports.toNat + rest) left right)
    (member : slot ∈ slots)
    (spared : target ∉ slot.accounts.poolVault :: slot.accounts.feeAtas)
    (positive : 0 < slot.event.premiumLamports.toNat)
    (settled : settleEvent addresses context left fixed bump slot.event slot.accounts =
      .ok (left', receipt)) :
    ∃ right' receipt', settleEvent addresses context right fixed bump slot.event slot.accounts =
      .ok (right', receipt') := by
  obtain ⟨leftTotal, leftSound⟩ := paired.leftSound
  obtain ⟨rightTotal, rightSound⟩ := paired.rightSound
  obtain ⟨pool, _, endpoint, _, _, _, effect⟩ := settleEvent_spec positive settled
  obtain ⟨notRecord, notSettler⟩ := paired.clear effect
  obtain ⟨pool', endpoint', bound', terms⟩ :=
    paired.alike.bound leftSound.shaped effect.bound notRecord
  obtain ⟨created, made, -⟩ := lamports_of_settleEvent settled
  obtain ⟨created', made'⟩ := paired.alike.createAccount made notRecord notSettler
  have accepted : ∃ result, settleEvent addresses context right fixed bump slot.event
      slot.accounts = .ok result := by
    by_cases preflight : delegateOk (right slot.accounts.agentAta).data fixed.settlementAuth
        slot.event.premiumLamports = true
    case neg => exact settleEvent_isOk bound' made' fun passes => (preflight passes).elim
    case pos =>
      have notTarget : slot.accounts.agentAta ≠ target := by
        intro same
        have refused := paired.refused slot member same
        rw [← same, preflight] at refused
        cases refused
      have steady := paired.steady slot member notTarget
      -- the first ledger's event passed too, so its accounts are ready
      have before : delegateOk (left slot.accounts.agentAta).data fixed.settlementAuth
          slot.event.premiumLamports = true := by
        rw [← preflight]
        exact delegateOk_congr steady.legible (paired.alike.length _ notTarget).symm
          (paired.alike.holding _ notTarget).symm _ _
      obtain ⟨owned, mint, ready⟩ := ready_of_settleEvent positive effect.bound before settled
      have same : ∀ address, address ≠ target → ∀ {mint}, Live (tokenAt left) mint address →
          Live (tokenAt right) mint address :=
        fun address different _ live => live.of_holding (paired.alike.holding address different)
      have ready' : Ready addresses context fixed bump slot.accounts
          (feeShares slot.event.premiumLamports endpoint'.recipients) mint (tokenAt right) := by
        rw [terms.recipients]
        refine { ready with
          vault := same _ (fun vault => spared (vault ▸ List.mem_cons_self)) ready.vault
          agent := same _ notTarget ready.agent
          shares := fun share paid => ?_ }
        obtain ⟨writable, live⟩ := ready.shares share paid
        refine ⟨writable, same _ ?_ live⟩
        obtain ⟨recipient, listed, rfl⟩ := List.mem_map.mp (List.mem_of_mem_filter paid)
        intro named
        refine spared (List.mem_cons_of_mem _ ?_)
        rw [effect.bound.feeAtas, ← named]
        exact List.mem_map_of_mem listed
      obtain ⟨token, found, -⟩ := id ready'.agent
      have poolOther : slot.accounts.coveragePool ≠ target := by
        rintro rfl
        exact programId_ne_tokenProgram (owned.1.symm.trans paired.token)
      have endpointOther : slot.accounts.endpointConfig ≠ target := by
        rintro rfl
        exact programId_ne_tokenProgram (owned.2.symm.trans paired.token)
      exact settleEvent_isOk bound' made' fun _ =>
        ⟨⟨(paired.alike.owner _ poolOther).trans owned.1,
          (paired.alike.owner _ endpointOther).trans owned.2⟩, ⟨mint, ready'⟩,
          steady.enough rightSound bound' positive preflight found⟩
  obtain ⟨⟨right', receipt'⟩, ended⟩ := accepted
  exact ⟨right', receipt', ended⟩

theorem Paired.failed
    (paired : Paired addresses fixed target touched slots rest left right)
    (member : slot ∈ slots) (charged : slot.accounts.agentAta = target)
    {pool pool' : CoveragePool} {endpoint endpoint' : EndpointConfig} {status : SettlementStatus}
    {actual : UInt64}
    (effect : Effect addresses context fixed slot.event slot.accounts pool pool' endpoint endpoint'
      right right' status actual receipt) :
    receipt = ⟨slot.event.record (addresses.bump (.callRecord slot.event.callId))
        .delegateFailed 0, []⟩ ∧ tokenAt right' = tokenAt right ∧
      ∀ pda, pda ≠ .callRecord slot.event.callId →
        structOf addresses right' pda = structOf addresses right pda := by
  obtain ⟨total, sound⟩ := paired.rightSound
  have written := effect.written
  have refused := paired.refused slot member charged
  cases effect.outcome with
  | inr covered =>
      have passes := covered.1
      rw [charged, refused] at passes
      cases passes
  | inl failed =>
      obtain ⟨-, rfl, rfl, unpaid, rfl, rfl, tokens, -⟩ := failed
      refine ⟨by rw [← written, ← unpaid], tokens, fun pda notRecord => ?_⟩
      by_cases isPool : pda = .coveragePool slot.event.endpointSlug
      · subst isPool
        rw [effect.pool_after sound.shaped, effect.pool_before sound.shaped]
      · by_cases isEndpoint : pda = .endpointConfig slot.event.endpointSlug
        · subst isEndpoint
          rw [effect.endpoint_after sound.shaped, effect.endpoint_before sound.shaped]
        · exact effect.structOf_of_ne sound.shaped notRecord isPool isEndpoint

/-- How another agent's event ends on both ledgers. -/
structure Matched (target : Address) (untouched : Prop) (left' right' : Ledger)
    (leftPool rightPool : CoveragePool) (leftEndpoint rightEndpoint : EndpointConfig)
    (receipt receipt' : Receipt) : Prop where
  failed : receipt'.record.settlementStatus = SettlementStatus.delegateFailed.toU8 ↔
    receipt.record.settlementStatus = SettlementStatus.delegateFailed.toU8
  fees : receipt'.fees = receipt.fees
  holding : ∀ address, address ≠ target →
    holding (tokenAt right') address = holding (tokenAt left') address
  apart : untouched → rightPool = leftPool ∧ rightEndpoint = leftEndpoint ∧ receipt' = receipt

theorem Settled.unique {now : Int64} {event : SettlementEvent} {accounts : EventAccounts}
    {recipients : List FeeRecipient} {pool leftPool rightPool : CoveragePool}
    {endpoint leftEndpoint rightEndpoint : EndpointConfig}
    {leftTokens leftTokens' rightTokens rightTokens' : TokenLedger}
    {status status' : SettlementStatus} {actual actual' : UInt64}
    {fees fees' : List (Address × UInt64)} {outcome outcome' : Settlement.Outcome}
    (settled : Settled now fixed event accounts recipients pool leftPool endpoint leftEndpoint
      leftTokens leftTokens' status actual fees outcome)
    (settled' : Settled now fixed event accounts recipients pool rightPool endpoint rightEndpoint
      rightTokens rightTokens' status' actual' fees' outcome') :
    rightPool = leftPool ∧ rightEndpoint = leftEndpoint ∧ status' = status ∧ actual' = actual := by
  have same : outcome' = outcome := by
    rw [settled'.outcome_eq, settled.outcome_eq, settled'.shares, settled.shares]
  refine ⟨(settled'.poolTerms.trans settled.poolTerms.symm).eq_of_ledger ?_,
    (settled'.endpointTerms.trans settled.endpointTerms.symm).eq_of_counters ?_, ?_, ?_⟩
  · rw [settled'.poolLedger, settled.poolLedger, same]
  · rw [settled'.counters, settled.counters, same]
  · have cores : status'.core = status.core := by rw [settled'.status, settled.status, same]
    cases status' <;> cases status <;> first | rfl | cases cores
  · exact UInt64.toNat_inj.mp (by rw [settled'.refund, settled.refund, same])

theorem Settled.status_ne {now : Int64} {event : SettlementEvent} {accounts : EventAccounts}
    {recipients : List FeeRecipient} {pool pool' : CoveragePool}
    {endpoint endpoint' : EndpointConfig} {tokens tokens' : TokenLedger}
    {status : SettlementStatus} {actual : UInt64} {fees : List (Address × UInt64)}
    {outcome : Settlement.Outcome} {bump : UInt8}
    (settled : Settled now fixed event accounts recipients pool pool' endpoint endpoint' tokens
      tokens' status actual fees outcome) :
    (event.record bump status actual).settlementStatus ≠
      SettlementStatus.delegateFailed.toU8 := by
  intro shown
  cases status_of_record shown
  have failed := settled.status
  rw [settled.outcome_eq] at failed
  exact (Settlement.settle_status _ _ _ _).2.1 failed.symm

theorem Paired.matched
    (paired : Paired addresses fixed target touched slots rest left right)
    (member : slot ∈ slots) (other : slot.accounts.agentAta ≠ target)
    {leftPool leftPool' rightPool rightPool' : CoveragePool}
    {leftEndpoint leftEndpoint' rightEndpoint rightEndpoint' : EndpointConfig}
    {status status' : SettlementStatus} {actual actual' : UInt64}
    (effect : Effect addresses context fixed slot.event slot.accounts leftPool leftPool'
      leftEndpoint leftEndpoint' left left' status actual receipt)
    (effect' : Effect addresses context fixed slot.event slot.accounts rightPool rightPool'
      rightEndpoint rightEndpoint' right right' status' actual' receipt')
    (terms : rightEndpoint.SameTerms leftEndpoint) :
    Matched target (rightPool = leftPool ∧ rightEndpoint = leftEndpoint) left' right' leftPool'
      rightPool' leftEndpoint' rightEndpoint' receipt receipt' := by
  obtain ⟨leftTotal, leftSound⟩ := paired.leftSound
  obtain ⟨rightTotal, rightSound⟩ := paired.rightSound
  have preflight : delegateOk (left slot.accounts.agentAta).data fixed.settlementAuth
        slot.event.premiumLamports =
      delegateOk (right slot.accounts.agentAta).data fixed.settlementAuth
        slot.event.premiumLamports :=
    delegateOk_congr (paired.steady slot member other).legible (paired.alike.length _ other).symm
      (paired.alike.holding _ other).symm _ _
  have written := effect.written
  have written' := effect'.written
  cases effect.outcome with
  | inl failed =>
      obtain ⟨fails, rfl, rfl, unpaid, rfl, rfl, tokens, -⟩ := failed
      cases effect'.outcome with
      | inr covered =>
          rw [← preflight, fails] at covered
          cases covered.1
      | inl failed' =>
          obtain ⟨-, rfl, rfl, unpaid', rfl, rfl, tokens', -⟩ := failed'
          refine ⟨by rw [written, written'], by rw [unpaid, unpaid'], fun address different => ?_,
            fun same => ⟨same.1, same.2, ?_⟩⟩
          · rw [tokens, tokens']
            exact paired.alike.holding address different
          · cases receipt
            cases receipt'
            rw [Receipt.mk.injEq]
            exact ⟨written'.trans written.symm, unpaid'.trans unpaid.symm⟩
  | inr covered =>
      obtain ⟨passes, -, -, outcome, settled⟩ := covered
      cases effect'.outcome with
      | inl failed' =>
          rw [← preflight, passes] at failed'
          cases failed'.1
      | inr covered' =>
          obtain ⟨-, -, -, outcome', settled'⟩ := covered'
          have fees : receipt'.fees = receipt.fees := by
            rw [settled'.shares, settled.shares, terms.recipients]
          refine ⟨?_, fees, fun address different => ?_, fun same => ?_⟩
          · rw [written, written']
            exact iff_of_false settled'.status_ne settled.status_ne
          · obtain ⟨vault, held, exclusive, -⟩ := vault_of_sound leftSound effect.bound
            obtain ⟨vault', held', exclusive', -⟩ := vault_of_sound rightSound effect'.bound
            obtain ⟨credited, premium, kept, -⟩ := settled.holding held exclusive
            obtain ⟨credited', premium', kept', -⟩ := settled'.holding held' exclusive'
            obtain ⟨token, found⟩ := premium.source_found
            rw [kept, kept']
            exact holding_pays_congr premium premium'
              (effect.agent_ne_vault leftSound passes found)
              (paired.alike.holding address different)
          · obtain ⟨rfl, rfl⟩ := same
            obtain ⟨pools, endpoints, rfl, rfl⟩ := settled.unique settled'
            refine ⟨pools, endpoints, ?_⟩
            cases receipt
            cases receipt'
            rw [Receipt.mk.injEq]
            exact ⟨written'.trans written.symm, fees⟩

end Turn

section Run

variable {addresses : Addresses} {context : Context} {fixed : FixedAccounts} {bump : UInt8}
  {target : Address} {touched : Slug → Prop} {slots : List Slot} {slot : Slot} {rest : Nat}
  {left left' right right' : Ledger} {receipt receipt' : Receipt}

theorem Paired.step
    (paired : Paired addresses fixed target touched slots
      (slot.event.premiumLamports.toNat + slot.event.refundLamports.toNat + rest) left right)
    (member : slot ∈ slots)
    (spared : target ∉ slot.accounts.poolVault :: slot.accounts.feeAtas)
    (touches : slot.accounts.agentAta = target → touched slot.event.endpointSlug)
    (authority : fixed.settlementAuth = addresses.of .settlementAuthority)
    (clock : context.now.toInt + 3600 < 2 ^ 63)
    (positive : 0 < slot.event.premiumLamports.toNat)
    (settled : settleEvent addresses context left fixed bump slot.event slot.accounts =
      .ok (left', receipt)) :
    ∃ right' receipt', settleEvent addresses context right fixed bump slot.event slot.accounts =
        .ok (right', receipt') ∧
      Isolated addresses target touched slot right right' receipt receipt' ∧
      Paired addresses fixed target touched slots rest left' right' := by
  obtain ⟨right', receipt', settled'⟩ := paired.accepted member spared positive settled
  obtain ⟨leftTotal, leftSound⟩ := paired.leftSound
  obtain ⟨rightTotal, rightSound⟩ := paired.rightSound
  obtain ⟨leftPool, leftPool', leftEndpoint, leftEndpoint', _, _, effect⟩ :=
    settleEvent_spec positive settled
  obtain ⟨rightPool, rightPool', rightEndpoint, rightEndpoint', _, _, effect'⟩ :=
    settleEvent_spec positive settled'
  obtain ⟨notRecord, notSettler⟩ := paired.clear effect
  -- what the structs of the event share
  obtain ⟨pool, poolFound, poolTerms, poolSame⟩ :=
    paired.alike.pool _ leftPool (effect.pool_before leftSound.shaped)
  obtain rfl := Option.some.inj ((effect'.pool_before rightSound.shaped).symm.trans poolFound)
  obtain ⟨endpoint, endpointFound, endpointTerms, endpointSame⟩ :=
    paired.alike.endpoint _ leftEndpoint (effect.endpoint_before leftSound.shaped)
  obtain rfl :=
    Option.some.inj ((effect'.endpoint_before rightSound.shaped).symm.trans endpointFound)
  have ends : Isolated addresses target touched slot right right' receipt receipt' ∧
      (∀ address, address ≠ target →
        holding (tokenAt right') address = holding (tokenAt left') address) ∧
      (¬touched slot.event.endpointSlug → rightPool' = leftPool' ∧
        rightEndpoint' = leftEndpoint') ∧
      holding (tokenAt right') target = holding (tokenAt right) target := by
    by_cases charged : slot.accounts.agentAta = target
    case pos =>
      have failed := paired.failed member charged effect'
      refine ⟨⟨fun _ => failed, fun other => absurd charged other,
        fun apart => absurd (touches charged) apart⟩, fun address different => ?_,
        fun apart => absurd (touches charged) apart, by rw [failed.2.1]⟩
      rw [failed.2.1, effect.holding_of_ne leftSound (charged ▸ different)]
      exact paired.alike.holding address different
    case neg =>
      have matched := paired.matched member charged effect effect' endpointTerms
      have same : ¬touched slot.event.endpointSlug →
          rightPool = leftPool ∧ rightEndpoint = leftEndpoint :=
        fun apart => ⟨poolSame apart, endpointSame apart⟩
      exact ⟨⟨fun named => absurd named charged, fun _ => ⟨matched.failed, matched.fees⟩,
        fun apart => (matched.apart (same apart)).2.2⟩, matched.holding,
        fun apart => ⟨(matched.apart (same apart)).1, (matched.apart (same apart)).2.1⟩,
        effect'.holding_of_ne rightSound (Ne.symm charged)⟩
  obtain ⟨isolated, holding, structs, kept⟩ := ends
  refine ⟨right', receipt', settled', isolated, ?_⟩
  have record : (right' slot.accounts.callRecord).owner = (left' slot.accounts.callRecord).owner ∧
      (right' slot.accounts.callRecord).data.length =
        (left' slot.accounts.callRecord).data.length := by
    rw [effect.record, effect'.record, CallRecord.layout.length_encode,
      CallRecord.layout.length_encode]
    exact ⟨rfl, rfl⟩
  exact {
    alike := {
      lamports := paired.alike.lamports_after settled settled' notSettler
      owner := fun address different => by
        by_cases same : address = slot.accounts.callRecord
        · rw [same]
          exact record.1
        · rw [effect.owner _ same, effect'.owner _ same, paired.alike.owner _ different]
      length := fun address different => by
        by_cases same : address = slot.accounts.callRecord
        · rw [same]
          exact record.2
        · rw [effect.length _ same, effect'.length _ same, paired.alike.length _ different]
      holding := holding
      pool := fun slug pool found => by
        rw [effect.pools leftSound.shaped] at found
        rw [effect'.pools rightSound.shaped]
        split at found
        case isTrue same =>
            cases found
            rw [if_pos same]
            exact ⟨_, rfl, effect'.poolTerms.trans (poolTerms.trans effect.poolTerms.symm),
              fun apart => (structs (same ▸ apart)).1⟩
        case isFalse other =>
            rw [if_neg other]
            exact paired.alike.pool slug pool found
      endpoint := fun slug endpoint found => by
        rw [effect.endpoints leftSound.shaped] at found
        rw [effect'.endpoints rightSound.shaped]
        split at found
        case isTrue same =>
            cases found
            rw [if_pos same]
            exact ⟨_, rfl,
              effect'.endpointTerms.trans (endpointTerms.trans effect.endpointTerms.symm),
              fun apart => (structs (same ▸ apart)).2⟩
        case isFalse other =>
            rw [if_neg other]
            exact paired.alike.endpoint slug endpoint found }
    leftSound := ⟨_, effect.keeps_sound leftSound authority⟩
    rightSound := ⟨_, effect'.keeps_sound rightSound authority⟩
    token := (effect.owner _ (Ne.symm notRecord)).trans paired.token
    legible := effect'.legible paired.legible
    refused := fun other inside charged => by
      rw [delegateOk_congr paired.legible (effect'.length _ (Ne.symm notRecord)) kept]
      exact paired.refused other inside charged
    steady := fun other inside different =>
      (paired.steady other inside different).keep rightSound effect' positive clock }

theorem Paired.run {front : List Slot} {sofar sofar' : List Receipt} {later : Ledger × List Receipt}
    (paired : Paired addresses fixed target touched slots (volume front + rest) left right)
    (members : ∀ slot ∈ front, slot ∈ slots)
    (spared : ∀ slot ∈ slots, target ∉ slot.accounts.poolVault :: slot.accounts.feeAtas)
    (touches : ∀ slot ∈ slots, slot.accounts.agentAta = target → touched slot.event.endpointSlug)
    (authority : fixed.settlementAuth = addresses.of .settlementAuthority)
    (clock : context.now.toInt + 3600 < 2 ^ 63)
    (accepted : front.foldlM (settleSlot addresses context fixed bump) (left, sofar) =
      .ok later) :
    ∃ later', front.foldlM (settleSlot addresses context fixed bump) (right, sofar') =
        .ok later' ∧
      Paired addresses fixed target touched slots rest later.1 later'.1 := by
  induction front generalizing left right sofar sofar' with
  | nil =>
      cases accepted
      refine ⟨(right, sofar'), rfl, ?_⟩
      rw [volume_nil, Nat.zero_add] at paired
      exact paired
  | cons slot front ih =>
      obtain ⟨middle, first, more⟩ := foldlM_cons_eq_ok.mp accepted
      simp only [settleSlot, bind_eq_ok, Prod.exists, Except.ok.injEq] at first
      obtain ⟨_, checked, left', receipt, settled, rfl⟩ := first
      have member := members slot List.mem_cons_self
      rw [volume_cons, Nat.add_assoc] at paired
      obtain ⟨right', receipt', settled', -, next⟩ := paired.step member (spared slot member)
        (touches slot member) authority clock (premium_pos checked) settled
      obtain ⟨later', finished, last⟩ :=
        ih next (fun other inside => members other (List.mem_cons_of_mem _ inside)) more
      refine ⟨later', foldlM_cons_eq_ok.mpr ⟨_, ?_, finished⟩, last⟩
      rw [settleSlot, checked, ok_bind, settled', ok_bind]

end Run

/-! ## Isolation -/

/-- The states of a token account that the pre-flight refuses: frozen, revoked, delegated to
somebody else or short of allowance. -/
theorem delegateOk_eq_false {ledger : Ledger} {address settlementAuth : Address}
    {token : TokenAccount} {premium : UInt64} (found : tokenAt ledger address = some token) :
    delegateOk (ledger address).data settlementAuth premium = false ↔
      token.state = 2 ∨ token.delegateTag ≠ 1 ∨ token.delegate ≠ settlementAuth ∨
        token.delegatedAmount.toNat < premium.toNat := by
  have states := (tokenAt_eq_some.mp found).2.2.1
  have thawed : token.state ≠ 1 ↔ token.state = 2 := by
    cases states with
    | inl open' => simp [open']
    | inr frozen => simp [frozen]
  rw [← Bool.not_eq_true, delegateOk_of_tokenAt found, ← thawed]
  simp only [not_and_or, Nat.not_le, ne_eq]

/-- A state of an agent's account in which the pre-flight of every event charged to it
fails. -/
structure Refused (addresses : Addresses) (fixed : FixedAccounts) (slots : List Slot)
    (ledger : Ledger) (target : Address) (account : Account) : Prop where
  token : (ledger target).owner = tokenProgram
  outside : Outside addresses ledger (Function.update ledger target account)
  legible : Legible (Function.update ledger target account) target
  spared : ∀ slot ∈ slots, target ∉ slot.accounts.poolVault :: slot.accounts.feeAtas
  refused : ∀ slot ∈ slots, slot.accounts.agentAta = target →
    delegateOk account.data fixed.settlementAuth slot.event.premiumLamports = false

def Touched (slots : List Slot) (target : Address) (slug : Slug) : Prop :=
  ∃ slot ∈ slots, slot.accounts.agentAta = target ∧ slot.event.endpointSlug = slug

/-- The batch is accepted on the changed ledger, and its turns end there as `Isolated` tells
next to the turns on the ledger without the change. -/
def RunsApart (addresses : Addresses) (context : Context) (fixed : FixedAccounts)
    (slots : List Slot) (target : Address) (ledger changed : Ledger) : Prop :=
  (∃ result, settleBatch addresses context fixed slots changed = .ok result) ∧
    ∀ front slot back, slots = front ++ slot :: back →
      ∃ left left' sofar receipt right right' sofar' receipt',
        settleBatch addresses context fixed front ledger = .ok (left, sofar) ∧
        settleBatch addresses context fixed (front ++ [slot]) ledger =
          .ok (left', sofar ++ [receipt]) ∧
        settleBatch addresses context fixed front changed = .ok (right, sofar') ∧
        settleBatch addresses context fixed (front ++ [slot]) changed =
          .ok (right', sofar' ++ [receipt']) ∧
        Isolated addresses target (Touched slots target) slot right right' receipt receipt'

/-- A batch is accepted whatever refused state an agent has put its account in: its own
events fail and move nothing, and nobody else's is charged or paid fees differently. -/
theorem agent_isolated {addresses : Addresses} {context : Context} {fixed : FixedAccounts}
    {slots : List Slot} {chain : Chain} {after : Ledger} {receipts : List Receipt}
    {target : Address} {account : Account} (reached : Chain.Reached addresses chain)
    (small : slots.length ≤ 50)
    (accepted : settleBatch addresses context fixed slots chain.ledger = .ok (after, receipts))
    (refused : Refused addresses fixed slots chain.ledger target account)
    (steady : ∀ slot ∈ slots, slot.accounts.agentAta ≠ target →
      Steady addresses fixed.settlementAuth chain.ledger (volume slots) slot)
    (clock : context.now.toInt + 3600 < 2 ^ 63) :
    RunsApart addresses context fixed slots target chain.ledger
      (Function.update chain.ledger target account) := by
  let changed := Function.update chain.ledger target account
  rw [settleBatch_eq small, bind_eq_ok] at accepted
  obtain ⟨bump, checked, loop⟩ := accepted
  obtain ⟨config, ⟨authority, -⟩, -⟩ := checkFixed_spec checked
  have sound := reached.sound
  have other : ∀ pda, addresses.of pda ≠ target := by
    rintro pda rfl
    exact sound.shaped.foreign pda refused.token
  have checked' : checkFixed addresses context changed fixed = .ok bump := by
    rw [← checked]
    refine checkFixed_congr (Function.update_of_ne ?_ _ _) (Function.update_of_ne ?_ _ _)
    · rw [config.1]
      exact other _
    · rw [authority]
      exact other _
  have changedReached : Chain.Reached addresses ⟨changed, chain.fees⟩ :=
    reached.next (.outside refused.outside)
  have paired : Paired addresses fixed target (Touched slots target) slots (volume slots + 0)
      chain.ledger changed := {
    alike := .start refused.outside
    leftSound := ⟨chain.fees, sound⟩
    rightSound := ⟨chain.fees, changedReached.sound⟩
    token := refused.token
    legible := refused.legible
    refused := fun slot member charged => by
      rw [show changed target = account from Function.update_self _ _ _]
      exact refused.refused slot member charged
    steady := fun slot member different => (steady slot member different).update refused.outside
      different (refused.spared slot member) }
  have touches : ∀ slot ∈ slots, slot.accounts.agentAta = target →
      Touched slots target slot.event.endpointSlug :=
    fun slot member charged => ⟨slot, member, charged, rfl⟩
  refine ⟨?_, ?_⟩
  case refine_1 =>
      obtain ⟨later, finished, -⟩ := paired.run (fun slot member => member) refused.spared touches
        authority clock loop
      exact ⟨later, by rw [settleBatch_eq small, checked', ok_bind, finished]⟩
  case refine_2 =>
      rintro front slot back rfl
      have member : slot ∈ front ++ slot :: back :=
        List.mem_append_right _ List.mem_cons_self
      have inside : ∀ earlier ∈ front, earlier ∈ front ++ slot :: back :=
        fun earlier named => List.mem_append_left _ named
      rw [List.length_append, List.length_cons] at small
      rw [Nat.add_zero, volume_append, volume_cons] at paired
      obtain ⟨⟨left, sofar⟩, first, more⟩ := foldlM_append_eq_ok.mp loop
      obtain ⟨middle, turn, -⟩ := foldlM_cons_eq_ok.mp more
      obtain ⟨⟨right, sofar'⟩, first', paired'⟩ :=
        paired.run inside refused.spared touches authority clock first
      simp only [settleSlot, bind_eq_ok, Prod.exists, Except.ok.injEq] at turn
      obtain ⟨_, event, left', receipt, settled, rfl⟩ := turn
      obtain ⟨right', receipt', settled', isolated, -⟩ := paired'.step member
        (refused.spared slot member) (touches slot member) authority clock (premium_pos event)
        settled
      have batch : ∀ {ledger start finish : Ledger} {before : List Receipt} {receipt : Receipt},
          checkFixed addresses context ledger fixed = .ok bump →
          front.foldlM (settleSlot addresses context fixed bump) (ledger, []) =
            .ok (start, before) →
          settleEvent addresses context start fixed bump slot.event slot.accounts =
            .ok (finish, receipt) →
          settleBatch addresses context fixed front ledger = .ok (start, before) ∧
            settleBatch addresses context fixed (front ++ [slot]) ledger =
              .ok (finish, before ++ [receipt]) := by
        intro ledger start finish before receipt header loop ended
        rw [settleBatch_eq (by omega), settleBatch_eq (by simp; omega), header, ok_bind, ok_bind]
        refine ⟨loop, foldlM_append_eq_ok.mpr ⟨_, loop, foldlM_cons_eq_ok.mpr ⟨_, ?_, rfl⟩⟩⟩
        rw [settleSlot, event, ok_bind, ended, ok_bind]
      obtain ⟨reachedLeft, turnLeft⟩ := batch checked first settled
      obtain ⟨reachedRight, turnRight⟩ := batch checked' first' settled'
      exact ⟨left, left', sofar, receipt, right, right', sofar', receipt', reachedLeft, turnLeft,
        reachedRight, turnRight, isolated⟩

end SettleBatch

/-! ## A revoked approval -/

namespace IsolationDemo

open SettleBatch
open SettleBatch.Demo (addresses context fixed named slot slug settler token tokenAccount)

def otherAta : Address := named 32 7

def chain : Chain where
  ledger := Function.update V1.Demo.funded.ledger otherAta
    (tokenAccount (token (named 32 8) 5000 5000))
  fees := V1.Demo.funded.fees

def otherSlot : Slot where
  event := { SettleBatch.Demo.event 2 1000 2000 with agentOwner := named 32 8 }
  accounts := { (slot 2 1000 2000).accounts with agentAta := otherAta }
  fits := rfl

def slots : List Slot := [slot 1 1000 0, otherSlot]

def revoked : TokenAccount := token settler 5000 0

def changed : Ledger :=
  Function.update chain.ledger SettleBatch.Demo.agentAta (tokenAccount revoked)

theorem unopened : tokenAt V1.Demo.funded.ledger otherAta = none := by decide +kernel

theorem agent_opened : ∃ token, tokenAt chain.ledger SettleBatch.Demo.agentAta = some token ∧
    token.owner = settler := by
  have opened : (tokenAt chain.ledger SettleBatch.Demo.agentAta).map TokenAccount.owner =
      some settler := by decide +kernel
  exact Option.map_eq_some_iff.mp opened

theorem revoked_found : tokenAt changed SettleBatch.Demo.agentAta = some revoked := by
  decide +kernel

theorem outside_update {ledger : Ledger} {address : Address} {account : Account}
    (keyed : ∀ pda, addresses.of pda ≠ address)
    (owned : ∀ token pda, tokenAt ledger address = some token →
      ¬token.Exclusive (addresses.of pda)) :
    Outside addresses ledger (Function.update ledger address account) where
  derived pda := by
    rw [Function.update_of_ne (keyed pda)]
    exact ⟨rfl, rfl⟩
  tokens other token pda found exclusive := by
    have apart : other ≠ address := by
      rintro rfl
      exact owned token pda found exclusive
    refine ⟨token, ?_, exclusive, Nat.le_refl _⟩
    rw [← found]
    exact tokenAt_congr (Function.update_of_ne apart _ _)

theorem chain_reached : Chain.Reached addresses chain := by
  refine V1.Demo.funded_reached.next (.outside (outside_update ?_ ?_))
  · exact fun pda => V1.Demo.derived_ne (by decide) pda
  · intro token pda found
    rw [unopened] at found
    cases found

theorem refused : Refused addresses fixed slots chain.ledger SettleBatch.Demo.agentAta
    (tokenAccount revoked) where
  token := by decide +kernel
  outside := by
    refine outside_update (fun pda => V1.Demo.derived_ne (by decide) pda) ?_
    intro token pda found exclusive
    obtain ⟨opened, same, owner⟩ := agent_opened
    cases found.symm.trans same
    exact V1.Demo.derived_ne (by decide) pda (exclusive.owner.symm.trans owner)
  legible := .inr (Option.isSome_iff_exists.mpr ⟨revoked, revoked_found⟩)
  spared := by decide
  refused event _ _ := (delegateOk_eq_false revoked_found).mpr (.inr (.inl (by decide)))

theorem steady : Steady addresses fixed.settlementAuth chain.ledger (volume slots) otherSlot := by
  have structs : (structOf addresses chain.ledger (.coveragePool slug)).map CoveragePool.ledger =
        some ⟨500, 0, 0, 500⟩ ∧
      (structOf addresses chain.ledger (.endpointConfig slug)).map EndpointConfig.counters =
        some ⟨2000, 100, 0, 0, 0, 0, 0⟩ := by
    decide +kernel
  obtain ⟨pool, poolFound, pools⟩ := Option.map_eq_some_iff.mp structs.1
  obtain ⟨endpoint, endpointFound, counters⟩ := Option.map_eq_some_iff.mp structs.2
  have opened : tokenAt chain.ledger otherAta = some (token (named 32 8) 5000 5000) := by
    decide +kernel
  have total : volume slots = 4000 := by decide +kernel
  have vault : (tokenAt chain.ledger SettleBatch.Demo.vault).map TokenAccount.amount =
      some 500 := by decide +kernel
  have treasury : (tokenAt chain.ledger SettleBatch.Demo.treasuryVault).map TokenAccount.amount =
      some 0 := by decide +kernel
  have balances : ∀ {address : Address} {amount : UInt64},
      (tokenAt chain.ledger address).map TokenAccount.amount = some amount →
      balance (tokenAt chain.ledger) address = amount.toNat := by
    intro address amount shown
    obtain ⟨token, found, rfl⟩ := Option.map_eq_some_iff.mp shown
    rw [balance, found]
  refine ⟨.inr (Option.isSome_iff_exists.mpr ⟨_, opened⟩), ?_, fun address member => ?_,
    fun stored found => ?_, fun stored found => ?_⟩
  · have allowed : (token (named 32 8) 5000 5000).allowance fixed.settlementAuth ≤
        (token (named 32 8) 5000 5000).amount.toNat := TokenAccount.allowance_le _ _
    have held : allowance (tokenAt chain.ledger) otherAta fixed.settlementAuth ≤
        balance (tokenAt chain.ledger) otherAta := by
      unfold allowance balance
      rw [opened]
      exact allowed
    exact held
  · rw [total]
    rcases List.mem_cons.mp member with rfl | member
    · rw [show balance (tokenAt chain.ledger) otherSlot.accounts.poolVault = _ from balances vault]
      decide
    rcases List.mem_pair.mp member with rfl | rfl
    · rw [show balance (tokenAt chain.ledger) otherSlot.accounts.agentAta = _ from
        balances (congrArg (Option.map TokenAccount.amount) opened)]
      decide
    · rw [balances treasury]
      decide
  · cases found.symm.trans poolFound
    rw [pools, total]
    decide
  · cases found.symm.trans endpointFound
    rw [counters, total]
    decide

/-- The first agent revokes its approval before a batch with calls of both. -/
theorem agent_isolated_revoked :
    RunsApart addresses context fixed slots SettleBatch.Demo.agentAta chain.ledger changed := by
  have accepted : accepts (settleBatch addresses context fixed slots chain.ledger) := by
    decide +kernel
  obtain ⟨⟨after, receipts⟩, batch⟩ := accepted
  refine agent_isolated chain_reached (by decide) batch refused ?_ (by decide)
  intro slot member other
  cases List.mem_pair.mp member with
  | inl first =>
      subst first
      exact absurd rfl other
  | inr second =>
      subst second
      exact steady

/-- The two events share a pool: without the first premium the second refund is not paid. -/
example :
    ((settleBatch addresses context fixed slots chain.ledger).toOption.map fun result =>
        result.2.map fun receipt => receipt.record.actualRefundLamports) = some [0, 2000] ∧
      ((settleBatch addresses context fixed slots changed).toOption.map fun result =>
        result.2.map fun receipt => receipt.record.actualRefundLamports) = some [0, 0] := by
  decide +kernel

end IsolationDemo

end PactNetwork.V1
