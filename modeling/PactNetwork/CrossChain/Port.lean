import PactNetwork.Evm.Acceptance
import PactNetwork.V1.DoubleEntry
import PactNetwork.V1.Isolation

/-!
# The EVM contracts follow the Solana program

A deployment of the contracts whose accounts, endpoints and pools stand for those of the
program accepts every batch that the program accepts, settles each event alike, and stands
for the program's accounts again afterwards.
-/

set_option autoImplicit false

namespace PactNetwork.Port

open Solana Solana.TokenLedger

/-! ## Tokens on the EVM side -/

section Evm

variable {τ : Type} {usdc : Evm.Erc20 τ} {deployment : Evm.Deployment} {account : Evm.Address}

theorem balance_payAll {token after : τ} {payouts : List (Evm.Address × UInt64)}
    (other : account ≠ deployment.pool)
    (paid : Evm.payAll usdc deployment token payouts = some after) :
    usdc.balanceOf after account = usdc.balanceOf token account + received payouts account := by
  induction payouts generalizing token with
  | nil =>
      cases paid
      rfl
  | cons payout rest ih =>
      obtain ⟨middle, moved, moves⟩ := Option.bind_eq_some_iff.mp paid
      have one := Evm.Erc20.balance_transfer moved account
      have later := ih moves
      rw [if_neg other] at one
      simp only [received, List.map_cons, List.sum_cons] at later ⊢
      omega

theorem balance_settled {before after : Evm.World τ} {timestamp : UInt64}
    {event : Evm.SettlementEvent} {config : Evm.EndpointConfig} {receipt : Evm.Receipt}
    {outcome : Settlement.Outcome} (other : account ≠ deployment.pool)
    (settled : Evm.Settled usdc deployment before after timestamp event config receipt outcome) :
    usdc.balanceOf after.token account = usdc.balanceOf before.token account +
      received receipt.fees account + (if account = event.agent then outcome.refund else 0) := by
  obtain ⟨middle, paid, refunded⟩ := settled.token
  have spread := balance_payAll other paid
  cases refunded with
  | inl nothing =>
      obtain ⟨none_, same⟩ := nothing
      have zero : outcome.refund = 0 := by
        rw [← settled.refund, none_]
        rfl
      rw [same, spread, zero]
      split <;> rfl
  | inr moved =>
      have last := Evm.Erc20.balance_transfer moved account
      rw [if_neg other, settled.refund] at last
      omega

end Evm

/-! ## Tokens on the Solana side -/

section V1

open V1 V1.SettleBatch

variable {now : Int64} {fixed : FixedAccounts} {event : V1.SettlementEvent}
  {accounts : EventAccounts} {recipients : List V1.FeeRecipient} {pool pool' : CoveragePool}
  {endpoint endpoint' : V1.EndpointConfig} {tokens tokens' : TokenLedger}
  {status : SettlementStatus} {actual : UInt64} {fees : List (Solana.Address × UInt64)}
  {outcome : Settlement.Outcome}

theorem balance_user {address : Solana.Address} (other : address ≠ accounts.poolVault)
    (settled : V1.SettleBatch.Settled now fixed event accounts recipients pool pool' endpoint
      endpoint' tokens tokens' status actual fees outcome) :
    balance tokens' address +
        (if address = accounts.agentAta then event.premiumLamports.toNat else 0) =
      balance tokens address + received fees address +
        (if address = accounts.agentAta then outcome.refund else 0) := by
  have moved := settled.balanced address
  rw [if_neg other, if_neg other, settled.refund] at moved
  omega

theorem delegateOk_iff_drawable {ledger : Ledger} {address settlementAuth : Solana.Address}
    {token : TokenAccount} {premium : UInt64} (found : tokenAt ledger address = some token)
    (positive : 0 < premium.toNat) :
    delegateOk (ledger address).data settlementAuth premium = true ↔
      premium.toNat ≤ drawable (tokenAt ledger) address settlementAuth := by
  rw [delegateOk_of_tokenAt found]
  simp only [drawable, found, TokenAccount.allowance]
  constructor
  · intro passed
    obtain ⟨thawed, tag, delegate, allowed⟩ := passed
    simpa only [thawed, tag, delegate, and_self, if_true] using allowed
  · intro enough
    split at enough
    case isFalse => omega
    case isTrue thawed =>
      split at enough
      case isFalse => omega
      case isTrue delegated => exact ⟨thawed, delegated.1, delegated.2, enough⟩

theorem drawable_lt {ledger : Ledger} {address settlementAuth : Solana.Address}
    {premium : UInt64} (positive : 0 < premium.toNat)
    (refused : delegateOk (ledger address).data settlementAuth premium = false) :
    drawable (tokenAt ledger) address settlementAuth < premium.toNat := by
  cases found : tokenAt ledger address with
  | none =>
      simp only [drawable, found]
      exact positive
  | some token =>
      refine Nat.lt_of_not_le fun enough => ?_
      rw [(delegateOk_iff_drawable found positive).mpr enough] at refused
      cases refused

end V1

/-! ## Two deployments -/

/-- The token accounts, endpoints and calls that a deployment of the contracts takes over,
and the address that each token account has there. -/
structure Naming (deployment : Evm.Deployment) where
  users : Set Solana.Address
  slugs : Set V1.Slug
  callIds : Set V1.CallId
  account : Solana.Address → Evm.Address
  /-- Who sends the batches there. -/
  sender : Evm.Address
  injective : Set.InjOn account users
  live : ∀ user ∈ users, account user ≠ Evm.zeroAddress
  notPool : ∀ user ∈ users, account user ≠ deployment.pool

section Related

variable {deployment : Evm.Deployment} (naming : Naming deployment)

/-- An endpoint of the program and its copy on the other chain. -/
structure SameEndpoint (endpoint : V1.EndpointConfig) (config : Evm.EndpointConfig) : Prop where
  counters : config.counters = endpoint.counters
  paused : config.paused = true ↔ endpoint.paused ≠ 0
  count : config.feeRecipientCount = endpoint.feeRecipientCount
  recipients : (config.recipients.map fun recipient => (recipient.destination, recipient.bps)) =
    endpoint.recipients.map fun recipient =>
      (naming.account recipient.destination, recipient.bps)

/-- The contracts hold for the accounts, endpoints and calls of `naming` what the program
holds for them. Delegations to the settlement authority are approvals of the settler. -/
structure Related (addresses : V1.Addresses) {τ : Type} (usdc : Evm.Erc20 τ) (ledger : Ledger)
    (world : Evm.World τ) : Prop where
  wired : Evm.Wired deployment world
  role : world.settler.settlerRole naming.sender = true
  sound : ∃ fees, Evm.Sound usdc deployment ⟨world, fees⟩
  protocol : ∀ config, V1.structOf addresses ledger .protocolConfig = some config →
    (world.registry.protocolPaused = true ↔ config.paused ≠ 0)
  registered : ∀ slug ∈ naming.slugs, world.registry.registered slug = true
  pool : ∀ slug ∈ naming.slugs, ∀ pool,
    V1.structOf addresses ledger (.coveragePool slug) = some pool →
      (world.pool.pools slug).ledger = pool.ledger ∧ pool.usdcVault ∉ naming.users
  endpoint : ∀ slug ∈ naming.slugs, ∀ endpoint,
    V1.structOf addresses ledger (.endpointConfig slug) = some endpoint →
      SameEndpoint naming endpoint (world.registry.endpoints slug)
  unsettled : ∀ callId ∈ naming.callIds,
    (ledger (addresses.of (.callRecord callId))).data = [] →
      world.settler.settledCallIds callId = false
  balance : ∀ user ∈ naming.users, usdc.balanceOf world.token (naming.account user) =
    balance (tokenAt ledger) user
  allowance : ∀ user ∈ naming.users,
    usdc.allowance world.token (naming.account user) deployment.settler =
      drawable (tokenAt ledger) user (addresses.of .settlementAuthority)

/-- A slot that names accounts, endpoints and calls of `naming` only. -/
structure Named (slot : V1.SettleBatch.Slot) : Prop where
  slug : slot.event.endpointSlug ∈ naming.slugs
  callId : slot.event.callId ∈ naming.callIds
  agent : slot.accounts.agentAta ∈ naming.users
  fees : ∀ ata ∈ slot.accounts.feeAtas, ata ∈ naming.users

/-- The event of a slot as the settler sends it to the contracts. -/
def onEvm (slot : V1.SettleBatch.Slot) : Evm.SettlementEvent where
  callId := slot.event.callId
  agent := naming.account slot.accounts.agentAta
  endpointSlug := slot.event.endpointSlug
  premium := slot.event.premiumLamports
  refund := slot.event.refundLamports
  latencyMs := slot.event.latencyMs
  breach := slot.event.breach != 0
  feeRecipientCountHint := slot.event.feeCountHint
  timestamp := UInt64.ofNat slot.event.timestamp.toInt.toNat

structure SameReceipt (receipt : V1.Receipt) (receipt' : Evm.Receipt) : Prop where
  callId : receipt'.log.callId = receipt.record.callId
  slug : receipt'.log.slug = receipt.record.endpointSlug
  premium : receipt'.log.premium = receipt.record.premiumLamports
  status : ∃ status : V1.SettlementStatus,
    receipt.record.settlementStatus = status.toU8 ∧ receipt'.log.status = status.core
  refund : receipt'.log.actualRefund = receipt.record.actualRefundLamports
  fees : receipt'.fees =
    receipt.fees.map fun payout => (naming.account payout.1, payout.2)

end Related

/-! ## Fees -/

section Fees

variable {deployment : Evm.Deployment} {naming : Naming deployment}
  {endpoint : V1.EndpointConfig} {config : Evm.EndpointConfig}

theorem feeShares_eq (same : SameEndpoint naming endpoint config) (premium : UInt64) :
    Evm.feeShares premium config.recipients =
      (V1.SettleBatch.feeShares premium endpoint.recipients).map
        fun payout => (naming.account payout.1, payout.2) := by
  have shares : ∀ (copies : List Evm.FeeRecipient) (recipients : List V1.FeeRecipient),
      (copies.map fun recipient => (recipient.destination, recipient.bps)) =
        (recipients.map fun recipient => (naming.account recipient.destination, recipient.bps)) →
      Evm.feeShares premium copies = (V1.SettleBatch.feeShares premium recipients).map
        fun payout => (naming.account payout.1, payout.2) := by
    intro copies
    induction copies with
    | nil =>
        intro recipients equal
        cases recipients with
        | nil => rfl
        | cons recipient rest => cases equal
    | cons copy copies ih =>
        intro recipients equal
        cases recipients with
        | nil => cases equal
        | cons recipient rest =>
            simp only [List.map_cons, List.cons.injEq, Prod.mk.injEq] at equal
            obtain ⟨⟨destination, bps⟩, later⟩ := equal
            have amount : Evm.PactSettler.feeAmount premium copy.bps =
                V1.SettleBatch.feeAmount premium recipient.bps := by
              rw [bps]
              rfl
            have tail := ih rest later
            by_cases empty : V1.SettleBatch.feeAmount premium recipient.bps = 0
            · rw [V1.SettleBatch.feeShares_of_zero empty, ← tail]
              simp [Evm.feeShares, amount, empty]
            · rw [V1.SettleBatch.feeShares_of_ne empty, List.map_cons, ← tail]
              simp [Evm.feeShares, amount, empty, destination]
  exact shares _ _ same.recipients

theorem amounts_map (payouts : List (Solana.Address × UInt64)) :
    Evm.amounts (payouts.map fun payout => (naming.account payout.1, payout.2)) =
      V1.amounts payouts := by
  simp [Evm.amounts, V1.amounts, Function.comp_def]

theorem targets_live (same : SameEndpoint naming endpoint config)
    (inside : ∀ ata ∈ endpoint.recipients.map V1.FeeRecipient.destination, ata ∈ naming.users) :
    ∀ recipient ∈ config.recipients, recipient.destination ≠ Evm.zeroAddress := by
  intro recipient member
  have listed : (recipient.destination, recipient.bps) ∈
      config.recipients.map fun recipient => (recipient.destination, recipient.bps) :=
    List.mem_map_of_mem member
  rw [same.recipients] at listed
  obtain ⟨original, found, equal⟩ := List.mem_map.mp listed
  have destination := congrArg Prod.fst equal
  dsimp only at destination
  rw [← destination]
  exact naming.live _ (inside _ (List.mem_map_of_mem found))

end Fees

/-! ## One event -/

section Step

open V1 V1.SettleBatch

variable {τ : Type} {usdc : Evm.Erc20 τ} {deployment : Evm.Deployment}
  {naming : Naming deployment} {addresses : V1.Addresses} {context : Context}
  {fixed : FixedAccounts} {bump : UInt8} {slot : Slot} {pool pool' : CoveragePool}
  {endpoint endpoint' : V1.EndpointConfig} {before after : Ledger} {status : SettlementStatus}
  {actual : UInt64} {receipt : V1.Receipt} {world world' : Evm.World τ} {timestamp : UInt64}

theorem Related.checked (related : Related naming addresses usdc before world)
    (shaped : Shaped addresses before)
    (effect : Effect addresses context fixed slot.event slot.accounts pool pool' endpoint endpoint'
      before after status actual receipt)
    (named : Named naming slot) (clock : (timestamp.toNat : Int) = context.now.toInt)
    (passed : checkEvent context.now slot.event = .ok ()) :
    Evm.PactSettler.checkEvent world timestamp (onEvm naming slot) =
      .ok (world.registry.endpoints slot.event.endpointSlug) := by
  obtain ⟨recent, enough, few⟩ := checkEvent_eq_ok.mp passed
  have same := related.endpoint _ named.slug _ (effect.endpoint_before shaped)
  refine Evm.PactSettler.checkEvent_eq_ok.mpr ⟨?_, enough, ?_, ?_, ?_, ?_, rfl⟩
  · have earlier : slot.event.timestamp.toInt ≤ context.now.toInt :=
      Int64.le_iff_toInt_le.mp (Int64.not_lt.mp recent)
    rw [gt_iff_lt, UInt64.lt_iff_toNat_lt, Nat.not_lt]
    have bound := timestamp.toNat_lt
    show (UInt64.ofNat slot.event.timestamp.toInt.toNat).toNat ≤ timestamp.toNat
    rw [UInt64.toNat_ofNat']
    omega
  · rw [gt_iff_lt, UInt8.lt_iff_toNat_lt]
    exact few
  · have fresh := effect.bound.fresh
    rw [effect.bound.callRecord] at fresh
    exact related.unsettled _ named.callId fresh
  · have running : ¬(world.registry.endpoints slot.event.endpointSlug).paused = true := by
      rw [same.paused, effect.bound.unpaused]
      simp
    exact Bool.eq_false_iff.mpr running
  · exact same.count.trans effect.bound.count

theorem Related.next (related : Related naming addresses usdc before world)
    (shaped : Shaped addresses before)
    (effect : Effect addresses context fixed slot.event slot.accounts pool pool' endpoint endpoint'
      before after status actual receipt)
    {receipt' : Evm.Receipt}
    (settled : Evm.PactSettler.settleEvent usdc deployment world timestamp (onEvm naming slot) =
      .ok (world', receipt'))
    (settler : world'.settler =
      (Evm.PactSettler.markSettled world slot.event.callId).settler)
    (pools : ∃ state, world'.pool = world.pool.setPool slot.event.endpointSlug state ∧
      state.ledger = pool'.ledger)
    (registry : ∃ stored,
      world'.registry = world.registry.setEndpoint slot.event.endpointSlug stored ∧
      stored.SameTerms (world.registry.endpoints slot.event.endpointSlug) ∧
      stored.counters = endpoint'.counters)
    (balances : ∀ user ∈ naming.users, usdc.balanceOf world'.token (naming.account user) =
      TokenLedger.balance (tokenAt after) user)
    (allowances : ∀ user ∈ naming.users,
      usdc.allowance world'.token (naming.account user) deployment.settler =
        drawable (tokenAt after) user (addresses.of .settlementAuthority)) :
    Related naming addresses usdc after world' := by
  obtain ⟨state, poolEq, poolLedger⟩ := pools
  obtain ⟨stored, registryEq, terms, counters⟩ := registry
  refine {
    wired := ?wired
    role := ?role
    sound := ?sound
    protocol := fun config found => ?protocol
    registered := fun slug known => ?registered
    pool := fun slug known found' found => ?pool
    endpoint := fun slug known found' found => ?endpoint
    unsettled := fun callId known fresh => ?unsettled
    balance := balances
    allowance := allowances }
  case wired =>
    refine ⟨?_, ?_⟩
    · rw [poolEq]
      exact related.wired.pool
    · rw [registryEq]
      exact related.wired.registry
  case role =>
    rw [settler]
    exact related.role
  case sound =>
    obtain ⟨fees, sound⟩ := related.sound
    exact ⟨_, sound.settleEvent settled⟩
  case protocol =>
    rw [effect.structOf_of_ne shaped (by simp) (by simp) (by simp)] at found
    rw [registryEq]
    exact related.protocol config found
  case registered =>
    rw [registryEq]
    exact related.registered slug known
  case pool =>
    rw [effect.pools shaped] at found
    rw [poolEq]
    split at found
    case isTrue same =>
      cases found
      subst same
      rw [Evm.PactPool.pools_setPool, effect.poolTerms.usdcVault]
      exact ⟨poolLedger, (related.pool _ known _ (effect.pool_before shaped)).2⟩
    case isFalse other =>
      have kept : (world.pool.setPool slot.event.endpointSlug state).pools slug =
          world.pool.pools slug := Function.update_of_ne other _ _
      rw [kept]
      exact related.pool slug known found' found
  case endpoint =>
    rw [effect.endpoints shaped] at found
    rw [registryEq]
    split at found
    case isTrue same =>
      cases found
      subst same
      have before' := related.endpoint _ known _ (effect.endpoint_before shaped)
      rw [Evm.PactRegistry.endpoints_setEndpoint]
      refine ⟨counters, ?_, ?_, ?_⟩
      · rw [terms, effect.endpointTerms]
        exact before'.paused
      · rw [terms, effect.endpointTerms]
        exact before'.count
      · rw [terms.recipients, effect.endpointTerms.recipients]
        exact before'.recipients
    case isFalse other =>
      have kept : (world.registry.setEndpoint slot.event.endpointSlug stored).endpoints slug =
          world.registry.endpoints slug := Function.update_of_ne other _ _
      rw [kept]
      exact related.endpoint slug known found' found
  case unsettled =>
    have different : callId ≠ slot.event.callId := by
      intro same
      rw [same, ← effect.bound.callRecord, effect.record] at fresh
      have written := congrArg List.length fresh
      rw [V1.CallRecord.layout.length_encode, V1.CallRecord.layout_size] at written
      cases written
    have apart : addresses.of (.callRecord callId) ≠ slot.accounts.callRecord := by
      rw [effect.bound.callRecord]
      simpa using different
    have empty : (before (addresses.of (.callRecord callId))).data = [] := by
      rw [← List.length_eq_zero_iff, ← effect.length _ apart, fresh]
      rfl
    rw [settler]
    exact (Function.update_of_ne different _ _).trans (related.unsettled callId known empty)

theorem Related.failed (related : Related naming addresses usdc before world)
    (shaped : Shaped addresses before)
    (authority : fixed.settlementAuth = addresses.of .settlementAuthority)
    (effect : Effect addresses context fixed slot.event slot.accounts pool pool endpoint endpoint
      before after .delegateFailed 0 receipt)
    (named : Named naming slot) (clock : (timestamp.toNat : Int) = context.now.toInt)
    (passed : checkEvent context.now slot.event = .ok ())
    (refused : delegateOk (before slot.accounts.agentAta).data fixed.settlementAuth
      slot.event.premiumLamports = false)
    (none_ : receipt.fees = []) (tokens : tokenAt after = tokenAt before) :
    ∃ world' receipt', Evm.PactSettler.settleEvent usdc deployment world timestamp
        (onEvm naming slot) = .ok (world', receipt') ∧
      Related naming addresses usdc after world' ∧ SameReceipt naming receipt receipt' := by
  have checked := related.checked shaped effect named clock passed
  have short := drawable_lt (premium_pos passed) refused
  rw [authority, ← related.allowance _ named.agent] at short
  have pulled : usdc.transferFrom world.token deployment.settler (onEvm naming slot).agent
      deployment.pool (onEvm naming slot).premium.toNat = none := by
    cases outcome : usdc.transferFrom world.token deployment.settler (onEvm naming slot).agent
      deployment.pool (onEvm naming slot).premium.toNat with
    | none => rfl
    | some token => exact absurd (Evm.Erc20.covered_of_transferFrom outcome).1 (by
        simpa [onEvm] using short)
  have settled : Evm.PactSettler.settleEvent usdc deployment world timestamp
      (onEvm naming slot) = .ok (Evm.PactSettler.markSettled world slot.event.callId,
        ⟨(onEvm naming slot).log 0 .delegateFailed, [], 0⟩) := by
    simp only [Evm.PactSettler.settleEvent, checked, ok_bind, Evm.PactSettler.markSettled, pulled]
    rfl
  refine ⟨_, _, settled, related.next shaped effect settled rfl ?_ ?_ ?_ ?_, ?_⟩
  · refine ⟨world.pool.pools slot.event.endpointSlug, ?_,
      (related.pool _ named.slug _ (effect.pool_before shaped)).1⟩
    simp [Evm.PactPool.setPool, Evm.PactSettler.markSettled]
  · refine ⟨world.registry.endpoints slot.event.endpointSlug, ?_, rfl,
      (related.endpoint _ named.slug _ (effect.endpoint_before shaped)).counters⟩
    simp [Evm.PactRegistry.setEndpoint, Evm.PactSettler.markSettled]
  · rw [tokens]
    exact related.balance
  · rw [tokens]
    exact related.allowance
  · have record := effect.written
    refine ⟨?_, ?_, ?_, ⟨.delegateFailed, ?_, rfl⟩, ?_, by rw [none_]; rfl⟩
    all_goals
      rw [record]
      rfl

theorem fits_of_settled {fees : Slug → Nat} {list : List (Solana.Address × UInt64)}
    {outcome : Settlement.Outcome} (sound : Chain.Sound addresses ⟨before, fees⟩)
    (effect : Effect addresses context fixed slot.event slot.accounts pool pool' endpoint endpoint'
      before after status actual receipt)
    (apart : slot.accounts.agentAta ≠ slot.accounts.poolVault)
    (settled : V1.SettleBatch.Settled context.now fixed slot.event slot.accounts
      endpoint.recipients pool pool' endpoint endpoint' (tokenAt before) (tokenAt after) status
      actual list outcome) :
    Evm.PactSettler.Fits pool.ledger endpoint.counters context.now.toInt
      (slot.event.call list) := by
  obtain ⟨calls, breaches, premiums, -⟩ := Settlement.settle_endpoint_counts pool.ledger
    endpoint.counters context.now.toInt (slot.event.call list)
  obtain ⟨collected, -⟩ := Settlement.settle_pool pool.ledger endpoint.counters
    context.now.toInt (slot.event.call list)
  have paid := congrArg Settlement.Pool.premiums collected
  simp only [Settlement.Pool.pay, Settlement.Pool.collect] at paid
  rw [← settled.outcome_eq, ← settled.counters] at calls breaches premiums
  rw [← settled.outcome_eq, ← settled.poolLedger] at paid
  refine ⟨?_, ?_, ⟨?_, ?_, ?_, ?_⟩, ?_, ?_, settled.covered⟩
  · -- The vault holds the pool's balance, and takes in the premium.
    obtain ⟨vault, held, -, covers⟩ := vault_of_sound sound effect.bound
    obtain ⟨credited, -, premium, -⟩ := settled.tokens
    obtain ⟨vault', -, moved⟩ := premium.moved _ held
    have sum := moved.balance
    simp only [if_neg (Ne.symm apart), if_true, Nat.add_zero] at sum
    have bound := vault'.amount.toNat_lt
    show pool.ledger.balance + slot.event.premiumLamports.toNat < 2 ^ 64
    omega
  · rw [← paid]
    exact UInt64.toNat_lt _
  · rw [← calls]
    exact UInt64.toNat_lt _
  · rw [← premiums]
    exact UInt64.toNat_lt _
  · rw [← breaches]
    exact UInt64.toNat_lt _
  · have bound := endpoint.currentPeriodStart.toInt_lt
    simp only [V1.EndpointConfig.counters]
    omega
  · rw [← settled.outcome_eq, ← settled.poolLedger]
    exact UInt64.toNat_lt _
  · rw [← settled.outcome_eq, ← settled.counters]
    exact UInt64.toNat_lt _

theorem Related.balances (related : Related naming addresses usdc before world)
    (named : Named naming slot) {list : List (Solana.Address × UInt64)}
    {outcome : Settlement.Outcome} {credited : τ} {middle : Evm.World τ}
    {config : Evm.EndpointConfig} {receipt' : Evm.Receipt}
    (notVault : ∀ user ∈ naming.users, user ≠ slot.accounts.poolVault)
    (inside : ∀ payout ∈ list, payout.1 ∈ naming.users)
    (settled : V1.SettleBatch.Settled context.now fixed slot.event slot.accounts
      endpoint.recipients pool pool' endpoint endpoint' (tokenAt before) (tokenAt after) status
      actual list outcome)
    (pulled : usdc.transferFrom world.token deployment.settler (onEvm naming slot).agent
      deployment.pool (onEvm naming slot).premium.toNat = some credited)
    (settled' : Evm.Settled usdc deployment middle world' timestamp (onEvm naming slot) config
      receipt' outcome)
    (token : middle.token = credited)
    (fees : receipt'.fees = list.map fun payout => (naming.account payout.1, payout.2)) :
    ∀ user ∈ naming.users, usdc.balanceOf world'.token (naming.account user) =
      TokenLedger.balance (tokenAt after) user := by
  intro user member
  have other := naming.notPool user member
  have renamed : naming.account user = (onEvm naming slot).agent ↔
      user = slot.accounts.agentAta := naming.injective.eq_iff member named.agent
  have start := related.balance user member
  have here := balance_user (notVault user member) settled
  have taken := Evm.Erc20.balance_transferFrom pulled (naming.account user)
  have spread := balance_settled other settled'
  rw [fees, received_map naming.injective member inside, token] at spread
  rw [if_neg other] at taken
  simp only [renamed] at taken spread
  change usdc.balanceOf credited (naming.account user) +
    (if user = slot.accounts.agentAta then slot.event.premiumLamports.toNat else 0) = _ at taken
  omega

theorem Related.allowances (related : Related naming addresses usdc before world)
    (named : Named naming slot) {credited : τ} {spread : TokenLedger}
    (apart : slot.accounts.agentAta ≠ slot.accounts.poolVault)
    (premium : Pays (tokenAt before) ⟨slot.accounts.agentAta, slot.accounts.poolVault,
      addresses.of .settlementAuthority, slot.event.premiumLamports⟩ spread)
    (holdings : ∀ address, holding (tokenAt after) address = holding spread address)
    (positive : 0 < slot.event.premiumLamports.toNat)
    (drawn : slot.event.premiumLamports.toNat ≤
      drawable (tokenAt before) slot.accounts.agentAta (addresses.of .settlementAuthority))
    (pulled : usdc.transferFrom world.token deployment.settler (onEvm naming slot).agent
      deployment.pool (onEvm naming slot).premium.toNat = some credited) :
    ∀ user ∈ naming.users, usdc.allowance credited (naming.account user) deployment.settler =
      drawable (tokenAt after) user (addresses.of .settlementAuthority) := by
  intro user member
  have start := related.allowance user member
  rw [drawable_of_holding (holdings user), usdc.allowance_transferFrom _ _ _ _ _ _ pulled]
  by_cases charged : user = slot.accounts.agentAta
  case pos =>
    subst charged
    have spent := drawable_pays premium apart drawn positive
    -- The program's allowances are 64-bit, so none is the unlimited approval.
    have finite : usdc.allowance world.token (naming.account slot.accounts.agentAta)
        deployment.settler ≠ Evm.uint256Max := by
      rw [start]
      exact Nat.ne_of_lt ((drawable_lt_size _ _ _).trans (by decide))
    dsimp only at spent
    rw [← spent] at start
    show Evm.spendAllowance _ (naming.account slot.accounts.agentAta) _ _ _ _ = _
    rw [Evm.spendAllowance_self finite, start]
    exact Nat.add_sub_cancel _ _
  case neg =>
    have other : naming.account user ≠ (onEvm naming slot).agent := fun equal =>
      charged (naming.injective member named.agent equal)
    rw [Evm.spendAllowance_of_ne fun equal => other equal.1, start,
      drawable_of_holding (holding_pays_of_ne premium charged)]

theorem Related.covered (related : Related naming addresses usdc before world)
    {total : Slug → Nat} (sound : Chain.Sound addresses ⟨before, total⟩)
    (authority : fixed.settlementAuth = addresses.of .settlementAuthority)
    (effect : Effect addresses context fixed slot.event slot.accounts pool pool' endpoint endpoint'
      before after status actual receipt)
    (named : Named naming slot) (clock : (timestamp.toNat : Int) = context.now.toInt)
    (passed : checkEvent context.now slot.event = .ok ())
    (preflight : delegateOk (before slot.accounts.agentAta).data fixed.settlementAuth
      slot.event.premiumLamports = true) {outcome : Settlement.Outcome}
    (settled : V1.SettleBatch.Settled context.now fixed slot.event slot.accounts
      endpoint.recipients pool pool' endpoint endpoint' (tokenAt before) (tokenAt after) status
      actual receipt.fees outcome) :
    ∃ world' receipt', Evm.PactSettler.settleEvent usdc deployment world timestamp
        (onEvm naming slot) = .ok (world', receipt') ∧
      Related naming addresses usdc after world' ∧ SameReceipt naming receipt receipt' := by
  have shaped := sound.shaped
  have checked := related.checked shaped effect named clock passed
  obtain ⟨samePool, foreign⟩ := related.pool _ named.slug _ (effect.pool_before shaped)
  have same := related.endpoint _ named.slug _ (effect.endpoint_before shaped)
  rw [effect.bound.vault] at foreign
  have notVault : ∀ user ∈ naming.users, user ≠ slot.accounts.poolVault := by
    intro user member equal
    exact foreign (equal ▸ member)
  have apart := notVault _ named.agent
  have inside : ∀ ata ∈ endpoint.recipients.map V1.FeeRecipient.destination,
      ata ∈ naming.users := by
    rw [← effect.bound.feeAtas]
    exact named.fees
  have positive := premium_pos passed
  obtain ⟨vault, held, exclusive, -⟩ := vault_of_sound sound effect.bound
  obtain ⟨spread, premium, holdings, -⟩ := settled.holding held exclusive
  obtain ⟨token, agentFound⟩ := premium.source_found
  have drawn := (delegateOk_iff_drawable agentFound positive).mp preflight
  rw [authority] at premium drawn
  -- The call the contracts settle is the call the program settled.
  have shares := feeShares_eq same slot.event.premiumLamports
  rw [← settled.shares] at shares
  have call : (onEvm naming slot).call
      (Evm.feeShares slot.event.premiumLamports
        (world.registry.endpoints slot.event.endpointSlug).recipients) =
      slot.event.call receipt.fees := by
    rw [shares]
    simp only [Evm.SettlementEvent.call, V1.SettlementEvent.call, amounts_map]
    rfl
  have accepted : ∃ result, Evm.PactSettler.settleEvent usdc deployment world timestamp
      (onEvm naming slot) = .ok result := by
    obtain ⟨fees, evmSound⟩ := related.sound
    refine Evm.PactSettler.settleEvent_isOk evmSound related.wired
      (related.registered _ named.slug) checked (targets_live same inside) fun _ _ => ?_
    show Evm.PactSettler.Fits (world.pool.pools slot.event.endpointSlug).ledger
      (world.registry.endpoints slot.event.endpointSlug).counters timestamp.toNat
      ((onEvm naming slot).call (Evm.feeShares slot.event.premiumLamports
        (world.registry.endpoints slot.event.endpointSlug).recipients))
    rw [call, samePool, same.counters, clock]
    exact fits_of_settled sound effect apart settled
  obtain ⟨⟨world', receipt'⟩, settled'⟩ := accepted
  have funds : slot.event.premiumLamports.toNat ≤
      usdc.balanceOf world.token (naming.account slot.accounts.agentAta) := by
    obtain ⟨_, -, found, enough, -⟩ := premium.spent apart
    rw [related.balance _ named.agent]
    simpa only [TokenLedger.balance, found] using enough
  have allowed : slot.event.premiumLamports.toNat ≤ usdc.allowance world.token
      (naming.account slot.accounts.agentAta) deployment.settler := by
    rw [related.allowance _ named.agent]
    exact drawn
  have pulls := Evm.PactSettler.transferFrom_of_allowed (naming.live _ named.agent) allowed funds
  obtain ⟨-, ended⟩ := Evm.PactSettler.settleEvent_spec settled'
  cases ended with
  | inl failed =>
      obtain ⟨pulled, -⟩ := failed
      obtain ⟨_, some_⟩ := pulls
      cases pulled.symm.trans some_
  | inr done =>
      obtain ⟨credited, outcome', pulled, effect'⟩ := done
      have list : receipt'.fees =
          receipt.fees.map fun payout => (naming.account payout.1, payout.2) :=
        effect'.fees.trans shares
      have agree : outcome' = outcome := by
        have call' : (onEvm naming slot).call receipt'.fees = slot.event.call receipt.fees := by
          rw [effect'.fees]
          exact call
        rw [effect'.outcome_eq, settled.outcome_eq, call']
        show Settlement.settle (world.pool.pools slot.event.endpointSlug).ledger
          (world.registry.endpoints slot.event.endpointSlug).counters timestamp.toNat _ = _
        rw [samePool, same.counters, clock]
      subst agree
      have payees : ∀ payout ∈ receipt.fees, payout.1 ∈ naming.users := by
        rw [settled.shares]
        exact feeShares_inside inside
      refine ⟨world', receipt', settled',
        related.next shaped effect settled' effect'.settler ?pools ?registry ?balances
          ?allowances, ?receipt⟩
      case pools =>
        obtain ⟨state, stored, ledger⟩ := effect'.pool
        exact ⟨state, stored, ledger.trans settled.poolLedger.symm⟩
      case registry =>
        obtain ⟨stored, kept, terms, counters⟩ := effect'.registry
        exact ⟨stored, kept, terms, counters.trans settled.counters.symm⟩
      case balances =>
        exact related.balances named notVault payees settled pulled effect' rfl list
      case allowances =>
        rw [(Evm.Settled.tokens effect').1]
        exact related.allowances named apart premium holdings positive drawn pulled
      case receipt =>
        have record := effect.written
        have log := effect'.log
        refine ⟨?_, ?_, ?_, ⟨status, ?_, ?_⟩, ?_, list⟩
        · rw [record, log]
          rfl
        · rw [record, log]
          rfl
        · rw [record, log]
          rfl
        · rw [record]
          rfl
        · rw [log, settled.status]
          rfl
        · rw [record]
          refine UInt64.toNat_inj.mp ?_
          rw [effect'.refund]
          exact settled.refund.symm

theorem Related.step (related : Related naming addresses usdc before world)
    {total : Slug → Nat} (sound : Chain.Sound addresses ⟨before, total⟩)
    (authority : fixed.settlementAuth = addresses.of .settlementAuthority)
    (named : Named naming slot) (clock : (timestamp.toNat : Int) = context.now.toInt)
    (passed : checkEvent context.now slot.event = .ok ())
    (settled : settleEvent addresses context before fixed bump slot.event slot.accounts =
      .ok (after, receipt)) :
    (∃ world' receipt', Evm.PactSettler.settleEvent usdc deployment world timestamp
        (onEvm naming slot) = .ok (world', receipt') ∧
      Related naming addresses usdc after world' ∧ SameReceipt naming receipt receipt') ∧
      ∃ total', Chain.Sound addresses ⟨after, total'⟩ := by
  obtain ⟨pool, pool', endpoint, endpoint', status, actual, effect⟩ :=
    settleEvent_spec (premium_pos passed) settled
  refine ⟨?_, _, effect.keeps_sound sound authority⟩
  cases effect.outcome with
  | inl failed =>
      obtain ⟨refused, rfl, rfl, none_, rfl, rfl, tokens, -⟩ := failed
      exact related.failed sound.shaped authority effect named clock passed refused none_ tokens
  | inr covered =>
      obtain ⟨preflight, -, -, outcome, settled⟩ := covered
      exact related.covered sound authority effect named clock passed preflight settled

end Step

/-! ## Batches -/

section Run

open V1 V1.SettleBatch

variable {τ : Type} {usdc : Evm.Erc20 τ} {deployment : Evm.Deployment}
  {naming : Naming deployment} {addresses : V1.Addresses} {context : Context}
  {fixed : FixedAccounts} {bump : UInt8} {timestamp : UInt64}

/-- Where the two chains stand after the same events. -/
structure Abreast (naming : Naming deployment) (addresses : V1.Addresses) (usdc : Evm.Erc20 τ)
    (state : Ledger × List V1.Receipt) (state' : Evm.World τ × List Evm.Receipt) : Prop where
  related : Related naming addresses usdc state.1 state'.1
  sound : ∃ total, Chain.Sound addresses ⟨state.1, total⟩
  receipts : List.Forall₂ (SameReceipt naming) state.2 state'.2

theorem Abreast.run {slots : List Slot} {state finish : Ledger × List V1.Receipt}
    {state' : Evm.World τ × List Evm.Receipt} (abreast : Abreast naming addresses usdc state state')
    (authority : fixed.settlementAuth = addresses.of .settlementAuthority)
    (named : ∀ slot ∈ slots, Named naming slot)
    (clock : (timestamp.toNat : Int) = context.now.toInt)
    (ran : slots.foldlM (settleSlot addresses context fixed bump) state = .ok finish) :
    ∃ finish', (slots.map (onEvm naming)).foldlM
        (Evm.PactSettler.settleStep usdc deployment timestamp) state' = .ok finish' ∧
      Abreast naming addresses usdc finish finish' := by
  induction slots generalizing state state' with
  | nil =>
      cases ran
      exact ⟨state', rfl, abreast⟩
  | cons slot rest ih =>
      obtain ⟨middle, turn, later⟩ := foldlM_cons_eq_ok.mp ran
      simp only [settleSlot, bind_eq_ok, Prod.exists, Except.ok.injEq] at turn
      obtain ⟨_, passed, ledger, receipt, settled, rfl⟩ := turn
      obtain ⟨total, sound⟩ := abreast.sound
      obtain ⟨⟨world', receipt', settled', related, same⟩, sound'⟩ := abreast.related.step sound
        authority (named slot List.mem_cons_self) clock passed settled
      have next : Abreast naming addresses usdc (ledger, state.2 ++ [receipt])
          (world', state'.2 ++ [receipt']) :=
        ⟨related, sound', List.rel_append abreast.receipts (.cons same .nil)⟩
      obtain ⟨finish', ran', abreast'⟩ :=
        ih next (fun other member => named other (List.mem_cons_of_mem _ member)) later
      refine ⟨finish', ?_, abreast'⟩
      rw [List.map_cons]
      refine foldlM_cons_eq_ok.mpr ⟨_, ?_, ran'⟩
      simp only [Evm.PactSettler.settleStep, settled', ok_bind]

variable (usdc naming) in
def settleOnEvm (state : Evm.World τ × List Evm.Receipt) (batch : Batch) :
    Except Evm.EvmError (Evm.World τ × List Evm.Receipt) := do
  let (world, receipts) ← Evm.PactSettler.settleBatch usdc deployment state.1 naming.sender
    (UInt64.ofNat batch.context.now.toInt.toNat) (batch.slots.map (onEvm naming))
  .ok (world, state.2 ++ receipts)

theorem Abreast.batch {batch : Batch} {state finish : Ledger × List V1.Receipt}
    {state' : Evm.World τ × List Evm.Receipt} (abreast : Abreast naming addresses usdc state state')
    (named : ∀ slot ∈ batch.slots, Named naming slot) (timely : 0 ≤ batch.context.now.toInt)
    (ran : settleNextBatch addresses state batch = .ok finish) :
    ∃ finish', settleOnEvm usdc naming state' batch = .ok finish' ∧
      Abreast naming addresses usdc finish finish' := by
  simp only [settleNextBatch, bind_eq_ok, Prod.exists, Except.ok.injEq] at ran
  obtain ⟨ledger, receipts, accepted, rfl⟩ := ran
  rw [settleBatch_eq batch.small, bind_eq_ok] at accepted
  obtain ⟨bump, header, loop⟩ := accepted
  obtain ⟨-, ⟨authority, -⟩, -, config, -, found, running, -⟩ := checkFixed_spec header
  obtain ⟨total, sound⟩ := abreast.sound
  have unpaused : ¬state'.1.registry.protocolPaused = true := by
    rw [abreast.related.protocol config (sound.shaped.structOf_of_found found), running]
    simp
  have clock : ((UInt64.ofNat batch.context.now.toInt.toNat).toNat : Int) =
      batch.context.now.toInt := by
    have bound := batch.context.now.toInt_lt
    rw [UInt64.toNat_ofNat', Nat.mod_eq_of_lt (by omega)]
    omega
  have start : Abreast naming addresses usdc (state.1, []) (state'.1, []) :=
    ⟨abreast.related, abreast.sound, .nil⟩
  obtain ⟨⟨world', receipts'⟩, loop', next⟩ := start.run authority named clock loop
  have short : ¬(batch.slots.map (onEvm naming)).length > Evm.ProtocolInvariants.maxBatchSize := by
    rw [List.length_map]
    exact Nat.not_lt.mpr batch.small
  refine ⟨(world', state'.2 ++ receipts'), ?_, next.related, next.sound,
    List.rel_append abreast.receipts next.receipts⟩
  simp only [settleOnEvm, Evm.PactSettler.settleBatch, Evm.onlyRole_of abreast.related.role,
    failIf_of_not unpaused, failIf_of_not short, ok_bind, loop']

theorem Abreast.batches {batches : List Batch} {state finish : Ledger × List V1.Receipt}
    {state' : Evm.World τ × List Evm.Receipt} (abreast : Abreast naming addresses usdc state state')
    (named : ∀ batch ∈ batches, ∀ slot ∈ batch.slots, Named naming slot)
    (timely : ∀ batch ∈ batches, 0 ≤ batch.context.now.toInt)
    (ran : batches.foldlM (settleNextBatch addresses) state = .ok finish) :
    ∃ finish', batches.foldlM (settleOnEvm usdc naming) state' = .ok finish' ∧
      Abreast naming addresses usdc finish finish' := by
  induction batches generalizing state state' with
  | nil =>
      cases ran
      exact ⟨state', rfl, abreast⟩
  | cons batch rest ih =>
      obtain ⟨middle, turn, later⟩ := foldlM_cons_eq_ok.mp ran
      obtain ⟨middle', turn', next⟩ := abreast.batch (named batch List.mem_cons_self)
        (timely batch List.mem_cons_self) turn
      obtain ⟨finish', later', last⟩ := ih next
        (fun other member => named other (List.mem_cons_of_mem _ member))
        (fun other member => timely other (List.mem_cons_of_mem _ member)) later
      exact ⟨finish', foldlM_cons_eq_ok.mpr ⟨middle', turn', later'⟩, last⟩

/-- Whatever batches the program accepts, from any state it can reach, the contracts accept
too: every event ends alike, and the contracts stand for the program's accounts again. -/
theorem runs_agree {chain : Chain} {world : Evm.World τ} {batches : List Batch}
    {after : Ledger} {receipts : List V1.Receipt} (reached : Chain.Reached addresses chain)
    (related : Related naming addresses usdc chain.ledger world)
    (named : ∀ batch ∈ batches, ∀ slot ∈ batch.slots, Named naming slot)
    (timely : ∀ batch ∈ batches, 0 ≤ batch.context.now.toInt)
    (ran : batches.foldlM (settleNextBatch addresses) (chain.ledger, []) = .ok (after, receipts)) :
    ∃ world' receipts',
      batches.foldlM (settleOnEvm usdc naming) (world, []) = .ok (world', receipts') ∧
        Related naming addresses usdc after world' ∧
        List.Forall₂ (SameReceipt naming) receipts receipts' := by
  have start : Abreast naming addresses usdc (chain.ledger, []) (world, []) :=
    ⟨related, ⟨_, reached.sound⟩, .nil⟩
  obtain ⟨⟨world', receipts'⟩, ran', last⟩ := start.batches named timely ran
  exact ⟨world', receipts', ran', last.related, last.receipts⟩

end Run

/-! ## Two batches on both chains -/

namespace Demo

open V1.SettleBatch.Demo (addresses context fixed slot slug agentAta treasuryVault vault)

def account (address : Solana.Address) : Evm.Address :=
  if address = agentAta then Evm.Demo.agent else Evm.Demo.treasury

theorem account_ne {key : Evm.Address} (agent : Evm.Demo.agent ≠ key)
    (treasury : Evm.Demo.treasury ≠ key) (address : Solana.Address) : account address ≠ key := by
  unfold account
  split
  case isTrue => exact agent
  case isFalse => exact treasury

def naming : Naming Evm.Demo.deployment where
  users := {agentAta, treasuryVault}
  slugs := {slug}
  callIds := {V1.SettleBatch.Demo.named 16 1, V1.SettleBatch.Demo.named 16 2}
  account := account
  sender := Evm.Demo.operator
  injective := by
    have apart : account agentAta ≠ account treasuryVault := by decide
    intro left leftUser right rightUser same
    rcases Set.mem_insert_iff.mp leftUser with rfl | rfl <;>
      rcases Set.mem_insert_iff.mp rightUser with rfl | rfl
    · rfl
    · exact absurd same apart
    · exact absurd same.symm apart
    · rfl
  live user _ := account_ne (by decide) (by decide) user
  notPool user _ := account_ne (by decide) (by decide) user

def token : Evm.TokenState where
  balances account :=
    if account = Evm.Demo.authority then 500 else if account = Evm.Demo.agent then 4500 else 0
  allowances owner spender :=
    if owner = Evm.Demo.authority ∧ spender = Evm.Demo.deployment.pool then 500
    else if owner = Evm.Demo.agent ∧ spender = Evm.Demo.deployment.settler then 5000 else 0

def start : Evm.History Evm.TokenState :=
  { Evm.Demo.start with world := { Evm.Demo.start.world with token } }

theorem deployed_start : Evm.Deployed Evm.standard Evm.Demo.deployment start where
  constructed := Evm.Demo.deployed_start.constructed
  pool := rfl
  unsettled _ := rfl
  noAllowance spender := by
    have notAuthority : Evm.Demo.deployment.pool ≠ Evm.Demo.authority := by decide
    have notAgent : Evm.Demo.deployment.pool ≠ Evm.Demo.agent := by decide
    simp [Evm.standard, start, token, notAuthority, notAgent]
  fees _ := rfl

def transactions : List (Evm.Address × UInt64 × Evm.Call) :=
  [(Evm.Demo.authority, 100,
      .registerEndpoint slug ⟨1000, 0, 500, 1000, 2000⟩ false 0 Evm.Demo.recipients),
   (Evm.Demo.authority, 100, .topUp slug 500)]

def opened : Except Evm.EvmError (Evm.History Evm.TokenState) :=
  transactions.foldlM (Evm.History.execute Evm.standard Evm.Demo.deployment) start

/-- What the opened deployment holds for `naming`. -/
structure Holds (world : Evm.World Evm.TokenState) : Prop where
  wired : Evm.Wired Evm.Demo.deployment world
  role : world.settler.settlerRole Evm.Demo.operator = true
  protocol : world.registry.protocolPaused = false
  registered : world.registry.registered slug = true
  pool : (world.pool.pools slug).ledger = ⟨500, 0, 0, 500⟩
  counters : (world.registry.endpoints slug).counters = ⟨2000, 100, 0, 0, 0, 0, 0⟩
  paused : (world.registry.endpoints slug).paused = false
  count : (world.registry.endpoints slug).feeRecipientCount = 1
  recipients : ((world.registry.endpoints slug).recipients.map fun recipient =>
    (recipient.destination, recipient.bps)) = [(Evm.Demo.treasury, 1000)]
  unsettled : world.settler.settledCallIds (V1.SettleBatch.Demo.named 16 1) = false ∧
    world.settler.settledCallIds (V1.SettleBatch.Demo.named 16 2) = false
  balances : world.token.balances Evm.Demo.agent = 4500 ∧
    world.token.balances Evm.Demo.treasury = 0
  allowances : world.token.allowances Evm.Demo.agent Evm.Demo.deployment.settler = 5000 ∧
    world.token.allowances Evm.Demo.treasury Evm.Demo.deployment.settler = 0

theorem opened_holds : ∃ history, opened = .ok history ∧ Holds history.world := by
  have accounts : (opened.toOption.any fun history => decide
      (history.world.pool.settlerRole Evm.Demo.deployment.settler = true ∧
        history.world.registry.settlerRole Evm.Demo.deployment.settler = true ∧
        history.world.settler.settlerRole Evm.Demo.operator = true ∧
        history.world.registry.protocolPaused = false ∧
        history.world.registry.registered slug = true ∧
        (history.world.pool.pools slug).ledger = ⟨500, 0, 0, 500⟩ ∧
        (history.world.registry.endpoints slug).counters = ⟨2000, 100, 0, 0, 0, 0, 0⟩ ∧
        (history.world.registry.endpoints slug).paused = false ∧
        (history.world.registry.endpoints slug).feeRecipientCount = 1 ∧
        ((history.world.registry.endpoints slug).recipients.map fun recipient =>
          (recipient.destination, recipient.bps)) = [(Evm.Demo.treasury, 1000)] ∧
        (history.world.settler.settledCallIds (V1.SettleBatch.Demo.named 16 1) = false ∧
          history.world.settler.settledCallIds (V1.SettleBatch.Demo.named 16 2) = false) ∧
        (history.world.token.balances Evm.Demo.agent = 4500 ∧
          history.world.token.balances Evm.Demo.treasury = 0) ∧
        history.world.token.allowances Evm.Demo.agent Evm.Demo.deployment.settler = 5000 ∧
        history.world.token.allowances Evm.Demo.treasury Evm.Demo.deployment.settler = 0)) =
      true := by
    decide +kernel
  obtain ⟨history, found, holds⟩ := (Option.any_eq_true _ _).mp accounts
  obtain ⟨pool, registry, role, protocol, registered, ledger, counters, paused, count, recipients,
    unsettled, balances, allowances⟩ := of_decide_eq_true holds
  exact ⟨history, toOption_eq_some.mp found, ⟨pool, registry⟩, role, protocol, registered, ledger,
    counters, paused, count, recipients, unsettled, balances, allowances⟩

theorem funded_config : ((V1.structOf addresses V1.Demo.funded.ledger .protocolConfig).map
    V1.ProtocolConfig.paused) = some 0 := by
  decide +kernel

theorem funded_pool : ((V1.structOf addresses V1.Demo.funded.ledger (.coveragePool slug)).map
    fun pool => (pool.ledger, pool.usdcVault)) = some (⟨500, 0, 0, 500⟩, vault) := by
  decide +kernel

theorem funded_endpoint :
    ((V1.structOf addresses V1.Demo.funded.ledger (.endpointConfig slug)).any fun endpoint => decide
      (endpoint.counters = ⟨2000, 100, 0, 0, 0, 0, 0⟩ ∧ endpoint.paused = 0 ∧
        endpoint.feeRecipientCount = 1 ∧
        (endpoint.recipients.map fun recipient => (recipient.destination, recipient.bps)) =
          [(treasuryVault, 1000)])) = true := by
  decide +kernel

theorem funded_tokens :
    (balance (tokenAt V1.Demo.funded.ledger) agentAta = 4500 ∧
      balance (tokenAt V1.Demo.funded.ledger) treasuryVault = 0) ∧
    drawable (tokenAt V1.Demo.funded.ledger) agentAta (addresses.of .settlementAuthority) = 5000 ∧
      drawable (tokenAt V1.Demo.funded.ledger) treasuryVault
        (addresses.of .settlementAuthority) = 0 := by
  decide +kernel

theorem related {world : Evm.World Evm.TokenState} (holds : Holds world)
    (sound : ∃ fees, Evm.Sound Evm.standard Evm.Demo.deployment ⟨world, fees⟩) :
    Related naming addresses Evm.standard V1.Demo.funded.ledger world where
  wired := holds.wired
  role := holds.role
  sound := sound
  protocol config found := by
    have stored := funded_config
    rw [found, Option.map_some, Option.some.injEq] at stored
    simp [holds.protocol, stored]
  registered other known := by
    cases Set.mem_singleton_iff.mp known
    exact holds.registered
  pool other known pool found := by
    cases Set.mem_singleton_iff.mp known
    have stored := funded_pool
    rw [found, Option.map_some, Option.some.injEq, Prod.mk.injEq] at stored
    obtain ⟨ledger, usdcVault⟩ := stored
    refine ⟨holds.pool.trans ledger.symm, ?_⟩
    rw [usdcVault]
    exact fun member => absurd (Set.mem_insert_iff.mp member) (by decide)
  endpoint other known endpoint found := by
    cases Set.mem_singleton_iff.mp known
    have stored := funded_endpoint
    rw [found, Option.any_some] at stored
    obtain ⟨counters, paused, count, recipients⟩ := of_decide_eq_true stored
    refine ⟨holds.counters.trans counters.symm, ?_, holds.count.trans count.symm, ?_⟩
    · simp [holds.paused, paused]
    · have destinations := congrArg
        (List.map fun share : Solana.Address × UInt16 => (account share.1, share.2)) recipients
      rw [List.map_map] at destinations
      exact holds.recipients.trans destinations.symm
  unsettled callId known _ := by
    cases Set.mem_insert_iff.mp known with
    | inl first =>
        rw [first]
        exact holds.unsettled.1
    | inr second =>
        rw [Set.mem_singleton_iff.mp second]
        exact holds.unsettled.2
  balance user member := by
    cases Set.mem_insert_iff.mp member with
    | inl agent =>
        rw [agent]
        exact holds.balances.1.trans funded_tokens.1.1.symm
    | inr treasury =>
        rw [Set.mem_singleton_iff.mp treasury]
        exact holds.balances.2.trans funded_tokens.1.2.symm
  allowance user member := by
    cases Set.mem_insert_iff.mp member with
    | inl agent =>
        rw [agent]
        exact holds.allowances.1.trans funded_tokens.2.1.symm
    | inr treasury =>
        rw [Set.mem_singleton_iff.mp treasury]
        exact holds.allowances.2.trans funded_tokens.2.2.symm

def batches : List V1.SettleBatch.Batch :=
  [⟨context, fixed, [slot 1 1000 500], by decide⟩, ⟨context, fixed, [slot 2 1000 1800], by decide⟩]

theorem slots_named (tag : UInt8) (premium refund : UInt64) (known : tag = 1 ∨ tag = 2) :
    Named naming (slot tag premium refund) where
  slug := Set.mem_singleton _
  callId := by
    cases known with
    | inl first => exact first ▸ Set.mem_insert _ _
    | inr second => exact second ▸ Set.mem_insert_of_mem _ (Set.mem_singleton _)
  agent := Set.mem_insert _ _
  fees ata listed := by
    rw [List.mem_singleton.mp listed]
    exact Set.mem_insert_of_mem _ (Set.mem_singleton _)

end Demo

/-- Two batches on the funded program, and on a deployment with the same endpoint. -/
theorem runs_agree_demo : ∃ history after receipts world receipts',
    Demo.opened = .ok history ∧
      Demo.batches.foldlM (V1.SettleBatch.settleNextBatch V1.SettleBatch.Demo.addresses)
        (V1.Demo.funded.ledger, []) = .ok (after, receipts) ∧
      Demo.batches.foldlM (settleOnEvm Evm.standard Demo.naming) (history.world, []) =
        .ok (world, receipts') ∧
      Related Demo.naming V1.SettleBatch.Demo.addresses Evm.standard after world ∧
      List.Forall₂ (SameReceipt Demo.naming) receipts receipts' := by
  have accepted : accepts (Demo.batches.foldlM
      (V1.SettleBatch.settleNextBatch V1.SettleBatch.Demo.addresses)
      (V1.Demo.funded.ledger, [])) := by
    decide +kernel
  obtain ⟨⟨after, receipts⟩, ran⟩ := accepted
  obtain ⟨history, opened, holds⟩ := Demo.opened_holds
  have sound := (Evm.History.reachable_of_run Demo.deployed_start opened).invariant
    (Evm.Sound Evm.standard Evm.Demo.deployment) (fun _ deployed => .deployed deployed)
    fun _ _ kept moves => kept.transaction moves
  have named : ∀ batch ∈ Demo.batches, ∀ slot ∈ batch.slots, Named Demo.naming slot := by
    intro batch member slot listed
    rcases List.mem_pair.mp member with rfl | rfl <;> cases List.mem_singleton.mp listed
    · exact Demo.slots_named _ _ _ (.inl rfl)
    · exact Demo.slots_named _ _ _ (.inr rfl)
  have timely : ∀ batch ∈ Demo.batches, 0 ≤ batch.context.now.toInt := by
    intro batch member
    rcases List.mem_pair.mp member with rfl | rfl <;> decide
  obtain ⟨world, receipts', ran', related, same⟩ :=
    runs_agree V1.Demo.funded_reached (Demo.related holds ⟨_, sound⟩) named timely ran
  exact ⟨history, after, receipts, world, receipts', opened, ran, ran', related, same⟩

end PactNetwork.Port
