import PactNetwork.Evm.PactSettler

/-!
# The EVM contracts settle as the core does

Each contract function is characterized by one lemma. Together they show that
an accepted event with its premium collected moves the pool's ledger and the
endpoint's counters exactly as `Settlement.settle` says.
-/

set_option autoImplicit false

namespace PactNetwork.Evm

/-! ## Endpoint counters -/

def EndpointConfig.counters (config : EndpointConfig) : Settlement.Endpoint where
  cap := config.exposureCapPerHour.toNat
  periodStart := config.currentPeriodStart.toNat
  periodRefunds := config.currentPeriodRefunds.toNat
  calls := config.totalCalls.toNat
  breaches := config.totalBreaches.toNat
  premiums := config.totalPremiums.toNat
  refunds := config.totalRefunds.toNat

/-- The two configurations differ in their counters at most. -/
def EndpointConfig.SameTerms (left right : EndpointConfig) : Prop :=
  left = { right with
    totalCalls := left.totalCalls
    totalBreaches := left.totalBreaches
    totalPremiums := left.totalPremiums
    totalRefunds := left.totalRefunds
    currentPeriodStart := left.currentPeriodStart
    currentPeriodRefunds := left.currentPeriodRefunds }

theorem EndpointConfig.SameTerms.trans {first second third : EndpointConfig}
    (left : first.SameTerms second) (right : second.SameTerms third) : first.SameTerms third := by
  unfold EndpointConfig.SameTerms at left right ⊢
  rw [left, right]

theorem EndpointConfig.SameTerms.recipients {left right : EndpointConfig}
    (same : left.SameTerms right) : left.recipients = right.recipients := by
  rw [same]
  rfl

namespace PactRegistry

/-- The configuration in the exposure window of `timestamp`. -/
def rolled (config : EndpointConfig) (timestamp : UInt64) : EndpointConfig :=
  if timestamp.toNat > config.currentPeriodStart.toNat + 3600 then
    { config with currentPeriodStart := timestamp, currentPeriodRefunds := 0 }
  else config

theorem rollPeriod_eq_ok {config result : EndpointConfig} {timestamp : UInt64} :
    rollPeriod config timestamp = .ok result ↔
      config.currentPeriodStart.toNat + 3600 < 2 ^ 64 ∧ result = rolled config timestamp := by
  have hour : (3600 : UInt64).toNat = 3600 := rfl
  simp only [rollPeriod, bind_eq_ok, okOr_eq_ok, checkedAdd_eq_some, hour]
  constructor
  · rintro ⟨periodEnd, sum, rest⟩
    have bound := periodEnd.toNat_lt
    refine ⟨by omega, ?_⟩
    simp only [gt_iff_lt, UInt64.lt_iff_toNat_lt, sum] at rest
    unfold rolled
    split at rest
    case isTrue late =>
      cases rest
      rw [if_pos late]
    case isFalse current =>
      cases rest
      rw [if_neg current]
  · rintro ⟨fits, rfl⟩
    obtain ⟨periodEnd, found⟩ := checkedAdd_isSome config.currentPeriodStart 3600 fits
    have sum := checkedAdd_eq_some.mp found
    refine ⟨periodEnd, sum, ?_⟩
    simp only [gt_iff_lt, UInt64.lt_iff_toNat_lt, sum, hour]
    unfold rolled
    split <;> rfl

@[simp] theorem rolled_totalCalls (config : EndpointConfig) (timestamp : UInt64) :
    (rolled config timestamp).totalCalls = config.totalCalls := by
  unfold rolled
  split <;> rfl

@[simp] theorem rolled_totalBreaches (config : EndpointConfig) (timestamp : UInt64) :
    (rolled config timestamp).totalBreaches = config.totalBreaches := by
  unfold rolled
  split <;> rfl

@[simp] theorem rolled_totalPremiums (config : EndpointConfig) (timestamp : UInt64) :
    (rolled config timestamp).totalPremiums = config.totalPremiums := by
  unfold rolled
  split <;> rfl

theorem counters_rolled (config : EndpointConfig) (timestamp : UInt64) :
    (rolled config timestamp).counters = config.counters.roll timestamp.toNat := by
  unfold rolled Settlement.Endpoint.roll
  by_cases late : timestamp.toNat > config.currentPeriodStart.toNat + 3600
  · have late' : (timestamp.toNat : Int) > config.counters.periodStart + 3600 := by
      simp only [EndpointConfig.counters]
      omega
    rw [if_pos late, if_pos late']
    rfl
  · have current : ¬(timestamp.toNat : Int) > config.counters.periodStart + 3600 := by
      simp only [EndpointConfig.counters]
      omega
    rw [if_neg late, if_neg current]

theorem sameTerms_rolled (config : EndpointConfig) (timestamp totalCalls totalBreaches
    totalPremiums currentPeriodRefunds : UInt64) :
    { rolled config timestamp with
      totalCalls, totalBreaches, totalPremiums, currentPeriodRefunds }.SameTerms config := by
  unfold rolled
  split <;> rfl

theorem toNat_clampRefund (config : EndpointConfig) (intendedRefund : UInt64) :
    (clampRefund config intendedRefund).toNat =
      config.counters.payable intendedRefund.toNat := by
  have remaining : (if config.exposureCapPerHour > config.currentPeriodRefunds then
      config.exposureCapPerHour - config.currentPeriodRefunds else 0).toNat =
        config.exposureCapPerHour.toNat - config.currentPeriodRefunds.toNat := by
    split
    case isTrue free =>
      exact UInt64.toNat_sub_of_le _ _ (UInt64.le_of_lt free)
    case isFalse used =>
      rw [gt_iff_lt, UInt64.lt_iff_toNat_lt] at used
      rw [UInt64.toNat_zero]
      omega
  simp only [clampRefund, Settlement.Endpoint.payable, EndpointConfig.counters]
  generalize (if config.exposureCapPerHour > config.currentPeriodRefunds then
    config.exposureCapPerHour - config.currentPeriodRefunds else 0) = capRemaining at remaining ⊢
  rw [← remaining]
  simp only [gt_iff_lt, UInt64.lt_iff_toNat_lt, UInt64.toNat_zero]
  split
  case isTrue positive =>
    split
    case isTrue clamped => exact (Nat.min_eq_right (Nat.le_of_lt clamped)).symm
    case isFalse within => exact (Nat.min_eq_left (Nat.le_of_not_lt within)).symm
  case isFalse none_ => omega

theorem rolled_count (config : EndpointConfig) (timestamp totalCalls totalBreaches
    totalPremiums : UInt64) :
    rolled { config with totalCalls, totalBreaches, totalPremiums } timestamp =
      { rolled config timestamp with totalCalls, totalBreaches, totalPremiums } := by
  unfold rolled
  split <;> rfl

theorem countBreach_eq_ok {totalBreaches result : UInt64} {breach : Bool} :
    countBreach totalBreaches breach = .ok result ↔
      result.toNat = totalBreaches.toNat + breach.toNat := by
  cases breach with
  | false =>
      rw [countBreach, if_neg (by decide), Except.ok.injEq, ← UInt64.toNat_inj]
      exact eq_comm
  | true => exact ckAdd_eq_ok

theorem accrueRefund_eq_ok {currentPeriodRefunds payableRefund result : UInt64} :
    accrueRefund currentPeriodRefunds payableRefund = .ok result ↔
      result.toNat = currentPeriodRefunds.toNat + payableRefund.toNat := by
  unfold accrueRefund
  split
  case isTrue positive => exact ckAdd_eq_ok
  case isFalse none_ =>
    rw [gt_iff_lt, uint64_pos_iff] at none_
    rw [Except.ok.injEq, ← UInt64.toNat_inj]
    omega

theorem recordCallAndCapAccrual_spec {registry result : PactRegistry} {sender : Address}
    {timestamp premium intendedRefund payableRefund : UInt64} {slug : Slug} {breach : Bool}
    (fees : List Nat)
    (recorded : registry.recordCallAndCapAccrual sender timestamp slug premium breach
      intendedRefund = .ok (result, payableRefund)) :
    let window := (registry.endpoints slug).counters.roll timestamp.toNat
    payableRefund.toNat = window.payable intendedRefund.toNat ∧
      ∃ config, result = registry.setEndpoint slug config ∧
        config.SameTerms (registry.endpoints slug) ∧
        config.counters = window.record ⟨premium.toNat, intendedRefund.toNat, breach, fees⟩
          payableRefund.toNat := by
  intro window
  have one : (1 : UInt64).toNat = 1 := rfl
  simp only [recordCallAndCapAccrual, bind_eq_ok, onlyRole, failIf_eq_ok, exists_const,
    ckAdd_eq_ok, countBreach_eq_ok, accrueRefund_eq_ok, rollPeriod_eq_ok, Except.ok.injEq,
    Prod.mk.injEq, rolled_count, toNat_clampRefund, one] at recorded
  obtain ⟨-, -, calls, countCall, premiums, countPremium, breaches, countBreach, -, ⟨-, rfl⟩,
    periodRefunds, accrued, rfl, rfl⟩ := recorded
  have windowed : (rolled (registry.endpoints slug) timestamp).counters = window :=
    counters_rolled _ _
  have clamped : (clampRefund { rolled (registry.endpoints slug) timestamp with
      totalCalls := calls, totalBreaches := breaches, totalPremiums := premiums }
      intendedRefund).toNat = window.payable intendedRefund.toNat := by
    rw [toNat_clampRefund, ← windowed]
    rfl
  refine ⟨?_, _, rfl, sameTerms_rolled _ _ _ _ _ _, ?_⟩
  · rw [rolled_count, clamped]
  · rw [rolled_count, clamped, ← windowed]
    ext
    · rfl
    · rfl
    · exact accrued
    · simp [EndpointConfig.counters, Settlement.Endpoint.record, countCall]
    · simp [EndpointConfig.counters, Settlement.Endpoint.record, countBreach]
    · simp [EndpointConfig.counters, Settlement.Endpoint.record, countPremium]
    · rfl

theorem recordRefundPaid_spec {registry result : PactRegistry} {sender : Address} {slug : Slug}
    {actualRefund : UInt64}
    (recorded : registry.recordRefundPaid sender slug actualRefund = .ok result) :
    ∃ config, result = registry.setEndpoint slug config ∧
      config.SameTerms (registry.endpoints slug) ∧
      config.counters = (registry.endpoints slug).counters.pay actualRefund.toNat := by
  simp only [recordRefundPaid, bind_eq_ok, onlyRole, failIf_eq_ok, exists_const, ckAdd_eq_ok,
    Except.ok.injEq] at recorded
  obtain ⟨-, -, total, sum, rfl⟩ := recorded
  refine ⟨_, rfl, rfl, ?_⟩
  simp only [EndpointConfig.counters, Settlement.Endpoint.pay, sum]

end PactRegistry

/-! ## Pool ledgers -/

namespace PactPool

section Specs

variable {τ : Type} {usdc : Erc20 τ} {deployment : Deployment} {world result : World τ}
  {sender : Address} {slug : Slug} {amount : UInt64}

theorem topUp_spec {timestamp : UInt64}
    (added : topUp usdc deployment world sender timestamp slug amount = .ok result) :
    sender = world.registry.authority ∧ world.registry.registered slug = true ∧
      ∃ token state, usdc.transferFrom world.token deployment.pool sender deployment.pool
        amount.toNat = some token ∧
      result = { world with token, pool := world.pool.setPool slug state } ∧
      state.ledger = { (world.pool.pools slug).ledger with
        balance := (world.pool.pools slug).ledger.balance + amount.toNat
        deposits := (world.pool.pools slug).ledger.deposits + amount.toNat } := by
  simp only [topUp, bind_eq_ok, failIf_eq_ok, exists_const, okOr_eq_ok, ckAdd_eq_ok,
    Except.ok.injEq] at added
  obtain ⟨authorized, registered, token, moved, balance, sum, deposits, total, rfl⟩ := added
  refine ⟨by simpa using authorized, by simpa using registered, token, _, moved, rfl, ?_⟩
  simp only [PoolState.ledger, sum, total]

theorem creditPremium_spec
    (credited : creditPremium world sender slug amount = .ok result) :
    ∃ state, result = { world with pool := world.pool.setPool slug state } ∧
      state.ledger = { (world.pool.pools slug).ledger with
        balance := (world.pool.pools slug).ledger.balance + amount.toNat
        premiums := (world.pool.pools slug).ledger.premiums + amount.toNat } := by
  simp only [creditPremium, bind_eq_ok, onlyRole, failIf_eq_ok, exists_const, ckAdd_eq_ok,
    Except.ok.injEq] at credited
  obtain ⟨-, -, balance, sum, premiums, total, rfl⟩ := credited
  refine ⟨_, rfl, ?_⟩
  simp only [PoolState.ledger, sum, total]

theorem debitForFees_spec (debited : debitForFees world sender slug amount = .ok result) :
    amount.toNat ≤ (world.pool.pools slug).ledger.balance ∧
      ∃ state, result = { world with pool := world.pool.setPool slug state } ∧
      state.ledger = { (world.pool.pools slug).ledger with
        balance := (world.pool.pools slug).ledger.balance - amount.toNat } := by
  simp only [debitForFees, bind_eq_ok, onlyRole, failIf_eq_ok, exists_const, ckSub_eq_ok,
    Except.ok.injEq] at debited
  obtain ⟨-, -, balance, difference, rfl⟩ := debited
  refine ⟨?_, _, rfl, ?_⟩
  · simp only [PoolState.ledger]
    omega
  · simp only [PoolState.ledger, difference, Nat.add_sub_cancel]

theorem debitForRefund_spec (debited : debitForRefund world sender slug amount = .ok result) :
    amount.toNat ≤ (world.pool.pools slug).ledger.balance ∧
      ∃ state, result = { world with pool := world.pool.setPool slug state } ∧
      state.ledger = (world.pool.pools slug).ledger.pay amount.toNat := by
  simp only [debitForRefund, bind_eq_ok, onlyRole, failIf_eq_ok, exists_const, ckSub_eq_ok,
    ckAdd_eq_ok, Except.ok.injEq] at debited
  obtain ⟨-, -, balance, difference, refunds, total, rfl⟩ := debited
  refine ⟨?_, _, rfl, ?_⟩
  · simp only [PoolState.ledger]
    omega
  · simp only [PoolState.ledger, Settlement.Pool.pay, difference, total, Nat.add_sub_cancel]

theorem payout_spec {target : Address}
    (paid : payout usdc deployment world sender target amount = .ok result) :
    world.pool.settlerRole sender = true ∧ ∃ token,
      usdc.transfer world.token deployment.pool target amount.toNat = some token ∧
      result = { world with token } := by
  simp only [payout, bind_eq_ok, onlyRole, failIf_eq_ok, exists_const, okOr_eq_ok,
    Except.ok.injEq] at paid
  obtain ⟨allowed, token, moved, rfl⟩ := paid
  exact ⟨by simpa using allowed, token, moved, rfl⟩

end Specs

end PactPool

/-! ## One settled event -/

@[simp] theorem PactPool.pools_setPool (pool : PactPool) (slug : Slug) (state : PoolState) :
    (pool.setPool slug state).pools slug = state := Function.update_self _ _ _

@[simp] theorem PactPool.setPool_setPool (pool : PactPool) (slug : Slug)
    (first second : PoolState) :
    (pool.setPool slug first).setPool slug second = pool.setPool slug second := by
  simp [PactPool.setPool]

@[simp] theorem PactRegistry.endpoints_setEndpoint (registry : PactRegistry) (slug : Slug)
    (config : EndpointConfig) : (registry.setEndpoint slug config).endpoints slug = config :=
  Function.update_self _ _ _

@[simp] theorem PactRegistry.setEndpoint_setEndpoint (registry : PactRegistry) (slug : Slug)
    (first second : EndpointConfig) :
    (registry.setEndpoint slug first).setEndpoint slug second =
      registry.setEndpoint slug second := by
  simp [PactRegistry.setEndpoint]

def feeShares (premium : UInt64) (recipients : List FeeRecipient) : List (Address × UInt64) :=
  (recipients.map fun recipient =>
    (recipient.destination, PactSettler.feeAmount premium recipient.bps)).filter
      fun share => share.2 ≠ 0

def amounts (payouts : List (Address × UInt64)) : List Nat :=
  payouts.map fun payout => payout.2.toNat

def SettlementEvent.call (event : SettlementEvent) (fees : List (Address × UInt64)) :
    Settlement.Call where
  premium := event.premium.toNat
  refund := event.refund.toNat
  breach := event.breach
  fees := amounts fees

section Settle

variable {τ : Type} (usdc : Erc20 τ) (deployment : Deployment)

def payAll (token : τ) (payouts : List (Address × UInt64)) : Option τ :=
  payouts.foldlM (fun token payout =>
    usdc.transfer token deployment.pool payout.1 payout.2.toNat) token

/-- Everything a settled event did. The token moves are those of `_settleSuccess`,
after the premium came in. -/
structure Settled (before after : World τ) (timestamp : UInt64) (event : SettlementEvent)
    (config : EndpointConfig) (receipt : Receipt) (outcome : Settlement.Outcome) : Prop where
  outcome_eq : outcome = Settlement.settle (before.pool.pools event.endpointSlug).ledger
    (before.registry.endpoints event.endpointSlug).counters timestamp.toNat
    (event.call receipt.fees)
  fees : receipt.fees = feeShares event.premium config.recipients
  debited : receipt.feesDebited.toNat = (amounts receipt.fees).sum
  covered : (amounts receipt.fees).sum ≤
    (before.pool.pools event.endpointSlug).ledger.balance + event.premium.toNat
  log : receipt.log = event.log receipt.log.actualRefund outcome.status
  refund : receipt.log.actualRefund.toNat = outcome.refund
  pool : ∃ state, after.pool = before.pool.setPool event.endpointSlug state ∧
    state.ledger = outcome.pool
  registry : ∃ stored, after.registry = before.registry.setEndpoint event.endpointSlug stored ∧
    stored.SameTerms (before.registry.endpoints event.endpointSlug) ∧
    stored.counters = outcome.endpoint
  settler : after.settler = before.settler
  token : ∃ middle, payAll usdc deployment before.token receipt.fees = some middle ∧
    ((receipt.log.actualRefund = 0 ∧ after.token = middle) ∨
      usdc.transfer middle deployment.pool event.agent receipt.log.actualRefund.toNat =
        some after.token)

variable {usdc deployment}

theorem PactSettler.payFees_spec {premium total resultTotal : UInt64}
    {recipients : List FeeRecipient} {world result : World τ}
    {paid resultPaid : List (Address × UInt64)}
    (finished : payFees usdc deployment premium recipients world total paid =
      .ok (result, resultTotal, resultPaid)) :
    resultPaid = paid ++ feeShares premium recipients ∧
      resultTotal.toNat = total.toNat + (amounts (feeShares premium recipients)).sum ∧
      ∃ token, payAll usdc deployment world.token (feeShares premium recipients) = some token ∧
        result = { world with token } := by
  induction recipients generalizing world total paid with
  | nil =>
      simp only [payFees, Except.ok.injEq, Prod.mk.injEq] at finished
      obtain ⟨rfl, rfl, rfl⟩ := finished
      exact ⟨(List.append_nil _).symm, rfl, world.token, rfl, rfl⟩
  | cons recipient rest ih =>
      unfold payFees at finished
      by_cases empty : feeAmount premium recipient.bps = 0
      · rw [if_pos empty] at finished
        have skipped : feeShares premium (recipient :: rest) = feeShares premium rest := by
          simp [feeShares, empty]
        rw [skipped]
        exact ih finished
      · rw [if_neg empty] at finished
        simp only [bind_eq_ok, ckAdd_eq_ok] at finished
        obtain ⟨middle, paidOne, sum, total', rest'⟩ := finished
        obtain ⟨-, token, moved, rfl⟩ := PactPool.payout_spec paidOne
        obtain ⟨list, number, final, moves, same⟩ := ih rest'
        have kept : feeShares premium (recipient :: rest) =
            (recipient.destination, feeAmount premium recipient.bps) ::
              feeShares premium rest := by
          simp [feeShares, empty]
        rw [kept]
        refine ⟨by rw [list, List.append_assoc]; rfl, ?_, final, ?_, same⟩
        · rw [number, total']
          simp only [amounts, List.map_cons, List.sum_cons]
          omega
        · simp only [payAll, List.foldlM_cons, moved]
          exact moves

theorem PactSettler.debitFees_spec {world result : World τ} {slug : Slug} {total : UInt64}
    (debited : debitFees deployment world slug total = .ok result) :
    total.toNat ≤ (world.pool.pools slug).ledger.balance ∧
      ∃ state, result = { world with pool := world.pool.setPool slug state } ∧
        state.ledger = { (world.pool.pools slug).ledger with
          balance := (world.pool.pools slug).ledger.balance - total.toNat } := by
  unfold debitFees at debited
  split at debited
  case isTrue positive => exact PactPool.debitForFees_spec debited
  case isFalse none_ =>
    rw [gt_iff_lt, uint64_pos_iff] at none_
    cases debited
    have zero : total.toNat = 0 := by omega
    refine ⟨by omega, world.pool.pools slug, ?_, ?_⟩
    · simp [PactPool.setPool]
    · rw [zero, Nat.sub_zero]

theorem PactSettler.payRefund_spec {world result : World τ} {event : SettlementEvent}
    {payable actual : UInt64} {status resultStatus : Settlement.Status}
    (finished : payRefund usdc deployment world event payable status =
      .ok (result, actual, resultStatus)) :
    let ledger := (world.pool.pools event.endpointSlug).ledger
    (ledger.balance < payable.toNat ∧ actual = 0 ∧ resultStatus = .poolDepleted ∧
        result = world) ∨
      (payable.toNat ≤ ledger.balance ∧ actual = payable ∧ resultStatus = status ∧
        ∃ token state, result =
            { world with token, pool := world.pool.setPool event.endpointSlug state } ∧
          state.ledger = ledger.pay payable.toNat ∧
          ((payable = 0 ∧ token = world.token) ∨
            usdc.transfer world.token deployment.pool event.agent payable.toNat =
              some token)) := by
  intro ledger
  unfold payRefund at finished
  split at finished
  case isTrue positive =>
    simp only [PactPool.balanceOf, bind_eq_ok, failIf_eq_ok, exists_const,
      Except.ok.injEq] at finished
    obtain ⟨state, ⟨-, rfl⟩, rest⟩ := finished
    split at rest
    case isTrue short =>
      cases rest
      exact .inl ⟨UInt64.lt_iff_toNat_lt.mp short, rfl, rfl, rfl⟩
    case isFalse covered =>
      simp only [bind_eq_ok, Except.ok.injEq, Prod.mk.injEq] at rest
      obtain ⟨paid, payout, debited, debit, rfl, rfl, rfl⟩ := rest
      obtain ⟨-, token, moved, rfl⟩ := PactPool.payout_spec payout
      obtain ⟨bound, state, rfl, total⟩ := PactPool.debitForRefund_spec debit
      exact .inr ⟨bound, rfl, rfl, token, state, rfl, total, .inr moved⟩
  case isFalse none_ =>
    rw [gt_iff_lt, uint64_pos_iff] at none_
    cases finished
    have zero : payable = 0 := UInt64.toNat_inj.mp (by rw [UInt64.toNat_zero]; omega)
    subst zero
    refine .inr ⟨Nat.zero_le _, rfl, rfl, world.token,
      world.pool.pools event.endpointSlug, ?_, ?_, .inl ⟨rfl, rfl⟩⟩
    · simp [PactPool.setPool]
    · simp [Settlement.Pool.pay, ledger]

theorem PactSettler.recordRefund_spec {world result : World τ} {slug : Slug} {actual : UInt64}
    (recorded : recordRefund deployment world slug actual = .ok result) :
    ∃ config, result = { world with registry := world.registry.setEndpoint slug config } ∧
      config.SameTerms (world.registry.endpoints slug) ∧
      config.counters = (world.registry.endpoints slug).counters.pay actual.toNat := by
  unfold recordRefund at recorded
  split at recorded
  case isTrue positive =>
    simp only [bind_eq_ok, Except.ok.injEq] at recorded
    obtain ⟨registry, counted, rfl⟩ := recorded
    obtain ⟨config, rfl, terms, counters⟩ := PactRegistry.recordRefundPaid_spec counted
    exact ⟨config, rfl, terms, counters⟩
  case isFalse none_ =>
    rw [gt_iff_lt, uint64_pos_iff] at none_
    cases recorded
    have zero : actual.toNat = 0 := by omega
    refine ⟨world.registry.endpoints slug, ?_, rfl, ?_⟩
    · simp [PactRegistry.setEndpoint]
    · rw [zero]
      rfl

theorem PactSettler.settleSuccess_spec {before after : World τ} {timestamp : UInt64}
    {event : SettlementEvent} {config : EndpointConfig} {receipt : Receipt}
    (finished : settleSuccess usdc deployment before timestamp event config =
      .ok (after, receipt)) :
    ∃ outcome, Settled usdc deployment before after timestamp event config receipt outcome := by
  simp only [settleSuccess, bind_eq_ok, Prod.exists, Except.ok.injEq, Prod.mk.injEq] at finished
  obtain ⟨credited, credit, registry, payable, record, paid, total, fees, payFees, debited,
    debit, refunded, actual, status, payRefund, final, recordRefund, rfl, rfl⟩ := finished
  obtain ⟨creditState, rfl, creditLedger⟩ := PactPool.creditPremium_spec credit
  obtain ⟨clamped, counted, rfl, countTerms, counters⟩ :=
    PactRegistry.recordCallAndCapAccrual_spec
      (amounts (feeShares event.premium config.recipients)) record
  obtain ⟨rfl, sum, middle, moves, rfl⟩ := PactSettler.payFees_spec payFees
  obtain ⟨covered, debitState, rfl, debitLedger⟩ := PactSettler.debitFees_spec debit
  obtain ⟨stored, rfl, storedTerms, storedCounters⟩ := PactSettler.recordRefund_spec recordRefund
  clear credit record payFees debit recordRefund
  simp only [PactPool.pools_setPool, PactPool.setPool_setPool, UInt64.toNat_zero, Nat.zero_add,
    List.nil_append] at *
  have collected : debitState.ledger = (before.pool.pools event.endpointSlug).ledger.collect
      (event.call (feeShares event.premium config.recipients)) := by
    rw [debitLedger, creditLedger, sum]
    rfl
  have within : (amounts (feeShares event.premium config.recipients)).sum ≤
      (before.pool.pools event.endpointSlug).ledger.balance + event.premium.toNat := by
    rw [← sum]
    exact covered.trans (Nat.le_of_eq (congrArg Settlement.Pool.balance creditLedger))
  rcases PactSettler.payRefund_spec payRefund with
    ⟨short, rfl, rfl, rfl⟩ | ⟨enough, rfl, rfl, token, state, rfl, paidLedger, moved⟩
  · simp only [PactPool.pools_setPool, PactRegistry.endpoints_setEndpoint, collected, clamped]
      at short storedTerms storedCounters
    exact ⟨_, {
      outcome_eq := (Settlement.settle_of_short short).symm
      fees := rfl
      debited := sum
      covered := within
      log := rfl
      refund := rfl
      pool := ⟨debitState, rfl, collected⟩
      registry := ⟨stored, PactRegistry.setEndpoint_setEndpoint .., storedTerms.trans countTerms,
        by rw [storedCounters, counters, clamped]; rfl⟩
      settler := rfl
      token := ⟨middle, moves, .inl ⟨rfl, rfl⟩⟩ }⟩
  · simp only [PactPool.pools_setPool, PactRegistry.endpoints_setEndpoint,
      collected] at enough storedTerms storedCounters paidLedger
    exact ⟨_, {
      outcome_eq := (Settlement.settle_of_covered clamped enough).symm
      fees := rfl
      debited := sum
      covered := within
      log := by simp only [UInt64.lt_iff_toNat_lt]; rfl
      refund := rfl
      pool := ⟨state, PactPool.setPool_setPool .., paidLedger⟩
      registry := ⟨stored, PactRegistry.setEndpoint_setEndpoint .., storedTerms.trans countTerms,
        by rw [storedCounters, counters]; rfl⟩
      settler := rfl
      token := ⟨middle, moves, moved⟩ }⟩

theorem PactSettler.settleEvent_spec {before after : World τ} {timestamp : UInt64}
    {event : SettlementEvent} {receipt : Receipt}
    (settled : settleEvent usdc deployment before timestamp event = .ok (after, receipt)) :
    checkEvent before timestamp event =
        .ok (before.registry.endpoints event.endpointSlug) ∧
      ((usdc.transferFrom before.token deployment.settler event.agent deployment.pool
            event.premium.toNat = none ∧
          after = markSettled before event.callId ∧
          receipt = ⟨event.log 0 .delegateFailed, [], 0⟩) ∨
        ∃ token outcome, usdc.transferFrom before.token deployment.settler event.agent
            deployment.pool event.premium.toNat = some token ∧
          Settled usdc deployment
            ⟨token, before.registry, before.pool, (markSettled before event.callId).settler⟩
            after timestamp event (before.registry.endpoints event.endpointSlug) receipt
            outcome) := by
  simp only [settleEvent, bind_eq_ok] at settled
  obtain ⟨config, checked, rest⟩ := settled
  have snapshot : config = before.registry.endpoints event.endpointSlug := by
    simp only [checkEvent, bind_eq_ok, failIf_eq_ok, exists_const, Except.ok.injEq] at checked
    obtain ⟨-, -, -, -, -, -, same⟩ := checked
    exact same.symm
  subst snapshot
  refine ⟨checked, ?_⟩
  cases pulled : usdc.transferFrom before.token deployment.settler event.agent deployment.pool
      event.premium.toNat with
  | none =>
      simp only [markSettled, pulled, Except.ok.injEq, Prod.mk.injEq] at rest
      exact .inl ⟨rfl, rest.1.symm, rest.2.symm⟩
  | some token =>
      simp only [markSettled, pulled] at rest
      obtain ⟨outcome, effect⟩ := settleSuccess_spec rest
      exact .inr ⟨token, outcome, rfl, effect⟩

end Settle

end PactNetwork.Evm
