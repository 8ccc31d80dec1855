import Mathlib.Algebra.Order.BigOperators.Group.List
import PactNetwork.Settlement.Core
import PactNetwork.Solana.TokenLedger
import PactNetwork.V1.SettleBatch

/-!
# settle_batch settles as the core does

The structs read as the core's ledgers and counters, and the pure steps of an
event as the core's operations on them.
-/

set_option autoImplicit false

namespace PactNetwork.V1

open Solana

/-! ## Structs without machine widths -/

def CoveragePool.ledger (pool : CoveragePool) : Settlement.Pool where
  deposits := pool.totalDeposits.toNat
  premiums := pool.totalPremiums.toNat
  refunds := pool.totalRefunds.toNat
  balance := pool.currentBalance.toNat

def CoveragePool.SameTerms (left right : CoveragePool) : Prop :=
  left = { right with
    totalDeposits := left.totalDeposits
    totalPremiums := left.totalPremiums
    totalRefunds := left.totalRefunds
    currentBalance := left.currentBalance }

theorem CoveragePool.SameTerms.trans {first second third : CoveragePool}
    (left : first.SameTerms second) (right : second.SameTerms third) : first.SameTerms third := by
  unfold CoveragePool.SameTerms at left right ⊢
  rw [left, right]

theorem CoveragePool.SameTerms.usdcVault {left right : CoveragePool}
    (same : left.SameTerms right) : left.usdcVault = right.usdcVault := by rw [same]

def EndpointConfig.counters (endpoint : EndpointConfig) : Settlement.Endpoint where
  cap := endpoint.exposureCapPerHourLamports.toNat
  periodStart := endpoint.currentPeriodStart.toInt
  periodRefunds := endpoint.currentPeriodRefunds.toNat
  calls := endpoint.totalCalls.toNat
  breaches := endpoint.totalBreaches.toNat
  premiums := endpoint.totalPremiums.toNat
  refunds := endpoint.totalRefunds.toNat

/-- The two configurations differ in their counters at most. -/
def EndpointConfig.SameTerms (left right : EndpointConfig) : Prop :=
  left = { right with
    currentPeriodStart := left.currentPeriodStart
    currentPeriodRefunds := left.currentPeriodRefunds
    totalCalls := left.totalCalls
    totalBreaches := left.totalBreaches
    totalPremiums := left.totalPremiums
    totalRefunds := left.totalRefunds }

theorem EndpointConfig.SameTerms.trans {first second third : EndpointConfig}
    (left : first.SameTerms second) (right : second.SameTerms third) : first.SameTerms third := by
  unfold EndpointConfig.SameTerms at left right ⊢
  rw [left, right]

theorem EndpointConfig.SameTerms.recipients {left right : EndpointConfig}
    (same : left.SameTerms right) : left.recipients = right.recipients := by
  rw [same]
  rfl

def SettlementStatus.core : SettlementStatus → Settlement.Status
  | .settled => .settled
  | .delegateFailed => .delegateFailed
  | .poolDepleted => .poolDepleted
  | .exposureCapClamped => .exposureCapClamped

theorem SettlementStatus.toU8_injective {left right : SettlementStatus}
    (same : left.toU8 = right.toU8) : left = right := by
  revert same
  cases left <;> cases right <;> decide

def amounts (payouts : List (Address × UInt64)) : List Nat :=
  payouts.map fun payout => payout.2.toNat

def SettlementEvent.call (event : SettlementEvent) (fees : List (Address × UInt64)) :
    Settlement.Call where
  premium := event.premiumLamports.toNat
  refund := event.refundLamports.toNat
  breach := event.breach != 0
  fees := amounts fees

namespace SettleBatch

def feeShares (premium : UInt64) (recipients : List FeeRecipient) : List (Address × UInt64) :=
  (recipients.map fun recipient =>
    (recipient.destination, feeAmount premium recipient.bps)).filter fun share => share.2 ≠ 0

theorem toNat_feeAmount {premium : UInt64} {bps : UInt16} (share : bps.toNat ≤ 10000) :
    (feeAmount premium bps).toNat = Settlement.feeOf premium.toNat bps.toNat := by
  have bound : Settlement.feeOf premium.toNat bps.toNat ≤ premium.toNat :=
    Settlement.feeOf_le share
  unfold Settlement.feeOf at bound ⊢
  rw [feeAmount, UInt64.toNat_ofNat', Nat.mod_eq_of_lt (bound.trans_lt premium.toNat_lt)]

theorem sum_feeShares {premium : UInt64} {recipients : List FeeRecipient}
    (shares : ∀ recipient ∈ recipients, recipient.bps.toNat ≤ 10000) :
    (amounts (feeShares premium recipients)).sum =
      ((recipients.map fun recipient => recipient.bps.toNat).map
        (Settlement.feeOf premium.toNat)).sum := by
  induction recipients with
  | nil => rfl
  | cons recipient rest ih =>
      have one : (feeAmount premium recipient.bps).toNat = _ :=
        toNat_feeAmount (shares recipient List.mem_cons_self)
      have more := ih fun other member => shares other (List.mem_cons_of_mem _ member)
      simp only [List.map_cons, List.sum_cons, ← one, ← more]
      by_cases empty : feeAmount premium recipient.bps = 0
      · have zero : (feeAmount premium recipient.bps).toNat = 0 := by rw [empty]; rfl
        rw [zero, Nat.zero_add]
        simp [feeShares, empty]
      · simp [feeShares, empty, amounts]

theorem sum_feeShares_le {premium : UInt64} {recipients : List FeeRecipient}
    (whole : (recipients.map fun recipient => recipient.bps.toNat).sum ≤ 10000) :
    (amounts (feeShares premium recipients)).sum ≤ premium.toNat := by
  rw [sum_feeShares]
  · exact Settlement.sum_feeOf_le whole
  · intro recipient member
    exact (List.single_le_sum (fun _ _ => Nat.zero_le _) _ (List.mem_map_of_mem member)).trans whole

/-! ## The pool's steps -/

section Pool

variable {pool result : CoveragePool} {amount : UInt64}

theorem creditPremium_spec (credited : creditPremium pool amount = .ok result) :
    result.SameTerms pool ∧ result.ledger = { pool.ledger with
      balance := pool.ledger.balance + amount.toNat
      premiums := pool.ledger.premiums + amount.toNat } := by
  simp only [creditPremium, bind_eq_ok, okOr_eq_ok, checkedAdd_eq_some, Except.ok.injEq]
    at credited
  obtain ⟨balance, sum, premiums, total, rfl⟩ := credited
  refine ⟨rfl, ?_⟩
  simp only [CoveragePool.ledger, sum, total]

theorem creditPremium_isOk (balance : pool.ledger.balance + amount.toNat < 2 ^ 64)
    (premiums : pool.ledger.premiums + amount.toNat < 2 ^ 64) :
    ∃ result, creditPremium pool amount = .ok result := by
  obtain ⟨currentBalance, sum⟩ := checkedAdd_isSome _ _ balance
  obtain ⟨totalPremiums, total⟩ := checkedAdd_isSome _ _ premiums
  exact ⟨_, by simp only [creditPremium, sum, total, okOr_some, ok_bind]; rfl⟩

theorem debitPool_spec (debited : debitPool pool amount = .ok result) :
    amount.toNat ≤ pool.ledger.balance ∧ result.SameTerms pool ∧
      result.ledger = { pool.ledger with balance := pool.ledger.balance - amount.toNat } := by
  simp only [debitPool, bind_eq_ok, okOr_eq_ok, checkedSub_eq_some, Except.ok.injEq] at debited
  obtain ⟨balance, difference, rfl⟩ := debited
  refine ⟨?_, rfl, ?_⟩
  · simp only [CoveragePool.ledger]
    omega
  · simp only [CoveragePool.ledger, difference, Nat.add_sub_cancel]

theorem debitPool_isOk (covered : amount.toNat ≤ pool.ledger.balance) :
    ∃ result, debitPool pool amount = .ok result := by
  obtain ⟨currentBalance, difference⟩ := checkedSub_isSome _ _ covered
  exact ⟨_, by simp only [debitPool, difference, okOr_some, ok_bind]; rfl⟩

theorem debitRefund_spec (debited : debitRefund pool amount = .ok result) :
    amount.toNat ≤ pool.ledger.balance ∧ result.SameTerms pool ∧
      result.ledger = pool.ledger.pay amount.toNat := by
  simp only [debitRefund, bind_eq_ok, okOr_eq_ok, checkedSub_eq_some, checkedAdd_eq_some,
    Except.ok.injEq] at debited
  obtain ⟨balance, difference, refunds, total, rfl⟩ := debited
  refine ⟨?_, rfl, ?_⟩
  · simp only [CoveragePool.ledger]
    omega
  · simp only [CoveragePool.ledger, Settlement.Pool.pay, difference, total, Nat.add_sub_cancel]

theorem debitRefund_isOk (covered : amount.toNat ≤ pool.ledger.balance)
    (refunds : pool.ledger.refunds + amount.toNat < 2 ^ 64) :
    ∃ result, debitRefund pool amount = .ok result := by
  obtain ⟨currentBalance, difference⟩ := checkedSub_isSome _ _ covered
  obtain ⟨totalRefunds, total⟩ := checkedAdd_isSome _ _ refunds
  exact ⟨_, by simp only [debitRefund, difference, total, okOr_some, ok_bind]; rfl⟩

end Pool

/-! ## The endpoint's steps -/

section Endpoint

variable {endpoint result : EndpointConfig} {now : Int64} {event : SettlementEvent}

/-- The configuration in the exposure window of `now`. -/
def rolled (endpoint : EndpointConfig) (now : Int64) : EndpointConfig :=
  if now.toInt > endpoint.currentPeriodStart.toInt + 3600 then
    { endpoint with currentPeriodStart := now, currentPeriodRefunds := 0 }
  else endpoint

theorem rollPeriod_eq_ok :
    rollPeriod endpoint now = .ok result ↔
      endpoint.currentPeriodStart.toInt + 3600 < 2 ^ 63 ∧ result = rolled endpoint now := by
  unfold rollPeriod rolled
  split
  case isTrue overflow =>
    simp only [reduceCtorEq, false_iff]
    rintro ⟨fits, -⟩
    exact absurd overflow (by omega)
  case isFalse fits =>
    have bound : endpoint.currentPeriodStart.toInt + 3600 < 2 ^ 63 := by omega
    simp only [bound, true_and]
    split <;> exact ⟨fun same => (Except.ok.inj same).symm, fun same => congrArg _ same.symm⟩

theorem counters_rolled (endpoint : EndpointConfig) (now : Int64) :
    (rolled endpoint now).counters = endpoint.counters.roll now.toInt := by
  unfold rolled Settlement.Endpoint.roll
  by_cases late : now.toInt > endpoint.currentPeriodStart.toInt + 3600
  · have late' : now.toInt > endpoint.counters.periodStart + 3600 := late
    rw [if_pos late, if_pos late']
    rfl
  · have current : ¬now.toInt > endpoint.counters.periodStart + 3600 := late
    rw [if_neg late, if_neg current]

theorem sameTerms_rolled (endpoint : EndpointConfig) (now : Int64) (totalCalls totalBreaches
    totalPremiums currentPeriodRefunds : UInt64) :
    { rolled endpoint now with
      totalCalls, totalBreaches, totalPremiums, currentPeriodRefunds }.SameTerms endpoint := by
  unfold rolled
  split <;> rfl

theorem rolled_count (endpoint : EndpointConfig) (now : Int64) (totalCalls totalBreaches
    totalPremiums : UInt64) :
    rolled { endpoint with totalCalls, totalBreaches, totalPremiums } now =
      { rolled endpoint now with totalCalls, totalBreaches, totalPremiums } := by
  unfold rolled
  split <;> rfl

theorem toNat_clampRefund (endpoint : EndpointConfig) (refund : UInt64) :
    (clampRefund endpoint refund).toNat = endpoint.counters.payable refund.toNat := by
  have remaining := toNat_saturatingSub endpoint.exposureCapPerHourLamports
    endpoint.currentPeriodRefunds
  simp only [clampRefund, Settlement.Endpoint.payable, EndpointConfig.counters]
  rw [← remaining]
  simp only [gt_iff_lt, UInt64.lt_iff_toNat_lt, UInt64.toNat_zero]
  split
  case isTrue positive =>
    split
    case isTrue clamped => exact (Nat.min_eq_right (Nat.le_of_lt clamped)).symm
    case isFalse within => exact (Nat.min_eq_left (Nat.le_of_not_lt within)).symm
  case isFalse none_ => omega

theorem countBreach_eq_ok {totalBreaches total : UInt64} {breach : UInt8} :
    countBreach totalBreaches breach = .ok total ↔
      total.toNat = totalBreaches.toNat + (breach != 0).toNat := by
  unfold countBreach
  by_cases calm : breach = 0
  · subst calm
    rw [if_neg (fun different => different rfl), Except.ok.injEq, ← UInt64.toNat_inj]
    exact eq_comm
  · have counted : (breach != 0) = true := by simpa using calm
    rw [if_pos calm, okOr_eq_ok, checkedAdd_eq_some, counted]
    rfl

theorem accrueRefund_eq_ok {currentPeriodRefunds refund total : UInt64} :
    accrueRefund currentPeriodRefunds refund = .ok total ↔
      total.toNat = currentPeriodRefunds.toNat + refund.toNat := by
  unfold accrueRefund
  split
  case isTrue positive => rw [okOr_eq_ok, checkedAdd_eq_some]
  case isFalse none_ =>
    rw [gt_iff_lt, uint64_pos_iff] at none_
    rw [Except.ok.injEq, ← UInt64.toNat_inj]
    omega

theorem accrueRefund_isOk (endpoint : EndpointConfig) (refund : UInt64) :
    ∃ total, accrueRefund endpoint.currentPeriodRefunds (clampRefund endpoint refund) =
      .ok total := by
  have clamped := toNat_clampRefund endpoint refund
  have cap := endpoint.exposureCapPerHourLamports.toNat_lt
  have used := endpoint.currentPeriodRefunds.toNat_lt
  simp only [Settlement.Endpoint.payable, EndpointConfig.counters] at clamped
  obtain ⟨total, sum⟩ := checkedAdd_isSome endpoint.currentPeriodRefunds
    (clampRefund endpoint refund) (by omega)
  exact ⟨total, accrueRefund_eq_ok.mpr (checkedAdd_eq_some.mp sum)⟩

theorem recordCall_spec {refund : UInt64} (fees : List (Address × UInt64))
    (recorded : recordCall endpoint now event = .ok (result, refund)) :
    let window := endpoint.counters.roll now.toInt
    refund.toNat = window.payable event.refundLamports.toNat ∧ result.SameTerms endpoint ∧
      result.counters = window.record (event.call fees) refund.toNat := by
  intro window
  have one : (1 : UInt64).toNat = 1 := rfl
  simp only [recordCall, bind_eq_ok, okOr_eq_ok, checkedAdd_eq_some, countBreach_eq_ok,
    accrueRefund_eq_ok, rollPeriod_eq_ok, Except.ok.injEq, Prod.mk.injEq, rolled_count,
    toNat_clampRefund, one] at recorded
  obtain ⟨calls, countCall, premiums, countPremium, breaches, countBreach, -, ⟨-, rfl⟩,
    periodRefunds, accrued, rfl, rfl⟩ := recorded
  have windowed : (rolled endpoint now).counters = window := counters_rolled _ _
  have clamped : (clampRefund { rolled endpoint now with
      totalCalls := calls, totalBreaches := breaches, totalPremiums := premiums }
      event.refundLamports).toNat = window.payable event.refundLamports.toNat := by
    rw [toNat_clampRefund, ← windowed]
    rfl
  have kept : (rolled endpoint now).totalCalls = endpoint.totalCalls ∧
      (rolled endpoint now).totalBreaches = endpoint.totalBreaches ∧
      (rolled endpoint now).totalPremiums = endpoint.totalPremiums := by
    unfold rolled
    split <;> exact ⟨rfl, rfl, rfl⟩
  refine ⟨clamped, sameTerms_rolled _ _ _ _ _ _, ?_⟩
  rw [clamped, ← windowed]
  ext
  · rfl
  · rfl
  · exact accrued
  · simp [EndpointConfig.counters, Settlement.Endpoint.record, countCall, kept]
  · simp [EndpointConfig.counters, Settlement.Endpoint.record, SettlementEvent.call,
      countBreach, kept]
  · simp [EndpointConfig.counters, Settlement.Endpoint.record, SettlementEvent.call,
      countPremium, kept]
  · rfl

theorem recordCall_ne {refund : UInt64}
    (recorded : recordCall endpoint now event = .ok (result, refund)) : result ≠ endpoint := by
  intro same
  obtain ⟨-, -, counters⟩ := recordCall_spec [] recorded
  have calls := congrArg Settlement.Endpoint.calls counters
  rw [same] at calls
  have kept : (endpoint.counters.roll now.toInt).calls = endpoint.counters.calls := by
    unfold Settlement.Endpoint.roll
    split <;> rfl
  simp only [Settlement.Endpoint.record, kept] at calls
  omega

theorem recordCall_isOk (calls : endpoint.counters.calls + 1 < 2 ^ 64)
    (premiums : endpoint.counters.premiums + event.premiumLamports.toNat < 2 ^ 64)
    (breaches : endpoint.counters.breaches + 1 < 2 ^ 64)
    (period : endpoint.counters.periodStart + 3600 < 2 ^ 63) :
    ∃ result refund, recordCall endpoint now event = .ok (result, refund) := by
  obtain ⟨totalCalls, countCall⟩ := checkedAdd_isSome _ 1 calls
  obtain ⟨totalPremiums, countPremium⟩ := checkedAdd_isSome _ _ premiums
  have breach : ∃ total, countBreach endpoint.totalBreaches event.breach = .ok total := by
    unfold countBreach
    split
    · obtain ⟨total, counted⟩ := checkedAdd_isSome _ 1 breaches
      exact ⟨total, by rw [counted]; rfl⟩
    · exact ⟨_, rfl⟩
  obtain ⟨totalBreaches, countBreach⟩ := breach
  have window : rollPeriod { endpoint with totalCalls, totalPremiums, totalBreaches } now =
      .ok (rolled { endpoint with totalCalls, totalPremiums, totalBreaches } now) :=
    rollPeriod_eq_ok.mpr ⟨period, rfl⟩
  obtain ⟨currentPeriodRefunds, accrued⟩ := accrueRefund_isOk
    (rolled { endpoint with totalCalls, totalPremiums, totalBreaches } now) event.refundLamports
  exact ⟨_, _, by
    simp only [recordCall, countCall, countPremium, okOr_some, ok_bind, countBreach, window,
      accrued]
    rfl⟩

theorem recordRefund_spec {amount : UInt64}
    (recorded : recordRefund endpoint amount = .ok result) :
    result.SameTerms endpoint ∧ result.counters = endpoint.counters.pay amount.toNat := by
  simp only [recordRefund, bind_eq_ok, okOr_eq_ok, checkedAdd_eq_some, Except.ok.injEq] at recorded
  obtain ⟨total, sum, rfl⟩ := recorded
  refine ⟨rfl, ?_⟩
  simp only [EndpointConfig.counters, Settlement.Endpoint.pay, sum]

theorem recordRefund_isOk {amount : UInt64}
    (refunds : endpoint.counters.refunds + amount.toNat < 2 ^ 64) :
    ∃ result, recordRefund endpoint amount = .ok result := by
  obtain ⟨total, sum⟩ := checkedAdd_isSome _ _ refunds
  exact ⟨_, by simp only [recordRefund, sum, okOr_some, ok_bind]; rfl⟩

end Endpoint

end SettleBatch

end PactNetwork.V1
