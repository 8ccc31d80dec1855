import Mathlib.Algebra.BigOperators.Group.List.Basic
import Mathlib.Tactic.Ring

/-!
# Settling one covered call

What the protocol does with one call whose premium was collected, over natural
numbers and away from any chain: the pool takes the premium and pays the fees,
the endpoint counts the call and reserves the refund under its hourly cap, and
the pool pays the reserved refund if it can.
-/

set_option autoImplicit false

namespace PactNetwork.Settlement

inductive Status where
  | settled
  | delegateFailed
  | poolDepleted
  | exposureCapClamped
  deriving DecidableEq, Repr

@[ext] structure Pool where
  deposits : Nat
  premiums : Nat
  refunds : Nat
  balance : Nat
  deriving DecidableEq

/-- The counters of one endpoint and its hourly exposure window. -/
@[ext] structure Endpoint where
  cap : Nat
  periodStart : Int
  periodRefunds : Nat
  calls : Nat
  breaches : Nat
  premiums : Nat
  refunds : Nat
  deriving DecidableEq

/-- A call to settle, with the fee owed to each recipient in order. -/
structure Call where
  premium : Nat
  refund : Nat
  breach : Bool
  fees : List Nat

def feeOf (premium bps : Nat) : Nat := premium * bps / 10000

/-! ## The endpoint -/

namespace Endpoint

def roll (endpoint : Endpoint) (now : Int) : Endpoint :=
  if now > endpoint.periodStart + 3600 then
    { endpoint with periodStart := now, periodRefunds := 0 }
  else endpoint

def payable (endpoint : Endpoint) (refund : Nat) : Nat :=
  min refund (endpoint.cap - endpoint.periodRefunds)

/-- Count a call and reserve `reserved` in the current window. -/
def record (endpoint : Endpoint) (call : Call) (reserved : Nat) : Endpoint :=
  { endpoint with
    calls := endpoint.calls + 1
    premiums := endpoint.premiums + call.premium
    breaches := endpoint.breaches + call.breach.toNat
    periodRefunds := endpoint.periodRefunds + reserved }

def pay (endpoint : Endpoint) (refund : Nat) : Endpoint :=
  { endpoint with refunds := endpoint.refunds + refund }

end Endpoint

/-! ## The pool -/

namespace Pool

def collect (pool : Pool) (call : Call) : Pool :=
  { pool with
    balance := pool.balance + call.premium - call.fees.sum
    premiums := pool.premiums + call.premium }

def pay (pool : Pool) (refund : Nat) : Pool :=
  { pool with balance := pool.balance - refund, refunds := pool.refunds + refund }

def Balanced (pool : Pool) (fees : Nat) : Prop :=
  pool.balance + pool.refunds + fees = pool.deposits + pool.premiums

end Pool

/-! ## Settling -/

@[ext] structure Outcome where
  status : Status
  refund : Nat
  pool : Pool
  endpoint : Endpoint
  deriving DecidableEq

def settle (pool : Pool) (endpoint : Endpoint) (now : Int) (call : Call) : Outcome :=
  let rolled := endpoint.roll now
  let payable := rolled.payable call.refund
  let recorded := rolled.record call payable
  let collected := pool.collect call
  if collected.balance < payable then
    ⟨.poolDepleted, 0, collected, recorded⟩
  else
    ⟨if payable < call.refund then .exposureCapClamped else .settled, payable,
      collected.pay payable, recorded.pay payable⟩

section Settle

variable {pool : Pool} {endpoint : Endpoint} {now : Int} {call : Call}

theorem settle_of_short
    (short : (pool.collect call).balance < (endpoint.roll now).payable call.refund) :
    settle pool endpoint now call = ⟨.poolDepleted, 0, pool.collect call,
      (endpoint.roll now).record call ((endpoint.roll now).payable call.refund)⟩ := if_pos short

theorem settle_of_covered {due : Nat} (payable : due = (endpoint.roll now).payable call.refund)
    (covered : due ≤ (pool.collect call).balance) :
    settle pool endpoint now call =
      ⟨if due < call.refund then .exposureCapClamped else .settled, due,
        (pool.collect call).pay due, ((endpoint.roll now).record call due).pay due⟩ := by
  subst payable
  exact if_neg (Nat.not_lt.mpr covered)

theorem settle_pool (pool : Pool) (endpoint : Endpoint) (now : Int) (call : Call) :
    (settle pool endpoint now call).pool =
        (pool.collect call).pay (settle pool endpoint now call).refund ∧
      (settle pool endpoint now call).refund ≤ (pool.collect call).balance := by
  rcases Nat.lt_or_ge (pool.collect call).balance
    ((endpoint.roll now).payable call.refund) with short | covered
  · rw [settle_of_short short]
    exact ⟨rfl, Nat.zero_le _⟩
  · rw [settle_of_covered rfl covered]
    exact ⟨rfl, covered⟩

theorem settle_balance (pool : Pool) (endpoint : Endpoint) (now : Int) (call : Call)
    (covered : call.fees.sum ≤ pool.balance + call.premium) :
    (settle pool endpoint now call).pool.balance +
        (call.fees.sum + (settle pool endpoint now call).refund) =
      pool.balance + call.premium := by
  obtain ⟨paid, bound⟩ := settle_pool pool endpoint now call
  rw [paid]
  simp only [Pool.pay, Pool.collect] at bound ⊢
  omega

theorem settle_endpoint_refunds (pool : Pool) (endpoint : Endpoint) (now : Int) (call : Call) :
    (settle pool endpoint now call).endpoint.refunds =
      endpoint.refunds + (settle pool endpoint now call).refund := by
  have rolled : (endpoint.roll now).refunds = endpoint.refunds := by
    unfold Endpoint.roll
    split <;> rfl
  rcases Nat.lt_or_ge (pool.collect call).balance
    ((endpoint.roll now).payable call.refund) with short | covered
  · rw [settle_of_short short]
    exact rolled
  · rw [settle_of_covered rfl covered]
    exact congrArg (· + _) rolled

theorem Pool.Balanced.collect {fees : Nat} (balanced : pool.Balanced fees)
    (covered : call.fees.sum ≤ pool.balance + call.premium) :
    (pool.collect call).Balanced (fees + call.fees.sum) := by
  simp only [Pool.Balanced, Pool.collect] at balanced ⊢
  omega

theorem Pool.Balanced.pay {fees refund : Nat} (balanced : pool.Balanced fees)
    (covered : refund ≤ pool.balance) : (pool.pay refund).Balanced fees := by
  simp only [Pool.Balanced, Pool.pay] at balanced ⊢
  omega

theorem settle_balanced {fees : Nat} (balanced : pool.Balanced fees)
    (covered : call.fees.sum ≤ pool.balance + call.premium) :
    (settle pool endpoint now call).pool.Balanced (fees + call.fees.sum) := by
  obtain ⟨paid, bound⟩ := settle_pool pool endpoint now call
  rw [paid]
  exact (balanced.collect covered).pay bound

theorem settle_status (pool : Pool) (endpoint : Endpoint) (now : Int) (call : Call) :
    let rolled := endpoint.roll now
    let outcome := settle pool endpoint now call
    outcome.refund ≤ call.refund ∧ outcome.status ≠ .delegateFailed ∧
      (outcome.status = .settled → outcome.refund = call.refund) ∧
      (outcome.status = .exposureCapClamped →
        outcome.refund < call.refund ∧ outcome.refund = rolled.cap - rolled.periodRefunds) ∧
      (outcome.status = .poolDepleted → outcome.refund = 0 ∧
        (pool.collect call).balance < rolled.payable call.refund) := by
  intro rolled outcome
  have bound : rolled.payable call.refund ≤ call.refund := Nat.min_le_left _ _
  rcases Nat.lt_or_ge (pool.collect call).balance
    ((endpoint.roll now).payable call.refund) with short | covered
  · simp only [outcome, settle_of_short short]
    exact ⟨Nat.zero_le _, nofun, nofun, nofun, fun _ => ⟨trivial, short⟩⟩
  · simp only [outcome, settle_of_covered rfl covered]
    by_cases clamped : rolled.payable call.refund < call.refund
    · have cap : rolled.payable call.refund = rolled.cap - rolled.periodRefunds := by
        unfold Endpoint.payable at clamped ⊢
        omega
      rw [if_pos clamped]
      exact ⟨bound, nofun, nofun, fun _ => ⟨clamped, cap⟩, nofun⟩
    · rw [if_neg clamped]
      exact ⟨bound, nofun, fun _ => Nat.le_antisymm bound (Nat.le_of_not_lt clamped),
        nofun, nofun⟩

end Settle

/-! ## Fee shares -/

theorem feeOf_le {premium bps : Nat} (share : bps ≤ 10000) : feeOf premium bps ≤ premium := by
  unfold feeOf
  exact Nat.div_le_of_le_mul (by rw [Nat.mul_comm]; exact Nat.mul_le_mul_right _ share)

theorem sum_feeOf_le {premium : Nat} {bps : List Nat} (whole : bps.sum ≤ 10000) :
    (bps.map (feeOf premium)).sum ≤ premium := by
  have scaled : ∀ shares : List Nat,
      (shares.map (feeOf premium)).sum * 10000 ≤ premium * shares.sum := by
    intro shares
    induction shares with
    | nil => simp
    | cons share shares ih =>
        have one : feeOf premium share * 10000 ≤ premium * share := Nat.div_mul_le_self _ _
        simp only [List.map_cons, List.sum_cons, Nat.add_mul, Nat.mul_add]
        exact Nat.add_le_add one ih
  have total := (scaled bps).trans (Nat.mul_le_mul_left premium whole)
  omega

end PactNetwork.Settlement
