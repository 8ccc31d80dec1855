import Mathlib.Data.UInt

/-!
# Failing computations and checked machine arithmetic

Inversion lemmas for `Except` programs and the checked operations on 64-bit
counters, each characterized by the natural numbers it computes.
-/

set_option autoImplicit false

namespace PactNetwork

section Except

variable {ε α β : Type}

@[simp] theorem bind_eq_ok (source : Except ε α) (next : α → Except ε β) (result : β) :
    (source >>= next) = .ok result ↔ ∃ value, source = .ok value ∧ next value = .ok result := by
  cases source with
  | error error => simp [bind, Except.bind]
  | ok value => simp [bind, Except.bind]

@[simp] theorem pure_eq_ok (value result : α) :
    (pure value : Except ε α) = .ok result ↔ value = result := by
  simp [pure, Except.pure]

@[simp] theorem ok_bind (value : α) (next : α → Except ε β) :
    ((Except.ok value : Except ε α) >>= next) = next value := rfl

@[simp] theorem error_bind (error : ε) (next : α → Except ε β) :
    ((Except.error error : Except ε α) >>= next) = .error error := rfl

@[simp] theorem map_eq_ok (source : Except ε α) (transform : α → β) (result : β) :
    source.map transform = .ok result ↔ ∃ value, source = .ok value ∧ transform value = result := by
  cases source <;> simp [Except.map]

theorem except_bind_assoc {γ : Type} (source : Except ε α) (next : α → Except ε β)
    (last : β → Except ε γ) :
    ((source >>= next) >>= last) = (source >>= fun value => next value >>= last) := by
  cases source <;> rfl

def failIf (condition : Prop) [Decidable condition] (error : ε) : Except ε Unit :=
  if condition then .error error else .ok ()

@[simp] theorem failIf_eq_ok (condition : Prop) [Decidable condition] (error : ε) (result : Unit) :
    failIf condition error = .ok result ↔ ¬ condition := by
  unfold failIf
  split <;> simp_all

theorem failIf_of_not {condition : Prop} [Decidable condition] {error : ε}
    (passes : ¬ condition) : failIf condition error = .ok () := if_neg passes

theorem failIf_of {condition : Prop} [Decidable condition] {error : ε}
    (fails : condition) : failIf condition error = .error error := if_pos fails

def okOr (value : Option α) (error : ε) : Except ε α :=
  match value with
  | some value => .ok value
  | none => .error error

@[simp] theorem okOr_eq_ok (value : Option α) (error : ε) (result : α) :
    okOr value error = .ok result ↔ value = some result := by
  cases value <;> simp [okOr]

@[simp] theorem okOr_some (value : α) (error : ε) : okOr (some value) error = .ok value := rfl

def accepts (source : Except ε α) : Prop := ∃ value, source = .ok value

instance (source : Except ε α) : Decidable (accepts source) :=
  match source with
  | .ok value => isTrue ⟨value, rfl⟩
  | .error _ => isFalse (by rintro ⟨_, equal⟩; cases equal)

theorem error_of_not_accepts {source : Except ε α} (rejected : ¬accepts source) :
    ∃ error, source = .error error := by
  cases source with
  | ok value => exact absurd ⟨value, rfl⟩ rejected
  | error error => exact ⟨error, rfl⟩

theorem toOption_eq_some {source : Except ε α} {value : α} :
    source.toOption = some value ↔ source = .ok value := by
  cases source with
  | ok result => simp [Except.toOption]
  | error error => simp [Except.toOption]

end Except

/-! ## 64-bit counters -/

def checkedAdd (left right : UInt64) : Option UInt64 :=
  if left.toNat + right.toNat < 2 ^ 64 then some (left + right) else none

def checkedSub (left right : UInt64) : Option UInt64 :=
  if right.toNat ≤ left.toNat then some (left - right) else none

def saturatingSub (left right : UInt64) : UInt64 :=
  if right.toNat ≤ left.toNat then left - right else 0

theorem checkedAdd_eq_some {left right result : UInt64} :
    checkedAdd left right = some result ↔ result.toNat = left.toNat + right.toNat := by
  have bound := result.toNat_lt
  unfold checkedAdd
  split
  case isTrue fits =>
    have sum : (left + right).toNat = left.toNat + right.toNat := by
      rw [UInt64.toNat_add]
      omega
    rw [Option.some.injEq, ← UInt64.toNat_inj, sum]
    exact eq_comm
  case isFalse overflow =>
    simp only [reduceCtorEq, false_iff]
    omega

theorem checkedSub_eq_some {left right result : UInt64} :
    checkedSub left right = some result ↔ left.toNat = result.toNat + right.toNat := by
  unfold checkedSub
  split
  case isTrue fits =>
    have difference : (left - right).toNat = left.toNat - right.toNat :=
      UInt64.toNat_sub_of_le left right (UInt64.le_iff_toNat_le.mpr fits)
    rw [Option.some.injEq, ← UInt64.toNat_inj, difference]
    omega
  case isFalse underflow =>
    simp only [reduceCtorEq, false_iff]
    omega

def checkedSubI64 (left right : Int64) : Option Int64 :=
  if -2 ^ 63 ≤ left.toInt - right.toInt ∧ left.toInt - right.toInt < 2 ^ 63 then
    some (left - right)
  else none

theorem checkedSubI64_eq_some {left right result : Int64} :
    checkedSubI64 left right = some result ↔ result.toInt = left.toInt - right.toInt := by
  have low := result.le_toInt
  have high := result.toInt_lt
  unfold checkedSubI64
  split
  case isTrue fits =>
    have difference : (left - right).toInt = left.toInt - right.toInt := by
      rw [Int64.toInt_sub]
      exact Int.bmod_eq_of_le (by omega) (by omega)
    rw [Option.some.injEq, ← Int64.toInt_inj, difference]
    exact eq_comm
  case isFalse overflow =>
    simp only [reduceCtorEq, false_iff]
    omega

theorem checkedAdd_isSome (left right : UInt64) (fits : left.toNat + right.toNat < 2 ^ 64) :
    ∃ result, checkedAdd left right = some result := ⟨_, if_pos fits⟩

theorem checkedSub_isSome (left right : UInt64) (fits : right.toNat ≤ left.toNat) :
    ∃ result, checkedSub left right = some result := ⟨_, if_pos fits⟩

theorem toNat_saturatingSub (left right : UInt64) :
    (saturatingSub left right).toNat = left.toNat - right.toNat := by
  unfold saturatingSub
  split
  case isTrue fits =>
    exact UInt64.toNat_sub_of_le left right (UInt64.le_iff_toNat_le.mpr fits)
  case isFalse underflow =>
    rw [UInt64.toNat_zero]
    omega

theorem uint64_pos_iff (value : UInt64) : 0 < value ↔ 0 < value.toNat := by
  rw [UInt64.lt_iff_toNat_lt, UInt64.toNat_zero]

end PactNetwork
