import Mathlib.Data.List.DropRight
import Mathlib.Data.List.TakeWhile
import Mathlib.Data.Rat.Cast.Order
import Mathlib.Tactic.FieldSimp
import Mathlib.Tactic.Ring

/-!
# Decimal numbers as texts

Digits and their value, zeros written behind and in front of them and taken away
again, and numbers with digits after a point.
-/

set_option autoImplicit false

namespace PactNetwork.DecimalText

def IsDigits (text : List Char) : Prop := ∀ char ∈ text, char.isDigit = true

instance (text : List Char) : Decidable (IsDigits text) :=
  inferInstanceAs (Decidable (∀ char ∈ text, char.isDigit = true))

def value (digits : List Char) : Nat := Nat.ofDigitChars 10 digits 0

def canonical (number : Nat) : List Char := Nat.toDigits 10 number

@[simp] theorem value_nil : value [] = 0 := rfl

@[simp] theorem value_canonical (number : Nat) : value (canonical number) = number :=
  Nat.ofDigitChars_ten_toDigits

theorem value_append (front back : List Char) :
    value (front ++ back) = value front * 10 ^ back.length + value back := by
  rw [value, Nat.ofDigitChars_append, Nat.ofDigitChars_eq_ofDigitChars_zero, Nat.mul_comm]
  rfl

@[simp] theorem value_zeros (count : Nat) : value (List.replicate count '0') = 0 := by
  simp [value]

theorem isDigits_canonical (number : Nat) : IsDigits (canonical number) := fun _ member =>
  Nat.isDigit_of_mem_toDigits (by decide) (by decide) member

@[simp] theorem canonical_ne_nil (number : Nat) : canonical number ≠ [] := Nat.toDigits_ne_nil

theorem length_canonical_le {number width : Nat} (positive : 0 < width)
    (below : number < 10 ^ width) : (canonical number).length ≤ width :=
  (Nat.length_toDigits_le_iff (by decide) positive).mpr below

theorem IsDigits.append {front back : List Char} (first : IsDigits front)
    (second : IsDigits back) : IsDigits (front ++ back) := by
  intro char member
  cases List.mem_append.mp member with
  | inl inFront => exact first char inFront
  | inr inBack => exact second char inBack

theorem isDigits_zeros (count : Nat) : IsDigits (List.replicate count '0') := by
  intro char member
  rw [List.eq_of_mem_replicate member]
  rfl

theorem IsDigits.of_subset {text part : List Char} (digits : IsDigits text)
    (within : part ⊆ text) : IsDigits part :=
  fun char member => digits char (within member)

theorem IsDigits.no_point {text : List Char} (digits : IsDigits text) : '.' ∉ text :=
  fun member => absurd (digits '.' member) (by decide)

/-! ## Zeros -/

def padEnd (width : Nat) (fill : Char) (text : List Char) : List Char :=
  text ++ List.replicate (width - text.length) fill

def padStart (width : Nat) (fill : Char) (text : List Char) : List Char :=
  List.replicate (width - text.length) fill ++ text

def trimZeros (text : List Char) : List Char := text.rdropWhile (· == '0')

section Zeros

variable {width : Nat} {text : List Char}

theorem length_padEnd (fits : text.length ≤ width) (fill : Char) :
    (padEnd width fill text).length = width := by
  simp [padEnd]
  omega

theorem length_padStart (fits : text.length ≤ width) (fill : Char) :
    (padStart width fill text).length = width := by
  simp [padStart]
  omega

theorem value_padEnd (width : Nat) (text : List Char) :
    value (padEnd width '0' text) = value text * 10 ^ (width - text.length) := by
  simp [padEnd, value_append]

theorem value_padStart (width : Nat) (text : List Char) :
    value (padStart width '0' text) = value text := by
  simp [padStart, value_append]

theorem IsDigits.padEnd (digits : IsDigits text) (width : Nat) :
    IsDigits (padEnd width '0' text) :=
  digits.append (isDigits_zeros _)

theorem IsDigits.padStart (digits : IsDigits text) (width : Nat) :
    IsDigits (padStart width '0' text) :=
  (isDigits_zeros _).append digits

theorem trimZeros_zero (text : List Char) : trimZeros (text ++ ['0']) = trimZeros text :=
  List.rdropWhile_concat_pos (· == '0') text '0' rfl

theorem trimZeros_of_ne {last : Char} (other : last ≠ '0') (text : List Char) :
    trimZeros (text ++ [last]) = text ++ [last] :=
  List.rdropWhile_concat_neg (· == '0') text last fun same => other (eq_of_beq same)

theorem length_trimZeros_le (text : List Char) : (trimZeros text).length ≤ text.length :=
  (List.rdropWhile_prefix _ _).length_le

theorem padEnd_trimZeros (text : List Char) : padEnd text.length '0' (trimZeros text) = text := by
  induction text using List.reverseRecOn with
  | nil => rfl
  | append_singleton front last ih =>
      by_cases zero : last = '0'
      · have shorter := length_trimZeros_le front
        have count : (front ++ ['0']).length - (trimZeros front).length =
            front.length - (trimZeros front).length + 1 := by
          simp
          omega
        rw [zero, trimZeros_zero, padEnd, count, List.replicate_succ', ← List.append_assoc]
        exact congrArg (· ++ ['0']) ih
      · rw [trimZeros_of_ne zero]
        simp [padEnd]

theorem trimZeros_subset (text : List Char) : trimZeros text ⊆ text :=
  (List.rdropWhile_prefix _ _).subset

theorem getLast?_trimZeros (text : List Char) : (trimZeros text).getLast? ≠ some '0' := by
  intro zero
  have written : trimZeros text ≠ [] := by
    intro empty
    rw [empty] at zero
    cases zero
  rw [List.getLast?_eq_some_getLast written] at zero
  have kept := List.rdropWhile_last_not (· == '0') text written
  exact kept (beq_iff_eq.mpr (Option.some.inj zero))

end Zeros

/-! ## Numbers with a point -/

/-- A decimal number as it is written. Without a point there is no fraction. -/
structure Decimal where
  whole : List Char
  fraction : List Char
  whole_ne_nil : whole ≠ []
  whole_digits : IsDigits whole
  fraction_digits : IsDigits fraction

namespace Decimal

def text (number : Decimal) : List Char :=
  if number.fraction = [] then number.whole else number.whole ++ '.' :: number.fraction

def value (number : Decimal) : ℚ :=
  DecimalText.value number.whole +
    DecimalText.value number.fraction / 10 ^ number.fraction.length

def units (number : Decimal) (decimals : Nat) : Nat :=
  DecimalText.value number.whole * 10 ^ decimals +
    DecimalText.value (padEnd decimals '0' number.fraction)

theorem units_eq_value {number : Decimal} {decimals : Nat}
    (fits : number.fraction.length ≤ decimals) :
    (number.units decimals : ℚ) = number.value * 10 ^ decimals := by
  obtain ⟨rest, filled⟩ := Nat.exists_eq_add_of_le fits
  have left : decimals - number.fraction.length = rest := by omega
  rw [units, value, value_padEnd, left, filled]
  push_cast
  field_simp
  ring

end Decimal

end PactNetwork.DecimalText
