import PactNetwork.Foundation.DecimalText
import PactNetwork.Requests.Http

/-!
# Amounts of a payment

The amount in a payment's trace as people read it and in the base units that a refund
is computed from.
-/

set_option autoImplicit false

namespace PactNetwork.Cli

open DecimalText (IsDigits canonical padEnd padStart trimZeros Decimal)
open Settler (isSpace)

/-! ## Integers of any size -/

def digitValue (char : Char) : Option Nat :=
  if char.isDigit then some (char.toNat - 48)
  else if char.isLower then some (char.toNat - 87)
  else if char.isUpper then some (char.toNat - 55)
  else none

def radixValue (radix value : Nat) : List Char → Option Nat
  | [] => some value
  | char :: rest =>
      match digitValue char with
      | some digit => if digit < radix then radixValue radix (radix * value + digit) rest else none
      | none => none

def radixDigits (radix : Nat) (digits : List Char) : Option Nat :=
  if digits = [] then none else radixValue radix 0 digits

def trim (text : List Char) : List Char :=
  (text.dropWhile fun char => isSpace char.toNat).rdropWhile fun char => isSpace char.toNat

def radixMark : Char → Option Nat
  | 'x' | 'X' => some 16
  | 'o' | 'O' => some 8
  | 'b' | 'B' => some 2
  | _ => none

/-- `BigInt(text)`, which throws on `none`. Only decimal digits have a sign. -/
def bigInt (text : List Char) : Option Int :=
  match trim text with
  | [] => some 0
  | '-' :: digits => (radixDigits 10 digits).map fun value => -(value : Int)
  | '+' :: digits => (radixDigits 10 digits).map Int.ofNat
  | '0' :: mark :: digits =>
      match radixMark mark with
      | some radix => (radixDigits radix digits).map Int.ofNat
      | none => (radixDigits 10 ('0' :: mark :: digits)).map Int.ofNat
  | digits => (radixDigits 10 digits).map Int.ofNat

def bigIntText (value : Int) : List Char :=
  if value < 0 then '-' :: canonical value.natAbs else canonical value.natAbs

/-! ## Formatting and reading -/

def formatMicroAmount (rawMicro : List Char) (decimals : Nat) : Option (List Char) := do
  let n ← bigInt rawMicro
  let base := (10 : Int) ^ decimals
  let whole := n.tdiv base
  let frac := n.tmod base
  if frac = 0 then return bigIntText whole
  let fracStr := trimZeros (padStart decimals '0' (bigIntText frac))
  return if fracStr.length = 0 then bigIntText whole else bigIntText whole ++ '.' :: fracStr

def matchAmount (text : List Char) : Option (List Char × Option (List Char)) :=
  let whole := text.takeWhile Char.isDigit
  if whole = [] then none
  else
    match text.dropWhile Char.isDigit with
    | [] => some (whole, none)
    | '.' :: frac =>
        if frac ≠ [] ∧ IsDigits frac then some (whole, some frac) else none
    | _ => none

def toBaseUnits (decimalAmount : List Char) (decimals : Nat) : Option (List Char) := do
  let m ← matchAmount decimalAmount
  let whole := m.1
  let frac := (padEnd decimals '0' (m.2.getD [])).take decimals
  let base := (10 : Int) ^ decimals
  let high ← bigInt whole
  let low ← bigInt (if frac = [] then ['0'] else frac)
  return bigIntText (high * base + low)

/-! ## Digits as integers -/

theorem digitValue_of_isDigit {char : Char} (digit : char.isDigit = true) :
    digitValue char = some (char.toNat - 48) :=
  if_pos digit

theorem digit_lt_ten {char : Char} (digit : char.isDigit = true) : char.toNat - 48 < 10 := by
  rw [Char.isDigit, Bool.and_eq_true, decide_eq_true_eq, decide_eq_true_eq] at digit
  have high : char.toNat ≤ 57 := digit.2
  omega

theorem radixValue_of_isDigits {digits : List Char} (decimal : IsDigits digits) (value : Nat) :
    radixValue 10 value digits = some (Nat.ofDigitChars 10 digits value) := by
  induction digits generalizing value with
  | nil => rfl
  | cons char rest ih =>
      have digit := decimal char List.mem_cons_self
      rw [radixValue, digitValue_of_isDigit digit, Nat.ofDigitChars_cons]
      exact (if_pos (digit_lt_ten digit)).trans
        (ih (fun other member => decimal other (List.mem_cons_of_mem _ member)) _)

theorem radixDigits_of_isDigits {digits : List Char} (decimal : IsDigits digits)
    (written : digits ≠ []) : radixDigits 10 digits = some (DecimalText.value digits) := by
  rw [radixDigits, if_neg written, radixValue_of_isDigits decimal]
  rfl

theorem trim_of_isDigits {digits : List Char} (decimal : IsDigits digits) :
    trim digits = digits := by
  have plain : ∀ char ∈ digits, ¬ isSpace char.toNat = true := fun char member =>
    Bool.eq_false_iff.mp (Requests.isDigit_plain (decimal char member)).1
  have front : (digits.dropWhile fun char => isSpace char.toNat) = digits :=
    List.dropWhile_eq_self_iff.mpr fun nonempty => plain _ (List.getElem_mem nonempty)
  rw [trim, front]
  exact List.rdropWhile_eq_self_iff.mpr fun nonempty => plain _ (List.getLast_mem nonempty)

theorem radixMark_of_isDigit {char : Char} (digit : char.isDigit = true) :
    radixMark char = none := by
  unfold radixMark
  split
  case h_7 => rfl
  all_goals exact absurd digit (by decide)

theorem bigInt_of_isDigits {digits : List Char} (decimal : IsDigits digits)
    (written : digits ≠ []) : bigInt digits = some (DecimalText.value digits : Int) := by
  have read := radixDigits_of_isDigits decimal written
  rw [bigInt, trim_of_isDigits decimal]
  split
  case h_1 => exact absurd rfl written
  case h_2 => exact absurd (decimal '-' List.mem_cons_self) (by decide)
  case h_3 => exact absurd (decimal '+' List.mem_cons_self) (by decide)
  case h_4 mark rest =>
      have second : mark ∈ '0' :: mark :: rest := List.mem_cons_of_mem _ List.mem_cons_self
      rw [radixMark_of_isDigit (decimal mark second), read]
      rfl
  case h_5 => rw [read]; rfl

theorem bigIntText_natCast (number : Nat) : bigIntText number = canonical number := by
  rw [bigIntText, if_neg (by omega), Int.natAbs_natCast]

/-! ## What is read -/

theorem takeWhile_digits {digits : List Char} (decimal : IsDigits digits) (rest : List Char) :
    (digits ++ rest).takeWhile Char.isDigit = digits ++ rest.takeWhile Char.isDigit :=
  List.takeWhile_append_of_pos decimal

theorem dropWhile_digits {digits : List Char} (decimal : IsDigits digits) (rest : List Char) :
    (digits ++ rest).dropWhile Char.isDigit = rest.dropWhile Char.isDigit :=
  List.dropWhile_append_of_pos decimal

theorem matchAmount_text (amount : Decimal) :
    ∃ frac, matchAmount amount.text = some (amount.whole, frac) ∧
      frac.getD [] = amount.fraction := by
  have whole : amount.whole.takeWhile Char.isDigit = amount.whole :=
    List.takeWhile_eq_self_iff.mpr amount.whole_digits
  have nothing : amount.whole.dropWhile Char.isDigit = [] :=
    List.dropWhile_eq_nil_iff.mpr amount.whole_digits
  by_cases pointless : amount.fraction = []
  · refine ⟨none, ?_, pointless.symm⟩
    rw [matchAmount, Decimal.text, if_pos pointless, whole, nothing]
    exact if_neg amount.whole_ne_nil
  · refine ⟨some amount.fraction, ?_, rfl⟩
    have first : amount.text.takeWhile Char.isDigit = amount.whole := by
      rw [Decimal.text, if_neg pointless, takeWhile_digits amount.whole_digits]
      exact List.append_nil _
    have rest : amount.text.dropWhile Char.isDigit = '.' :: amount.fraction := by
      rw [Decimal.text, if_neg pointless, dropWhile_digits amount.whole_digits]
      rfl
    rw [matchAmount, first, rest]
    exact (if_neg amount.whole_ne_nil).trans (if_pos ⟨pointless, amount.fraction_digits⟩)

theorem bigInt_fraction {digits : List Char} (decimal : IsDigits digits) :
    bigInt (if digits = [] then ['0'] else digits) = some (DecimalText.value digits : Int) := by
  by_cases empty : digits = []
  · rw [if_pos empty, empty]
    decide
  · rw [if_neg empty]
    exact bigInt_of_isDigits decimal empty

theorem toBaseUnits_text (amount : Decimal) {decimals : Nat}
    (fits : amount.fraction.length ≤ decimals) :
    toBaseUnits amount.text decimals = some (canonical (amount.units decimals)) := by
  obtain ⟨frac, taken, fraction⟩ := matchAmount_text amount
  have filled : (padEnd decimals '0' amount.fraction).take decimals =
      padEnd decimals '0' amount.fraction :=
    List.take_of_length_le (DecimalText.length_padEnd fits '0').le
  have high := bigInt_of_isDigits amount.whole_digits amount.whole_ne_nil
  have low := bigInt_fraction (amount.fraction_digits.padEnd decimals)
  simp only [toBaseUnits, taken, Option.bind_eq_bind, Option.bind_some, fraction, filled, high, low]
  rw [← bigIntText_natCast, Decimal.units]
  push_cast
  rfl

/-! ## What is written -/

def fractionOf (units decimals : Nat) : List Char :=
  if units % 10 ^ decimals = 0 then []
  else trimZeros (padStart decimals '0' (canonical (units % 10 ^ decimals)))

theorem isDigits_fractionOf (units decimals : Nat) : IsDigits (fractionOf units decimals) := by
  unfold fractionOf
  split
  case isTrue => exact fun _ member => absurd member List.not_mem_nil
  case isFalse =>
      exact ((DecimalText.isDigits_canonical _).padStart _).of_subset
        (DecimalText.trimZeros_subset _)

def amountOf (units decimals : Nat) : Decimal where
  whole := canonical (units / 10 ^ decimals)
  fraction := fractionOf units decimals
  whole_ne_nil := DecimalText.canonical_ne_nil _
  whole_digits := DecimalText.isDigits_canonical _
  fraction_digits := isDigits_fractionOf units decimals

section Written

variable (units decimals : Nat)

theorem length_digits_le (broken : units % 10 ^ decimals ≠ 0) :
    (canonical (units % 10 ^ decimals)).length ≤ decimals := by
  have below := Nat.mod_lt units (Nat.pow_pos (n := decimals) (show 0 < 10 by decide))
  cases decimals with
  | zero => exact absurd (Nat.mod_one units) broken
  | succ count => exact DecimalText.length_canonical_le (Nat.succ_pos count) below

theorem length_fractionOf_le : (fractionOf units decimals).length ≤ decimals := by
  unfold fractionOf
  split
  case isTrue => exact Nat.zero_le _
  case isFalse broken =>
      have filled := DecimalText.length_padStart (length_digits_le units decimals broken) '0'
      have trimmed :=
        DecimalText.length_trimZeros_le (padStart decimals '0' (canonical (units % 10 ^ decimals)))
      omega

theorem value_padEnd_fractionOf :
    DecimalText.value (padEnd decimals '0' (fractionOf units decimals)) =
      units % 10 ^ decimals := by
  unfold fractionOf
  split
  case isTrue even => rw [even, DecimalText.value_padEnd, DecimalText.value_nil, Nat.zero_mul]
  case isFalse broken =>
      have filled := DecimalText.length_padStart (length_digits_le units decimals broken) '0'
      have again :=
        DecimalText.padEnd_trimZeros (padStart decimals '0' (canonical (units % 10 ^ decimals)))
      rw [filled] at again
      rw [again, DecimalText.value_padStart, DecimalText.value_canonical]

theorem units_amountOf : (amountOf units decimals).units decimals = units := by
  have whole : DecimalText.value (amountOf units decimals).whole = units / 10 ^ decimals :=
    DecimalText.value_canonical _
  rw [Decimal.units, whole]
  change _ + DecimalText.value (padEnd decimals '0' (fractionOf units decimals)) = units
  rw [value_padEnd_fractionOf]
  exact Nat.div_add_mod' units (10 ^ decimals)

theorem text_amountOf :
    (amountOf units decimals).text =
      if fractionOf units decimals = [] then canonical (units / 10 ^ decimals)
      else canonical (units / 10 ^ decimals) ++ '.' :: fractionOf units decimals :=
  rfl

theorem formatMicroAmount_canonical :
    formatMicroAmount (canonical units) decimals = some (amountOf units decimals).text := by
  have read := bigInt_of_isDigits (DecimalText.isDigits_canonical units)
    (DecimalText.canonical_ne_nil units)
  have whole : (units : Int).tdiv (10 ^ decimals) = (units / 10 ^ decimals : Nat) := by
    push_cast
    exact Int.tdiv_eq_ediv_of_nonneg (Int.natCast_nonneg units)
  have frac : (units : Int).tmod (10 ^ decimals) = (units % 10 ^ decimals : Nat) := by
    push_cast
    exact Int.tmod_eq_emod_of_nonneg (Int.natCast_nonneg units)
  simp only [formatMicroAmount, read, DecimalText.value_canonical, Option.bind_eq_bind,
    Option.bind_some, whole, frac, bigIntText_natCast, text_amountOf, fractionOf]
  by_cases even : units % 10 ^ decimals = 0
  · simp [even]
  · have broken : ((units % 10 ^ decimals : Nat) : Int) ≠ 0 := by exact_mod_cast even
    simp only [if_neg broken, if_neg even, List.length_eq_zero_iff]
    rfl

end Written

/-- A point has digits on both sides, and the last digit behind it is no zero. -/
def Trimmed (text : List Char) : Prop :=
  ∀ whole frac, text = whole ++ '.' :: frac →
    whole ≠ [] ∧ frac ≠ [] ∧ frac.getLast? ≠ some '0'

theorem bigIntText_ne_nil (value : Int) : bigIntText value ≠ [] := by
  unfold bigIntText
  split
  case isTrue => exact List.cons_ne_nil _ _
  case isFalse => exact DecimalText.canonical_ne_nil _

theorem bigIntText_no_point (value : Int) : '.' ∉ bigIntText value := by
  have digits := (DecimalText.isDigits_canonical value.natAbs).no_point
  unfold bigIntText
  split
  case isTrue => simp [digits]
  case isFalse => exact digits

theorem trimmed_of_no_point {text : List Char} (pointless : '.' ∉ text) : Trimmed text := by
  intro whole frac split
  exact absurd (split ▸ List.mem_append_right whole List.mem_cons_self) pointless

theorem trimmed_of_point {whole frac : List Char} (wholePlain : '.' ∉ whole)
    (fracPlain : '.' ∉ frac) (written : whole ≠ []) (nonempty : frac ≠ [])
    (last : frac.getLast? ≠ some '0') : Trimmed (whole ++ '.' :: frac) := by
  intro whole' frac' split
  obtain ⟨sameWhole, -, sameFrac⟩ :=
    (List.append_cons_inj_of_notMem wholePlain fracPlain).mp split
  rw [← sameWhole, ← sameFrac]
  exact ⟨written, nonempty, last⟩

theorem formatMicroAmount_trimmed {rawMicro text : List Char} {decimals : Nat}
    (formatted : formatMicroAmount rawMicro decimals = some text) : Trimmed text := by
  rw [formatMicroAmount, Option.bind_eq_bind, Option.bind_eq_some_iff] at formatted
  obtain ⟨n, -, formatted⟩ := formatted
  dsimp only at formatted
  split at formatted
  case isTrue =>
      cases formatted
      exact trimmed_of_no_point (bigIntText_no_point _)
  case isFalse =>
      have plain :
          '.' ∉ trimZeros (padStart decimals '0' (bigIntText (n.tmod (10 ^ decimals)))) := by
        intro member
        have padded := DecimalText.trimZeros_subset _ member
        rw [padStart, List.mem_append] at padded
        cases padded with
        | inl zero => exact absurd (List.eq_of_mem_replicate zero) (by decide)
        | inr digit => exact bigIntText_no_point _ digit
      cases formatted
      split
      case isTrue => exact trimmed_of_no_point (bigIntText_no_point _)
      case isFalse nonempty =>
          exact trimmed_of_point (bigIntText_no_point _) plain (bigIntText_ne_nil _)
            (fun empty => nonempty (congrArg List.length empty))
            (DecimalText.getLast?_trimZeros _)

/-- Formatting and reading back gives the same base units, reading is exact on every
decimal number that fits the decimals, and what is formatted is trimmed. -/
theorem amounts_exact (decimals : Nat) :
    (∀ n : Nat,
      (formatMicroAmount (canonical n) decimals).bind (fun text => toBaseUnits text decimals) =
        some (canonical n)) ∧
    (∀ amount : Decimal, amount.fraction.length ≤ decimals →
      ∃ units : Nat, toBaseUnits amount.text decimals = some (canonical units) ∧
        (units : ℚ) = amount.value * 10 ^ decimals) ∧
    (∀ rawMicro text, formatMicroAmount rawMicro decimals = some text → Trimmed text) := by
  refine ⟨fun n => ?_, fun amount fits => ?_, fun _ _ => formatMicroAmount_trimmed⟩
  · rw [formatMicroAmount_canonical, Option.bind_some,
      toBaseUnits_text _ (length_fractionOf_le n decimals), units_amountOf]
  · exact ⟨amount.units decimals, toBaseUnits_text amount fits, Decimal.units_eq_value fits⟩

end PactNetwork.Cli
