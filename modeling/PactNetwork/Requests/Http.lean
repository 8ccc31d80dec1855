import Mathlib.Data.List.TakeWhile
import PactNetwork.Settler.MessageData

/-!
# Requests

What the services and the SDK read of a request: its headers, the number a
timestamp header stands for, its address and the bytes of its body. The
parsers and the cryptography come from the platform and from libraries.
-/

set_option autoImplicit false

namespace PactNetwork.Requests

open Settler (isSpace byteHex)

/-! ## Headers -/

abbrev Headers := List (String × String)

namespace Headers

/-- `headers.get(name)` joins the values of a repeated header. -/
def get (headers : Headers) (name : String) : Option String :=
  match headers.filter fun header => header.1 = name with
  | [] => none
  | first :: rest => some (", ".intercalate ((first :: rest).map Prod.snd))

def given (value : Option String) : Option String := value.filter (· ≠ "")

theorem given_eq_some {value : Option String} {text : String} :
    given value = some text ↔ value = some text ∧ text ≠ "" := by
  rw [given, Option.filter_eq_some_iff, decide_eq_true_eq]

end Headers

inductive HeaderValue
  | one (value : String)
  | many (values : List String)
  deriving DecidableEq

def HeaderValue.first : HeaderValue → Option String
  | .one value => some value
  | .many values => values.head?

/-! ## Numbers -/

def decimalValue (digits : List Char) : Nat :=
  digits.foldl (fun value digit => 10 * value + (digit.toNat - 48)) 0

def signedDecimal (negative : Bool) (text : List Char) : Option Int :=
  match text.takeWhile Char.isDigit with
  | [] => none
  | digit :: rest =>
      let value : Int := decimalValue (digit :: rest)
      some (if negative then -value else value)

def signedNumber : List Char → Option Int
  | '-' :: rest => signedDecimal true rest
  | '+' :: rest => signedDecimal false rest
  | rest => signedDecimal false rest

/-- `Number.parseInt(text, 10)`, where `none` is `NaN`. -/
def parseInt (text : String) : Option Int :=
  signedNumber (text.toList.dropWhile fun char => isSpace char.toNat)

def infinity : Nat := 2 ^ 1024 - 2 ^ 970

def isFinite (value : Int) : Bool := value.natAbs < infinity

def timestampMs (timestamp : String) : Option Int := (parseInt timestamp).filter isFinite

theorem decimalValue_toDigits (number : Nat) : decimalValue (Nat.toDigits 10 number) = number := by
  induction number using Nat.strong_induction_on with
  | _ number ih =>
      have digit : ∀ value < 10, (Nat.digitChar value).toNat - 48 = value := by decide
      rw [Nat.toDigits_eq_if (by decide)]
      split
      case isTrue small =>
        rw [decimalValue, List.foldl_cons, List.foldl_nil, digit number small]
        omega
      case isFalse large =>
        have shorter := ih (number / 10) (by omega)
        rw [decimalValue] at shorter ⊢
        rw [List.foldl_append, shorter, List.foldl_cons, List.foldl_nil,
          digit (number % 10) (Nat.mod_lt _ (by decide))]
        exact Nat.div_add_mod number 10

theorem signedDecimal_toDigits (negative : Bool) (number : Nat) :
    signedDecimal negative (Nat.toDigits 10 number) =
      some (if negative then -(number : Int) else number) := by
  have digits : (Nat.toDigits 10 number).takeWhile Char.isDigit = Nat.toDigits 10 number :=
    List.takeWhile_eq_self_iff.mpr fun _ member =>
      Nat.isDigit_of_mem_toDigits (by decide) (by decide) member
  rw [signedDecimal, digits]
  split
  case h_1 empty => exact absurd empty Nat.toDigits_ne_nil
  case h_2 digit rest parts => rw [← parts, decimalValue_toDigits]

theorem isDigit_plain {char : Char} (digit : char.isDigit = true) :
    isSpace char.toNat = false ∧ char ≠ '-' ∧ char ≠ '+' := by
  rw [Char.isDigit, Bool.and_eq_true, decide_eq_true_eq, decide_eq_true_eq] at digit
  have low : 48 ≤ char.toNat := digit.1
  have high : char.toNat ≤ 57 := digit.2
  refine ⟨?_, ?_, ?_⟩
  · have plain : ∀ unit < 58, 48 ≤ unit → isSpace unit = false := by decide
    exact plain _ (by omega) low
  · rintro rfl
    exact absurd low (by decide)
  · rintro rfl
    exact absurd low (by decide)

theorem parse_toDigits (number : Nat) :
    signedNumber ((Nat.toDigits 10 number).dropWhile fun char => isSpace char.toNat) =
      some (number : Int) := by
  have digits := signedDecimal_toDigits false number
  cases parts : Nat.toDigits 10 number with
  | nil => exact absurd parts Nat.toDigits_ne_nil
  | cons digit rest =>
      have member : digit ∈ Nat.toDigits 10 number := by
        rw [parts]
        exact List.mem_cons_self
      obtain ⟨plain, noMinus, noPlus⟩ :=
        isDigit_plain (Nat.isDigit_of_mem_toDigits (by decide) (by decide) member)
      rw [List.dropWhile_cons, plain, if_neg Bool.false_ne_true, signedNumber, ← parts, digits,
        if_neg Bool.false_ne_true]
      · exact fun _ same => noMinus (List.cons.inj same).1
      · exact fun _ same => noPlus (List.cons.inj same).1

theorem parseInt_toString (number : Int) : parseInt (toString number) = some number := by
  rw [Int.toString_eq_repr, Int.repr_eq_if, parseInt]
  rcases le_or_gt 0 number with positive | negative
  · rw [if_pos positive, Nat.toList_repr, parse_toDigits, Int.toNat_of_nonneg positive]
  · have minus : isSpace '-'.toNat = false := by decide
    have dash : "-".toList = ['-'] := rfl
    rw [if_neg (not_le.mpr negative), String.toList_append, Nat.toList_repr, dash,
      List.singleton_append, List.dropWhile_cons, minus, if_neg Bool.false_ne_true, signedNumber,
      signedDecimal_toDigits, if_pos rfl, Int.toNat_of_nonneg (by omega), neg_neg]

theorem timestampMs_toString {number : Int} (finite : isFinite number = true) :
    timestampMs (toString number) = some number := by
  rw [timestampMs, parseInt_toString, Option.filter_some, if_pos finite]

/-! ## Texts and bytes -/

def toUpperCase (text : String) : String := String.ofList (text.toList.map Char.toUpper)

def toLowerCase (text : String) : String := String.ofList (text.toList.map Char.toLower)

theorem toLower_toLower (char : Char) : char.toLower.toLower = char.toLower := by
  by_cases upper : char.val ≥ 65 ∧ char.val ≤ 90
  · have lowered : char.toLower.val = char.val + 32 :=
      congrArg Char.val (dif_pos upper)
    have past : ¬ (char.toLower.val ≥ 65 ∧ char.toLower.val ≤ 90) := by
      rintro ⟨-, again⟩
      have low := upper.1
      have high := upper.2
      rw [lowered, UInt32.le_iff_toNat_le, UInt32.toNat_add] at again
      rw [ge_iff_le, UInt32.le_iff_toNat_le] at low
      rw [UInt32.le_iff_toNat_le] at high
      simp at low high again
      omega
    exact dif_neg past
  · have same : char.toLower = char := dif_neg upper
    rw [same, same]

theorem toLowerCase_toLowerCase (text : String) :
    toLowerCase (toLowerCase text) = toLowerCase text := by
  rw [toLowerCase, toLowerCase, String.toList_ofList, List.map_map]
  exact congrArg String.ofList (List.map_congr_left fun char _ => toLower_toLower char)

structure Url where
  href : String
  protocol : String
  username : String
  password : String
  hostname : String
  port : String
  pathname : String
  search : String
  deriving DecidableEq

def Url.path (url : Url) : String := url.pathname ++ url.search

/-- `new URL(text)`, which reads its own serialization back. -/
structure UrlParser where
  parse : String → Option Url
  reparse : ∀ {text url}, parse text = some url → parse url.href = some url

def encode (text : String) : List UInt8 := text.toUTF8.data.toList

theorem encode_eq_nil {text : String} : encode text = [] ↔ text = "" := by
  rw [encode, Array.toList_eq_nil_iff]
  constructor
  · intro empty
    exact String.toByteArray_inj.mp (ByteArray.ext empty)
  · rintro rfl
    rfl

/-- What the verifiers take from the platform and from `bs58` and `tweetnacl`. -/
structure Crypto where
  sha256 : List UInt8 → List UInt8
  bs58Encode : List UInt8 → String
  bs58Decode : String → Option (List UInt8)
  /-- `nacl.sign.detached.verify(message, signature, publicKey)`. -/
  detachedVerify : List UInt8 → List UInt8 → List UInt8 → Bool

namespace Crypto

def sha256Hex (crypto : Crypto) (bytes : List UInt8) : String :=
  String.ofList ((crypto.sha256 bytes).flatMap byteHex)

def bodyHash (crypto : Crypto) (body : List UInt8) : String :=
  if body = [] then "" else crypto.sha256Hex body

end Crypto

end PactNetwork.Requests
