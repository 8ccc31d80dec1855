import PactNetwork.Settler.MessageData

/-!
# Call ids as text

`parseCallId` counts the characters and reads each pair with `parseInt`, which takes
what it can: on hex digits it is injective up to case, on anything else it maps
strings that are no call ids.
-/

set_option autoImplicit false

namespace PactNetwork.Settler

def undashed (callId : String) : List Nat := (codeUnits callId).filter (· ≠ 45)

def IsHex (units : List Nat) : Prop := ∀ unit ∈ units, (hexDigit unit).isSome

instance (units : List Nat) : Decidable (IsHex units) :=
  inferInstanceAs (Decidable (∀ unit ∈ units, (hexDigit unit).isSome))

def lowerDigit (unit : Nat) : Nat := if 65 ≤ unit ∧ unit ≤ 70 then unit + 32 else unit

structure IsCallId (callId : String) : Prop where
  length : (undashed callId).length = 32
  hex : IsHex (undashed callId)

/-- What is accepted is a call id, and two texts of one id differ by dashes and case. -/
structure ParsesFaithfully (left right : String) : Prop where
  first : accepts (parseCallId left) → IsCallId left
  second : accepts (parseCallId right) → IsCallId right
  injective : ∀ bytes, parseCallId left = .ok bytes → parseCallId right = .ok bytes →
    (undashed left).map lowerDigit = (undashed right).map lowerDigit

/-! ## Digits -/

section Digits

variable {unit other digit : Nat}

theorem hexDigit_cases (read : hexDigit unit = some digit) :
    (48 ≤ unit ∧ unit ≤ 57 ∧ digit = unit - 48) ∨ (97 ≤ unit ∧ unit ≤ 102 ∧ digit = unit - 87) ∨
      (65 ≤ unit ∧ unit ≤ 70 ∧ digit = unit - 55) := by
  unfold hexDigit at read
  split at read
  case isTrue decimal => exact .inl ⟨decimal.1, decimal.2, (Option.some.inj read).symm⟩
  case isFalse =>
    split at read
    case isTrue lower => exact .inr (.inl ⟨lower.1, lower.2, (Option.some.inj read).symm⟩)
    case isFalse =>
      split at read
      case isTrue upper => exact .inr (.inr ⟨upper.1, upper.2, (Option.some.inj read).symm⟩)
      case isFalse => cases read

theorem hexDigit_lt (read : hexDigit unit = some digit) : digit < 16 := by
  have cases_ := hexDigit_cases read
  omega

theorem lowerDigit_congr (read : hexDigit unit = some digit) (read' : hexDigit other = some digit) :
    lowerDigit unit = lowerDigit other := by
  have first := hexDigit_cases read
  have second := hexDigit_cases read'
  unfold lowerDigit
  split <;> split <;> omega

theorem parseIntHex_digits {high low first second : Nat} (read : hexDigit high = some first)
    (read' : hexDigit low = some second) :
    (parseIntHex [high, low]).toNat = first * 16 + second := by
  have bound := hexDigit_lt read
  have bound' := hexDigit_lt read'
  have known := hexDigit_cases read
  have solid : isSpace high = false := by
    simp only [isSpace, List.mem_cons, List.not_mem_nil, or_false, Bool.or_eq_false_iff,
      decide_eq_false_iff_not, Bool.and_eq_false_iff]
    omega
  have unsigned : high ≠ 43 := by omega
  have trimmed : [high, low].dropWhile isSpace = [high, low] := by
    rw [List.dropWhile_cons, solid]
    rfl
  have value : leadingHex 0 [high, low] = first * 16 + second := by
    simp [leadingHex, read, read']
  unfold parseIntHex
  simp only [trimmed, List.head?_cons, Option.some.injEq, unsigned, if_false, value]
  have size : UInt8.size = 256 := rfl
  exact UInt8.toNat_ofNat_of_lt' (by omega)

theorem pairs_injective {left right : List Nat} {count : Nat} (even : left.length = 2 * count)
    (even' : right.length = 2 * count) (hex : IsHex left) (hex' : IsHex right)
    (same : (pairs left).map parseIntHex = (pairs right).map parseIntHex) :
    left.map lowerDigit = right.map lowerDigit := by
  induction count generalizing left right with
  | zero => rw [List.length_eq_zero_iff.mp even, List.length_eq_zero_iff.mp even']
  | succ count ih =>
      obtain ⟨high, left, rfl⟩ := List.exists_cons_of_length_eq_add_one even
      obtain ⟨low, left, rfl⟩ := List.exists_cons_of_length_eq_add_one (Nat.succ.inj even)
      obtain ⟨high', right, rfl⟩ := List.exists_cons_of_length_eq_add_one even'
      obtain ⟨low', right, rfl⟩ := List.exists_cons_of_length_eq_add_one (Nat.succ.inj even')
      simp only [IsHex, List.forall_mem_cons, Option.isSome_iff_exists] at hex hex'
      obtain ⟨⟨first, read⟩, ⟨second, next⟩, digits⟩ := hex
      obtain ⟨⟨first', read'⟩, ⟨second', next'⟩, digits'⟩ := hex'
      simp only [pairs, List.map_cons, List.cons.injEq] at same
      have bytes := congrArg UInt8.toNat same.1
      rw [parseIntHex_digits read next, parseIntHex_digits read' next'] at bytes
      have bound := hexDigit_lt next
      have bound' := hexDigit_lt next'
      obtain rfl : first = first' := by omega
      obtain rfl : second = second' := by omega
      have rest := ih (by simpa using Nat.succ.inj (Nat.succ.inj even))
        (by simpa using Nat.succ.inj (Nat.succ.inj even'))
        (fun unit member => Option.isSome_iff_exists.mpr (digits unit member))
        (fun unit member => Option.isSome_iff_exists.mpr (digits' unit member)) same.2
      simp only [List.map_cons, lowerDigit_congr read read', lowerDigit_congr next next', rest]

end Digits

/-! ## Whole ids -/

theorem parseCallId_eq_ok {callId : String} {bytes : V1.CallId} :
    parseCallId callId = .ok bytes ↔ (undashed callId).length = 32 ∧
      (pairs (undashed callId)).map parseIntHex = bytes.toList := by
  unfold parseCallId undashed
  dsimp only
  split
  case isTrue even =>
    constructor
    · intro parsed
      cases parsed
      exact ⟨even, rfl⟩
    · intro read
      exact congrArg Except.ok (Bytes.toList_inj.mp read.2)
  case isFalse odd =>
    constructor
    · intro parsed
      cases parsed
    · intro read
      exact absurd read.1 odd

theorem accepts_parseCallId_iff {callId : String} :
    accepts (parseCallId callId) ↔ (undashed callId).length = 32 := by
  constructor
  · intro accepted
    obtain ⟨bytes, parsed⟩ := accepted
    exact (parseCallId_eq_ok.mp parsed).1
  · intro length
    have size : ((pairs (undashed callId)).map parseIntHex).length = 16 := by
      rw [List.length_map, @length_pairs _ 16 length]
    exact ⟨⟨_, size⟩, parseCallId_eq_ok.mpr ⟨length, rfl⟩⟩

/-- Two texts are parsed faithfully exactly if each of them that has thirty-two
characters besides its dashes has only hex digits there. -/
theorem parses_faithfully_iff (left right : String) : ParsesFaithfully left right ↔
    ((undashed left).length = 32 → IsHex (undashed left)) ∧
      ((undashed right).length = 32 → IsHex (undashed right)) := by
  constructor
  · intro faithful
    exact ⟨fun length => (faithful.first (accepts_parseCallId_iff.mpr length)).hex,
      fun length => (faithful.second (accepts_parseCallId_iff.mpr length)).hex⟩
  · intro hex
    refine ⟨fun accepted => ?_, fun accepted => ?_, fun bytes first second => ?_⟩
    · have length := accepts_parseCallId_iff.mp accepted
      exact ⟨length, hex.1 length⟩
    · have length := accepts_parseCallId_iff.mp accepted
      exact ⟨length, hex.2 length⟩
    · obtain ⟨length, read⟩ := parseCallId_eq_ok.mp first
      obtain ⟨length', read'⟩ := parseCallId_eq_ok.mp second
      exact @pairs_injective _ _ 16 length length' (hex.1 length) (hex.2 length')
        (read.trans read'.symm)

/-- A typo in an id is read as another id. -/
theorem typo_collides :
    accepts (parseCallId "g0000000-0000-0000-0000-000000000001") ∧
      ¬IsCallId "g0000000-0000-0000-0000-000000000001" ∧
      parseCallId "g0000000-0000-0000-0000-000000000001" =
        parseCallId "00000000-0000-0000-0000-000000000001" ∧
      ¬∀ left right, ParsesFaithfully left right := by
  have accepted : accepts (parseCallId "g0000000-0000-0000-0000-000000000001") :=
    accepts_parseCallId_iff.mpr (by decide +kernel)
  have wrong : ¬IsCallId "g0000000-0000-0000-0000-000000000001" := fun callId =>
    absurd callId.hex (by decide +kernel)
  refine ⟨accepted, wrong, by decide +kernel, fun faithful => ?_⟩
  exact wrong ((faithful "g0000000-0000-0000-0000-000000000001" "").first accepted)

end PactNetwork.Settler
