import Mathlib.Data.List.Sort

/-!
# JSON texts

Values and the texts they are written as. The type of the numbers and their texts are
parameters. A text has one value only, whatever is written behind it.
-/

set_option autoImplicit false

namespace PactNetwork.JsonText

inductive Value (φ : Type)
  | null
  | bool (value : Bool)
  | number (value : φ)
  | string (value : String)
  | array (items : List (Value φ))
  | object (fields : List (String × Value φ))

variable {φ : Type}

mutual

theorem Value.induct {motive : Value φ → Prop} (null : motive .null)
    (bool : ∀ value, motive (.bool value)) (number : ∀ value, motive (.number value))
    (string : ∀ value, motive (.string value))
    (array : ∀ items, (∀ item ∈ items, motive item) → motive (.array items))
    (object : ∀ fields, (∀ field ∈ fields, motive field.2) → motive (.object fields)) :
    ∀ value, motive value
  | .null => null
  | .bool value => bool value
  | .number value => number value
  | .string value => string value
  | .array items => array items (Value.inductItems null bool number string array object items)
  | .object fields =>
      object fields (Value.inductFields null bool number string array object fields)

theorem Value.inductItems {motive : Value φ → Prop} (null : motive .null)
    (bool : ∀ value, motive (.bool value)) (number : ∀ value, motive (.number value))
    (string : ∀ value, motive (.string value))
    (array : ∀ items, (∀ item ∈ items, motive item) → motive (.array items))
    (object : ∀ fields, (∀ field ∈ fields, motive field.2) → motive (.object fields)) :
    ∀ items : List (Value φ), ∀ item ∈ items, motive item
  | [], _, member => absurd member List.not_mem_nil
  | first :: rest, item, member => by
      cases member with
      | head => exact Value.induct null bool number string array object first
      | tail _ behind =>
          exact Value.inductItems null bool number string array object rest item behind

theorem Value.inductFields {motive : Value φ → Prop} (null : motive .null)
    (bool : ∀ value, motive (.bool value)) (number : ∀ value, motive (.number value))
    (string : ∀ value, motive (.string value))
    (array : ∀ items, (∀ item ∈ items, motive item) → motive (.array items))
    (object : ∀ fields, (∀ field ∈ fields, motive field.2) → motive (.object fields)) :
    ∀ fields : List (String × Value φ), ∀ field ∈ fields, motive field.2
  | [], _, member => absurd member List.not_mem_nil
  | (_, first) :: rest, field, member => by
      cases member with
      | head => exact Value.induct null bool number string array object first
      | tail _ behind =>
          exact Value.inductFields null bool number string array object rest field behind

end

/-! ## Texts -/

def hexDigit (digit : Nat) : Char :=
  Char.ofNat (if digit < 10 then 48 + digit else 87 + digit)

/-- The letter of a character that has a short escape. -/
def shortEscape : Char → Option Char
  | '"' => some '"'
  | '\\' => some '\\'
  | '\x08' => some 'b'
  | '\t' => some 't'
  | '\n' => some 'n'
  | '\x0c' => some 'f'
  | '\r' => some 'r'
  | _ => none

def escape (char : Char) : List Char :=
  match shortEscape char with
  | some letter => ['\\', letter]
  | none =>
      if char.toNat < 32 then
        ['\\', 'u', '0', '0', hexDigit (char.toNat / 16), hexDigit (char.toNat % 16)]
      else [char]

def quote (text : String) : List Char := '"' :: (text.toList.flatMap escape ++ ['"'])

def isNumeral (char : Char) : Bool :=
  char.isDigit || char = '-' || char = '+' || char = '.' || char = 'e'

/-- The texts of numbers, each the text of one number. -/
structure Numerals (φ : Type) where
  text : φ → List Char
  injective : Function.Injective text
  written : ∀ number, text number ≠ []
  plain : ∀ number, ∀ char ∈ text number, isNumeral char = true

variable (numerals : Numerals φ)

mutual

def text : Value φ → List Char
  | .null => ['n', 'u', 'l', 'l']
  | .bool true => ['t', 'r', 'u', 'e']
  | .bool false => ['f', 'a', 'l', 's', 'e']
  | .number value => numerals.text value
  | .string value => quote value
  | .array items => '[' :: ([','].intercalate (itemTexts items) ++ [']'])
  | .object fields => '\x7b' :: ([','].intercalate (fieldTexts fields) ++ ['\x7d'])

def itemTexts : List (Value φ) → List (List Char)
  | [] => []
  | item :: rest => text item :: itemTexts rest

def fieldTexts : List (String × Value φ) → List (List Char)
  | [] => []
  | (name, value) :: rest => (quote name ++ ':' :: text value) :: fieldTexts rest

end

/-! ## Strings -/

theorem hexDigit_inj : ∀ first < 16, ∀ second < 16, hexDigit first = hexDigit second →
    first = second := by
  decide

theorem shortEscape_inj {first second letter : Char} (one : shortEscape first = some letter)
    (other : shortEscape second = some letter) : first = second := by
  unfold shortEscape at one other
  split at one <;> cases one <;> split at other <;> cases other <;> rfl

theorem shortEscape_ne_u {char letter : Char} (short : shortEscape char = some letter) :
    letter ≠ 'u' := by
  unfold shortEscape at short
  split at short <;> cases short <;> decide

inductive Escaped (char : Char) : List Char → Prop
  | short {letter : Char} (escaped : shortEscape char = some letter) : Escaped char ['\\', letter]
  | control (low : char.toNat < 32) :
      Escaped char ['\\', 'u', '0', '0', hexDigit (char.toNat / 16), hexDigit (char.toNat % 16)]
  | plain (noQuote : char ≠ '"') (noSlash : char ≠ '\\') : Escaped char [char]

theorem escaped_escape (char : Char) : Escaped char (escape char) := by
  unfold escape
  split
  case h_1 short => exact .short short
  case h_2 long =>
      split
      case isTrue low => exact .control low
      case isFalse =>
          refine .plain ?_ ?_
          · rintro rfl
            cases long
          · rintro rfl
            cases long

theorem Escaped.inj {first second : Char} {one other left right : List Char}
    (written : Escaped first one) (again : Escaped second other)
    (same : one ++ left = other ++ right) : first = second ∧ left = right := by
  cases written with
  | short escaped =>
      cases again with
      | short escaped' =>
          simp only [List.cons_append, List.nil_append, List.cons.injEq, true_and] at same
          exact ⟨shortEscape_inj escaped (same.1 ▸ escaped'), same.2⟩
      | control low =>
          simp only [List.cons_append, List.nil_append, List.cons.injEq, true_and] at same
          exact absurd same.1 (shortEscape_ne_u escaped)
      | plain noQuote noSlash =>
          simp only [List.cons_append, List.nil_append, List.cons.injEq] at same
          exact absurd same.1.symm noSlash
  | control low =>
      cases again with
      | short escaped =>
          simp only [List.cons_append, List.nil_append, List.cons.injEq, true_and] at same
          exact absurd same.1.symm (shortEscape_ne_u escaped)
      | control low' =>
          simp only [List.cons_append, List.nil_append, List.cons.injEq, true_and] at same
          have high := hexDigit_inj _ (by omega) _ (by omega) same.1
          have unit := hexDigit_inj _ (by omega) _ (by omega) same.2.1
          exact ⟨Char.toNat_inj.mp (by omega), same.2.2⟩
      | plain noQuote noSlash =>
          simp only [List.cons_append, List.nil_append, List.cons.injEq] at same
          exact absurd same.1.symm noSlash
  | plain noQuote noSlash =>
      cases again with
      | short escaped =>
          simp only [List.cons_append, List.nil_append, List.cons.injEq] at same
          exact absurd same.1 noSlash
      | control low =>
          simp only [List.cons_append, List.nil_append, List.cons.injEq] at same
          exact absurd same.1 noSlash
      | plain noQuote' noSlash' =>
          exact ⟨(List.cons.inj same).1, (List.cons.inj same).2⟩

theorem Escaped.ne_quote {char : Char} {one left right : List Char} (written : Escaped char one) :
    one ++ left ≠ '"' :: right := by
  intro same
  cases written with
  | short escaped => exact absurd (List.cons.inj same).1 (by decide)
  | control low => exact absurd (List.cons.inj same).1 (by decide)
  | plain noQuote noSlash => exact noQuote (List.cons.inj same).1

theorem escapes_inj {first second left right : List Char}
    (same : first.flatMap escape ++ '"' :: left = second.flatMap escape ++ '"' :: right) :
    first = second ∧ left = right := by
  induction first generalizing second with
  | nil =>
      cases second with
      | nil => exact ⟨rfl, (List.cons.inj same).2⟩
      | cons char rest =>
          rw [List.flatMap_cons, List.append_assoc] at same
          exact absurd same.symm (escaped_escape char).ne_quote
  | cons char rest ih =>
      rw [List.flatMap_cons, List.append_assoc] at same
      cases second with
      | nil => exact absurd same (escaped_escape char).ne_quote
      | cons other behind =>
          rw [List.flatMap_cons, List.append_assoc] at same
          obtain ⟨rfl, tails⟩ := (escaped_escape char).inj (escaped_escape other) same
          obtain ⟨rfl, rest⟩ := ih tails
          exact ⟨rfl, rest⟩

theorem quote_inj {first second : String} {left right : List Char}
    (same : quote first ++ left = quote second ++ right) : first = second ∧ left = right := by
  simp only [quote, List.cons_append, List.append_assoc, List.cons.injEq, true_and,
    List.nil_append] at same
  obtain ⟨texts, rest⟩ := escapes_inj same
  exact ⟨String.toList_injective texts, rest⟩

/-! ## Sequences -/

def Ends (rest : List Char) : Prop := ∀ char ∈ rest.head?, isNumeral char = false

theorem ends_cons {char : Char} (other : isNumeral char = false) (rest : List Char) :
    Ends (char :: rest) := by
  intro first same
  cases same
  exact other

def Unique {α : Type} (write : α → List Char) (value : α) : Prop :=
  ∀ other left right, Ends left → Ends right → write value ++ left = write other ++ right →
    value = other ∧ left = right

section Sequences

variable {α : Type} {write : α → List Char}

theorem intercalate_cons (first : List Char) (rest : List (List Char)) :
    [','].intercalate (first :: rest) = first ++ rest.flatMap (',' :: ·) := by
  induction rest generalizing first with
  | nil => simp
  | cons next rest ih =>
      rw [List.intercalate_cons_cons, ih, List.flatMap_cons]
      simp

variable {close : Char} (apart : close ≠ ',') (ending : isNumeral close = false)
include apart ending

theorem tail_inj {first second : List α} {left right : List Char}
    (unique : ∀ item ∈ first, Unique write item)
    (same : (first.map write).flatMap (',' :: ·) ++ close :: left =
      (second.map write).flatMap (',' :: ·) ++ close :: right) : first = second ∧ left = right := by
  have ends : ∀ (items : List α) (rest : List Char),
      Ends ((items.map write).flatMap (',' :: ·) ++ close :: rest) := by
    intro items rest
    cases items with
    | nil => exact ends_cons ending rest
    | cons item items => exact ends_cons (by decide) _
  induction first generalizing second with
  | nil =>
      cases second with
      | nil => exact ⟨rfl, (List.cons.inj same).2⟩
      | cons item rest => exact absurd (List.cons.inj same).1 apart
  | cons item rest ih =>
      cases second with
      | nil => exact absurd (List.cons.inj same).1.symm apart
      | cons other behind =>
          simp only [List.map_cons, List.flatMap_cons, List.cons_append, List.append_assoc,
            List.cons.injEq, true_and] at same
          obtain ⟨rfl, tails⟩ :=
            unique item List.mem_cons_self other _ _ (ends rest left) (ends behind right) same
          obtain ⟨rfl, last⟩ := ih (fun item member => unique item (List.mem_cons_of_mem _ member))
            tails
          exact ⟨rfl, last⟩

theorem sequence_inj (starts : ∀ item left right, write item ++ left ≠ close :: right)
    {first second : List α} {left right : List Char}
    (unique : ∀ item ∈ first, Unique write item)
    (same : [','].intercalate (first.map write) ++ [close] ++ left =
      [','].intercalate (second.map write) ++ [close] ++ right) :
    first = second ∧ left = right := by
  rw [List.append_assoc, List.append_assoc, List.singleton_append, List.singleton_append] at same
  cases first with
  | nil =>
      cases second with
      | nil => exact ⟨rfl, (List.cons.inj same).2⟩
      | cons other behind =>
          rw [List.map_cons, intercalate_cons, List.append_assoc] at same
          exact absurd same.symm (starts other _ _)
  | cons item rest =>
      rw [List.map_cons, intercalate_cons, List.append_assoc] at same
      cases second with
      | nil => exact absurd same (starts item _ _)
      | cons other behind =>
          rw [List.map_cons, intercalate_cons, List.append_assoc] at same
          refine tail_inj apart ending unique ?_
          simpa using same

end Sequences

/-! ## Values -/

section Values

theorem itemTexts_eq (items : List (Value φ)) :
    itemTexts numerals items = items.map (text numerals) := by
  induction items with
  | nil => rfl
  | cons item rest ih => rw [itemTexts, ih, List.map_cons]

def fieldText (field : String × Value φ) : List Char :=
  quote field.1 ++ ':' :: text numerals field.2

theorem fieldTexts_eq (fields : List (String × Value φ)) :
    fieldTexts numerals fields = fields.map (fieldText numerals) := by
  induction fields with
  | nil => rfl
  | cons field rest ih =>
      obtain ⟨name, value⟩ := field
      rw [fieldTexts, ih, List.map_cons, fieldText]

inductive Kind
  | null
  | bool
  | number
  | string
  | array
  | object
  deriving DecidableEq

def Value.kind : Value φ → Kind
  | .null => .null
  | .bool _ => .bool
  | .number _ => .number
  | .string _ => .string
  | .array _ => .array
  | .object _ => .object

/-- The kind of the values that start with a character. -/
def kindOf (char : Char) : Option Kind :=
  if char = 'n' then some .null
  else if char = 't' ∨ char = 'f' then some .bool
  else if char = '"' then some .string
  else if char = '[' then some .array
  else if char = '\x7b' then some .object
  else if isNumeral char then some .number
  else none

theorem kindOf_numeral {char : Char} (numeral : isNumeral char = true) :
    kindOf char = some .number := by
  have other : ∀ letter, isNumeral letter = false → char ≠ letter := by
    rintro letter plain rfl
    exact Bool.false_ne_true (plain.symm.trans numeral)
  rw [kindOf, if_neg (other _ (by decide)),
    if_neg (not_or.mpr ⟨other _ (by decide), other _ (by decide)⟩), if_neg (other _ (by decide)),
    if_neg (other _ (by decide)), if_neg (other _ (by decide)), if_pos numeral]

theorem text_starts (value : Value φ) :
    ∃ char rest, text numerals value = char :: rest ∧ kindOf char = some value.kind := by
  cases value with
  | null => exact ⟨_, _, rfl, rfl⟩
  | bool value => cases value <;> exact ⟨_, _, rfl, rfl⟩
  | number number =>
      obtain ⟨char, rest, split⟩ := List.exists_cons_of_ne_nil (numerals.written number)
      refine ⟨char, rest, split, kindOf_numeral (numerals.plain number char ?_)⟩
      rw [split]
      exact List.mem_cons_self
  | string value => exact ⟨_, _, rfl, rfl⟩
  | array items => exact ⟨_, _, rfl, rfl⟩
  | object fields => exact ⟨_, _, rfl, rfl⟩

theorem kind_eq {first second : Value φ} {left right : List Char}
    (same : text numerals first ++ left = text numerals second ++ right) :
    first.kind = second.kind := by
  obtain ⟨char, rest, split, kind⟩ := text_starts numerals first
  obtain ⟨char', rest', split', kind'⟩ := text_starts numerals second
  rw [split, split'] at same
  rw [(List.cons.inj same).1, kind'] at kind
  exact (Option.some.inj kind).symm

theorem text_ne_close {close : Char} (closing : kindOf close = none) (value : Value φ)
    (left right : List Char) : text numerals value ++ left ≠ close :: right := by
  intro same
  obtain ⟨char, rest, split, kind⟩ := text_starts numerals value
  rw [split] at same
  rw [(List.cons.inj same).1, closing] at kind
  cases kind

theorem number_unique (number : φ) : Unique numerals.text number := by
  intro other left right ends ends' same
  have cut : ∀ (n : φ) (rest : List Char), Ends rest →
      (numerals.text n ++ rest).takeWhile isNumeral = numerals.text n := by
    intro n rest ends
    rw [List.takeWhile_append_of_pos (numerals.plain n)]
    cases rest with
    | nil => simp
    | cons char rest => simp [ends char rfl]
  have texts : numerals.text number = numerals.text other := by
    rw [← cut number left ends, same, cut other right ends']
  exact ⟨numerals.injective texts, List.append_cancel_left (texts ▸ same)⟩

theorem text_unique (value : Value φ) : Unique (text numerals) value := by
  induction value using Value.induct with
  | null =>
      intro other left right _ _ same
      have kinds := kind_eq numerals same
      cases other
      case null => exact ⟨rfl, List.append_cancel_left same⟩
      all_goals cases kinds
  | bool value =>
      intro other left right _ _ same
      have kinds := kind_eq numerals same
      cases other
      case bool other =>
          cases value <;> cases other
          case false.false => exact ⟨rfl, List.append_cancel_left same⟩
          case true.true => exact ⟨rfl, List.append_cancel_left same⟩
          all_goals exact absurd (List.cons.inj same).1 (by decide)
      all_goals cases kinds
  | number number =>
      intro other left right ends ends' same
      have kinds := kind_eq numerals same
      cases other
      case number other =>
          obtain ⟨rfl, rest⟩ := number_unique numerals number other left right ends ends' same
          exact ⟨rfl, rest⟩
      all_goals cases kinds
  | string value =>
      intro other left right _ _ same
      have kinds := kind_eq numerals same
      cases other
      case string other =>
          obtain ⟨rfl, rest⟩ := quote_inj same
          exact ⟨rfl, rest⟩
      all_goals cases kinds
  | array items ih =>
      intro other left right _ _ same
      have kinds := kind_eq numerals same
      cases other
      case array others =>
          simp only [text, itemTexts_eq, List.cons_append, List.cons.injEq, true_and] at same
          obtain ⟨rfl, rest⟩ := sequence_inj (by decide) (by decide)
            (text_ne_close numerals (by decide)) ih same
          exact ⟨rfl, rest⟩
      all_goals cases kinds
  | object fields ih =>
      intro other left right _ _ same
      have kinds := kind_eq numerals same
      cases other
      case object others =>
          simp only [text, fieldTexts_eq, List.cons_append, List.cons.injEq, true_and] at same
          have unique : ∀ field ∈ fields, Unique (fieldText numerals) field := by
            rintro ⟨name, value⟩ member ⟨name', value'⟩ left right ends ends' same
            simp only [fieldText, List.append_assoc, List.cons_append] at same
            obtain ⟨rfl, behind⟩ := quote_inj same
            obtain ⟨rfl, rest⟩ :=
              ih _ member value' left right ends ends' (List.cons.inj behind).2
            exact ⟨rfl, rest⟩
          have starts : ∀ field left right, fieldText numerals field ++ left ≠ '\x7d' :: right :=
            fun field left right same => absurd (List.cons.inj same).1 (by decide)
          obtain ⟨rfl, rest⟩ := sequence_inj (by decide) (by decide) starts unique same
          exact ⟨rfl, rest⟩
      all_goals cases kinds

theorem text_injective : Function.Injective (text numerals) := by
  intro first second same
  have ends : Ends [] := fun char member => absurd member (by simp)
  exact (text_unique numerals first second [] [] ends ends (congrArg (· ++ []) same)).1

end Values

/-! ## Lists of names -/

/-- A number as it is read; a text with a large exponent is read as an infinite one. -/
inductive Numeric (φ : Type)
  | finite (value : φ)
  | infinite (negative : Bool)

section Names

def select (allowed : List String) (fields : List (String × Value φ)) :
    List (String × Value φ) :=
  allowed.filterMap fun name => (fields.lookup name).map fun value => (name, value)

variable (allowed : List String)

mutual

/-- What is written of a value if the names of fields are listed: the fields of these
names on every level, and null for a number without a text. -/
def keep : Value (Numeric φ) → Value φ
  | .null => .null
  | .bool value => .bool value
  | .number (.finite value) => .number value
  | .number (.infinite _) => .null
  | .string value => .string value
  | .array items => .array (keepItems items)
  | .object fields => .object (select allowed (keepFields fields))

def keepItems : List (Value (Numeric φ)) → List (Value φ)
  | [] => []
  | item :: rest => keep item :: keepItems rest

def keepFields : List (String × Value (Numeric φ)) → List (String × Value φ)
  | [] => []
  | (name, value) :: rest => (name, keep value) :: keepFields rest

end

def stringify (value : Value (Numeric φ)) : List Char := text numerals (keep allowed value)

theorem keepItems_eq (items : List (Value (Numeric φ))) :
    keepItems allowed items = items.map (keep allowed) := by
  induction items with
  | nil => rfl
  | cons item rest ih => rw [keepItems, ih, List.map_cons]

theorem lookup_keepFields (name : String) (fields : List (String × Value (Numeric φ))) :
    (keepFields allowed fields).lookup name = (fields.lookup name).map (keep allowed) := by
  induction fields with
  | nil => rfl
  | cons field rest ih =>
      obtain ⟨other, value⟩ := field
      rw [keepFields, List.lookup_cons, List.lookup_cons]
      split
      case h_1 => rfl
      case h_2 => exact ih

variable {allowed} {name first : String} {rest : List String} {fields : List (String × Value φ)}

theorem select_cons_of_none (missing : fields.lookup first = none) :
    select (first :: rest) fields = select rest fields :=
  List.filterMap_cons_none (by rw [missing]; rfl)

theorem select_cons_of_some {value : Value φ} (found : fields.lookup first = some value) :
    select (first :: rest) fields = (first, value) :: select rest fields :=
  List.filterMap_cons_some (by rw [found]; rfl)

theorem lookup_select :
    (select allowed fields).lookup name = if name ∈ allowed then fields.lookup name else none := by
  induction allowed with
  | nil => rfl
  | cons first rest ih =>
      cases found : fields.lookup first with
      | none =>
          rw [select_cons_of_none found, ih]
          by_cases same : name = first
          · rw [same, found, ite_self, ite_self]
          · simp [same]
      | some value =>
          rw [select_cons_of_some found, List.lookup_cons]
          by_cases same : name = first
          · simp [same, found]
          · rw [beq_false_of_ne same]
            simpa [same] using ih

theorem map_select (present : ∀ name ∈ allowed, (fields.lookup name).isSome) :
    (select allowed fields).map Prod.fst = allowed := by
  induction allowed with
  | nil => rfl
  | cons first rest ih =>
      obtain ⟨value, found⟩ := Option.isSome_iff_exists.mp (present first List.mem_cons_self)
      rw [select_cons_of_some found, List.map_cons,
        ih fun name member => present name (List.mem_cons_of_mem _ member)]

/-- Values that are written in full, and that nothing else is written like. -/
inductive Exact : Value (Numeric φ) → Prop
  | bool (value : Bool) : Exact (.bool value)
  | number (value : φ) : Exact (.number (.finite value))
  | string (value : String) : Exact (.string value)
  | array (items : List (Value (Numeric φ))) (exact : ∀ item ∈ items, Exact item) :
      Exact (.array items)

theorem Exact.eq_of_keep {value : Value (Numeric φ)} (exact : Exact value)
    {other : Value (Numeric φ)} (same : keep allowed value = keep allowed other) :
    other = value := by
  induction exact generalizing other with
  | bool value =>
      cases other
      case bool other => exact congrArg Value.bool (Value.bool.inj same).symm
      case number number => cases number <;> cases same
      all_goals cases same
  | number value =>
      cases other
      case number number =>
          cases number with
          | finite other =>
              exact congrArg (fun n => Value.number (Numeric.finite n)) (Value.number.inj same).symm
          | infinite negative => cases same
      all_goals cases same
  | string value =>
      cases other
      case string other => exact congrArg Value.string (Value.string.inj same).symm
      case number number => cases number <;> cases same
      all_goals cases same
  | array items exact ih =>
      cases other
      case array others =>
          have lists := Value.array.inj same
          rw [keepItems_eq, keepItems_eq] at lists
          refine congrArg Value.array (List.ext_getElem ?_ fun index inside inside' => ?_)
          · simpa using (congrArg List.length lists).symm
          · refine ih _ (List.getElem_mem inside') ?_
            have entries := congrArg (·[index]?) lists
            simpa [inside, inside'] using entries
      case number number => cases number <;> cases same
      all_goals cases same

end Names

end PactNetwork.JsonText
