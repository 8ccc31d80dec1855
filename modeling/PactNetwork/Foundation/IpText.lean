import Mathlib.Data.List.Basic

/-!
# Addresses as texts

The ways to write an address of the internet protocol: four decimal numbers for the
short ones, and for the long ones groups of hex digits in either case, with or without
zeros in front, a run of zero groups left out, the last two groups as a short address.
-/

set_option autoImplicit false

namespace PactNetwork.IpText

def lower (text : List Char) : List Char := text.map Char.toLower

theorem lower_append (front back : List Char) : lower (front ++ back) = lower front ++ lower back :=
  List.map_append

theorem lower_cons (char : Char) (text : List Char) :
    lower (char :: text) = char.toLower :: lower text :=
  rfl

theorem toLower_of_isDigit {char : Char} (digit : char.isDigit = true) : char.toLower = char := by
  rw [Char.isDigit, Bool.and_eq_true, decide_eq_true_eq, decide_eq_true_eq] at digit
  have low : ¬ (char.val ≥ 65 ∧ char.val ≤ 90) := fun upper =>
    absurd (UInt32.le_trans upper.1 digit.2) (by decide)
  exact dif_neg low

def brackets : List Char := ['[', ']', '%']

theorem not_digit_of_bracket {char : Char} (bracket : char ∈ brackets) : char.isDigit ≠ true := by
  rw [brackets, List.mem_cons, List.mem_cons, List.mem_singleton] at bracket
  obtain rfl | rfl | rfl := bracket
  · decide
  · decide
  · decide

/-! ## Separated texts -/

section Separated

variable {separator char : Char} {pieces : List (List Char)}

theorem cases_of_mem_intercalate (member : char ∈ [separator].intercalate pieces) :
    char = separator ∨ ∃ piece ∈ pieces, char ∈ piece := by
  induction pieces with
  | nil => cases member
  | cons piece rest ih =>
      cases rest with
      | nil =>
          rw [List.intercalate_singleton] at member
          exact .inr ⟨piece, List.mem_cons_self, member⟩
      | cons next rest =>
          rw [List.intercalate_cons_cons, List.append_assoc, List.mem_append] at member
          cases member with
          | inl within => exact .inr ⟨piece, List.mem_cons_self, within⟩
          | inr behind =>
              cases behind with
              | head => exact .inl rfl
              | tail _ behind =>
                  obtain same | ⟨piece', listed, within⟩ := ih behind
                  · exact .inl same
                  · exact .inr ⟨piece', List.mem_cons_of_mem _ listed, within⟩

theorem lower_intercalate (kept : separator.toLower = separator) :
    lower ([separator].intercalate pieces) = [separator].intercalate (pieces.map lower) := by
  induction pieces with
  | nil => rfl
  | cons piece rest ih =>
      cases rest with
      | nil => rw [List.map_singleton, List.intercalate_singleton, List.intercalate_singleton]
      | cons next rest =>
          have marked : lower [separator] = [separator] := congrArg (fun char => [char]) kept
          rw [List.intercalate_cons_cons, lower_append, lower_append, ih, marked]
          exact List.intercalate_cons_cons.symm

def orEmpty (pieces : List (List Char)) : List (List Char) := if pieces = [] then [[]] else pieces

theorem splitOn_join (apart : ∀ piece ∈ pieces, separator ∉ piece) :
    ([separator].intercalate pieces).splitOn separator = orEmpty pieces := by
  unfold orEmpty
  split
  case isTrue empty => rw [empty, List.intercalate_nil, List.splitOn_nil]
  case isFalse written => exact List.splitOn_intercalate separator apart written

theorem splitOn_open (text : List Char) :
    (separator :: text).splitOn separator = [] :: text.splitOn separator := by
  have split := List.splitOn_append_cons_self_of_not_mem (List.not_mem_nil (a := separator)) text
  exact split

end Separated

/-! ## Short addresses -/

structure Ipv4 where
  first : Fin 256
  second : Fin 256
  third : Fin 256
  fourth : Fin 256
  deriving DecidableEq

namespace Ipv4

def octets (address : Ipv4) : List Nat :=
  [address.first, address.second, address.third, address.fourth]

def groups (address : Ipv4) : List Nat :=
  [256 * address.first + address.second, 256 * address.third + address.fourth]

def parts (address : Ipv4) : List (List Char) := address.octets.map (Nat.toDigits 10)

def text (address : Ipv4) : List Char := ['.'].intercalate address.parts

def ofGroups (high low : Nat) : Ipv4 :=
  ⟨Fin.ofNat 256 (high / 256), Fin.ofNat 256 high, Fin.ofNat 256 (low / 256), Fin.ofNat 256 low⟩

theorem ofGroups_groups (address : Ipv4) :
    ofGroups (256 * address.first + address.second) (256 * address.third + address.fourth) =
      address := by
  obtain ⟨⟨first, _⟩, ⟨second, _⟩, ⟨third, _⟩, ⟨fourth, _⟩⟩ := address
  simp only [ofGroups, Fin.ofNat, mk.injEq, Fin.mk.injEq]
  omega

theorem isDigit_of_mem_parts {address : Ipv4} {part : List Char} {char : Char}
    (listed : part ∈ address.parts) (member : char ∈ part) : char.isDigit = true := by
  obtain ⟨octet, -, rfl⟩ := List.mem_map.mp listed
  exact Nat.isDigit_of_mem_toDigits (by decide) (by decide) member

theorem splitOn_text (address : Ipv4) : address.text.splitOn '.' = address.parts := by
  refine List.splitOn_intercalate '.' (fun part listed member => ?_) (List.cons_ne_nil _ _)
  exact absurd (isDigit_of_mem_parts listed member) (by decide)

theorem cases_of_mem_text {address : Ipv4} {char : Char} (member : char ∈ address.text) :
    char.isDigit = true ∨ char = '.' := by
  obtain same | ⟨part, listed, within⟩ := cases_of_mem_intercalate member
  · exact .inr same
  · exact .inl (isDigit_of_mem_parts listed within)

theorem plain_of_mem_text {address : Ipv4} {char : Char} (member : char ∈ address.text) :
    char ∉ brackets := by
  intro bracket
  cases cases_of_mem_text member with
  | inl digit => exact not_digit_of_bracket bracket digit
  | inr dot => exact absurd (dot ▸ bracket) (by decide)

theorem lower_text (address : Ipv4) : lower address.text = address.text := by
  have same : ∀ char ∈ address.text, char.toLower = char := by
    intro char member
    cases cases_of_mem_text member with
    | inl digit => exact toLower_of_isDigit digit
    | inr dot => rw [dot]; rfl
  exact (List.map_congr_left same).trans (List.map_id _)

theorem dot_mem_text (address : Ipv4) : '.' ∈ address.text := by
  rw [text, parts, octets, List.map_cons, List.map_cons, List.intercalate_cons_cons]
  exact List.mem_append_left _ (List.mem_append_right _ List.mem_cons_self)

end Ipv4

/-! ## Addresses -/

inductive Address where
  | short (address : Ipv4)
  | long (groups : List Nat)
  deriving DecidableEq

def Address.ofGroups (groups : List Nat) : Address :=
  if groups.take 6 = [0, 0, 0, 0, 0, 65535] then
    .short (Ipv4.ofGroups (groups.getD 6 0) (groups.getD 7 0))
  else .long groups

/-! ## Groups -/

structure HexDigit where
  value : Fin 16
  upper : Bool

namespace HexDigit

def char (digit : HexDigit) : Char :=
  if digit.upper then (Nat.digitChar digit.value).toUpper else Nat.digitChar digit.value

theorem toLower_char (digit : HexDigit) : digit.char.toLower = Nat.digitChar digit.value := by
  have all : ∀ value : Fin 16, ∀ upper : Bool,
      (HexDigit.mk value upper).char.toLower = Nat.digitChar value := by decide
  exact all digit.value digit.upper

theorem char_plain (digit : HexDigit) : digit.char ∉ brackets := by
  have all : ∀ value : Fin 16, ∀ upper : Bool, (HexDigit.mk value upper).char ∉ brackets := by
    decide
  exact all digit.value digit.upper

end HexDigit

/-- One to four digits, the first of which may be zero. -/
structure Group where
  digits : List HexDigit
  written : digits ≠ []
  short : digits.length ≤ 4

namespace Group

def text (group : Group) : List Char := group.digits.map HexDigit.char

def number (digits : List Nat) : Nat := digits.foldl (fun value digit => 16 * value + digit) 0

def value (group : Group) : Nat := number (group.digits.map fun digit => (digit.value : Nat))

theorem lower_text (group : Group) :
    lower group.text = (group.digits.map fun digit => (digit.value : Nat)).map Nat.digitChar := by
  rw [lower, text, List.map_map, List.map_map]
  exact List.map_congr_left fun digit _ => digit.toLower_char

theorem lower_text_ne_nil (group : Group) : lower group.text ≠ [] := by
  rw [lower_text, ne_eq, List.map_eq_nil_iff, List.map_eq_nil_iff]
  exact group.written

theorem value_congr {group other : Group} (same : lower group.text = lower other.text) :
    group.value = other.value := by
  have injective : ∀ first second : Fin 16,
      Nat.digitChar first = Nat.digitChar second → first = second := by decide
  rw [lower_text, lower_text] at same
  suffices equal : group.digits.map HexDigit.value = other.digits.map HexDigit.value by
    have values := congrArg (List.map Fin.val) equal
    rw [List.map_map, List.map_map] at values
    exact congrArg number values
  apply List.map_injective_iff.mpr (fun first second => injective first second)
  rw [List.map_map, List.map_map] at same ⊢
  exact same

theorem value_single {group : Group} {value : Fin 16}
    (same : lower group.text = [Nat.digitChar value]) : group.value = value := by
  let single : Group := ⟨[⟨value, false⟩], List.cons_ne_nil _ _, Nat.le_add_left 1 3⟩
  have equal : lower group.text = lower single.text := by
    rw [same, lower_text]
    rfl
  rw [value_congr equal]
  exact Nat.zero_add _

theorem apart_of_mem_lower {group : Group} {char : Char} (member : char ∈ lower group.text) :
    char ≠ ':' ∧ char ≠ '.' := by
  have all : ∀ value : Fin 16, Nat.digitChar value ≠ ':' ∧ Nat.digitChar value ≠ '.' := by decide
  rw [lower_text, List.map_map] at member
  obtain ⟨digit, -, rfl⟩ := List.mem_map.mp member
  exact all digit.value

end Group

/-! ## Long addresses -/

/-- The end of a long address, whose last two groups may be written as a short one. -/
structure Ending where
  groups : List Group
  dotted : Option Ipv4

namespace Ending

def values (ending : Ending) : List Nat :=
  ending.groups.map Group.value ++ ending.dotted.toList.flatMap Ipv4.groups

def pieces (ending : Ending) : List (List Char) :=
  ending.groups.map Group.text ++ ending.dotted.toList.map Ipv4.text

end Ending

def join (pieces : List (List Char)) : List Char := [':'].intercalate pieces

/-- A long address: all groups, or a run of zero groups left out. -/
inductive Ipv6Text where
  | full (ending : Ending) (whole : ending.values.length = 8)
  | compressed (leading : List Group) (ending : Ending)
      (short : leading.length + ending.values.length ≤ 7)

namespace Ipv6Text

def text : Ipv6Text → List Char
  | full ending _ => join ending.pieces
  | compressed leading ending _ =>
      join (leading.map Group.text) ++ ':' :: ':' :: join ending.pieces

def groups : Ipv6Text → List Nat
  | full ending _ => ending.values
  | compressed leading ending _ =>
      leading.map Group.value ++
        List.replicate (8 - (leading.length + ending.values.length)) 0 ++ ending.values

variable {ending : Ending} {leading : List Group}

theorem colon_not_mem {piece : List Char} (listed : piece ∈ ending.pieces.map lower) :
    ':' ∉ piece := by
  intro member
  obtain ⟨raw, written, rfl⟩ := List.mem_map.mp listed
  rw [Ending.pieces, List.mem_append] at written
  cases written with
  | inl grouped =>
      obtain ⟨group, -, rfl⟩ := List.mem_map.mp grouped
      exact (Group.apart_of_mem_lower member).1 rfl
  | inr dotted =>
      obtain ⟨address, -, rfl⟩ := List.mem_map.mp dotted
      rw [Ipv4.lower_text] at member
      cases Ipv4.cases_of_mem_text member with
      | inl digit => exact absurd digit (by decide)
      | inr dot => exact absurd dot (by decide)

theorem colon_not_mem_leading {piece : List Char}
    (listed : piece ∈ (leading.map Group.text).map lower) : ':' ∉ piece := by
  intro member
  rw [List.map_map] at listed
  obtain ⟨group, -, rfl⟩ := List.mem_map.mp listed
  exact (Group.apart_of_mem_lower member).1 rfl

theorem lower_join (pieces : List (List Char)) : lower (join pieces) = join (pieces.map lower) :=
  lower_intercalate rfl

theorem splitOn_lower_full {whole : ending.values.length = 8} :
    (lower (full ending whole).text).splitOn ':' = orEmpty (ending.pieces.map lower) := by
  rw [text, lower_join, join]
  exact splitOn_join fun _ => colon_not_mem

theorem splitOn_lower_compressed {short : leading.length + ending.values.length ≤ 7} :
    (lower (compressed leading ending short).text).splitOn ':' =
      orEmpty ((leading.map Group.text).map lower) ++ [] :: orEmpty (ending.pieces.map lower) := by
  have colon : ':'.toLower = ':' := rfl
  rw [text, lower_append, lower_cons, lower_cons, lower_join, lower_join, colon,
    List.splitOn_append_cons_self, join, join, splitOn_join fun _ => colon_not_mem_leading,
    splitOn_open, splitOn_join fun _ => colon_not_mem]

theorem pieces_of_full (whole : ending.values.length = 8) :
    ∃ group next rest, ending.pieces = Group.text group :: next :: rest ∧
      ending.values.head? = some group.value := by
  obtain ⟨groups, dotted⟩ := ending
  cases groups with
  | nil => cases dotted <;> cases whole
  | cons group groups =>
      cases groups with
      | nil => cases dotted <;> cases whole
      | cons next groups => exact ⟨group, next.text, _, rfl, rfl⟩

theorem open_shape {address : Ipv6Text} {behind : List Char}
    (opened : lower address.text = ':' :: ':' :: behind) :
    ∃ ending short, address = compressed [] ending short ∧
      behind.splitOn ':' = orEmpty (ending.pieces.map lower) := by
  have pieces : (lower address.text).splitOn ':' = [] :: [] :: behind.splitOn ':' := by
    rw [opened, splitOn_open, splitOn_open]
  cases address with
  | full ending whole =>
      obtain ⟨group, next, rest, written, -⟩ := pieces_of_full whole
      rw [splitOn_lower_full, written, List.map_cons, orEmpty, if_neg (List.cons_ne_nil _ _)]
        at pieces
      exact absurd (List.cons.inj pieces).1 group.lower_text_ne_nil
  | compressed leading ending short =>
      rw [splitOn_lower_compressed] at pieces
      cases leading with
      | nil => exact ⟨ending, short, rfl, (List.cons.inj (List.cons.inj pieces).2).2.symm⟩
      | cons group leading =>
          rw [List.map_cons, List.map_cons, orEmpty, if_neg (List.cons_ne_nil _ _)] at pieces
          exact absurd (List.cons.inj pieces).1 group.lower_text_ne_nil

theorem quad_shape {address : Ipv6Text} {first last : List Char}
    (written : lower address.text = ':' :: ':' :: (first ++ ':' :: last)) (apart : ':' ∉ first)
    (whole : ':' ∉ last) (dotted : '.' ∈ last) :
    ∃ group quad short, address = compressed [] ⟨[group], some quad⟩ short ∧
      lower group.text = first ∧ quad.text = last := by
  obtain ⟨ending, short, rfl, pieces⟩ := open_shape written
  rw [List.splitOn_append_cons_self_of_not_mem apart, List.splitOn_eq_singleton whole, orEmpty]
    at pieces
  obtain ⟨groups, quad⟩ := ending
  cases groups with
  | nil => cases quad <;> cases pieces
  | cons group groups =>
      cases groups with
      | nil =>
          cases quad with
          | none => cases pieces
          | some quad =>
              have same := List.cons.inj pieces
              refine ⟨group, quad, short, rfl, same.1.symm, ?_⟩
              rw [← quad.lower_text]
              exact (List.cons.inj same.2).1.symm
      | cons next groups =>
          have same := (List.cons.inj (List.cons.inj pieces).2).1
          rw [same] at dotted
          exact absurd rfl (Group.apart_of_mem_lower dotted).2

theorem short_shape {address : Ipv6Text} {last : List Char}
    (written : lower address.text = ':' :: ':' :: last) (whole : ':' ∉ last)
    (plain : '.' ∉ last) :
    (∃ short, address = compressed [] ⟨[], none⟩ short ∧ last = []) ∨
      ∃ group short, address = compressed [] ⟨[group], none⟩ short ∧ lower group.text = last := by
  obtain ⟨ending, short, rfl, pieces⟩ := open_shape written
  rw [List.splitOn_eq_singleton whole, orEmpty] at pieces
  obtain ⟨groups, quad⟩ := ending
  cases groups with
  | nil =>
      cases quad with
      | none => exact .inl ⟨short, rfl, (List.cons.inj pieces).1⟩
      | some quad =>
          have same : last = lower quad.text := (List.cons.inj pieces).1
          rw [same, quad.lower_text] at plain
          exact absurd quad.dot_mem_text plain
  | cons group groups =>
      cases groups with
      | nil =>
          cases quad with
          | none => exact .inr ⟨group, short, rfl, (List.cons.inj pieces).1.symm⟩
          | some quad => cases pieces
      | cons next groups => cases pieces

theorem first_shape (address : Ipv6Text) :
    (∃ ending short, address = compressed [] ending short) ∨
      ∃ (group : Group) (rest : List Char), lower address.text = lower group.text ++ ':' :: rest ∧
        address.groups.head? = some group.value := by
  cases address with
  | full ending whole =>
      obtain ⟨group, next, rest, written, first⟩ := pieces_of_full whole
      refine .inr ⟨group, lower (join (next :: rest)), ?_, first⟩
      rw [text, written, join, List.intercalate_cons_cons, lower_append, lower_append,
        List.append_assoc]
      rfl
  | compressed leading ending short =>
      cases leading with
      | nil => exact .inl ⟨ending, short, rfl⟩
      | cons group leading =>
          cases leading with
          | nil =>
              refine .inr ⟨group, lower (':' :: join ending.pieces), ?_, rfl⟩
              rw [text, List.map_singleton, join, List.intercalate_singleton, lower_append]
              rfl
          | cons next leading =>
              refine .inr ⟨group, lower (join ((next :: leading).map Group.text) ++
                ':' :: ':' :: join ending.pieces), ?_, rfl⟩
              rw [text, List.map_cons, List.map_cons, join, List.intercalate_cons_cons,
                lower_append, lower_append, lower_append, lower_append, List.append_assoc,
                List.append_assoc]
              rfl

theorem plain_of_mem_pieces {piece : List Char} {char : Char} (listed : piece ∈ ending.pieces)
    (member : char ∈ piece) : char ∉ brackets := by
  rw [Ending.pieces, List.mem_append] at listed
  cases listed with
  | inl grouped =>
      obtain ⟨group, -, rfl⟩ := List.mem_map.mp grouped
      obtain ⟨digit, -, rfl⟩ := List.mem_map.mp member
      exact digit.char_plain
  | inr dotted =>
      obtain ⟨address, -, rfl⟩ := List.mem_map.mp dotted
      exact Ipv4.plain_of_mem_text member

theorem plain_of_mem_join {pieces : List (List Char)} {char : Char} (member : char ∈ join pieces)
    (plain : ∀ piece ∈ pieces, char ∈ piece → char ∉ brackets) : char ∉ brackets := by
  obtain rfl | ⟨piece, listed, within⟩ := cases_of_mem_intercalate member
  · decide
  · exact plain piece listed within

theorem plain_of_mem_text {address : Ipv6Text} {char : Char} (member : char ∈ address.text) :
    char ∉ brackets := by
  cases address with
  | full ending whole =>
      exact plain_of_mem_join member fun piece listed => plain_of_mem_pieces listed
  | compressed leading ending short =>
      rw [text, List.mem_append, List.mem_cons, List.mem_cons] at member
      obtain front | rfl | rfl | back := member
      · refine plain_of_mem_join front fun piece listed within => ?_
        obtain ⟨group, -, rfl⟩ := List.mem_map.mp listed
        obtain ⟨digit, -, rfl⟩ := List.mem_map.mp within
        exact digit.char_plain
      · decide
      · decide
      · exact plain_of_mem_join back fun piece listed => plain_of_mem_pieces listed

theorem colon_mem_text (address : Ipv6Text) : ':' ∈ address.text := by
  cases address with
  | full ending whole =>
      obtain ⟨group, next, rest, written, -⟩ := pieces_of_full whole
      rw [text, written, join, List.intercalate_cons_cons]
      exact List.mem_append_left _ (List.mem_append_right _ List.mem_cons_self)
  | compressed leading ending short => exact List.mem_append_right _ List.mem_cons_self

def address (spelled : Ipv6Text) : Address := Address.ofGroups spelled.groups

theorem take_of_short {spelled : Ipv6Text} {quad : Ipv4} (short : spelled.address = .short quad) :
    spelled.groups.take 6 = [0, 0, 0, 0, 0, 65535] := by
  unfold address Address.ofGroups at short
  split at short
  case isTrue mapped => exact mapped
  case isFalse => cases short

theorem groups_of_long {spelled : Ipv6Text} {groups : List Nat}
    (long : spelled.address = .long groups) : spelled.groups = groups := by
  unfold address Address.ofGroups at long
  split at long
  case isTrue => cases long
  case isFalse => exact Address.long.inj long

/-- A text that starts with two colons, one group of `f`s and a dotted end is mapped. -/
theorem address_mapped {group : Group} {quad : Ipv4}
    {short : ([] : List Group).length + (Ending.mk [group] (some quad)).values.length ≤ 7}
    (spelled : lower group.text = ['f', 'f', 'f', 'f']) :
    (compressed [] ⟨[group], some quad⟩ short).address = .short quad := by
  let ones : Group :=
    ⟨[⟨15, false⟩, ⟨15, false⟩, ⟨15, false⟩, ⟨15, false⟩], List.cons_ne_nil _ _, by decide⟩
  have value : group.value = 65535 := by
    have same : lower group.text = lower ones.text := spelled
    exact Group.value_congr same
  have groups : (compressed [] ⟨[group], some quad⟩ short).groups =
      [0, 0, 0, 0, 0, group.value, 256 * quad.first + quad.second,
        256 * quad.third + quad.fourth] := rfl
  rw [address, groups, value, Address.ofGroups]
  exact (if_pos rfl).trans (congrArg Address.short quad.ofGroups_groups)

def unspecified : List Nat := [0, 0, 0, 0, 0, 0, 0, 0]

def loopback : List Nat := [0, 0, 0, 0, 0, 0, 0, 1]

theorem groups_one {group : Group}
    {short : ([] : List Group).length + (Ending.mk [group] none).values.length ≤ 7} :
    (compressed [] ⟨[group], none⟩ short).groups = [0, 0, 0, 0, 0, 0, 0, group.value] :=
  rfl

end Ipv6Text

end PactNetwork.IpText
