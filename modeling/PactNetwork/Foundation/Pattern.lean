import Mathlib.Data.List.Basic

/-!
# Patterns

Regular expressions with a backtracking search: the matches from a place in the order in
which they are tried, the leftmost match in a text and the text without its matches.
Repetition is of single characters only.
-/

set_option autoImplicit false

namespace PactNetwork

inductive Pattern
  | empty
  | one (accepts : Char → Bool)
  /-- Between a character of a word and one that is not, or the end. -/
  | boundary
  /-- As many characters as possible first, or as few. -/
  | repeated (accepts : Char → Bool) (least : Nat) (most : Option Nat) (lazy : Bool)
  | seq (first second : Pattern)
  | alt (first second : Pattern)
  | group (index : Nat) (inner : Pattern)

namespace Pattern

def isWord (char : Char) : Bool := char.isAlphanum || char = '_'

/-- A place in a text: whether a word's character is before it, what is behind it, and
the groups matched so far. -/
structure Place where
  word : Bool
  rest : List Char
  groups : List (Nat × List Char)
  deriving DecidableEq

/-- The places that characters of a class lead to, the nearest first. -/
def climb (accepts : Char → Bool) (groups : List (Nat × List Char)) :
    Option Nat → Bool → List Char → List Place
  | _, word, [] => [⟨word, [], groups⟩]
  | some 0, word, rest => [⟨word, rest, groups⟩]
  | most, word, char :: rest =>
      ⟨word, char :: rest, groups⟩ ::
        if accepts char then climb accepts groups (most.map (· - 1)) (isWord char) rest else []

def run : Pattern → Place → List Place
  | .empty, place => [place]
  | .one accepts, place =>
      match place.rest with
      | [] => []
      | char :: rest => if accepts char then [⟨isWord char, rest, place.groups⟩] else []
  | .boundary, place => if place.word = place.rest.head?.any isWord then [] else [place]
  | .repeated accepts least most lazy, place =>
      let places := (climb accepts place.groups most place.word place.rest).drop least
      if lazy then places else places.reverse
  | .seq first second, place => (run first place).flatMap (run second)
  | .alt first second, place => run first place ++ run second place
  | .group index inner, place =>
      (run inner place).map fun found =>
        { found with
          groups := found.groups ++
            [(index, place.rest.take (place.rest.length - found.rest.length))] }

variable (pattern : Pattern)

def search (word : Bool) : List Char → Option Place
  | [] => (pattern.run ⟨word, [], []⟩).head?
  | char :: rest =>
      match (pattern.run ⟨word, char :: rest, []⟩).head? with
      | some found => some found
      | none => search (isWord char) rest

def test (text : List Char) : Bool := (pattern.search false text).isSome

def matched (text : List Char) : Option (List (Nat × List Char)) :=
  (pattern.search false text).map Place.groups

def capture (index : Nat) (text : List Char) : Option (List Char) :=
  (pattern.matched text).bind fun groups => groups.lookup index

/-- The text without its matches, which have one character at least; so many of its
characters belong to a match already. -/
def eraseFrom (word : Bool) : Nat → List Char → List Char
  | _, [] => []
  | skip + 1, char :: rest => eraseFrom (isWord char) skip rest
  | 0, char :: rest =>
      match (pattern.run ⟨word, char :: rest, []⟩).head? with
      | some found => eraseFrom (isWord char) (rest.length - found.rest.length) rest
      | none => char :: eraseFrom (isWord char) 0 rest

/-- `text.replace(pattern, "")` for a pattern that is global. -/
def erase (text : List Char) : List Char := pattern.eraseFrom false 0 text

/-! ## Texts as patterns -/

def literal (text : List Char) : Pattern := text.foldr (fun char => .seq (.one (· = char))) .empty

def anyCase (accepts : Char → Bool) (char : Char) : Bool :=
  accepts char || accepts char.toUpper || accepts char.toLower

def literalAnyCase (text : List Char) : Pattern :=
  text.foldr (fun char => .seq (.one (anyCase (· = char)))) .empty

def all (patterns : List Pattern) : Pattern := patterns.foldr .seq .empty

def any : List Pattern → Pattern
  | [] => .one fun _ => false
  | [only] => only
  | first :: rest => .alt first (any rest)

def optional (inner : Pattern) : Pattern := .alt inner .empty

/-! ## Text behind a match -/

section Behind

variable {pattern}

def Place.extend (tail : List Char) (place : Place) : Place :=
  { place with rest := place.rest ++ tail }

@[simp] theorem extend_mk (tail : List Char) (word : Bool) (rest : List Char)
    (groups : List (Nat × List Char)) :
    Place.extend tail ⟨word, rest, groups⟩ = ⟨word, rest ++ tail, groups⟩ := rfl

section Climb

variable {accepts : Char → Bool} {groups : List (Nat × List Char)} {most : Option Nat}
  {word : Bool} {char : Char} {rest tail : List Char}

theorem climb_nil : climb accepts groups most word [] = [⟨word, [], groups⟩] := by
  cases most <;> rfl

theorem climb_zero : climb accepts groups (some 0) word rest = [⟨word, rest, groups⟩] := by
  cases rest <;> rfl

theorem climb_cons (more : most ≠ some 0) :
    climb accepts groups most word (char :: rest) =
      ⟨word, char :: rest, groups⟩ ::
        if accepts char then climb accepts groups (most.map (· - 1)) (isWord char) rest
        else [] := by
  cases most with
  | none => rfl
  | some count =>
      cases count with
      | zero => exact absurd rfl more
      | succ count => rfl

theorem climb_starts (accepts : Char → Bool) (groups : List (Nat × List Char))
    (most : Option Nat) (word : Bool) (rest : List Char) :
    ∃ others, climb accepts groups most word rest = ⟨word, rest, groups⟩ :: others := by
  cases rest with
  | nil => exact ⟨[], climb_nil⟩
  | cons char rest =>
      by_cases more : most = some 0
      · exact ⟨[], more ▸ climb_zero⟩
      · exact ⟨_, climb_cons more⟩

theorem climb_extend (accepts : Char → Bool) (groups : List (Nat × List Char))
    (most : Option Nat) (word : Bool) (rest tail : List Char) :
    (climb accepts groups most word rest).map (Place.extend tail) <+:
      climb accepts groups most word (rest ++ tail) := by
  induction rest generalizing most word with
  | nil =>
      obtain ⟨others, split⟩ := climb_starts accepts groups most word tail
      rw [List.nil_append, split, climb_nil]
      exact ⟨others, rfl⟩
  | cons char rest ih =>
      by_cases more : most = some 0
      · rw [more, climb_zero, climb_zero]
        exact List.prefix_refl _
      · rw [climb_cons more, List.cons_append, climb_cons more, List.map_cons]
        refine List.prefix_cons_inj _ |>.mpr ?_
        split
        case isTrue => exact ih _ _
        case isFalse => exact List.prefix_refl _

theorem climb_line (inline : accepts '\n' = false) :
    climb accepts groups most word (rest ++ '\n' :: tail) =
      (climb accepts groups most word rest).map (Place.extend ('\n' :: tail)) := by
  induction rest generalizing most word with
  | nil =>
      rw [climb_nil, List.nil_append]
      by_cases more : most = some 0
      · rw [more, climb_zero]
        rfl
      · rw [climb_cons more, inline]
        rfl
  | cons char rest ih =>
      by_cases more : most = some 0
      · rw [more, climb_zero, climb_zero]
        rfl
      · rw [climb_cons more, List.cons_append, climb_cons more, List.map_cons]
        split
        case isTrue =>
            rw [ih]
            rfl
        case isFalse => rfl

theorem climb_steps {index : Nat} {found : Place}
    (reached : (climb accepts groups most word rest)[index]? = some found) :
    index ≤ rest.length ∧ found.rest = rest.drop index ∧
      (∀ char ∈ rest.take index, accepts char = true) ∧ found.groups = groups := by
  induction rest generalizing most word index with
  | nil =>
      rw [climb_nil] at reached
      cases index with
      | zero =>
          cases reached
          exact ⟨Nat.le_refl 0, rfl, fun _ member => absurd member List.not_mem_nil, rfl⟩
      | succ index => cases reached
  | cons char rest ih =>
      cases index with
      | zero =>
          obtain ⟨others, split⟩ := climb_starts accepts groups most word (char :: rest)
          rw [split] at reached
          cases reached
          exact ⟨Nat.zero_le _, rfl, fun _ member => absurd member List.not_mem_nil, rfl⟩
      | succ index =>
          by_cases more : most = some 0
          · rw [more, climb_zero] at reached
            cases reached
          · rw [climb_cons more, List.getElem?_cons_succ] at reached
            split at reached
            case isTrue accepted =>
                obtain ⟨inside, left, passed, kept⟩ := ih reached
                refine ⟨Nat.succ_le_succ inside, left, fun other member => ?_, kept⟩
                rw [List.take_succ_cons] at member
                cases member with
                | head => exact accepted
                | tail _ behind => exact passed other behind
            case isFalse => cases reached

end Climb

theorem head_extend {tail : List Char} (plain : tail.head?.any isWord = false)
    (rest : List Char) : (rest ++ tail).head?.any isWord = rest.head?.any isWord := by
  cases rest with
  | nil => exact plain
  | cons char rest => rfl

theorem take_extend (rest left tail : List Char) :
    (rest ++ tail).take ((rest ++ tail).length - (left ++ tail).length) =
      rest.take (rest.length - left.length) := by
  rw [List.length_append, List.length_append, Nat.add_sub_add_right,
    List.take_append_of_le_length (Nat.sub_le _ _)]

theorem mem_run_repeated {accepts : Char → Bool} {least : Nat} {most : Option Nat} {lazy : Bool}
    {place found : Place} :
    found ∈ run (.repeated accepts least most lazy) place ↔
      found ∈ (climb accepts place.groups most place.word place.rest).drop least := by
  rw [run]
  cases lazy with
  | true => exact Iff.rfl
  | false => exact List.mem_reverse

theorem mem_run_extend {tail : List Char} (plain : tail.head?.any isWord = false)
    {place found : Place} (matches' : found ∈ pattern.run place) :
    found.extend tail ∈ pattern.run (place.extend tail) := by
  induction pattern generalizing place found with
  | empty =>
      cases List.mem_singleton.mp matches'
      exact List.mem_singleton_self _
  | one accepts =>
      obtain ⟨word, rest, groups⟩ := place
      cases rest with
      | nil => cases matches'
      | cons char rest =>
          simp only [run, extend_mk, List.cons_append] at matches' ⊢
          split at matches'
          case isTrue accepted =>
              cases List.mem_singleton.mp matches'
              rw [if_pos accepted]
              exact List.mem_singleton_self _
          case isFalse => cases matches'
  | boundary =>
      simp only [run, Place.extend, head_extend plain] at matches' ⊢
      split at matches'
      case isTrue => cases matches'
      case isFalse between =>
          cases List.mem_singleton.mp matches'
          rw [if_neg between]
          exact List.mem_singleton_self _
  | repeated accepts least most lazy =>
      have further : found.extend tail ∈
          (climb accepts place.groups most place.word (place.rest ++ tail)).drop least := by
        obtain ⟨others, whole⟩ :=
          climb_extend accepts place.groups most place.word place.rest tail
        rw [← whole, List.drop_append, ← List.map_drop]
        exact List.mem_append_left _ (List.mem_map_of_mem (mem_run_repeated.mp matches'))
      exact mem_run_repeated.mpr further
  | seq first second ihFirst ihSecond =>
      obtain ⟨middle, begun, ended⟩ := List.mem_flatMap.mp matches'
      exact List.mem_flatMap.mpr ⟨_, ihFirst begun, ihSecond ended⟩
  | alt first second ihFirst ihSecond =>
      cases List.mem_append.mp matches' with
      | inl found => exact List.mem_append_left _ (ihFirst found)
      | inr found => exact List.mem_append_right _ (ihSecond found)
  | group index inner ih =>
      obtain ⟨end', found', rfl⟩ := List.mem_map.mp matches'
      refine List.mem_map.mpr ⟨_, ih found', ?_⟩
      simp only [Place.extend, take_extend]

def Inline : Pattern → Bool
  | .empty | .boundary => true
  | .one accepts => !accepts '\n'
  | .repeated accepts _ _ _ => !accepts '\n'
  | .seq first second => first.Inline && second.Inline
  | .alt first second => first.Inline && second.Inline
  | .group _ inner => inner.Inline

theorem run_line (inline : pattern.Inline = true) (tail : List Char) (place : Place) :
    pattern.run (place.extend ('\n' :: tail)) =
      (pattern.run place).map (Place.extend ('\n' :: tail)) := by
  induction pattern generalizing place with
  | empty => rfl
  | one accepts =>
      obtain ⟨word, rest, groups⟩ := place
      have break' : accepts '\n' = false := by simpa [Inline] using inline
      cases rest with
      | nil => simp [run, break']
      | cons char rest =>
          simp only [run, extend_mk, List.cons_append]
          split
          case isTrue => rfl
          case isFalse => rfl
  | boundary =>
      have plain : ('\n' :: tail).head?.any isWord = false := rfl
      simp only [run, Place.extend, head_extend plain]
      split
      case isTrue => rfl
      case isFalse => rfl
  | repeated accepts least most lazy =>
      have break' : accepts '\n' = false := by simpa [Inline] using inline
      simp only [run, Place.extend, climb_line break']
      rw [← List.map_drop]
      cases lazy with
      | true => rfl
      | false => exact List.map_reverse.symm
  | seq first second ihFirst ihSecond =>
      obtain ⟨one, other⟩ := Bool.and_eq_true_iff.mp inline
      rw [run, ihFirst one, List.flatMap_map, run, List.map_flatMap]
      exact List.flatMap_congr fun middle _ => ihSecond other middle
  | alt first second ihFirst ihSecond =>
      obtain ⟨one, other⟩ := Bool.and_eq_true_iff.mp inline
      rw [run, ihFirst one, ihSecond other, run, List.map_append]
  | group index inner ih =>
      rw [run, ih inline, run, List.map_map, List.map_map]
      refine List.map_congr_left fun found _ => ?_
      simp only [Function.comp_apply, Place.extend, take_extend]

theorem search_extend {tail : List Char} (plain : tail.head?.any isWord = false) {word : Bool}
    {text : List Char} (found : (pattern.search word text).isSome = true) :
    (pattern.search word (text ++ tail)).isSome = true := by
  have kept : ∀ (word : Bool) (text : List Char),
      (pattern.run ⟨word, text, []⟩).head?.isSome = true →
      (pattern.run ⟨word, text ++ tail, []⟩).head?.isSome = true := by
    intro word text some'
    obtain ⟨place, first⟩ := Option.isSome_iff_exists.mp some'
    have still := mem_run_extend plain (List.mem_of_mem_head? first)
    exact List.isSome_head?.mpr (List.ne_nil_of_mem still)
  induction text generalizing word with
  | nil =>
      have here := kept word [] found
      rw [List.nil_append] at here ⊢
      cases tail with
      | nil => exact here
      | cons char rest =>
          rw [search]
          split
          case h_1 => rfl
          case h_2 none' => rw [none'] at here; cases here
  | cons char rest ih =>
      rw [search] at found
      rw [List.cons_append, search]
      split
      case h_1 => rfl
      case h_2 none' =>
          split at found
          case h_1 place first =>
              have here := kept word (char :: rest) (by rw [first]; rfl)
              rw [List.cons_append, none'] at here
              cases here
          case h_2 => exact ih found

theorem test_extend {tail : List Char} (plain : tail.head?.any isWord = false)
    {text : List Char} (found : pattern.test text = true) : pattern.test (text ++ tail) = true :=
  search_extend plain found

end Behind

/-! ## Lines -/

section Lines

variable {pattern} (inline : pattern.Inline = true)
  (solid : ∀ word, pattern.run ⟨word, [], []⟩ = [])

include inline

theorem head_run_line (word : Bool) (front back : List Char) :
    (pattern.run ⟨word, front ++ '\n' :: back, []⟩).head? =
      (pattern.run ⟨word, front, []⟩).head?.map (Place.extend ('\n' :: back)) := by
  have line := run_line inline back ⟨word, front, []⟩
  rw [extend_mk] at line
  rw [line, List.head?_map]

include solid

theorem search_line (word : Bool) (front back : List Char) :
    pattern.search word (front ++ '\n' :: back) =
      ((pattern.search word front).map (Place.extend ('\n' :: back))).or
        (pattern.search false back) := by
  induction front generalizing word with
  | nil =>
      have nothing := head_run_line inline word [] back
      rw [solid] at nothing
      rw [List.nil_append] at nothing ⊢
      rw [search, solid, search, nothing]
      rfl
  | cons char rest ih =>
      have first := head_run_line inline word (char :: rest) back
      rw [List.cons_append] at first ⊢
      rw [search, first, search]
      cases (pattern.run ⟨word, char :: rest, []⟩).head? with
      | none => exact ih _
      | some found => rfl

theorem matched_line (front back : List Char) :
    pattern.matched (front ++ '\n' :: back) =
      (pattern.matched front).or (pattern.matched back) := by
  rw [matched, search_line inline solid, matched, matched]
  cases pattern.search false front with
  | none => rfl
  | some found => rfl

theorem eraseFrom_line (word : Bool) (skip : Nat) (front back : List Char)
    (inside : skip ≤ front.length) :
    pattern.eraseFrom word skip (front ++ '\n' :: back) =
      pattern.eraseFrom word skip front ++ '\n' :: pattern.erase back := by
  induction front generalizing word skip with
  | nil =>
      have nothing := head_run_line inline word [] back
      rw [solid] at nothing
      cases Nat.le_zero.mp inside
      rw [List.nil_append] at nothing ⊢
      rw [eraseFrom, eraseFrom, nothing]
      rfl
  | cons char rest ih =>
      rw [List.cons_append]
      cases skip with
      | succ skip => exact ih _ _ (Nat.le_of_succ_le_succ inside)
      | zero =>
          have first := head_run_line inline word (char :: rest) back
          rw [List.cons_append] at first
          rw [eraseFrom, first, eraseFrom]
          cases (pattern.run ⟨word, char :: rest, []⟩).head? with
          | none => exact congrArg (char :: ·) (ih _ _ (Nat.zero_le _))
          | some found =>
              have same : (rest ++ '\n' :: back).length -
                  (found.extend ('\n' :: back)).rest.length =
                    rest.length - found.rest.length := by
                rw [Place.extend, List.length_append, List.length_append, Nat.add_sub_add_right]
              change eraseFrom _ _ ((rest ++ '\n' :: back).length -
                (found.extend ('\n' :: back)).rest.length) _ = _
              rw [same]
              exact ih _ _ (Nat.sub_le _ _)

theorem erase_line (front back : List Char) :
    pattern.erase (front ++ '\n' :: back) = pattern.erase front ++ '\n' :: pattern.erase back :=
  eraseFrom_line inline solid false 0 front back (Nat.zero_le _)

end Lines

theorem erase_of_absent {pattern : Pattern} {text : List Char}
    (absent : ∀ char ∈ text, ∀ word rest, pattern.run ⟨word, char :: rest, []⟩ = []) :
    pattern.erase text = text := by
  have from' : ∀ word, pattern.eraseFrom word 0 text = text := by
    induction text with
    | nil => exact fun _ => rfl
    | cons char rest ih =>
        intro word
        rw [eraseFrom, absent char List.mem_cons_self word rest]
        exact congrArg (char :: ·)
          (ih (fun other member => absent other (List.mem_cons_of_mem _ member)) _)
  exact from' false

/-! ## Groups -/

section Groups

variable {index : Nat} {good : List Char → Prop}

/-- What the group of this index takes, wherever it stands, is good. -/
def Captures (index : Nat) (good : List Char → Prop) : Pattern → Prop
  | .seq first second => first.Captures index good ∧ second.Captures index good
  | .alt first second => first.Captures index good ∧ second.Captures index good
  | .group other inner =>
      inner.Captures index good ∧ (other = index → ∀ place, ∀ found ∈ inner.run place,
        good (place.rest.take (place.rest.length - found.rest.length)))
  | _ => True

theorem groups_of_run {pattern : Pattern} (captures : pattern.Captures index good)
    {place found : Place} (member : found ∈ pattern.run place)
    (before : ∀ text, (index, text) ∈ place.groups → good text) :
    ∀ text, (index, text) ∈ found.groups → good text := by
  induction pattern generalizing place found with
  | empty =>
      cases List.mem_singleton.mp member
      exact before
  | one accepts =>
      obtain ⟨word, rest, groups⟩ := place
      cases rest with
      | nil => cases member
      | cons char rest =>
          simp only [run] at member
          split at member
          case isTrue =>
              cases List.mem_singleton.mp member
              exact before
          case isFalse => cases member
  | boundary =>
      rw [run] at member
      split at member
      case isTrue => cases member
      case isFalse =>
          cases List.mem_singleton.mp member
          exact before
  | repeated accepts least most lazy =>
      have reached := List.mem_of_mem_drop (mem_run_repeated.mp member)
      obtain ⟨steps, at'⟩ := List.mem_iff_getElem?.mp reached
      rw [(climb_steps at').2.2.2]
      exact before
  | seq first second ihFirst ihSecond =>
      obtain ⟨middle, begun, ended⟩ := List.mem_flatMap.mp member
      exact ihSecond captures.2 ended (ihFirst captures.1 begun before)
  | alt first second ihFirst ihSecond =>
      cases List.mem_append.mp member with
      | inl taken => exact ihFirst captures.1 taken before
      | inr taken => exact ihSecond captures.2 taken before
  | group other inner ih =>
      obtain ⟨end', taken, rfl⟩ := List.mem_map.mp member
      intro text present
      cases List.mem_append.mp present with
      | inl old => exact ih captures.1 taken before text old
      | inr new =>
          cases List.mem_singleton.mp new
          exact captures.2 rfl place end' taken

theorem groups_of_search {pattern : Pattern} (captures : pattern.Captures index good)
    {word : Bool} {text : List Char} {found : Place}
    (first : pattern.search word text = some found) :
    ∀ taken, (index, taken) ∈ found.groups → good taken := by
  have nothing : ∀ taken, (index, taken) ∈ ([] : List (Nat × List Char)) → good taken :=
    fun _ member => absurd member List.not_mem_nil
  induction text generalizing word with
  | nil => exact groups_of_run captures (List.mem_of_mem_head? first) nothing
  | cons char rest ih =>
      rw [search] at first
      split at first
      case h_1 place here =>
          cases first
          exact groups_of_run captures (List.mem_of_mem_head? here) nothing
      case h_2 => exact ih first

theorem good_of_capture {pattern : Pattern} (captures : pattern.Captures index good)
    {text taken : List Char} (match' : pattern.capture index text = some taken) : good taken := by
  rw [capture, matched] at match'
  obtain ⟨groups, searched, looked⟩ := Option.bind_eq_some_iff.mp match'
  obtain ⟨found, first, rfl⟩ := Option.map_eq_some_iff.mp searched
  obtain ⟨front, back, split', -⟩ := List.lookup_eq_some_iff.mp looked
  refine groups_of_search captures first taken ?_
  rw [split']
  exact List.mem_append_right _ List.mem_cons_self

theorem taken_repeated {accepts : Char → Bool} {least : Nat} {most : Option Nat} {lazy : Bool}
    {place found : Place} (member : found ∈ run (.repeated accepts least most lazy) place) :
    (∀ char ∈ place.rest.take (place.rest.length - found.rest.length), accepts char = true) ∧
      least ≤ (place.rest.take (place.rest.length - found.rest.length)).length := by
  obtain ⟨steps, at'⟩ := List.mem_iff_getElem?.mp (mem_run_repeated.mp member)
  rw [List.getElem?_drop] at at'
  obtain ⟨inside, left, passed, -⟩ := climb_steps at'
  have count : place.rest.length - found.rest.length = least + steps := by
    rw [left, List.length_drop]
    omega
  rw [count]
  refine ⟨passed, ?_⟩
  rw [List.length_take]
  omega

end Groups

end Pattern

end PactNetwork
