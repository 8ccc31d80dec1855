import Mathlib.Data.List.Basic
import Mathlib.Data.List.TakeWhile

/-!
# Logs of lines

Records kept in a file, one a line, and the two ways such a file is read: one
reader skips the lines it cannot parse, the other fails on them. What a crash
leaves of a line that was being written stays at the end of the file.
-/

set_option autoImplicit false

namespace PactNetwork

namespace LineLog

abbrev File := List UInt8

def lineBreak : UInt8 := 10

def isSpace (byte : UInt8) : Bool := byte = 32 || (9 ≤ byte && byte ≤ 13)

/-- How records are written as lines and lines are read as records. -/
structure Codec (ρ : Type) where
  line : ρ → File
  parse : File → Option ρ

variable {ρ : Type}

def strip (file : File) : File :=
  ((file.dropWhile isSpace).reverse.dropWhile isSpace).reverse

/-- The known records can be read back, and nothing else is read from what crashes
leave of their lines. -/
structure Codec.Lawful (codec : Codec ρ) (known : ρ → Prop) : Prop where
  parse_line : ∀ record, known record → codec.parse (codec.line record) = some record
  parse_nil : codec.parse [] = none
  unbroken : ∀ record, known record → lineBreak ∉ codec.line record
  head_solid : ∀ record, known record →
    ∀ byte ∈ (codec.line record).head?, isSpace byte = false
  last_solid : ∀ record, known record →
    ∀ byte ∈ (codec.line record).getLast?, isSpace byte = false
  scraps : ∀ pieces : List File,
    (∀ piece ∈ pieces, ∃ record, known record ∧ piece <+: codec.line record) →
      ∀ record, codec.parse (strip pieces.flatten) = some record → known record

variable (codec : Codec ρ)

def render (records : List ρ) : File :=
  records.flatMap fun record => codec.line record ++ [lineBreak]

def rewrite (records : List ρ) : File :=
  [lineBreak].intercalate (records.map codec.line) ++ [lineBreak]

def append (file : File) (record : ρ) : File := file ++ (codec.line record ++ [lineBreak])

def readLine (line : File) : Option ρ :=
  if strip line = [] then none else codec.parse (strip line)

def readLenient (file : File) : List ρ := (file.splitOn lineBreak).filterMap (readLine codec)

def readStrict (file : File) : Option (List ρ) :=
  if strip file = [] then some [] else ((strip file).splitOn lineBreak).mapM codec.parse

def Intact (file : File) : Prop := file = [] ∨ file.getLast? = some lineBreak

def Holds (file : File) (records : List ρ) : Prop :=
  ∃ front, (∀ byte ∈ front, isSpace byte = true) ∧ file = front ++ render codec records

variable {codec}

@[simp] theorem render_nil : render codec [] = [] := rfl

theorem render_append (front back : List ρ) :
    render codec (front ++ back) = render codec front ++ render codec back :=
  List.flatMap_append

theorem rewrite_eq_render {records : List ρ} (filled : records ≠ []) :
    rewrite codec records = render codec records := by
  rw [rewrite]
  induction records with
  | nil => exact absurd rfl filled
  | cons record records ih =>
      cases records with
      | nil => simp [render]
      | cons next rest =>
          rw [List.map_cons, List.map_cons, List.intercalate_cons_cons, ← List.map_cons,
            List.append_assoc, List.append_assoc, ih (List.cons_ne_nil _ _)]
          simp [render]

theorem append_render (records : List ρ) (record : ρ) :
    append codec (render codec records) record = render codec (records ++ [record]) := by
  rw [render_append]
  exact congrArg _ (List.append_nil _).symm

theorem holds_nil : Holds codec [] [] := ⟨[], fun _ member => absurd member List.not_mem_nil, rfl⟩

theorem blank_lineBreak : ∀ byte ∈ [lineBreak], isSpace byte = true :=
  List.forall_mem_singleton.mpr rfl

theorem holds_rewrite (records : List ρ) : Holds codec (rewrite codec records) records := by
  by_cases empty : records = []
  · rw [empty]
    exact ⟨[lineBreak], blank_lineBreak, rfl⟩
  · refine ⟨[], fun _ member => absurd member List.not_mem_nil, ?_⟩
    rw [List.nil_append, rewrite_eq_render empty]

theorem Holds.append {file : File} {records : List ρ} (holds : Holds codec file records)
    (record : ρ) : Holds codec (append codec file record) (records ++ [record]) := by
  obtain ⟨front, blank, rfl⟩ := holds
  refine ⟨front, blank, ?_⟩
  rw [← append_render, LineLog.append, LineLog.append, List.append_assoc]

theorem intact_rest {front rest : File} (oneLine : lineBreak ∉ rest)
    (intact : Intact (front ++ rest)) : rest = [] := by
  rcases List.eq_nil_or_concat rest with rfl | ⟨init, byte, rfl⟩
  · rfl
  · rw [List.concat_eq_append, ← List.append_assoc] at intact
    rcases intact with empty | ended
    · exact absurd empty (List.append_ne_nil_of_right_ne_nil _ (List.cons_ne_nil _ _))
    · rw [List.getLast?_concat] at ended
      refine absurd ?_ oneLine
      rw [Option.some.inj ended, List.concat_eq_append]
      exact List.mem_append_right _ (List.mem_singleton_self _)

theorem dropWhile_blank {front text : File} (blank : ∀ byte ∈ front, isSpace byte = true)
    (first : ∀ byte ∈ text.head?, isSpace byte = false) :
    (front ++ text).dropWhile isSpace = text := by
  rw [List.dropWhile_append_of_pos blank]
  cases text with
  | nil => rfl
  | cons byte rest => rw [List.dropWhile_cons, first byte rfl, if_neg Bool.false_ne_true]

theorem strip_append {front text back : File} (filled : text ≠ [])
    (first : ∀ byte ∈ text.head?, isSpace byte = false)
    (last : ∀ byte ∈ text.getLast?, isSpace byte = false)
    (before : ∀ byte ∈ front, isSpace byte = true)
    (after : ∀ byte ∈ back, isSpace byte = true) : strip (front ++ (text ++ back)) = text := by
  have head : ∀ byte ∈ (text ++ back).head?, isSpace byte = false := by
    rw [List.head?_append_of_ne_nil _ filled]
    exact first
  have turned : (text ++ back).reverse.dropWhile isSpace = text.reverse := by
    rw [List.reverse_append]
    refine dropWhile_blank (fun byte member => after byte (List.mem_reverse.mp member)) ?_
    rw [List.head?_reverse]
    exact last
  rw [strip, dropWhile_blank before head, turned, List.reverse_reverse]

theorem strip_blank {file : File} (blank : ∀ byte ∈ file, isSpace byte = true) :
    strip file = [] := by
  rw [strip, List.dropWhile_eq_nil_iff.mpr blank]
  rfl

section Reading

variable {known : ρ → Prop} (lawful : codec.Lawful known)

include lawful

theorem line_ne_nil {record : ρ} (is : known record) : codec.line record ≠ [] := by
  intro empty
  have parsed := lawful.parse_line record is
  rw [empty, lawful.parse_nil] at parsed
  cases parsed

theorem splitOn_render {records : List ρ} (all : ∀ record ∈ records, known record)
    (rest : File) : (render codec records ++ rest).splitOn lineBreak =
      records.map codec.line ++ rest.splitOn lineBreak := by
  induction records with
  | nil => rfl
  | cons record records ih =>
      rw [List.forall_mem_cons] at all
      rw [render, List.flatMap_cons, List.append_assoc, List.append_assoc, List.singleton_append,
        List.splitOn_append_cons_self, List.splitOn_eq_singleton (lawful.unbroken record all.1),
        List.singleton_append, List.map_cons, List.cons_append]
      exact congrArg _ (ih all.2)

theorem readLine_line {record : ρ} (is : known record) :
    readLine codec (codec.line record) = some record := by
  have blank : ∀ byte ∈ ([] : File), isSpace byte = true := fun _ member => by cases member
  have whole : strip (codec.line record) = codec.line record := by
    have kept := strip_append (line_ne_nil lawful is) (lawful.head_solid record is)
      (lawful.last_solid record is) blank blank
    rwa [List.nil_append, List.append_nil] at kept
  rw [readLine, whole, if_neg (line_ne_nil lawful is), lawful.parse_line record is]

theorem filterMap_lines {records : List ρ} (all : ∀ record ∈ records, known record) :
    (records.map codec.line).filterMap (readLine codec) = records := by
  rw [List.filterMap_map]
  exact (List.filterMap_congr fun record member =>
    readLine_line lawful (all record member)).trans List.filterMap_some

theorem mapM_lines {records : List ρ} (all : ∀ record ∈ records, known record) :
    (records.map codec.line).mapM codec.parse = some records := by
  induction records with
  | nil => rfl
  | cons record records ih =>
      rw [List.forall_mem_cons] at all
      rw [List.map_cons, List.mapM_cons, lawful.parse_line record all.1, ih all.2]
      rfl

theorem readLenient_render {records : List ρ} (all : ∀ record ∈ records, known record)
    {rest : File} (oneLine : lineBreak ∉ rest) :
    readLenient codec (render codec records ++ rest) =
      records ++ (readLine codec rest).toList := by
  rw [readLenient, splitOn_render lawful all, List.filterMap_append, filterMap_lines lawful all,
    List.splitOn_eq_singleton oneLine]
  cases parsed : readLine codec rest with
  | none => simp [parsed]
  | some record => simp [parsed]

theorem readStrict_lines {records : List ρ} {record : ρ}
    (all : ∀ record ∈ records, known record) (is : known record) {front back : File}
    (before : ∀ byte ∈ front, isSpace byte = true)
    (after : ∀ byte ∈ back, isSpace byte = true) :
    readStrict codec (front ++ (render codec records ++ codec.line record ++ back)) =
      some (records ++ [record]) := by
  have filled : render codec records ++ codec.line record ≠ [] :=
    List.append_ne_nil_of_right_ne_nil _ (line_ne_nil lawful is)
  have stripped : strip (front ++ (render codec records ++ codec.line record ++ back)) =
      render codec records ++ codec.line record := by
    refine strip_append filled ?_ ?_ before after
    · intro byte member
      cases records with
      | nil => exact lawful.head_solid record is byte member
      | cons head rest =>
          rw [List.forall_mem_cons] at all
          refine lawful.head_solid head all.1 byte ?_
          rw [render, List.flatMap_cons, List.append_assoc, List.append_assoc,
            List.head?_append_of_ne_nil _ (line_ne_nil lawful all.1)] at member
          exact member
    · intro byte member
      rw [List.getLast?_append_of_ne_nil _ (line_ne_nil lawful is)] at member
      exact lawful.last_solid record is byte member
  have lines : (records.map codec.line) ++ [codec.line record] =
      (records ++ [record]).map codec.line := by
    rw [List.map_append]
    rfl
  have both : ∀ other ∈ records ++ [record], known other := by
    intro other member
    rcases List.mem_append.mp member with inside | last
    · exact all other inside
    · exact List.mem_singleton.mp last ▸ is
  rw [readStrict, stripped, if_neg filled, splitOn_render lawful all,
    List.splitOn_eq_singleton (lawful.unbroken record is), lines, mapM_lines lawful both]

theorem readStrict_render {records : List ρ} (all : ∀ record ∈ records, known record)
    {front : File} (before : ∀ byte ∈ front, isSpace byte = true) :
    readStrict codec (front ++ render codec records) = some records := by
  rcases List.eq_nil_or_concat records with rfl | ⟨init, record, rfl⟩
  · rw [render_nil, List.append_nil, readStrict, if_pos (strip_blank before)]
  · rw [List.concat_eq_append] at all ⊢
    rw [List.forall_mem_append] at all
    rw [← append_render, append, ← List.append_assoc (render codec init)]
    exact readStrict_lines lawful all.1 (all.2 record (List.mem_singleton_self _)) before
      blank_lineBreak

theorem Holds.readStrict {file : File} {records : List ρ} (holds : Holds codec file records)
    (all : ∀ record ∈ records, known record) : LineLog.readStrict codec file = some records := by
  obtain ⟨front, blank, rfl⟩ := holds
  exact readStrict_render lawful all blank

theorem readStrict_rest {records : List ρ} {record : ρ}
    (all : ∀ record ∈ records, known record) (is : known record) {front : File}
    (before : ∀ byte ∈ front, isSpace byte = true) :
    readStrict codec (front ++ (render codec records ++ codec.line record)) =
      some (records ++ [record]) := by
  have none : ∀ byte ∈ ([] : File), isSpace byte = true := fun _ member => by cases member
  rw [← readStrict_lines lawful all is before none, List.append_nil]

end Reading

end LineLog

end PactNetwork
