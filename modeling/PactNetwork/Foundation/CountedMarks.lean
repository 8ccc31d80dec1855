import Mathlib.Data.List.Basic
import Mathlib.Data.List.Range

/-!
# Marks by count

A log that only grows, with a mark on each entry. Entries are marked by count, the
first ones without a mark; what was the front of the unmarked entries before the
log grew still is.
-/

set_option autoImplicit false

namespace PactNetwork.CountedMarks

def pending (marks : List Bool) : List Nat :=
  (List.range marks.length).filter fun position => marks[position]? = some false

/-- Mark the first `count` entries that have no mark. -/
def markFirst : Nat → List Bool → List Bool
  | _, [] => []
  | 0, marks => marks
  | count + 1, true :: marks => true :: markFirst (count + 1) marks
  | count + 1, false :: marks => true :: markFirst count marks

variable {marks more : List Bool} {position : Nat}

theorem mem_pending : position ∈ pending marks ↔ marks[position]? = some false := by
  rw [pending, List.mem_filter, List.mem_range, decide_eq_true_iff]
  exact and_iff_right_of_imp fun found => (List.getElem?_eq_some_iff.mp found).1

theorem pending_sorted (marks : List Bool) : (pending marks).Pairwise (· < ·) :=
  List.pairwise_lt_range.filter _

theorem pending_cons (mark : Bool) (marks : List Bool) :
    pending (mark :: marks) =
      (if mark then [] else [0]) ++ (pending marks).map (· + 1) := by
  have later : ((List.range marks.length).map (· + 1)).filter
      (fun position => (mark :: marks)[position]? = some false) = (pending marks).map (· + 1) := by
    rw [List.filter_map]
    rfl
  rw [pending, List.length_cons, List.range_succ_eq_map, ← later]
  cases mark with
  | true => rfl
  | false => rfl

theorem pending_append (marks more : List Bool) : pending marks <+: pending (marks ++ more) := by
  have front : (List.range marks.length).filter
      (fun position => (marks ++ more)[position]? = some false) = pending marks := by
    refine List.filter_congr fun position member => ?_
    rw [List.getElem?_append_left (List.mem_range.mp member)]
  rw [← front, pending, List.length_append, List.range_add, List.filter_append]
  exact List.prefix_append _ _

theorem take_pending_append {count : Nat} (enough : count ≤ (pending marks).length) :
    (pending (marks ++ more)).take count = (pending marks).take count := by
  obtain ⟨rest, whole⟩ := pending_append marks more
  rw [← whole, List.take_append_of_le_length enough]

theorem getElem?_markFirst {count : Nat} :
    (markFirst count marks)[position]? = some true ↔
      marks[position]? = some true ∨ position ∈ (pending marks).take count := by
  induction marks generalizing count position with
  | nil => cases count <;> simp [markFirst, pending]
  | cons mark marks ih =>
      cases count with
      | zero => simp [markFirst]
      | succ count =>
          cases mark with
          | true =>
              cases position with
              | zero => simp [markFirst]
              | succ position =>
                  rw [markFirst, List.getElem?_cons_succ, List.getElem?_cons_succ, ih,
                    pending_cons]
                  simp [← List.map_take]
          | false =>
              cases position with
              | zero => simp [markFirst, pending_cons]
              | succ position =>
                  rw [markFirst, List.getElem?_cons_succ, List.getElem?_cons_succ, ih,
                    pending_cons]
                  simp [← List.map_take]

@[simp] theorem length_markFirst (count : Nat) (marks : List Bool) :
    (markFirst count marks).length = marks.length := by
  induction marks generalizing count with
  | nil => cases count <;> rfl
  | cons mark marks ih =>
      cases count with
      | zero => rfl
      | succ count =>
          cases mark with
          | true => rw [markFirst, List.length_cons, ih, List.length_cons]
          | false => rw [markFirst, List.length_cons, ih, List.length_cons]

theorem take_pending_closed {count earlier : Nat} (inside : position ∈ (pending marks).take count)
    (before : earlier < position) (unmarked : marks[earlier]? = some false) :
    earlier ∈ (pending marks).take count := by
  have member : earlier ∈ pending marks := mem_pending.mpr unmarked
  rw [← List.take_append_drop count (pending marks)] at member
  rcases List.mem_append.mp member with front | back
  · exact front
  · have sorted := pending_sorted marks
    rw [← List.take_append_drop count (pending marks), List.pairwise_append] at sorted
    exact absurd (sorted.2.2 position inside earlier back) (Nat.lt_asymm before)

end PactNetwork.CountedMarks
