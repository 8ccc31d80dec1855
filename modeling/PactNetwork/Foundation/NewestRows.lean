import Mathlib.Data.List.Sort

/-!
# The newest rows

What a query for the newest rows can answer. Rows of one time come in any order, so
that more than one answer is possible.
-/

set_option autoImplicit false

namespace PactNetwork

section

variable {ρ : Type} (time : ρ → Nat)

def Newest (count : Nat) (rows answer : List ρ) : Prop :=
  ∃ order : List ρ, order.Perm rows ∧
    (order.Pairwise fun first second => time second ≤ time first) ∧ answer = order.take count

/-- The rows a query must prefer to a row or can prefer to it, those of a kind left out. -/
def rivals (kind : ρ → Bool) (rows : List ρ) (row : ρ) : List ρ :=
  rows.filter fun other => !kind other && decide (time row ≤ time other)

def kindLast (kind : ρ → Bool) (first second : ρ) : Bool :=
  decide (time second < time first) ||
    (decide (time second = time first) && (!kind first || kind second))

end

variable {ρ : Type} {time : ρ → Nat} {kind : ρ → Bool} {count : Nat} {rows answer : List ρ}

theorem Newest.subset (newest : Newest time count rows answer) : answer ⊆ rows := by
  obtain ⟨order, same, -, rfl⟩ := newest
  exact fun row member => same.subset (List.mem_of_mem_take member)

theorem Newest.of_sorted (sorted : rows.Pairwise fun first second => time second ≤ time first) :
    Newest time count rows (rows.take count) :=
  ⟨rows, .refl rows, sorted, rfl⟩

theorem kindLast_sorted (time : ρ → Nat) (kind : ρ → Bool) (rows : List ρ) :
    (rows.mergeSort (kindLast time kind)).Pairwise fun first second =>
      kindLast time kind first second = true := by
  apply List.pairwise_mergeSort
  · intro first second third
    cases h1 : kind first <;> cases h2 : kind second <;> cases h3 : kind third <;>
      simp [kindLast, h1, h2, h3] <;> omega
  · intro first second
    cases h1 : kind first <;> cases h2 : kind second <;> simp [kindLast, h1, h2] <;> omega

theorem newest_kindLast (kind : ρ → Bool) (count : Nat) (rows : List ρ) :
    Newest time count rows ((rows.mergeSort (kindLast time kind)).take count) := by
  refine ⟨_, List.mergeSort_perm rows _, (kindLast_sorted time kind rows).imp ?_, rfl⟩
  intro first second before
  simp [kindLast] at before
  omega

theorem Newest.has_of_rivals {row : ρ} (inside : row ∈ rows) (matched : kind row = true)
    (few : (rivals time kind rows row).length < count)
    (newest : Newest time count rows answer) : ∃ other ∈ answer, kind other = true := by
  obtain ⟨order, same, sorted, rfl⟩ := newest
  by_contra missing
  push Not at missing
  obtain ⟨front, back, split⟩ := List.append_of_mem (same.mem_iff.mpr inside)
  -- The row itself is behind the answer, which is therefore full of rivals.
  have behind : count ≤ front.length := by
    by_contra shorter
    refine missing row ?_ matched
    rw [split, List.take_append]
    exact List.mem_append_right _ (by
      obtain ⟨rest, left⟩ := Nat.exists_eq_add_of_lt (not_le.mp shorter)
      have positive : count - front.length = rest + 1 := by omega
      rw [positive]
      exact List.mem_cons_self)
  have early : order.take count = front.take count := by
    rw [split, List.take_append_of_le_length behind]
  have allRivals : ∀ other ∈ front.take count,
      (!kind other && decide (time row ≤ time other)) = true := by
    intro other member
    have plain := missing other (early ▸ member)
    have newer : time row ≤ time other := by
      rw [split, List.pairwise_append] at sorted
      exact sorted.2.2 other (List.mem_of_mem_take member) row List.mem_cons_self
    simp [plain, newer]
  have kept : ((front.take count).filter fun other =>
      !kind other && decide (time row ≤ time other)) = front.take count :=
    List.filter_eq_self.mpr allRivals
  have within : ((order.take count).filter fun other =>
      !kind other && decide (time row ≤ time other)).length ≤
        (rivals time kind rows row).length := by
    rw [rivals, ← (same.filter _).length_eq]
    exact ((List.take_sublist count order).filter _).length_le
  rw [early, kept, List.length_take] at within
  omega

theorem forall_newest_iff :
    (∀ answer, Newest time count rows answer → ∃ row ∈ answer, kind row = true) ↔
      ∃ row ∈ rows, kind row = true ∧ (rivals time kind rows row).length < count := by
  constructor
  case mp =>
      intro always
      obtain ⟨row, shown, matched⟩ := always _ (newest_kindLast kind count rows)
      have sorted := kindLast_sorted time kind rows
      have same := List.mergeSort_perm rows (kindLast time kind)
      generalize rows.mergeSort (kindLast time kind) = order at shown sorted same
      refine ⟨row, same.subset (List.mem_of_mem_take shown), matched, ?_⟩
      obtain ⟨index, early, found⟩ := List.mem_iff_getElem.mp shown
      rw [List.length_take] at early
      rw [List.getElem_take] at found
      have split : order.take index ++ row :: order.drop (index + 1) = order := by
        rw [← found, ← List.drop_eq_getElem_cons, List.take_append_drop]
      have later : ∀ other ∈ row :: order.drop (index + 1),
          ¬ (!kind other && decide (time row ≤ time other)) = true := by
        rw [← split, List.pairwise_append, List.pairwise_cons] at sorted
        intro other member
        cases member with
        | head => simp [matched]
        | tail _ behind =>
            have before := sorted.2.1.1 other behind
            simp only [kindLast, matched, Bool.not_true, Bool.false_or, Bool.or_eq_true,
              decide_eq_true_eq, Bool.and_eq_true] at before
            cases before with
            | inl older => simp [older]
            | inr tie => simp [tie.2]
      have front : rivals time kind order row = rivals time kind (order.take index) row := by
        conv => lhs; rw [← split]
        rw [rivals, List.filter_append, List.filter_eq_nil_iff.mpr later, List.append_nil]
        rfl
      have size : (rivals time kind rows row).length = (rivals time kind order row).length :=
        ((same.filter _).length_eq).symm
      have few : (rivals time kind (order.take index) row).length ≤ index :=
        (List.length_filter_le _ _).trans (List.length_take_le _ _)
      rw [size, front]
      omega
  case mpr =>
      rintro ⟨row, inside, matched, few⟩ answer newest
      exact newest.has_of_rivals inside matched few

end PactNetwork
