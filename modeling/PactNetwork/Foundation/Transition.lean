import Mathlib.Logic.Relation
import PactNetwork.Foundation.Checked

/-!
# Runs

Reachability in a transition system and folds of fallible steps, with the
invariant rules for both.
-/

set_option autoImplicit false

namespace PactNetwork

section Reachability

variable {σ : Type}

/-- The states a system can reach from its initial ones. -/
inductive Reachable (initial : σ → Prop) (step : σ → σ → Prop) : σ → Prop
  | start {state : σ} (begins : initial state) : Reachable initial step state
  | next {before after : σ} (earlier : Reachable initial step before) (moves : step before after) :
      Reachable initial step after

variable {initial : σ → Prop} {step : σ → σ → Prop}

theorem Reachable.invariant (property : σ → Prop) {state : σ}
    (reached : Reachable initial step state) (base : ∀ first, initial first → property first)
    (preserved : ∀ before after, property before → step before after → property after) :
    property state := by
  induction reached with
  | start begins => exact base _ begins
  | next earlier moves ih => exact preserved _ _ ih moves

theorem Reachable.trans {before after : σ} (reached : Reachable initial step before)
    (later : Relation.ReflTransGen step before after) : Reachable initial step after := by
  induction later with
  | refl => exact reached
  | tail _ moves ih => exact ih.next moves

theorem Reachable.mono {wider : σ → σ → Prop} {state : σ}
    (reached : Reachable initial step state) (allowed : ∀ before after,
      step before after → wider before after) : Reachable initial wider state := by
  induction reached with
  | start begins => exact .start begins
  | next earlier moves ih => exact .next ih (allowed _ _ moves)

end Reachability

section Folds

variable {σ α ε : Type} {step : σ → α → Except ε σ}

@[simp] theorem foldlM_nil_eq (state : σ) : [].foldlM step state = .ok state := rfl

theorem foldlM_cons_eq_ok {items : List α} {item : α} {state result : σ} :
    (item :: items).foldlM step state = .ok result ↔
      ∃ middle, step state item = .ok middle ∧ items.foldlM step middle = .ok result := by
  rw [List.foldlM_cons, bind_eq_ok]

theorem foldlM_append_eq_ok {front back : List α} {state result : σ} :
    (front ++ back).foldlM step state = .ok result ↔
      ∃ middle, front.foldlM step state = .ok middle ∧ back.foldlM step middle = .ok result := by
  rw [List.foldlM_append, bind_eq_ok]

theorem foldlM_invariant (property : σ → Prop) {items : List α} {state result : σ}
    (finished : items.foldlM step state = .ok result) (holds : property state)
    (preserved : ∀ before item after, item ∈ items → property before →
      step before item = .ok after → property after) : property result := by
  induction items generalizing state with
  | nil =>
      cases finished
      exact holds
  | cons item items ih =>
      obtain ⟨middle, first, rest⟩ := foldlM_cons_eq_ok.mp finished
      exact ih rest (preserved _ _ _ List.mem_cons_self holds first)
        fun before later after member => preserved before later after
          (List.mem_cons_of_mem _ member)

theorem foldlM_split {items : List α} {state result : σ}
    (finished : items.foldlM step state = .ok result) (index : Nat)
    (inside : index < items.length) :
    ∃ before after, (items.take index).foldlM step state = .ok before ∧
      step before items[index] = .ok after ∧
      (items.drop (index + 1)).foldlM step after = .ok result := by
  have parts : items.take index ++ items[index] :: items.drop (index + 1) = items := by
    rw [List.getElem_cons_drop, List.take_append_drop]
  rw [← parts, foldlM_append_eq_ok] at finished
  obtain ⟨before, front, back⟩ := finished
  obtain ⟨after, one, rest⟩ := foldlM_cons_eq_ok.mp back
  exact ⟨before, after, front, one, rest⟩

theorem foldlM_fails_iff {items : List α} {state : σ} :
    (∃ error, items.foldlM step state = .error error) ↔
      ∃ index, ∃ inside : index < items.length, ∃ before,
        (items.take index).foldlM step state = .ok before ∧
          ∃ error, step before items[index] = .error error := by
  induction items generalizing state with
  | nil =>
      constructor
      · rintro ⟨error, failed⟩
        cases failed
      · rintro ⟨index, inside, -⟩
        cases inside
  | cons item items ih =>
      rw [List.foldlM_cons]
      cases first : step state item with
      | error failure =>
          refine ⟨fun _ => ⟨0, Nat.zero_lt_succ _, state, rfl, failure, first⟩, fun _ => ?_⟩
          exact ⟨failure, rfl⟩
      | ok middle =>
          have rest : (∃ error, (Except.ok middle >>= fun next => items.foldlM step next) =
              .error error) ↔ _ := @ih middle
          refine rest.trans ⟨?_, ?_⟩
          · rintro ⟨index, inside, before, front, failed⟩
            refine ⟨index + 1, Nat.succ_lt_succ inside, before, ?_, failed⟩
            rw [List.take_succ_cons]
            exact foldlM_cons_eq_ok.mpr ⟨middle, first, front⟩
          · rintro ⟨index, inside, before, front, failed⟩
            cases index with
            | zero =>
                cases front
                obtain ⟨error, failed⟩ := failed
                cases first.symm.trans failed
            | succ index =>
                rw [List.take_succ_cons] at front
                obtain ⟨next, one, front⟩ := foldlM_cons_eq_ok.mp front
                cases first.symm.trans one
                exact ⟨index, Nat.lt_of_succ_lt_succ inside, before, front, failed⟩

end Folds

end PactNetwork
