import PactNetwork.Foundation.Transition

/-!
# Journals

A run of a system whose steps carry labels, with what each step left.
-/

set_option autoImplicit false

namespace PactNetwork

variable {σ ρ : Type}

inductive Journal (initial : σ → Prop) (step : σ → ρ → σ → Prop) : σ → List (ρ × σ) → Prop
  | start {state : σ} (begins : initial state) : Journal initial step state []
  | next {before after : σ} {label : ρ} {log : List (ρ × σ)}
      (earlier : Journal initial step before log) (moves : step before label after) :
      Journal initial step after ((label, after) :: log)

section Journal

variable {initial : σ → Prop} {step : σ → ρ → σ → Prop} {state : σ} {log : List (ρ × σ)}

theorem Journal.invariant (property : σ → List (ρ × σ) → Prop)
    (journal : Journal initial step state log)
    (base : ∀ first, initial first → property first [])
    (preserved : ∀ before label after log, property before log → step before label after →
      property after ((label, after) :: log)) : property state log := by
  induction journal with
  | start begins => exact base _ begins
  | next earlier moves ih => exact preserved _ _ _ _ ih moves

theorem Journal.reachable {next : σ → σ → Prop} (journal : Journal initial step state log)
    (allowed : ∀ before label after, step before label after → next before after) :
    Reachable initial next state := by
  induction journal with
  | start begins => exact .start begins
  | next earlier moves ih => exact ih.next (allowed _ _ _ moves)

/-! ## Keys that come up once -/

/-- The keys that come up are new, come up once, and are marked from then on. -/
structure Marks {κ : Type} (marked : σ → κ → Prop) (before : σ) (keys : List κ) (after : σ) :
    Prop where
  nodup : keys.Nodup
  fresh : ∀ key ∈ keys, ¬marked before key
  marks : ∀ key ∈ keys, marked after key
  keeps : ∀ key, marked before key → marked after key

section Marks

variable {κ : Type} {marked : σ → κ → Prop} {first second third : σ}

theorem Marks.of_keeps (keeps : ∀ key, marked first key → marked second key) :
    Marks marked first [] second :=
  ⟨List.nodup_nil, fun _ member => absurd member List.not_mem_nil,
    fun _ member => absurd member List.not_mem_nil, keeps⟩

theorem Marks.trans {front back : List κ} (left : Marks marked first front second)
    (right : Marks marked second back third) : Marks marked first (front ++ back) third where
  nodup := by
    refine List.nodup_append.mpr ⟨left.nodup, right.nodup, ?_⟩
    rintro key inFront other inBack rfl
    exact right.fresh key inBack (left.marks key inFront)
  fresh key member := by
    rcases List.mem_append.mp member with inFront | inBack
    · exact left.fresh key inFront
    · exact fun old => right.fresh key inBack (left.keeps key old)
  marks key member := by
    rcases List.mem_append.mp member with inFront | inBack
    · exact right.keeps key (left.marks key inFront)
    · exact right.marks key inBack
  keeps key old := right.keeps key (left.keeps key old)

end Marks

theorem Journal.nodup {κ : Type} {keys : ρ → List κ} (marked : σ → κ → Prop)
    (good : σ → Prop) (journal : Journal initial step state log)
    (base : ∀ first, initial first → good first)
    (stays : ∀ before label after, good before → step before label after → good after)
    (marks : ∀ before label after, good before → step before label after →
      Marks marked before (keys label) after) :
    (log.reverse.flatMap fun entry => keys entry.1).Nodup := by
  have whole := journal.invariant (fun state log => good state ∧ ∃ origin,
    Marks marked origin (log.reverse.flatMap fun entry => keys entry.1) state)
    (fun first begins => ⟨base first begins, first, .of_keeps fun _ old => old⟩) ?_
  · obtain ⟨-, origin, marked⟩ := whole
    exact marked.nodup
  · rintro before label after log ⟨sound, origin, earlier⟩ moves
    refine ⟨stays before label after sound moves, origin, ?_⟩
    rw [List.reverse_cons, List.flatMap_append, List.flatMap_singleton]
    exact earlier.trans (marks before label after sound moves)

end Journal

end PactNetwork
