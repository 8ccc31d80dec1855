import PactNetwork.Foundation.Transition

/-!
# Traces

Runs of a system whose events are applied by a function and guarded by a predicate
on the state before.
-/

set_option autoImplicit false

namespace PactNetwork

variable {σ ε : Type}

def Fires (apply : σ → ε → σ) (clear : σ → ε → Prop) (before after : σ) : Prop :=
  ∃ event, clear before event ∧ after = apply before event

def Allows (apply : σ → ε → σ) (clear : σ → ε → Prop) : σ → List ε → Prop
  | _, [] => True
  | state, event :: events => clear state event ∧ Allows apply clear (apply state event) events

variable {apply : σ → ε → σ} {clear : σ → ε → Prop}

theorem allows_all (events : List ε) (state : σ) : Allows apply (fun _ _ => True) state events := by
  induction events generalizing state with
  | nil => exact trivial
  | cons event events ih => exact ⟨trivial, ih (apply state event)⟩

theorem Allows.append {front back : List ε} {state : σ} (first : Allows apply clear state front)
    (rest : Allows apply clear (front.foldl apply state) back) :
    Allows apply clear state (front ++ back) := by
  induction front generalizing state with
  | nil => exact rest
  | cons event front ih => exact ⟨first.1, ih first.2 rest⟩

theorem Reachable.replay {initial : σ → Prop} (events : List ε) {state : σ}
    (reached : Reachable initial (Fires apply clear) state)
    (allows : Allows apply clear state events) :
    Reachable initial (Fires apply clear) (events.foldl apply state) := by
  induction events generalizing state with
  | nil => exact reached
  | cons event events ih => exact ih (reached.next ⟨event, allows.1, rfl⟩) allows.2

theorem Reachable.fires {initial : σ → Prop} (property : σ → Prop) {state : σ}
    (reached : Reachable initial (Fires apply clear) state)
    (base : ∀ first, initial first → property first)
    (preserved : ∀ before event, property before → clear before event →
      property (apply before event)) : property state := by
  refine reached.invariant property base ?_
  rintro before after holds ⟨event, allowed, rfl⟩
  exact preserved before event holds allowed

end PactNetwork
