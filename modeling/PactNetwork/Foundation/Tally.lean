import Mathlib.Algebra.BigOperators.Group.List.Basic
import Mathlib.Algebra.Ring.Nat

/-!
# Tallies

The total of an amount over the entries of a list that meet a condition.
-/

set_option autoImplicit false

namespace PactNetwork

variable {ε : Type}

def tally (amount : ε → Nat) (keep : ε → Prop) [DecidablePred keep] (entries : List ε) : Nat :=
  ((entries.filter fun entry => keep entry).map amount).sum

variable (amount : ε → Nat) (keep : ε → Prop) [DecidablePred keep]

@[simp] theorem tally_nil : tally amount keep [] = 0 := rfl

theorem tally_cons (entry : ε) (rest : List ε) :
    tally amount keep (entry :: rest) =
      (if keep entry then amount entry else 0) + tally amount keep rest := by
  by_cases kept : keep entry <;> simp [tally, kept]

theorem tally_append (front back : List ε) :
    tally amount keep (front ++ back) = tally amount keep front + tally amount keep back := by
  simp [tally]

variable {amount keep} {entries : List ε}

theorem tally_eq_zero (nothing : ∀ entry ∈ entries, keep entry → amount entry = 0) :
    tally amount keep entries = 0 := by
  refine List.sum_eq_zero fun value member => ?_
  obtain ⟨entry, kept, rfl⟩ := List.mem_map.mp member
  obtain ⟨listed, holds⟩ := List.mem_filter.mp kept
  exact nothing entry listed (of_decide_eq_true holds)

theorem tally_congr {other : ε → Prop} [DecidablePred other]
    (same : ∀ entry ∈ entries, keep entry ↔ other entry) :
    tally amount keep entries = tally amount other entries := by
  rw [tally, tally, List.filter_congr fun entry member => decide_eq_decide.mpr (same entry member)]

theorem tally_le_of_ne_zero {weaker : ε → Prop} [DecidablePred weaker]
    (implies : ∀ entry ∈ entries, keep entry → amount entry ≠ 0 → weaker entry) :
    tally amount keep entries ≤ tally amount weaker entries := by
  induction entries with
  | nil => exact Nat.le_refl 0
  | cons entry rest ih =>
      have tail := ih fun later member => implies later (List.mem_cons_of_mem _ member)
      rw [tally_cons, tally_cons]
      by_cases kept : keep entry
      · by_cases counts : amount entry = 0
        · rw [counts, ite_self, ite_self]
          omega
        · rw [if_pos kept, if_pos (implies entry List.mem_cons_self kept counts)]
          omega
      · rw [if_neg kept]
        omega

theorem tally_mono {weaker : ε → Prop} [DecidablePred weaker]
    (implies : ∀ entry ∈ entries, keep entry → weaker entry) :
    tally amount keep entries ≤ tally amount weaker entries :=
  tally_le_of_ne_zero fun entry member kept _ => implies entry member kept

theorem tally_le_add {first second : ε → Prop} [DecidablePred first] [DecidablePred second]
    (covers : ∀ entry ∈ entries, keep entry → first entry ∨ second entry) :
    tally amount keep entries ≤ tally amount first entries + tally amount second entries := by
  induction entries with
  | nil => exact Nat.zero_le _
  | cons entry rest ih =>
      have tail := ih fun later member => covers later (List.mem_cons_of_mem _ member)
      rw [tally_cons, tally_cons, tally_cons]
      by_cases kept : keep entry
      · rcases covers entry List.mem_cons_self kept with holds | holds
        · rw [if_pos kept, if_pos holds]
          omega
        · rw [if_pos kept, if_pos holds]
          omega
      · rw [if_neg kept]
        omega

end PactNetwork
