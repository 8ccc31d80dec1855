import Mathlib.Algebra.Order.Group.Int
import Mathlib.Algebra.BigOperators.Group.Finset.Piecewise
import Mathlib.Algebra.Ring.Int.Defs
import Mathlib.Algebra.BigOperators.Group.List.Basic
import Mathlib.Data.List.AList

/-!
# Tables

Rows under distinct keys, as a database table or an insertion-ordered map
holds them, with the total of a value over the rows.
-/

set_option autoImplicit false

namespace PactNetwork

abbrev Table (κ ρ : Type) := AList fun _ : κ => ρ

namespace Table

variable {κ ρ : Type}

def total (value : κ → ρ → Int) (table : Table κ ρ) : Int :=
  (table.entries.map fun entry => value entry.1 entry.2).sum

@[simp] theorem total_empty (value : κ → ρ → Int) : total value (∅ : Table κ ρ) = 0 := rfl

def worth (value : κ → ρ → Int) (key : κ) : Option ρ → Int
  | none => 0
  | some row => value key row

@[simp] theorem worth_none (value : κ → ρ → Int) (key : κ) : worth value key none = 0 := rfl

@[simp] theorem worth_some (value : κ → ρ → Int) (key : κ) (row : ρ) :
    worth value key (some row) = value key row := rfl

variable [DecidableEq κ]

def upsert (key : κ) (create : ρ) (update : ρ → ρ) (table : Table κ ρ) : Table κ ρ :=
  table.insert key ((table.lookup key).elim create update)

def ensure (key : κ) (create : ρ) (table : Table κ ρ) : Table κ ρ :=
  if (table.lookup key).isSome then table else table.insert key create

def modify (key : κ) (change : ρ → ρ) (table : Table κ ρ) : Table κ ρ :=
  match table.lookup key with
  | none => table
  | some row => table.insert key (change row)

theorem lookup_upsert (key other : κ) (create : ρ) (update : ρ → ρ) (table : Table κ ρ) :
    (upsert key create update table).lookup other =
      if other = key then some ((table.lookup key).elim create update)
      else table.lookup other := by
  by_cases same : other = key
  · subst same
    rw [upsert, AList.lookup_insert, if_pos rfl]
  · rw [upsert, AList.lookup_insert_ne same, if_neg same]

theorem lookup_ensure (key other : κ) (create : ρ) (table : Table κ ρ) :
    (ensure key create table).lookup other =
      if other = key then some ((table.lookup key).getD create) else table.lookup other := by
  unfold ensure
  by_cases same : other = key
  · subst same
    rw [if_pos rfl]
    cases found : table.lookup other with
    | none => simp
    | some row => simp [found]
  · rw [if_neg same]
    split
    · rfl
    · exact AList.lookup_insert_ne same

theorem lookup_modify (key other : κ) (change : ρ → ρ) (table : Table κ ρ) :
    (modify key change table).lookup other =
      if other = key then (table.lookup key).map change else table.lookup other := by
  unfold modify
  by_cases same : other = key
  · subst same
    rw [if_pos rfl]
    cases found : table.lookup other with
    | none => exact found
    | some row => exact AList.lookup_insert table
  · rw [if_neg same]
    cases table.lookup key with
    | none => rfl
    | some row => exact AList.lookup_insert_ne same

theorem total_insert (value : κ → ρ → Int) (key : κ) (row : ρ) (table : Table κ ρ) :
    total value (table.insert key row) =
      total value table + (value key row - worth value key (table.lookup key)) := by
  by_cases present : key ∈ table
  · obtain ⟨old, front, back, -, parts, erased⟩ := List.exists_of_kerase present
    have found : table.lookup key = some old := by
      refine AList.mem_lookup_iff.mpr ?_
      rw [parts]
      exact List.mem_append_right _ List.mem_cons_self
    rw [found, total, total, AList.entries_insert, erased, parts]
    simp only [List.map_cons, List.map_append, List.sum_cons, List.sum_append, worth_some]
    omega
  · rw [total, total, AList.entries_insert_of_notMem present, AList.lookup_eq_none.mpr present]
    simp only [List.map_cons, List.sum_cons, worth_none]
    omega

theorem sum_worth (value : κ → ρ → Int) (table : Table κ ρ) {keys : List κ}
    (distinct : keys.Nodup) (covers : ∀ key ∈ table, key ∈ keys) :
    (keys.map fun key => worth value key (table.lookup key)).sum = total value table := by
  rw [← List.sum_toFinset _ distinct]
  induction table using AList.insertRec with
  | H0 => exact Finset.sum_eq_zero fun key _ => rfl
  | IH key row table absent ih =>
      have inside : key ∈ keys.toFinset :=
        List.mem_toFinset.mpr (covers key ((AList.mem_insert _).mpr (.inl rfl)))
      have split : ∀ other, worth value other ((table.insert key row).lookup other) =
          worth value other (table.lookup other) + if other = key then value key row else 0 := by
        intro other
        by_cases same : other = key
        · subst same
          rw [AList.lookup_insert, AList.lookup_eq_none.mpr absent, if_pos rfl]
          exact (zero_add _).symm
        · rw [AList.lookup_insert_ne same, if_neg same, add_zero]
      rw [Finset.sum_congr rfl fun other _ => split other, Finset.sum_add_distrib,
        Finset.sum_ite_eq' _ key, if_pos inside,
        ih fun other member => covers other ((AList.mem_insert _).mpr (.inr member)),
        total_insert, AList.lookup_eq_none.mpr absent, worth_none, sub_zero]

section Folds

variable {ε : Type} {step : Table κ ρ → ε → Table κ ρ}

omit [DecidableEq κ] in
theorem total_foldl (value : κ → ρ → Int) (gain : ε → Int)
    (each : ∀ table entry, total value (step table entry) = total value table + gain entry)
    (entries : List ε) (table : Table κ ρ) :
    total value (entries.foldl step table) = total value table + (entries.map gain).sum := by
  induction entries generalizing table with
  | nil => exact (add_zero _).symm
  | cons entry rest ih =>
      rw [List.foldl_cons, ih, each, List.map_cons, List.sum_cons, add_assoc]

omit [DecidableEq κ] in
theorem mem_foldl {name : ε → κ} {key : κ}
    (each : ∀ table entry, key ∈ step table entry ↔ key = name entry ∨ key ∈ table)
    (entries : List ε) (table : Table κ ρ) :
    key ∈ entries.foldl step table ↔ (∃ entry ∈ entries, key = name entry) ∨ key ∈ table := by
  induction entries generalizing table with
  | nil => simp
  | cons entry rest ih =>
      rw [List.foldl_cons, ih, each]
      simp only [List.mem_cons, exists_eq_or_imp]
      rw [← or_assoc, or_comm (a := ∃ entry ∈ rest, key = name entry)]

end Folds

end Table

end PactNetwork
