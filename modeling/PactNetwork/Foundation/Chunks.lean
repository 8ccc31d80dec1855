import Mathlib.Data.List.Range

/-!
# Chunks

A range of numbers read in windows of bounded size.
-/

set_option autoImplicit false

namespace PactNetwork.Chunks

def span (first last : Nat) : List Nat := List.range' first (last + 1 - first)

@[simp] theorem mem_span {first last number : Nat} :
    number ∈ span first last ↔ first ≤ number ∧ number ≤ last := by
  rw [span, List.mem_range'_1]
  omega

theorem nodup_span (first last : Nat) : (span first last).Nodup := List.nodup_range'

theorem span_append {first middle last : Nat} (start : first ≤ middle + 1) (stop : middle ≤ last) :
    span first middle ++ span (middle + 1) last = span first last := by
  have next : first + (middle + 1 - first) = middle + 1 := by omega
  have size : middle + 1 - first + (last + 1 - (middle + 1)) = last + 1 - first := by omega
  have joined := List.range'_append_1 (s := first) (m := middle + 1 - first)
    (n := last + 1 - (middle + 1))
  rwa [next, size] at joined

structure Window where
  first : Nat
  last : Nat
  deriving DecidableEq

namespace Window

/-- The window of at most `size` numbers that starts at `first`. -/
def starting (size last first : Nat) : Window := ⟨first, min (first + size - 1) last⟩

/-- The windows of a loop that starts at `first` and steps by `size` up to `last`,
`turns` of them at most. -/
def upTo (size last : Nat) : Nat → Nat → List Window
  | 0, _ => []
  | turns + 1, first =>
      if first ≤ last then starting size last first :: upTo size last turns (first + size) else []

def all (size first last : Nat) : List Window := upTo size last (last + 1 - first) first

def numbers (window : Window) : List Nat := span window.first window.last

variable {size first last : Nat}

theorem upTo_eq_all (positive : 0 < size) (turns : Nat) (enough : last + 1 - first ≤ turns) :
    upTo size last turns first = all size first last := by
  unfold all
  generalize same : last + 1 - first = needed at enough
  induction needed using Nat.strongRecOn generalizing first turns with
  | ind needed ih =>
      cases needed with
      | zero =>
          cases turns with
          | zero => rfl
          | succ turns => rw [upTo, upTo, if_neg (by omega)]
      | succ needed =>
          cases turns with
          | zero => omega
          | succ turns =>
              rw [upTo, upTo, if_pos (by omega), if_pos (by omega)]
              rw [ih (last + 1 - (first + size)) (by omega) turns rfl (by omega),
                ih (last + 1 - (first + size)) (by omega) needed rfl (by omega)]

theorem all_of_gt (past : last < first) : all size first last = [] := by
  rw [all, Nat.sub_eq_zero_of_le past, upTo]

theorem all_of_le (positive : 0 < size) (inside : first ≤ last) :
    all size first last = starting size last first :: all size (first + size) last := by
  obtain ⟨turns, same⟩ := Nat.exists_eq_succ_of_ne_zero (Nat.sub_ne_zero_of_lt
    (Nat.lt_succ_of_le inside))
  rw [all, same, upTo, if_pos inside, upTo_eq_all positive turns (by omega)]

theorem numbers_all (positive : 0 < size) : (all size first last).flatMap numbers =
    span first last := by
  generalize same : last + 1 - first = left
  induction left using Nat.strongRecOn generalizing first with
  | ind left ih =>
      by_cases inside : first ≤ last
      · rw [all_of_le positive inside, List.flatMap_cons,
          ih (last + 1 - (first + size)) (by omega) rfl, numbers, starting]
        by_cases short : last ≤ first + size - 1
        · have nothing : span (first + size) last = [] := by
            rw [span, Nat.sub_eq_zero_of_le (by omega), List.range'_zero]
          rw [Nat.min_eq_right short, nothing, List.append_nil]
        · have next : first + size - 1 + 1 = first + size := by omega
          have joined : span first (first + size - 1) ++ span (first + size - 1 + 1) last =
              span first last := span_append (by omega) (by omega)
          rw [Nat.min_eq_left (by omega), ← joined, next]
      · rw [all_of_gt (by omega), span, Nat.sub_eq_zero_of_le (by omega), List.range'_zero]
        rfl

theorem count_all (positive : 0 < size) {number : Nat} (start : first ≤ number)
    (stop : number ≤ last) :
    ((all size first last).countP fun window =>
      decide (window.first ≤ number ∧ number ≤ window.last)) = 1 := by
  have once : ((all size first last).flatMap numbers).count number = 1 := by
    rw [numbers_all positive]
    rw [(nodup_span first last).count, if_pos (mem_span.mpr ⟨start, stop⟩)]
  rw [← once, List.count_flatMap]
  induction all size first last with
  | nil => rfl
  | cons window rest ih =>
      rw [List.countP_cons, ih, List.map_cons, List.sum_cons, Nat.add_comm]
      congr 1
      rw [Function.comp_apply, numbers, (nodup_span _ _).count]
      simp only [mem_span, decide_eq_true_eq]

end Window

end PactNetwork.Chunks
