import PactNetwork.Foundation.ByteLayout

/-!
# Buffers

For code that reads or writes a layout by hand, at fixed offsets: where the
fields of a layout are, and what writing them one after another leaves.
-/

set_option autoImplicit false

namespace PactNetwork

def slice (bytes : List UInt8) (offset count : Nat) : List UInt8 :=
  (bytes.drop offset).take count

def blit (buffer : List UInt8) (offset : Nat) (source : List UInt8) : List UInt8 :=
  buffer.take offset ++ source ++ buffer.drop (offset + source.length)

/-! ## Filling a buffer of zeros -/

theorem blit_next (front written source : List UInt8) {offset zeros : Nat}
    (place : offset = front.length + written.length) :
    blit (front ++ written ++ List.replicate zeros 0) offset source =
      front ++ (written ++ source) ++ List.replicate (zeros - source.length) 0 := by
  have length : (front ++ written).length = offset := by rw [List.length_append, place]
  unfold blit
  rw [List.take_left' length, ← List.drop_drop, List.drop_left' length, List.drop_replicate]
  simp only [List.append_assoc]

theorem skip_zeros (front written : List UInt8) (count : Nat) {zeros : Nat}
    (fits : count ≤ zeros) :
    front ++ written ++ List.replicate zeros 0 =
      front ++ (written ++ List.replicate count 0) ++ List.replicate (zeros - count) 0 := by
  have split : List.replicate zeros (0 : UInt8) =
      List.replicate count 0 ++ List.replicate (zeros - count) 0 := by
    rw [List.replicate_append_replicate, Nat.add_sub_cancel' fits]
  rw [split]
  simp only [List.append_assoc]

/-! ## Fields one after another -/

theorem slice_slice {bytes : List UInt8} {base offset count size : Nat}
    (within : offset + count ≤ size) :
    slice (slice bytes base size) offset count = slice bytes (base + offset) count := by
  unfold slice
  rw [List.drop_take, List.take_take, Nat.min_eq_left (by omega), List.drop_drop]

theorem le_length_of_slice {bytes : List UInt8} {offset count : Nat}
    (full : (slice bytes offset count).length = count) (some : 0 < count) :
    offset + count ≤ bytes.length := by
  rw [slice, List.length_take, List.length_drop] at full
  omega

theorem slice_flatten {parts : List (List UInt8)} {index offset : Nat} {part : List UInt8}
    (here : parts[index]? = some part) (place : ((parts.take index).map List.length).sum = offset) :
    slice parts.flatten offset part.length = part := by
  obtain ⟨within, found⟩ := List.getElem?_eq_some_iff.mp here
  have split : parts = parts.take index ++ part :: parts.drop (index + 1) := by
    rw [← found, List.getElem_cons_drop, List.take_append_drop]
  rw [← List.length_flatten] at place
  unfold slice
  rw [split, List.flatten_append, List.flatten_cons, List.drop_left' place, List.take_left]

theorem slice_flatMap_encode {α : Type} (layout : Layout α) {values : List α} {index : Nat}
    {value : α} (here : values[index]? = some value) :
    slice (values.flatMap layout.encode) (index * layout.size) layout.size =
      layout.encode value := by
  have bounded : index < values.length := (List.getElem?_eq_some_iff.mp here).1
  have widths : ((values.map layout.encode).take index).map List.length =
      List.replicate index layout.size := by
    refine List.eq_replicate_iff.mpr ⟨?_, ?_⟩
    · rw [List.length_map, List.length_take, List.length_map, Nat.min_eq_left bounded.le]
    · intro width member
      obtain ⟨bytes, taken, rfl⟩ := List.mem_map.mp member
      obtain ⟨entry, -, rfl⟩ := List.mem_map.mp (List.mem_of_mem_take taken)
      exact layout.length_encode entry
  have encoded : (values.map layout.encode)[index]? = some (layout.encode value) := by
    rw [List.getElem?_map, here]
    rfl
  have field := slice_flatten encoded (congrArg List.sum widths)
  rwa [layout.length_encode, List.sum_replicate_nat] at field

end PactNetwork
