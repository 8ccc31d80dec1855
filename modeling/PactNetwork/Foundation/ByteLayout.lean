import Mathlib.Data.Vector.Basic
import Mathlib.Data.UInt
import Mathlib.Tactic.Ring
import Mathlib.Logic.Equiv.Defs

/-!
# Byte layouts

Fixed-width layouts in which every byte string of the right length is exactly
one value. Casting memory to such a type, changing a field and casting back
loses nothing, so a store that holds bytes can be reasoned about by value.
-/

set_option autoImplicit false

namespace PactNetwork

abbrev Bytes (size : Nat) := List.Vector UInt8 size

instance fintypeUInt8 : Fintype UInt8 :=
  Fintype.ofEquiv (Fin UInt8.size) ⟨UInt8.ofFin, UInt8.toFin, fun _ => rfl, fun _ => rfl⟩

theorem Bytes.toList_inj {size : Nat} {left right : Bytes size} :
    left.toList = right.toList ↔ left = right :=
  ⟨fun same => Subtype.ext same, congrArg List.Vector.toList⟩

theorem Bytes.append_inj {front back : Nat} {first first' : Bytes front}
    {second second' : Bytes back} :
    first.toList ++ second.toList = first'.toList ++ second'.toList ↔
      first = first' ∧ second = second' := by
  constructor
  · intro same
    obtain ⟨left, right⟩ := List.append_inj same
      (by rw [first.toList_length, first'.toList_length])
    exact ⟨Bytes.toList_inj.mp left, Bytes.toList_inj.mp right⟩
  · rintro ⟨rfl, rfl⟩
    rfl

/-! ## Little-endian numbers -/

/-- The `width` low bytes of a number, least significant first. -/
def leBytes : Nat → Nat → List UInt8
  | 0, _ => []
  | width + 1, value => UInt8.ofNat (value % 256) :: leBytes width (value / 256)

def leNat : List UInt8 → Nat
  | [] => 0
  | byte :: rest => byte.toNat + 256 * leNat rest

@[simp] theorem length_leBytes (width value : Nat) : (leBytes width value).length = width := by
  induction width generalizing value with
  | zero => rfl
  | succ width ih => simp [leBytes, ih]

theorem leNat_leBytes (width value : Nat) : leNat (leBytes width value) = value % 256 ^ width := by
  induction width generalizing value with
  | zero => simp [leBytes, leNat, Nat.mod_one]
  | succ width ih =>
      have low : (UInt8.ofNat (value % 256)).toNat = value % 256 := by
        rw [UInt8.toNat_ofNat']
        omega
      rw [leBytes, leNat, ih, low, pow_succ', Nat.mod_mul]

theorem leBytes_leNat (bytes : List UInt8) : leBytes bytes.length (leNat bytes) = bytes := by
  induction bytes with
  | nil => rfl
  | cons byte rest ih =>
      have small := byte.toNat_lt
      have low : (byte.toNat + 256 * leNat rest) % 256 = byte.toNat := by omega
      have high : (byte.toNat + 256 * leNat rest) / 256 = leNat rest := by omega
      simp only [List.length_cons, leBytes, leNat, low, high, ih, UInt8.ofNat_toNat]

theorem leNat_lt (bytes : List UInt8) : leNat bytes < 256 ^ bytes.length := by
  induction bytes with
  | nil => simp [leNat]
  | cons byte rest ih =>
      have small := byte.toNat_lt
      simp only [leNat, List.length_cons, pow_succ']
      omega

/-! ## Layouts -/

/-- A layout of `α` in `size` bytes. Decoding is total; on byte strings of the
right length it is the inverse of encoding. -/
structure Layout (α : Type) where
  size : Nat
  encode : α → List UInt8
  decode : List UInt8 → α
  length_encode : ∀ value, (encode value).length = size
  decode_encode : ∀ value, decode (encode value) = value
  encode_decode : ∀ bytes, bytes.length = size → encode (decode bytes) = bytes

attribute [simp] Layout.length_encode Layout.decode_encode

namespace Layout

variable {α β : Type}

def bytes (size : Nat) : Layout (Bytes size) where
  size := size
  encode value := value.toList
  decode input := ⟨input.takeD size 0, List.takeD_length _ _ _⟩
  length_encode value := value.toList_length
  decode_encode value := by
    apply Subtype.ext
    have exact := List.takeD_eq_take (0 : UInt8) (n := size) (l := value.toList)
      (by rw [value.toList_length])
    exact exact.trans (by rw [List.take_of_length_le (by rw [value.toList_length])]; rfl)
  encode_decode input sized := by
    have exact := List.takeD_eq_take (0 : UInt8) (n := size) (l := input) (by omega)
    exact exact.trans (List.take_of_length_le (by omega))

/-- A little-endian number of `width` bytes, read and written through its value. -/
def number (width : Nat) (toNat : α → Nat) (ofNat : Nat → α)
    (small : ∀ value, toNat value < 256 ^ width)
    (ofNat_toNat : ∀ value, ofNat (toNat value) = value)
    (toNat_ofNat : ∀ value, value < 256 ^ width → toNat (ofNat value) = value) : Layout α where
  size := width
  encode value := leBytes width (toNat value)
  decode input := ofNat (leNat input)
  length_encode value := length_leBytes width (toNat value)
  decode_encode value := by
    rw [leNat_leBytes, Nat.mod_eq_of_lt (small value), ofNat_toNat]
  encode_decode input sized := by
    subst sized
    rw [toNat_ofNat _ (leNat_lt input), leBytes_leNat]

def u8 : Layout UInt8 :=
  number 1 UInt8.toNat UInt8.ofNat (fun value => value.toNat_lt) (fun _ => UInt8.ofNat_toNat)
    (fun _ bound => UInt8.toNat_ofNat_of_lt' bound)

def u16 : Layout UInt16 :=
  number 2 UInt16.toNat UInt16.ofNat (fun value => value.toNat_lt) (fun _ => UInt16.ofNat_toNat)
    (fun _ bound => UInt16.toNat_ofNat_of_lt' bound)

def u32 : Layout UInt32 :=
  number 4 UInt32.toNat UInt32.ofNat (fun value => value.toNat_lt) (fun _ => UInt32.ofNat_toNat)
    (fun _ bound => UInt32.toNat_ofNat_of_lt' bound)

def u64 : Layout UInt64 :=
  number 8 UInt64.toNat UInt64.ofNat (fun value => value.toNat_lt) (fun _ => UInt64.ofNat_toNat)
    (fun _ bound => UInt64.toNat_ofNat_of_lt' bound)

def map (layout : Layout α) (view : α ≃ β) : Layout β where
  size := layout.size
  encode value := layout.encode (view.symm value)
  decode input := view (layout.decode input)
  length_encode value := layout.length_encode _
  decode_encode value := by rw [layout.decode_encode, view.apply_symm_apply]
  encode_decode input sized := by
    rw [view.symm_apply_apply, layout.encode_decode input sized]

def i64 : Layout Int64 :=
  u64.map ⟨UInt64.toInt64, Int64.toUInt64, fun _ => rfl, fun _ => rfl⟩

def pair (first : Layout α) (second : Layout β) : Layout (α × β) where
  size := first.size + second.size
  encode value := first.encode value.1 ++ second.encode value.2
  decode input := (first.decode (input.take first.size), second.decode (input.drop first.size))
  length_encode value := by simp
  decode_encode value := by
    have front : (first.encode value.1 ++ second.encode value.2).take first.size =
        first.encode value.1 := List.take_left' (first.length_encode value.1)
    have back : (first.encode value.1 ++ second.encode value.2).drop first.size =
        second.encode value.2 := List.drop_left' (first.length_encode value.1)
    rw [front, back, first.decode_encode, second.decode_encode]
  encode_decode input sized := by
    rw [first.encode_decode _ (by rw [List.length_take]; omega),
      second.encode_decode _ (by rw [List.length_drop]; omega), List.take_append_drop]

theorem encode_u8 (value : UInt8) : u8.encode value = [value] := by
  have small : value.toNat % 256 = value.toNat := Nat.mod_eq_of_lt value.toNat_lt
  show leBytes 1 value.toNat = [value]
  rw [leBytes, leBytes, small, UInt8.ofNat_toNat]

theorem head_encode_u8_pair (rest : Layout α) (value : UInt8 × α) :
    ((u8.pair rest).encode value).head? = some value.1 := by
  show (u8.encode value.1 ++ rest.encode value.2).head? = some value.1
  rw [encode_u8]
  rfl

def decodeArray (layout : Layout α) : Nat → List UInt8 → List α
  | 0, _ => []
  | count + 1, input =>
      layout.decode (input.take layout.size) :: decodeArray layout count (input.drop layout.size)

theorem length_decodeArray (layout : Layout α) (count : Nat) (input : List UInt8) :
    (decodeArray layout count input).length = count := by
  induction count generalizing input with
  | zero => rfl
  | succ count ih => simp [decodeArray, ih]

theorem length_flatMap_encode (layout : Layout α) (values : List α) :
    (values.flatMap layout.encode).length = values.length * layout.size := by
  induction values with
  | nil => simp
  | cons value values ih =>
      rw [List.flatMap_cons, List.length_append, ih, layout.length_encode, List.length_cons]
      ring

theorem decodeArray_flatMap (layout : Layout α) (values : List α) (rest : List UInt8) :
    decodeArray layout values.length (values.flatMap layout.encode ++ rest) = values := by
  induction values with
  | nil => rfl
  | cons value values ih =>
      have front : (layout.encode value ++ (values.flatMap layout.encode ++ rest)).take
          layout.size = layout.encode value := List.take_left' (layout.length_encode value)
      have back : (layout.encode value ++ (values.flatMap layout.encode ++ rest)).drop
          layout.size = values.flatMap layout.encode ++ rest :=
        List.drop_left' (layout.length_encode value)
      simp only [List.length_cons, List.flatMap_cons, List.append_assoc, decodeArray]
      rw [front, back, layout.decode_encode, ih]

theorem flatMap_decodeArray (layout : Layout α) (count : Nat) (input : List UInt8)
    (sized : input.length = count * layout.size) :
    (decodeArray layout count input).flatMap layout.encode = input := by
  induction count generalizing input with
  | zero =>
      have empty : input = [] := List.length_eq_zero_iff.mp (by simpa using sized)
      rw [empty]
      rfl
  | succ count ih =>
      have split : input.length = layout.size + count * layout.size := by rw [sized]; ring
      rw [decodeArray, List.flatMap_cons,
        layout.encode_decode _ (by rw [List.length_take]; omega),
        ih _ (by rw [List.length_drop]; omega), List.take_append_drop]

def array (layout : Layout α) (count : Nat) : Layout (List.Vector α count) where
  size := count * layout.size
  encode value := value.toList.flatMap layout.encode
  decode input := ⟨decodeArray layout count input, length_decodeArray layout count input⟩
  length_encode value := by rw [length_flatMap_encode, value.toList_length]
  decode_encode value := by
    apply Subtype.ext
    obtain ⟨values, rfl⟩ := value
    simpa using decodeArray_flatMap layout values []
  encode_decode input sized := flatMap_decodeArray layout count input sized

/-! ## Casting memory -/

def read (layout : Layout α) (data : List UInt8) : Option α :=
  if data.length < layout.size then none else some (layout.decode (data.take layout.size))

def write (layout : Layout α) (value : α) (data : List UInt8) : List UInt8 :=
  layout.encode value ++ data.drop layout.size

theorem length_write (layout : Layout α) (value : α) (data : List UInt8)
    (fits : layout.size ≤ data.length) : (layout.write value data).length = data.length := by
  simp only [write, List.length_append, length_encode, List.length_drop]
  omega

theorem read_write (layout : Layout α) (value : α) (data : List UInt8) :
    layout.read (layout.write value data) = some value := by
  have long : ¬ (layout.encode value ++ data.drop layout.size).length < layout.size := by
    rw [List.length_append, length_encode]
    omega
  rw [read, write, if_neg long, List.take_left' (layout.length_encode value), decode_encode]

theorem write_of_read {layout : Layout α} {data : List UInt8} {value : α}
    (found : layout.read data = some value) : layout.write value data = data := by
  unfold read at found
  split at found
  case isTrue => cases found
  case isFalse long =>
    cases found
    rw [write, layout.encode_decode _ (by rw [List.length_take]; omega), List.take_append_drop]

theorem read_of_length (layout : Layout α) {data : List UInt8}
    (sized : data.length = layout.size) : layout.read data = some (layout.decode data) := by
  rw [read, if_neg (by omega), List.take_of_length_le (by omega)]

theorem size_le_of_read {layout : Layout α} {data : List UInt8} {value : α}
    (found : layout.read data = some value) : layout.size ≤ data.length := by
  by_contra short
  simp [read, Nat.lt_of_not_le short] at found

end Layout

end PactNetwork
