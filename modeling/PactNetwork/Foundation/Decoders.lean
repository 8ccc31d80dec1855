import PactNetwork.Foundation.ByteLayout
import PactNetwork.Foundation.Checked

/-!
# Exact decoders

Decoders that move along the bytes they have left. An exact decoder accepts the
encodings of the valid values and nothing else. Exactness goes through
sequencing, so the decoder of a record is exact once those of its fields are.
-/

set_option autoImplicit false

namespace PactNetwork

/-- A decoder yields a value and the bytes after it, or fails. -/
abbrev Decoder (ε : Type) := StateT (List UInt8) (Except ε)

namespace Decoder

variable {ε α β : Type} {data rest : List UInt8} {value : β}

theorem run_bind {first : Decoder ε α} {next : α → Decoder ε β} :
    (first >>= next) data = .ok (value, rest) ↔
      ∃ part middle, first data = .ok (part, middle) ∧ next part middle = .ok (value, rest) := by
  show (first data >>= fun result => next result.1 result.2) = .ok (value, rest) ↔ _
  rw [bind_eq_ok, Prod.exists]

theorem run_pure {result : β} :
    (pure result : Decoder ε β) data = .ok (value, rest) ↔ result = value ∧ data = rest := by
  show (Except.ok (result, data) : Except ε _) = .ok (value, rest) ↔ _
  rw [Except.ok.injEq, Prod.mk.injEq]

theorem run_map {first : Decoder ε α} {view : α → β} :
    (view <$> first) data = .ok (value, rest) ↔
      ∃ found, first data = .ok (found, rest) ∧ view found = value := by
  rw [map_eq_pure_bind, run_bind]
  constructor
  · rintro ⟨found, middle, read, finished⟩
    obtain ⟨same, rfl⟩ := run_pure.mp finished
    exact ⟨found, read, same⟩
  · rintro ⟨found, read, same⟩
    exact ⟨found, rest, read, run_pure.mpr ⟨same, rfl⟩⟩

/-! ## Exactness -/

/-- Among the values that fit what is already known, the decoder yields the
valid ones, each from its encoding. -/
def Exact (decoder : Decoder ε α) (known valid : α → Prop) (encode : α → List UInt8) : Prop :=
  ∀ data value rest, decoder data = .ok (value, rest) ↔
    known value ∧ valid value ∧ data = encode value ++ rest

section Exact

variable {known valid valid' : β → Prop} {encode encode' : β → List UInt8} {decoder : Decoder ε β}

theorem Exact.congr (exact : Exact decoder known valid encode)
    (same : ∀ value, valid value ↔ valid' value) (bytes : ∀ value, encode value = encode' value) :
    Exact decoder known valid' encode' := by
  intro data value rest
  rw [exact data value rest, same, bytes]

theorem Exact.pure {result : β} (determined : ∀ value, known value ↔ value = result) :
    Exact (Pure.pure result : Decoder ε β) known (fun _ => True) (fun _ => []) := by
  intro data value rest
  rw [run_pure, determined, List.nil_append, true_and, @eq_comm _ result]

theorem Exact.field {first : Decoder ε α} {next : α → Decoder ε β} {allowed : α → Prop}
    {front : α → List UInt8} (part : β → α) (read : Exact first (fun _ => True) allowed front)
    (continued : ∀ found, allowed found →
      Exact (next found) (fun value => known value ∧ part value = found) valid encode) :
    Exact (first >>= next) known (fun value => allowed (part value) ∧ valid value)
      (fun value => front (part value) ++ encode value) := by
  intro data value rest
  rw [run_bind]
  constructor
  · rintro ⟨found, middle, started, finished⟩
    obtain ⟨-, passes, rfl⟩ := (read _ _ _).mp started
    obtain ⟨⟨fits, rfl⟩, good, rfl⟩ := (continued found passes _ _ _).mp finished
    exact ⟨fits, ⟨passes, good⟩, (List.append_assoc _ _ _).symm⟩
  · rintro ⟨fits, ⟨passes, good⟩, rfl⟩
    exact ⟨part value, encode value ++ rest,
      (read _ _ _).mpr ⟨trivial, passes, List.append_assoc _ _ _⟩,
      (continued _ passes _ _ _).mpr ⟨⟨fits, rfl⟩, good, rfl⟩⟩

theorem Exact.within (exact : Exact decoder known valid encode)
    (accepted : decoder data = .ok (value, rest)) :
    ∃ read, data = read ++ rest ∧ ∀ other, decoder (read ++ other) = .ok (value, other) := by
  obtain ⟨fits, good, split⟩ := (exact _ _ _).mp accepted
  exact ⟨encode value, split, fun other => (exact _ _ _).mpr ⟨fits, good, rfl⟩⟩

end Exact

/-! ## Failures -/

def FailsWith (decoder : Decoder ε α) (errors : ε → Prop) : Prop :=
  ∀ data error, decoder data = .error error → errors error

section FailsWith

variable {errors : ε → Prop}

theorem FailsWith.pure {result : α} : FailsWith (Pure.pure result : Decoder ε α) errors := by
  intro data error failed
  cases failed

theorem FailsWith.bind {first : Decoder ε α} {next : α → Decoder ε β}
    (start : FailsWith first errors) (finish : ∀ found, FailsWith (next found) errors) :
    FailsWith (first >>= next) errors := by
  intro data error failed
  change (first data >>= fun result => next result.1 result.2) = .error error at failed
  cases started : first data with
  | error other =>
      rw [started] at failed
      cases failed
      exact start data error started
  | ok result =>
      rw [started] at failed
      exact finish result.1 result.2 error failed

theorem FailsWith.map {first : Decoder ε α} (start : FailsWith first errors) (view : α → β) :
    FailsWith (view <$> first) errors := by
  rw [map_eq_pure_bind]
  exact start.bind fun _ => .pure

end FailsWith

end Decoder

end PactNetwork
