import PactNetwork.Foundation.Decoders
import PactNetwork.V2.Arguments

/-!
# Formats of the instruction arguments

The Borsh encodings of the arguments, and that each hand-written decoder
accepts exactly the encodings of the values its fields can hold.
-/

set_option autoImplicit false

namespace PactNetwork.V2

open Solana Decoder

namespace Cursor

variable {α : Type}

abbrev anything (_ : α) : Prop := True

/-! ## Reads -/

theorem take_exact (count : Nat) :
    Exact (take count) anything (fun bytes => bytes.length = count) id := by
  intro data bytes rest
  unfold take
  split
  case isTrue short =>
    simp only [reduceCtorEq, false_iff]
    rintro ⟨-, sized, rfl⟩
    rw [List.length_append] at short
    simp only [id_eq] at short
    omega
  case isFalse long =>
    rw [Except.ok.injEq, Prod.mk.injEq]
    constructor
    · rintro ⟨rfl, rfl⟩
      have sized : (data.take count).length = count := by
        rw [List.length_take]
        omega
      exact ⟨trivial, sized, (List.take_append_drop _ _).symm⟩
    · rintro ⟨-, sized, rfl⟩
      exact ⟨List.take_left' sized, List.drop_left' sized⟩

theorem read_exact (layout : Layout α) : Exact (read layout) anything anything layout.encode := by
  intro data value rest
  unfold read
  rw [run_bind]
  constructor
  · rintro ⟨bytes, middle, taken, finished⟩
    obtain ⟨-, sized, rfl⟩ := (take_exact _ _ _ _).mp taken
    obtain ⟨rfl, rfl⟩ := run_pure.mp finished
    exact ⟨trivial, trivial, by rw [layout.encode_decode bytes sized]; rfl⟩
  · rintro ⟨-, -, rfl⟩
    exact ⟨layout.encode value, rest,
      (take_exact _ _ _ _).mpr ⟨trivial, layout.length_encode value, rfl⟩,
      run_pure.mpr ⟨layout.decode_encode value, rfl⟩⟩

def encodeString (bytes : List UInt8) : List UInt8 :=
  Layout.u32.encode (UInt32.ofNat bytes.length) ++ bytes

theorem readString_exact :
    Exact readString anything (fun bytes => bytes.length < 2 ^ 32) encodeString := by
  intro data bytes rest
  unfold readString
  rw [run_bind]
  constructor
  · rintro ⟨length, middle, sized, taken⟩
    obtain ⟨-, -, rfl⟩ := (read_exact _ _ _ _).mp sized
    obtain ⟨-, same, rfl⟩ := (take_exact _ _ _ _).mp taken
    have short : bytes.length < 2 ^ 32 := by
      rw [same]
      exact length.toNat_lt
    refine ⟨trivial, short, ?_⟩
    rw [encodeString, same, UInt32.ofNat_toNat, List.append_assoc]
    rfl
  · rintro ⟨-, short, rfl⟩
    refine ⟨UInt32.ofNat bytes.length, bytes ++ rest,
      (read_exact _ _ _ _).mpr ⟨trivial, trivial, List.append_assoc _ _ _⟩,
      (take_exact _ _ _ _).mpr ⟨trivial, ?_, rfl⟩⟩
    rw [UInt32.toNat_ofNat_of_lt' short]

theorem readTag_exact :
    Exact readTag anything (fun tag => tag = 0 ∨ tag = 1) Layout.u8.encode := by
  intro data tag rest
  unfold readTag
  rw [run_bind]
  constructor
  · rintro ⟨raw, middle, taken, finished⟩
    obtain ⟨-, -, rfl⟩ := (read_exact _ _ _ _).mp taken
    split at finished
    case isTrue small =>
      obtain ⟨rfl, rfl⟩ := run_pure.mp finished
      exact ⟨trivial, small, rfl⟩
    case isFalse => cases finished
  · rintro ⟨-, small, rfl⟩
    refine ⟨tag, rest, (read_exact _ _ _ _).mpr ⟨trivial, trivial, rfl⟩, ?_⟩
    rw [if_pos small]
    exact run_pure.mpr ⟨rfl, rfl⟩

def encodeOption (encode : α → List UInt8) : Option α → List UInt8
  | none => Layout.u8.encode 0
  | some value => Layout.u8.encode 1 ++ encode value

theorem option_exact {inner : Cursor α} {valid : α → Prop} {encode : α → List UInt8}
    (exact : Exact inner anything valid encode) :
    Exact (option inner) anything (fun found => ∀ value ∈ found, valid value)
      (encodeOption encode) := by
  intro data found rest
  unfold option
  rw [run_bind]
  constructor
  · rintro ⟨tag, middle, tagged, finished⟩
    obtain ⟨-, small, rfl⟩ := (readTag_exact _ _ _).mp tagged
    by_cases absent : tag = 0
    · rw [if_pos absent] at finished
      obtain ⟨rfl, rfl⟩ := run_pure.mp finished
      rw [absent]
      exact ⟨trivial, nofun, rfl⟩
    · rw [if_neg absent] at finished
      obtain ⟨value, read, rfl⟩ := run_map.mp finished
      obtain ⟨-, good, rfl⟩ := (exact _ _ _).mp read
      rw [small.resolve_left absent]
      refine ⟨trivial, ?_, (List.append_assoc _ _ _).symm⟩
      rintro _ ⟨⟩
      exact good
  · rintro ⟨-, good, rfl⟩
    cases found with
    | none => exact ⟨0, rest, (readTag_exact _ _ _).mpr ⟨trivial, .inl rfl, rfl⟩, rfl⟩
    | some value =>
        refine ⟨1, encode value ++ rest,
          (readTag_exact _ _ _).mpr ⟨trivial, .inr rfl, List.append_assoc _ _ _⟩, ?_⟩
        exact run_map.mpr ⟨value, (exact _ _ _).mpr ⟨trivial, good value rfl, rfl⟩, rfl⟩

theorem string_exact {β : Type} {known valid : β → Prop} {encode : β → List UInt8}
    {error : ProgramError} {limit : Nat} {next : List UInt8 → Cursor β} (part : β → List UInt8)
    (small : limit < 2 ^ 32)
    (continued : ∀ bytes, bytes.length ≤ limit →
      Exact (next bytes) (fun value => known value ∧ part value = bytes) valid encode) :
    Exact (readString >>= fun bytes =>
        if limit < bytes.length then reject error else next bytes) known
      (fun value => (part value).length ≤ limit ∧ valid value)
      (fun value => encodeString (part value) ++ encode value) := by
  intro data value rest
  rw [run_bind]
  constructor
  · rintro ⟨bytes, middle, read, finished⟩
    obtain ⟨-, -, rfl⟩ := (readString_exact _ _ _).mp read
    split at finished
    case isTrue => cases finished
    case isFalse within =>
      obtain ⟨⟨fits, rfl⟩, good, rfl⟩ :=
        (continued bytes (Nat.le_of_not_lt within) _ _ _).mp finished
      exact ⟨fits, ⟨Nat.le_of_not_lt within, good⟩, (List.append_assoc _ _ _).symm⟩
  · rintro ⟨fits, ⟨within, good⟩, rfl⟩
    refine ⟨part value, encode value ++ rest,
      (readString_exact _ _ _).mpr ⟨trivial, Nat.lt_of_le_of_lt within small,
        List.append_assoc _ _ _⟩, ?_⟩
    rw [if_neg (Nat.not_lt.mpr within)]
    exact (continued _ within _ _ _).mpr ⟨⟨fits, rfl⟩, good, rfl⟩

theorem readTriggerType_exact :
    Exact readTriggerType anything anything fun type => Layout.u8.encode type.toU8 := by
  intro data type rest
  unfold readTriggerType
  rw [run_bind]
  constructor
  · rintro ⟨raw, middle, read, finished⟩
    obtain ⟨-, -, rfl⟩ := (read_exact _ _ _ _).mp read
    generalize number : raw.toNat = code at finished
    rcases code with _ | _ | _ | _ | code
    · obtain ⟨rfl, rfl⟩ := run_pure.mp finished
      exact ⟨trivial, trivial, by rw [@UInt8.toNat_inj raw 0 |>.mp number]; rfl⟩
    · obtain ⟨rfl, rfl⟩ := run_pure.mp finished
      exact ⟨trivial, trivial, by rw [@UInt8.toNat_inj raw 1 |>.mp number]; rfl⟩
    · obtain ⟨rfl, rfl⟩ := run_pure.mp finished
      exact ⟨trivial, trivial, by rw [@UInt8.toNat_inj raw 2 |>.mp number]; rfl⟩
    · obtain ⟨rfl, rfl⟩ := run_pure.mp finished
      exact ⟨trivial, trivial, by rw [@UInt8.toNat_inj raw 3 |>.mp number]; rfl⟩
    · cases finished
  · rintro ⟨-, -, rfl⟩
    refine ⟨type.toU8, rest, (read_exact _ _ _ _).mpr ⟨trivial, trivial, rfl⟩, ?_⟩
    cases type <;> rfl

/-! ## Failures -/

/-- The error of a read past the end or of trailing bytes, and `others`. -/
def refusals (others : List ProgramError) (error : ProgramError) : Prop :=
  error = .invalidInstructionData ∨ error ∈ others

section Failures

variable {others : List ProgramError}

theorem take_failsWith (count : Nat) : FailsWith (take count) (refusals others) := by
  intro data error failed
  unfold take at failed
  split at failed
  · cases failed
    exact .inl rfl
  · cases failed

theorem reject_failsWith {error : ProgramError} (named : refusals others error) :
    FailsWith (reject error : Cursor α) (refusals others) := by
  intro data other failed
  cases failed
  exact named

theorem read_failsWith (layout : Layout α) : FailsWith (read layout) (refusals others) :=
  (take_failsWith _).bind fun _ => .pure

theorem readString_failsWith : FailsWith readString (refusals others) :=
  (read_failsWith _).bind fun _ => take_failsWith _

theorem readTag_failsWith : FailsWith readTag (refusals others) := by
  refine (read_failsWith _).bind fun tag => ?_
  split
  · exact .pure
  · exact reject_failsWith (.inl rfl)

theorem string_failsWith {error : ProgramError} {limit : Nat} {next : List UInt8 → Cursor α}
    (named : refusals others error)
    (continued : ∀ bytes, FailsWith (next bytes) (refusals others)) :
    FailsWith (readString >>= fun bytes =>
      if limit < bytes.length then reject error else next bytes) (refusals others) := by
  refine readString_failsWith.bind fun bytes => ?_
  split
  · exact reject_failsWith named
  · exact continued bytes

theorem readTriggerType_failsWith (named : refusals others ↑PactError.invalidTriggerType) :
    FailsWith readTriggerType (refusals others) := by
  refine (read_failsWith _).bind fun raw => ?_
  split
  · exact .pure
  · exact .pure
  · exact .pure
  · exact .pure
  · exact reject_failsWith named

theorem option_failsWith {inner : Cursor α} (fails : FailsWith inner (refusals others)) :
    FailsWith (option inner) (refusals others) := by
  refine readTag_failsWith.bind fun tag => ?_
  split
  · exact .pure
  · exact fails.map _

end Failures

/-! ## Whole arguments -/

/-- A decoder of whole arguments is the inverse of an encoding. It consumes a
front part of the data whatever follows, and refuses the rest by name. -/
structure Inverse (cursor : Cursor α) (valid : α → Prop) (encode : α → List UInt8)
    (others : List ProgramError) : Prop where
  decode_encode : ∀ value, valid value → cursor.decode (encode value) = .ok value
  encode_decode : ∀ data value, cursor.decode data = .ok value →
    valid value ∧ encode value = data
  within : ∀ data value rest, cursor data = .ok (value, rest) →
    ∃ read, data = read ++ rest ∧ ∀ other, cursor (read ++ other) = .ok (value, other)
  refused : ∀ data error, cursor.decode data = .error error → refusals others error

theorem decode_eq_ok {cursor : Cursor α} {data : List UInt8} {value : α} :
    cursor.decode data = .ok value ↔ cursor data = .ok (value, []) := by
  simp only [decode, bind_eq_ok, Prod.exists, failIf_eq_ok, ne_eq, not_not, exists_const,
    PactNetwork.pure_eq_ok]
  constructor
  · rintro ⟨found, rest, read, rfl, rfl⟩
    exact read
  · exact fun read => ⟨value, [], read, rfl, rfl⟩

theorem decode_refused {cursor : Cursor α} {others : List ProgramError}
    (fails : FailsWith cursor (refusals others)) (data : List UInt8) (error : ProgramError)
    (refused : cursor.decode data = .error error) : refusals others error := by
  unfold decode at refused
  cases read : cursor data with
  | error other =>
      rw [read] at refused
      cases refused
      exact fails data error read
  | ok result =>
      obtain ⟨value, rest⟩ := result
      rw [read, ok_bind] at refused
      dsimp only at refused
      by_cases trailing : rest ≠ []
      · rw [failIf_of trailing] at refused
        cases refused
        exact .inl rfl
      · rw [failIf_of_not trailing] at refused
        cases refused

theorem Inverse.of_exact {cursor : Cursor α} {valid : α → Prop} {encode : α → List UInt8}
    {others : List ProgramError} (exact : Exact cursor anything valid encode)
    (fails : FailsWith cursor (refusals others)) : Inverse cursor valid encode others where
  decode_encode value good :=
    decode_eq_ok.mpr ((exact _ _ _).mpr ⟨trivial, good, (List.append_nil _).symm⟩)
  encode_decode data value decoded := by
    obtain ⟨-, good, split⟩ := (exact _ _ _).mp (decode_eq_ok.mp decoded)
    exact ⟨good, ((List.append_nil _).symm.trans split.symm)⟩
  within data value rest := exact.within
  refused := decode_refused fails

end Cursor

open Cursor

/-! ## submit_claim -/

namespace SubmitClaimArgs

def WellFormed (args : SubmitClaimArgs) : Prop := args.callId.length ≤ maxCallIdLen

def encode (args : SubmitClaimArgs) : List UInt8 :=
  [encodeString args.callId, Layout.u8.encode args.triggerType.toU8,
    (Layout.bytes 32).encode args.evidenceHash, Layout.i64.encode args.callTimestamp,
    Layout.u32.encode args.latencyMs, Layout.u16.encode args.statusCode,
    Layout.u64.encode args.paymentAmount].flatten

theorem cursor_exact : Exact cursor anything WellFormed encode := by
  refine .congr (string_exact SubmitClaimArgs.callId (by decide) fun callId _ =>
    .field SubmitClaimArgs.triggerType readTriggerType_exact fun triggerType _ =>
    .field SubmitClaimArgs.evidenceHash (read_exact _) fun evidenceHash _ =>
    .field SubmitClaimArgs.callTimestamp (read_exact _) fun callTimestamp _ =>
    .field SubmitClaimArgs.latencyMs (read_exact _) fun latencyMs _ =>
    .field SubmitClaimArgs.statusCode (read_exact _) fun statusCode _ =>
    .field SubmitClaimArgs.paymentAmount (read_exact _) fun paymentAmount _ =>
    .pure fun args => ?_) (fun args => ?_) fun args => rfl
  · cases args
    simp [and_assoc]
  · simp [WellFormed]

/-- What `decode` refuses besides data of the wrong length. -/
def errors : List ProgramError := [↑PactError.callIdTooLong, ↑PactError.invalidTriggerType]

theorem cursor_failsWith : FailsWith cursor (refusals errors) :=
  string_failsWith (.inr (by decide)) fun _ =>
    (readTriggerType_failsWith (.inr (by decide))).bind fun _ =>
    (read_failsWith _).bind fun _ => (read_failsWith _).bind fun _ =>
    (read_failsWith _).bind fun _ => (read_failsWith _).bind fun _ =>
    (read_failsWith _).bind fun _ => .pure

end SubmitClaimArgs

/-! ## enable_insurance -/

namespace EnableInsuranceArgs

def WellFormed (args : EnableInsuranceArgs) : Prop :=
  args.agentId.length ≤ maxAgentIdLen ∧ (args.referrerPresent = 0 ∨ args.referrerPresent = 1)

def encode (args : EnableInsuranceArgs) : List UInt8 :=
  [encodeString args.agentId, Layout.i64.encode args.expiresAt,
    (Layout.bytes 32).encode args.referrer, Layout.u8.encode args.referrerPresent,
    Layout.u16.encode args.referrerShareBps].flatten

theorem cursor_exact : Exact cursor anything WellFormed encode := by
  refine .congr (string_exact EnableInsuranceArgs.agentId (by decide) fun agentId _ =>
    .field EnableInsuranceArgs.expiresAt (read_exact _) fun expiresAt _ =>
    .field EnableInsuranceArgs.referrer (read_exact _) fun referrer _ =>
    .field EnableInsuranceArgs.referrerPresent readTag_exact fun referrerPresent _ =>
    .field EnableInsuranceArgs.referrerShareBps (read_exact _) fun referrerShareBps _ =>
    .pure fun args => ?_) (fun args => ?_) fun args => rfl
  · cases args
    simp [and_assoc]
  · simp [WellFormed]

def errors : List ProgramError := [↑PactError.agentIdTooLong]

theorem cursor_failsWith : FailsWith cursor (refusals errors) :=
  string_failsWith (.inr (by decide)) fun _ =>
    (read_failsWith _).bind fun _ => (read_failsWith _).bind fun _ =>
    readTag_failsWith.bind fun _ => (read_failsWith _).bind fun _ => .pure

end EnableInsuranceArgs

/-! ## update_config -/

namespace UpdateConfigPatch

def WellFormed (patch : UpdateConfigPatch) : Prop :=
  ∀ paused ∈ patch.paused, paused = 0 ∨ paused = 1

def encode (patch : UpdateConfigPatch) : List UInt8 :=
  [encodeOption Layout.u16.encode patch.protocolFeeBps,
    encodeOption Layout.u64.encode patch.minPoolDeposit,
    encodeOption Layout.u16.encode patch.defaultInsuranceRateBps,
    encodeOption Layout.u64.encode patch.defaultMaxCoveragePerCall,
    encodeOption Layout.u16.encode patch.minPremiumBps,
    encodeOption Layout.i64.encode patch.withdrawalCooldownSeconds,
    encodeOption Layout.u16.encode patch.aggregateCapBps,
    encodeOption Layout.i64.encode patch.aggregateCapWindowSeconds,
    encodeOption Layout.i64.encode patch.claimWindowSeconds,
    encodeOption Layout.u8.encode patch.maxClaimsPerBatch,
    encodeOption Layout.u8.encode patch.paused,
    encodeOption (Layout.bytes 32).encode patch.treasury,
    encodeOption (Layout.bytes 32).encode patch.usdcMint].flatten

theorem cursor_exact : Exact cursor anything WellFormed encode := by
  refine .congr (.field UpdateConfigPatch.protocolFeeBps (option_exact (read_exact _)) fun _ _ =>
    .field UpdateConfigPatch.minPoolDeposit (option_exact (read_exact _)) fun _ _ =>
    .field UpdateConfigPatch.defaultInsuranceRateBps (option_exact (read_exact _)) fun _ _ =>
    .field UpdateConfigPatch.defaultMaxCoveragePerCall (option_exact (read_exact _)) fun _ _ =>
    .field UpdateConfigPatch.minPremiumBps (option_exact (read_exact _)) fun _ _ =>
    .field UpdateConfigPatch.withdrawalCooldownSeconds (option_exact (read_exact _)) fun _ _ =>
    .field UpdateConfigPatch.aggregateCapBps (option_exact (read_exact _)) fun _ _ =>
    .field UpdateConfigPatch.aggregateCapWindowSeconds (option_exact (read_exact _)) fun _ _ =>
    .field UpdateConfigPatch.claimWindowSeconds (option_exact (read_exact _)) fun _ _ =>
    .field UpdateConfigPatch.maxClaimsPerBatch (option_exact (read_exact _)) fun _ _ =>
    .field UpdateConfigPatch.paused (option_exact readTag_exact) fun _ _ =>
    .field UpdateConfigPatch.treasury (option_exact (read_exact _)) fun _ _ =>
    .field UpdateConfigPatch.usdcMint (option_exact (read_exact _)) fun _ _ =>
    .pure fun patch => ?_) (fun patch => ?_) fun patch => rfl
  · cases patch
    simp [and_assoc]
  · simp [WellFormed]

theorem cursor_failsWith : FailsWith cursor (refusals []) :=
  (option_failsWith (read_failsWith _)).bind fun _ =>
  (option_failsWith (read_failsWith _)).bind fun _ =>
  (option_failsWith (read_failsWith _)).bind fun _ =>
  (option_failsWith (read_failsWith _)).bind fun _ =>
  (option_failsWith (read_failsWith _)).bind fun _ =>
  (option_failsWith (read_failsWith _)).bind fun _ =>
  (option_failsWith (read_failsWith _)).bind fun _ =>
  (option_failsWith (read_failsWith _)).bind fun _ =>
  (option_failsWith (read_failsWith _)).bind fun _ =>
  (option_failsWith (read_failsWith _)).bind fun _ =>
  (option_failsWith readTag_failsWith).bind fun _ =>
  (option_failsWith (read_failsWith _)).bind fun _ =>
  (option_failsWith (read_failsWith _)).bind fun _ => .pure

end UpdateConfigPatch

/-- The three decoders are the inverses of their formats, on all byte strings. -/
theorem decoders_inverse :
    Inverse SubmitClaimArgs.cursor SubmitClaimArgs.WellFormed SubmitClaimArgs.encode
        SubmitClaimArgs.errors ∧
      Inverse EnableInsuranceArgs.cursor EnableInsuranceArgs.WellFormed
        EnableInsuranceArgs.encode EnableInsuranceArgs.errors ∧
      Inverse UpdateConfigPatch.cursor UpdateConfigPatch.WellFormed UpdateConfigPatch.encode [] :=
  ⟨.of_exact SubmitClaimArgs.cursor_exact SubmitClaimArgs.cursor_failsWith,
    .of_exact EnableInsuranceArgs.cursor_exact EnableInsuranceArgs.cursor_failsWith,
    .of_exact UpdateConfigPatch.cursor_exact UpdateConfigPatch.cursor_failsWith⟩

end PactNetwork.V2
