import Mathlib.Data.List.DropRight
import PactNetwork.Indexer.EndpointSync
import PactNetwork.V1.Registered
import PactNetwork.V1Client.StateLayout

/-!
# The endpoint sync on Solana

`OnChainSyncService` reads the program's accounts along two paths, the legacy
one and the adapter's. Each turns the slug of an endpoint into the text that is
the key of its row.
-/

set_option autoImplicit false

namespace PactNetwork.Indexer

open Solana V1Client

/-! ## The texts of a slug -/

/-- `slugBytesToString` of a decoded account: the text up to the first zero. -/
def decodedSlugToString (slug : List UInt8) : String := textDecode (slug.takeWhile (· ≠ 0))

/-- `Buffer.toString`, which keeps a byte order mark. -/
def bufferToString (bytes : List UInt8) : String := String.ofList (decodeUtf8 none bytes)

def stripZeros (text : String) : String :=
  String.ofList (text.toList.rdropWhile (· = Char.ofNat 0))

def normalizeSnapshotSlug (slug : String) : String :=
  match Adapters.bytes16OfHex slug with
  | some bytes => slugBytesToString bytes
  | none => slug

/-! ## The adapter's snapshots -/

structure SolanaSnapshot where
  slug : String
  authority : Pubkey
  maxTotalFeeBps : Nat
  feeRecipients : List FeeRecipient
  paused : Bool
  raw : EndpointConfig

structure NormalizedEndpointConfig where
  flatPremium : Int
  percentBps : Int
  slaLatencyMs : Int
  imputedCost : Int
  exposureCapPerHour : Int
  paused : Bool

def normalizeRawConfig (raw : EndpointConfig) : NormalizedEndpointConfig where
  flatPremium := raw.flatPremiumLamports
  percentBps := raw.percentBps
  slaLatencyMs := raw.slaLatencyMs
  imputedCost := raw.imputedCostLamports
  exposureCapPerHour := raw.exposureCapPerHourLamports
  paused := raw.paused

/-! ## Upserts -/

def objectPrototypeNames : List String :=
  ["constructor", "hasOwnProperty", "isPrototypeOf", "propertyIsEnumerable", "toLocaleString",
    "toString", "valueOf", "__proto__", "__defineGetter__", "__defineSetter__",
    "__lookupGetter__", "__lookupSetter__"]

/-- `DEFAULT_UPSTREAM_BASE[slug] ?? ""`, if that is a string. -/
def upstreamBaseOf (slug : String) : Option String :=
  match defaultUpstreamBase.lookup slug with
  | some base => some base
  | none => if slug ∈ objectPrototypeNames then none else some ""

inductive UpsertError where
  /-- The client refuses a value that is no string. -/
  | invalidArgument
  /-- The database keeps no text with a zero in it. -/
  | zeroByte
  deriving DecidableEq

def EndpointRow.renew (row : EndpointRow) (cfg : NormalizedEndpointConfig) (now : Timestamp) :
    EndpointRow :=
  { row with
    flatPremiumLamports := cfg.flatPremium
    percentBps := cfg.percentBps
    slaLatencyMs := cfg.slaLatencyMs
    imputedCostLamports := cfg.imputedCost
    exposureCapPerHourLamports := cfg.exposureCapPerHour
    paused := cfg.paused
    lastUpdated := now }

/-- The upsert of both paths. The row to create is checked even if there is one. -/
def upsertEndpoint (network slug : String) (cfg : NormalizedEndpointConfig) (now : Timestamp)
    (table : Table Key EndpointRow) : Except UpsertError (Table Key EndpointRow) := do
  let upstreamBase ← okOr (upstreamBaseOf slug) .invalidArgument
  failIf (Char.ofNat 0 ∈ slug.toList) .zeroByte
  .ok (table.upsert (network, slug)
    (EndpointRow.renew { EndpointRow.lazy slug now with upstreamBase } cfg now)
    fun row => row.renew cfg now)

section Paths

variable (toBase58 : List UInt8 → Pubkey) (network : String) (now : Timestamp)

/-! ## The legacy path -/

/-- An account that cannot be decoded or has no slug is skipped. -/
def upsertOne (table : Table Key EndpointRow) (data : List UInt8) :
    Except UpsertError (Table Key EndpointRow) :=
  match decodeEndpointConfig toBase58 data with
  | .error _ => .ok table
  | .ok decoded =>
      let slug := decodedSlugToString decoded.slug
      if slug = "" then .ok table
      else upsertEndpoint network slug (normalizeRawConfig decoded) now table

def syncEndpointsFromChain : List (List UInt8) → Table Key EndpointRow → Table Key EndpointRow
  | [], table => table
  | data :: rest, table =>
      match upsertOne toBase58 network now table data with
      | .error _ => table
      | .ok table => syncEndpointsFromChain rest table

/-! ## The adapter path -/

def snapshotOf (decoded : EndpointConfig) : SolanaSnapshot where
  slug := stripZeros (bufferToString decoded.slug)
  authority := decoded.coveragePool
  maxTotalFeeBps := 0
  feeRecipients := decoded.feeRecipients
  paused := decoded.paused
  raw := decoded

def readEndpointConfigs (accounts : List (List UInt8)) : List SolanaSnapshot :=
  accounts.filterMap fun data => (decodeEndpointConfig toBase58 data).toOption.map snapshotOf

def upsertEndpointFromAdapter (table : Table Key EndpointRow) (snapshot : SolanaSnapshot) :
    Except UpsertError (Table Key EndpointRow) :=
  let slug := normalizeSnapshotSlug snapshot.slug
  if slug = "" then .ok table
  else upsertEndpoint network slug (normalizeRawConfig snapshot.raw) now table

def upsertFromAdapter : List SolanaSnapshot → Table Key EndpointRow → Table Key EndpointRow
  | [], table => table
  | snapshot :: rest, table =>
      match upsertEndpointFromAdapter network now table snapshot with
      | .error _ => table
      | .ok table => upsertFromAdapter rest table

/-- `refreshViaAdapter`; here too an error ends the pass. -/
def refreshViaAdapter (accounts : List (List UInt8)) (table : Table Key EndpointRow) :
    Table Key EndpointRow :=
  upsertFromAdapter network now (readEndpointConfigs toBase58 accounts) table

end Paths

/-! ## Texts of printable slugs -/

def asciiText (bytes : List UInt8) : String :=
  String.ofList (bytes.map fun byte => Char.ofNat byte.toNat)

section Texts

variable {bytes : List UInt8}

def AsciiBytes (bytes : List UInt8) : Prop := ∀ byte ∈ bytes, byte ≤ 0x7f

theorem toNat_charOf : ∀ byte : UInt8, byte ≤ 0x7f → (Char.ofNat byte.toNat).toNat = byte.toNat := by
  decide +kernel

theorem byte_of_charOf {byte : UInt8} (plain : byte ≤ 0x7f) :
    UInt8.ofNat (Char.ofNat byte.toNat).toNat = byte := by
  rw [toNat_charOf byte plain]
  exact UInt8.ofNat_toNat

theorem ascii_asciiText (plain : AsciiBytes bytes) : ascii (asciiText bytes) = bytes := by
  rw [ascii, asciiText, String.toList_ofList, List.map_map]
  refine (List.map_congr_left fun byte member => ?_).trans (List.map_id bytes)
  exact byte_of_charOf (plain byte member)

theorem decodeUtf8_ascii (plain : AsciiBytes bytes) :
    decodeUtf8 none bytes = bytes.map fun byte => Char.ofNat byte.toNat := by
  induction bytes with
  | nil => rfl
  | cons byte rest ih =>
      have lead : leadByte byte = ([Char.ofNat byte.toNat], none) :=
        if_pos (plain byte List.mem_cons_self)
      rw [decodeUtf8, lead, List.map_cons, ih fun other member =>
        plain other (List.mem_cons_of_mem _ member)]
      rfl

theorem bufferToString_ascii (plain : AsciiBytes bytes) : bufferToString bytes = asciiText bytes := by
  rw [bufferToString, decodeUtf8_ascii plain, asciiText]

theorem textDecode_ascii (plain : AsciiBytes bytes) : textDecode bytes = asciiText bytes := by
  rw [textDecode, decodeUtf8_ascii plain]
  refine congrArg String.ofList (if_neg fun marked => ?_)
  cases bytes with
  | nil => cases marked
  | cons byte rest =>
      have same : Char.ofNat byte.toNat = Char.ofNat 0xFEFF := Option.some.inj marked
      have small := plain byte List.mem_cons_self
      have number := congrArg Char.toNat same
      rw [toNat_charOf byte small] at number
      rw [UInt8.le_iff_toNat_le] at small
      have far : (Char.ofNat 0xFEFF).toNat = 0xFEFF := by decide
      rw [far] at number
      simp at small
      omega

theorem charOf_eq_zero {byte : UInt8} (plain : byte ≤ 0x7f) :
    Char.ofNat byte.toNat = Char.ofNat 0 ↔ byte = 0 := by
  constructor
  · intro same
    have back := congrArg (fun char => UInt8.ofNat char.toNat) same
    simp only [byte_of_charOf plain] at back
    rw [back]
    decide
  · rintro rfl
    rfl

theorem stripZeros_ascii (plain : AsciiBytes bytes) :
    stripZeros (asciiText bytes) = asciiText (bytes.rdropWhile (· = 0)) := by
  rw [stripZeros, asciiText, String.toList_ofList, asciiText]
  refine congrArg String.ofList ?_
  induction bytes using List.reverseRecOn with
  | nil => rfl
  | append_singleton front last ih =>
      have plainFront : AsciiBytes front := fun byte member =>
        plain byte (List.mem_append_left _ member)
      have zero := charOf_eq_zero (plain last (List.mem_append_right _ List.mem_cons_self))
      rw [List.map_append, List.map_singleton, List.rdropWhile_concat, List.rdropWhile_concat]
      by_cases here : last = 0
      · rw [if_pos (decide_eq_true (zero.mpr here)), if_pos (decide_eq_true here)]
        exact ih plainFront
      · rw [if_neg (by simpa using mt zero.mp here), if_neg (by simpa using here),
          List.map_append, List.map_singleton]

theorem zero_mem_asciiText (plain : AsciiBytes bytes) :
    Char.ofNat 0 ∈ (asciiText bytes).toList ↔ 0 ∈ bytes := by
  rw [asciiText, String.toList_ofList, List.mem_map]
  constructor
  · rintro ⟨byte, member, same⟩
    rwa [(charOf_eq_zero (plain byte member)).mp same] at member
  · intro member
    exact ⟨0, member, rfl⟩

theorem asciiText_eq_empty : asciiText bytes = "" ↔ bytes = [] := by
  rw [← String.toList_inj, asciiText, String.toList_ofList]
  simp

theorem codeUnits_asciiText (plain : AsciiBytes bytes) :
    Settler.codeUnits (asciiText bytes) = bytes.map UInt8.toNat := by
  rw [Settler.codeUnits, asciiText, String.toList_ofList]
  induction bytes with
  | nil => rfl
  | cons byte rest ih =>
      have small := plain byte List.mem_cons_self
      have value := toNat_charOf byte small
      have unit : Settler.charUnits (Char.ofNat byte.toNat) = [byte.toNat] := by
        rw [Settler.charUnits, value]
        refine if_pos ?_
        have bound := byte.toNat_lt
        omega
      rw [List.map_cons, List.flatMap_cons, unit, List.map_cons,
        ih fun other member => plain other (List.mem_cons_of_mem _ member)]
      rfl

theorem normalizeSnapshotSlug_ascii (plain : AsciiBytes bytes) (short : bytes.length ≤ 16) :
    normalizeSnapshotSlug (asciiText bytes) = asciiText bytes := by
  have none : Adapters.bytes16OfHex (asciiText bytes) = none := by
    unfold Adapters.bytes16OfHex
    rw [codeUnits_asciiText plain]
    split
    case h_1 digits same =>
      have length := congrArg List.length same
      rw [List.length_map, List.length_cons, List.length_cons] at length
      exact dif_neg (by omega)
    case h_2 => rfl
  rw [normalizeSnapshotSlug, none]

end Texts

/-! ## What one account is stored under -/

def Nameable (name : List UInt8) : Prop :=
  name ≠ [] ∧ 0 ∉ name ∧ name ∉ objectPrototypeNames.map ascii

instance (name : List UInt8) : Decidable (Nameable name) := inferInstanceAs (Decidable (_ ∧ _ ∧ _))

def CanonicalSlug (slug : V1.Slug) : Prop :=
  Nameable (slug.toList.takeWhile (· ≠ 0)) ∧ ∀ byte ∈ slug.toList.dropWhile (· ≠ 0), byte = 0

instance (slug : V1.Slug) : Decidable (CanonicalSlug slug) := inferInstanceAs (Decidable (_ ∧ _))

section Stored

variable {toBase58 : List UInt8 → Pubkey} {network : String} {now : Timestamp} {name : List UInt8}

theorem upstreamBaseOf_eq_none (plain : AsciiBytes name) :
    upstreamBaseOf (asciiText name) = none ↔ name ∈ objectPrototypeNames.map ascii := by
  have inherited : asciiText name ∈ objectPrototypeNames ↔
      name ∈ objectPrototypeNames.map ascii := by
    constructor
    · intro member
      exact List.mem_map.mpr ⟨asciiText name, member, ascii_asciiText plain⟩
    · intro member
      obtain ⟨text, listed, rfl⟩ := List.mem_map.mp member
      have back : ∀ text ∈ objectPrototypeNames, asciiText (ascii text) = text := by decide +kernel
      rw [back text listed]
      exact listed
  have others : ∀ text ∈ objectPrototypeNames, defaultUpstreamBase.lookup text = none := by
    decide +kernel
  rw [← inherited]
  unfold upstreamBaseOf
  constructor
  · intro missing
    split at missing
    · cases missing
    · by_contra other
      rw [if_neg other] at missing
      cases missing
  · intro member
    rw [others _ member]
    exact if_pos member

theorem upsertEndpoint_keys (plain : AsciiBytes name) (cfg : NormalizedEndpointConfig)
    (named : name ≠ []) :
    (Nameable name ∧ ∃ after, upsertEndpoint network (asciiText name) cfg now ∅ = .ok after ∧
      after.keys = [(network, asciiText name)]) ∨
    (¬ Nameable name ∧ ∃ error, upsertEndpoint network (asciiText name) cfg now ∅ = .error error) := by
  unfold upsertEndpoint
  cases base : upstreamBaseOf (asciiText name) with
  | none =>
      have inherited := (upstreamBaseOf_eq_none plain).mp base
      exact .inr ⟨fun nameable => nameable.2.2 inherited, .invalidArgument, rfl⟩
  | some upstreamBase =>
      have fresh : name ∉ objectPrototypeNames.map ascii := by
        intro member
        rw [(upstreamBaseOf_eq_none plain).mpr member] at base
        cases base
      by_cases zero : 0 ∈ name
      · refine .inr ⟨fun nameable => nameable.2.1 zero, .zeroByte, ?_⟩
        rw [okOr_some, ok_bind, failIf_of ((zero_mem_asciiText plain).mpr zero)]
        rfl
      · rw [okOr_some, ok_bind, failIf_of_not (mt (zero_mem_asciiText plain).mp zero), ok_bind]
        exact .inl ⟨⟨named, zero, fresh⟩, _, rfl, AList.keys_insert _⟩

variable {data : List UInt8} {decoded : EndpointConfig}
  (reads : decodeEndpointConfig toBase58 data = .ok decoded) (plain : AsciiBytes decoded.slug)

include reads plain

theorem legacy_keys : (syncEndpointsFromChain toBase58 network now [data] ∅).keys =
    if Nameable (decoded.slug.takeWhile (· ≠ 0)) then
      [(network, asciiText (decoded.slug.takeWhile (· ≠ 0)))] else [] := by
  have prefix_ : AsciiBytes (decoded.slug.takeWhile (· ≠ 0)) := fun byte member =>
    plain byte ((List.takeWhile_prefix _).subset member)
  rw [syncEndpointsFromChain, upsertOne, reads]
  dsimp only
  rw [decodedSlugToString, textDecode_ascii prefix_]
  by_cases empty : decoded.slug.takeWhile (· ≠ 0) = []
  · rw [if_pos (asciiText_eq_empty.mpr empty), if_neg fun nameable => nameable.1 empty]
    rfl
  · rw [if_neg (mt asciiText_eq_empty.mp empty)]
    rcases upsertEndpoint_keys prefix_ (normalizeRawConfig decoded) empty with
      ⟨nameable, after, done, keys⟩ | ⟨unnameable, error, failed⟩
    · rw [done, if_pos nameable]
      exact keys
    · rw [failed, if_neg unnameable]
      rfl

theorem adapter_keys (short : decoded.slug.length ≤ 16) :
    (refreshViaAdapter toBase58 network now [data] ∅).keys =
      if Nameable (decoded.slug.rdropWhile (· = 0)) then
        [(network, asciiText (decoded.slug.rdropWhile (· = 0)))] else [] := by
  have prefix_ := List.rdropWhile_prefix (fun byte : UInt8 => decide (byte = 0)) decoded.slug
  have plain' : AsciiBytes (decoded.slug.rdropWhile (· = 0)) := fun byte member =>
    plain byte (prefix_.subset member)
  have short' := prefix_.length_le.trans short
  have single : readEndpointConfigs toBase58 [data] = [snapshotOf decoded] := by
    simp [readEndpointConfigs, reads, Except.toOption]
  have text : normalizeSnapshotSlug (snapshotOf decoded).slug =
      asciiText (decoded.slug.rdropWhile (· = 0)) := by
    rw [snapshotOf, bufferToString_ascii plain, stripZeros_ascii plain,
      normalizeSnapshotSlug_ascii plain' short']
  have raw : (snapshotOf decoded).raw = decoded := rfl
  rw [refreshViaAdapter, single, upsertFromAdapter, upsertEndpointFromAdapter, text, raw]
  by_cases empty : decoded.slug.rdropWhile (· = 0) = []
  · rw [if_pos (asciiText_eq_empty.mpr empty), if_neg fun nameable => nameable.1 empty]
    rfl
  · rw [if_neg (mt asciiText_eq_empty.mp empty)]
    rcases upsertEndpoint_keys plain' (normalizeRawConfig decoded) empty with
      ⟨nameable, after, done, keys⟩ | ⟨unnameable, error, failed⟩
    · rw [done, if_pos nameable]
      exact keys
    · rw [failed, if_neg unnameable]
      rfl

end Stored

/-! ## Canonical slugs -/

section Canonical

variable {slug : List UInt8}

theorem all_takeWhile {byte : UInt8} (member : byte ∈ slug.takeWhile (· ≠ 0)) : byte ≠ 0 := by
  simpa using List.mem_takeWhile_imp member

theorem rdropWhile_eq_takeWhile (padded : ∀ byte ∈ slug.dropWhile (· ≠ 0), byte = 0) :
    slug.rdropWhile (· = 0) = slug.takeWhile (· ≠ 0) := by
  have parts : slug.takeWhile (· ≠ 0) ++ slug.dropWhile (· ≠ 0) = slug :=
    List.takeWhile_append_dropWhile
  have kept : (slug.takeWhile (· ≠ 0)).rdropWhile (· = 0) = slug.takeWhile (· ≠ 0) := by
    refine List.rdropWhile_eq_self_iff.mpr fun nonempty => ?_
    simpa using all_takeWhile (List.getLast_mem nonempty)
  have dropped : (slug.takeWhile (· ≠ 0) ++ slug.dropWhile (· ≠ 0)).rdropWhile (· = 0) =
      (slug.takeWhile (· ≠ 0)).rdropWhile (· = 0) := by
    rw [List.rdropWhile, List.rdropWhile, List.reverse_append, List.dropWhile_append_of_pos]
    intro byte member
    exact decide_eq_true (padded byte (List.mem_reverse.mp member))
  rw [parts] at dropped
  exact dropped.trans kept

theorem padded_of_rdropWhile (clean : 0 ∉ slug.rdropWhile (· = 0)) :
    (∀ byte ∈ slug.dropWhile (· ≠ 0), byte = 0) := by
  have parts : slug.rdropWhile (· = 0) ++ slug.rtakeWhile (· = 0) = slug :=
    List.rdropWhile_append_rtakeWhile
  have zeros : ∀ byte ∈ slug.rtakeWhile (· = 0), byte = 0 := fun byte member => by
    simpa using List.mem_rtakeWhile_imp member
  intro byte member
  rw [← parts, List.dropWhile_append_of_pos] at member
  · exact zeros byte ((List.dropWhile_suffix _).subset member)
  · intro byte member
    exact decide_eq_true fun zero => clean (zero ▸ member)

end Canonical

/-! ## The endpoints of a chain -/

section Chain

variable (toBase58 : List UInt8 → Pubkey) (network : String) (addresses : V1.Addresses)
  (chain : V1.Chain)

def RegisteredSlug (slug : V1.Slug) : Prop :=
  V1.structOf addresses chain.ledger (.endpointConfig slug) ≠ none

def endpointData (slug : V1.Slug) : List UInt8 :=
  (chain.ledger (addresses.of (.endpointConfig slug))).data

def StoredUnder (slug : V1.Slug) (text : String) : Prop := ∀ now,
  (syncEndpointsFromChain toBase58 network now [endpointData addresses chain slug] ∅).keys =
      [(network, text)] ∧
    (refreshViaAdapter toBase58 network now [endpointData addresses chain slug] ∅).keys =
      [(network, text)]

def SlugIdentity : Prop := ∃ text : V1.Slug → String,
  (∀ slug, RegisteredSlug addresses chain slug →
    StoredUnder toBase58 network addresses chain slug (text slug)) ∧
  ∀ left right, RegisteredSlug addresses chain left → RegisteredSlug addresses chain right →
    left ≠ right → text left ≠ text right

variable {toBase58 network addresses chain} {slug : V1.Slug}

theorem ascii_of_printable (printable : V1.PrintableSlug slug) : AsciiBytes slug.toList := by
  intro byte member
  rcases printable byte member with rfl | ⟨-, upper⟩
  · decide
  · exact UInt8.le_trans upper (by decide)

variable (toBase58) in
theorem endpoint_reads (reached : V1.Chain.Reached addresses chain)
    (registered : RegisteredSlug addresses chain slug) :
    AsciiBytes slug.toList ∧ ∃ decoded, decodeEndpointConfig toBase58
      (endpointData addresses chain slug) = .ok decoded ∧ decoded.slug = slug.toList := by
  obtain ⟨endpoint, found⟩ := Option.ne_none_iff_exists'.mp registered
  obtain ⟨label, printable, known⟩ := reached.labelled.endpoint slug endpoint found
  have owned := (V1.structOf_eq_some.mp found).1
  have read := (V1.structOf_eq_some.mp found).2
  have length : (endpointData addresses chain slug).length = V1.EndpointConfig.layout.size := by
    rcases reached.sound.shaped (.endpointConfig slug) with ⟨-, empty⟩ | ⟨-, exact_⟩
    · have long := Layout.size_le_of_read read
      have sized := (V1.Pda.endpointConfig slug).size_pos
      omega
    · exact exact_
  have whole := V1.EndpointConfig.layout.read_of_length length
  have same : V1.EndpointConfig.layout.decode (endpointData addresses chain slug) = endpoint :=
    Option.some.inj (whole.symm.trans read)
  have data : endpointData addresses chain slug = V1.EndpointConfig.layout.encode endpoint := by
    rw [← same]
    exact (V1.EndpointConfig.layout.encode_decode _ length).symm
  refine ⟨ascii_of_printable printable, EndpointConfig.ofProgram toBase58 endpoint, ?_,
    congrArg List.Vector.toList label⟩
  rw [data]
  exact decodeEndpointConfig_encode toBase58 endpoint ⟨known.few, known.kind⟩

theorem canonical_of_stored (reached : V1.Chain.Reached addresses chain)
    (registered : RegisteredSlug addresses chain slug) {text : String}
    (stored : StoredUnder toBase58 network addresses chain slug text) : CanonicalSlug slug := by
  obtain ⟨plain, decoded, reads, label⟩ := endpoint_reads toBase58 reached registered
  rw [← label] at plain
  have short : decoded.slug.length ≤ 16 := by
    rw [label, slug.toList_length]
  have keys := (stored 0).2
  rw [adapter_keys reads plain short, label] at keys
  by_cases nameable : Nameable (slug.toList.rdropWhile (· = 0))
  · have padded := padded_of_rdropWhile nameable.2.1
    rw [rdropWhile_eq_takeWhile padded] at nameable
    exact ⟨nameable, padded⟩
  · rw [if_neg nameable] at keys
    cases keys

theorem stored_of_canonical (reached : V1.Chain.Reached addresses chain)
    (registered : RegisteredSlug addresses chain slug) (canonical : CanonicalSlug slug) :
    StoredUnder toBase58 network addresses chain slug
      (asciiText (slug.toList.takeWhile (· ≠ 0))) := by
  obtain ⟨plain, decoded, reads, label⟩ := endpoint_reads toBase58 reached registered
  rw [← label] at plain
  have short : decoded.slug.length ≤ 16 := by
    rw [label, slug.toList_length]
  intro now
  rw [legacy_keys reads plain, adapter_keys reads plain short, label,
    rdropWhile_eq_takeWhile canonical.2, if_pos canonical.1]
  exact ⟨rfl, rfl⟩

theorem CanonicalSlug.eq_of_names {left right : V1.Slug} (first : CanonicalSlug left)
    (second : CanonicalSlug right)
    (names : left.toList.takeWhile (· ≠ 0) = right.toList.takeWhile (· ≠ 0)) : left = right := by
  have split : ∀ {slug : V1.Slug}, CanonicalSlug slug → slug.toList =
      slug.toList.takeWhile (· ≠ 0) ++
        List.replicate (16 - (slug.toList.takeWhile (· ≠ 0)).length) 0 := by
    intro slug canonical
    have parts : slug.toList.takeWhile (· ≠ 0) ++ slug.toList.dropWhile (· ≠ 0) = slug.toList :=
      List.takeWhile_append_dropWhile
    have zeros := List.eq_replicate_of_mem canonical.2
    have length := congrArg List.length parts
    rw [List.length_append, slug.toList_length] at length
    have rest : (slug.toList.dropWhile (· ≠ 0)).length =
        16 - (slug.toList.takeWhile (· ≠ 0)).length := by omega
    rw [rest] at zeros
    exact parts.symm.trans (congrArg _ zeros)
  apply Bytes.toList_inj.mp
  rw [split first, split second, names]

end Chain

namespace SlugDemo

def masked (last : UInt8) : V1.Slug := ⟨97 :: 0 :: last :: List.replicate 13 0, rfl⟩

open V1.SettleBatch.Demo V1.Demo in
def register : V1.Instruction :=
  instruction [settler, addresses.of .protocolConfig, addresses.of .treasury,
    addresses.of (.endpointConfig (masked 98)), addresses.of (.coveragePool (masked 98)), vault,
    V1.usdcMainnet, systemProgram, tokenProgram]
    (2 :: V1.RegisterEndpoint.Args.layout.encode { args with slug := masked 98 })

open V1.SettleBatch.Demo V1.Demo in
def chain : V1.Chain := run (setup.take 1 ++ [register]) configured

open V1.SettleBatch.Demo V1.Demo in
theorem chain_reached : V1.Chain.Reached addresses chain := by
  refine Reachable.trans configured_reached (V1.Chain.run_execute configured _ fun next member => ?_)
  simp only [setup, List.take_succ_cons, List.take_zero, List.cons_append, List.nil_append,
    List.mem_cons, List.not_mem_nil, or_false] at member
  rcases member with rfl | rfl <;> exact unsigned _ _

end SlugDemo

end PactNetwork.Indexer
