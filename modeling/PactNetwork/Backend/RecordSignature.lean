import PactNetwork.Backend.KeyIssuance
import PactNetwork.Foundation.JsonText
import PactNetwork.Requests.SigningContract

/-!
# Signed records

The text that the monitor signs for a batch of records and that the backend checks the
signature over, and what of the batch it covers. The names of the first record's fields
are the list of names for the whole batch.
-/

set_option autoImplicit false

namespace PactNetwork.Backend.Signed

open JsonText (Value Numeric Numerals Exact keep select stringify)
open Keys (Library Reply)
open Requests (encode)

variable {φ : Type}

abbrev Record (φ : Type) := List (String × Value (Numeric φ))

/-- Bodies have no repeated names, and the parser of the server refuses `__proto__`. -/
inductive Parsed : Value (Numeric φ) → Prop
  | null : Parsed .null
  | bool (value : Bool) : Parsed (.bool value)
  | number (value : Numeric φ) : Parsed (.number value)
  | string (value : String) : Parsed (.string value)
  | array (items : List (Value (Numeric φ))) (parsed : ∀ item ∈ items, Parsed item) :
      Parsed (.array items)
  | object (fields : List (String × Value (Numeric φ)))
      (distinct : (fields.map Prod.fst).Nodup) (noProto : "__proto__" ∉ fields.map Prod.fst)
      (parsed : ∀ field ∈ fields, Parsed field.2) : Parsed (.object fields)

structure Batch (records : List (Record φ)) : Prop where
  filled : records ≠ []
  parsed : ∀ record ∈ records, Parsed (.object record)

/-! ## Serialization -/

/-- The UTF-16 code units by which `sort` compares. -/
def units (text : String) : List Nat :=
  text.toList.flatMap fun char =>
    if char.toNat < 0x10000 then [char.toNat]
    else [0xD800 + (char.toNat - 0x10000) / 0x400, 0xDC00 + (char.toNat - 0x10000) % 0x400]

def sortedKeys (record : Record φ) : List String :=
  (record.map Prod.fst).insertionSort fun first second => units first ≤ units second

variable (numerals : Numerals φ)

def serializeRecords : List (Record φ) → List Char
  | [] => ['[', ']']
  | first :: rest =>
      stringify numerals (sortedKeys first) (.array ((first :: rest).map Value.object))

/-! ## The backend's check -/

def serialized (first : Record φ) (rest : List (Record φ)) : List Char :=
  stringify numerals (sortedKeys first) (.array ((first :: rest).map Value.object))

/-- What the check reads of a request: its headers, the key that authenticated it, and
the body, which may be missing or have no records. -/
structure SignedRequest (φ : Type) where
  signature : Option String
  pubkeyHeader : Option String
  agentPubkey : Option String
  body : Option (Option (List (Record φ)))

def isBase64 (text : String) : Bool :=
  let digit := fun char : Char => char.isAlphanum || char = '+' || char = '/'
  text.toList.takeWhile digit ≠ [] && (text.toList.dropWhile digit).all (· = '=')

def verificationFailed : Reply := ⟨401, [("error", "Signature verification failed")]⟩

/-- The reply a request is turned away with, if it is. -/
def verifyRecordSignature (library : Library) (requireSignatures : Bool)
    (request : SignedRequest φ) : Option Reply :=
  match Requests.Headers.given request.signature, Requests.Headers.given request.pubkeyHeader with
  | some signature, some pubkeyHeader =>
      if !isBase64 signature then
        some ⟨400, [("error", "Malformed X-Pact-Signature (invalid base64)")]⟩
      else if (Requests.Headers.given request.agentPubkey).any (pubkeyHeader ≠ ·) then
        some ⟨401, [("error", "Signature pubkey does not match API key binding")]⟩
      else
        match request.body with
        | none => some verificationFailed
        | some none => none
        | some (some []) => none
        | some (some (first :: rest)) =>
            let hash :=
              library.crypto.sha256 (encode (String.ofList (serialized numerals first rest)))
            let sigBytes := library.bufferFromBase64 signature
            match library.crypto.bs58Decode pubkeyHeader with
            | none => some verificationFailed
            | some pubkeyBytes =>
                if sigBytes.length ≠ 64 ∨ pubkeyBytes.length ≠ 32 then some verificationFailed
                else if library.crypto.detachedVerify hash sigBytes pubkeyBytes then none
                else some ⟨401, [("error", "Invalid record signature")]⟩
  | _, _ =>
      if requireSignatures then some ⟨401, [("error", "Record signature required")]⟩ else none

def readFields : List String :=
  ["hostname", "endpoint", "timestamp", "status_code", "latency_ms", "classification",
    "payment_protocol", "payment_amount", "payment_asset", "payment_network", "payer_address",
    "recipient_address", "tx_hash", "settlement_success"]

def reads (records : List (Record φ)) : List (List (Option (Value (Numeric φ)))) :=
  records.map fun record => readFields.map fun name => record.lookup name

/-- A signature in the headers of a request is checked over these records and found good. -/
def Accepts (library : Library) (requireSignatures : Bool) (signature pubkey : String)
    (agentPubkey : Option String) (records : List (Record φ)) : Prop :=
  signature ≠ "" ∧ pubkey ≠ "" ∧
    verifyRecordSignature numerals library requireSignatures
      ⟨some signature, some pubkey, agentPubkey, some (some records)⟩ = none

/-- No batch that is read differently has the text or a signature of this one. -/
def Covers (library : Library) (requireSignatures : Bool) (records : List (Record φ)) : Prop :=
  ∀ other, Batch other → reads other ≠ reads records →
    serializeRecords numerals other ≠ serializeRecords numerals records ∧
      ∀ signature pubkey agentPubkey agentPubkey',
        Accepts numerals library requireSignatures signature pubkey agentPubkey records →
          ¬ Accepts numerals library requireSignatures signature pubkey agentPubkey' other

/-- The first record has the name of every field that is read, unless it is the only
one, and what is read is written in full. -/
structure Covered (records : List (Record φ)) : Prop where
  listed : ∀ first ∈ records.head?,
    records.length = 1 ∨ ∀ name ∈ readFields, name ∈ first.map Prod.fst
  exact : ∀ record ∈ records, ∀ name ∈ readFields, ∀ value ∈ record.lookup name, Exact value

/-! ## What the text says -/

def allowed (records : List (Record φ)) : List String := (records.head?.map sortedKeys).getD []

def kept (names : List String) (record : Record φ) : List (String × Value φ) :=
  select names (JsonText.keepFields names record)

theorem mem_sortedKeys {name : String} {record : Record φ} :
    name ∈ sortedKeys record ↔ name ∈ record.map Prod.fst :=
  (List.perm_insertionSort _ _).mem_iff

theorem lookup_isSome {name : String} {record : Record φ} :
    (record.lookup name).isSome ↔ name ∈ record.map Prod.fst := by
  induction record with
  | nil => simp
  | cons field rest ih =>
      obtain ⟨other, value⟩ := field
      rw [List.lookup_cons, List.map_cons, List.mem_cons]
      by_cases same : name = other
      · simp [same]
      · rw [beq_false_of_ne same, ih]
        simp [same]

theorem keep_records (names : List String) (records : List (Record φ)) :
    keep names (.array (records.map Value.object)) =
      .array ((records.map (kept names)).map Value.object) := by
  rw [keep, JsonText.keepItems_eq, List.map_map, List.map_map]
  rfl

variable {numerals}

theorem serializeRecords_eq {records : List (Record φ)} (filled : records ≠ []) :
    serializeRecords numerals records =
      stringify numerals (allowed records) (.array (records.map Value.object)) := by
  cases records with
  | nil => exact absurd rfl filled
  | cons first rest => rfl

theorem map_object_inj {first second : List (List (String × Value φ))}
    (same : first.map Value.object = second.map Value.object) : first = second :=
  List.map_injective_iff.mpr (fun _ _ alike => Value.object.inj alike) same

theorem serializeRecords_inj {first second : List (Record φ)} (filled : first ≠ [])
    (filled' : second ≠ []) :
    serializeRecords numerals first = serializeRecords numerals second ↔
      first.map (kept (allowed first)) = second.map (kept (allowed second)) := by
  rw [serializeRecords_eq filled, serializeRecords_eq filled']
  constructor
  case mp =>
      intro same
      have values := JsonText.text_injective numerals same
      rw [keep_records, keep_records] at values
      exact map_object_inj (Value.array.inj values)
  case mpr =>
      intro same
      rw [stringify, stringify, keep_records, keep_records, same]

theorem map_kept_head {records : List (Record φ)} {first : Record φ}
    (head : records.head? = some first) :
    (kept (allowed records) first).map Prod.fst = allowed records := by
  have names : allowed records = sortedKeys first := by
    rw [allowed, head]
    rfl
  rw [names]
  refine JsonText.map_select fun name member => ?_
  rw [JsonText.lookup_keepFields, Option.isSome_map]
  exact lookup_isSome.mpr (mem_sortedKeys.mp member)

theorem allowed_eq {first second : List (Record φ)}
    (same : first.map (kept (allowed first)) = second.map (kept (allowed second))) :
    allowed first = allowed second := by
  cases first with
  | nil =>
      cases second with
      | nil => rfl
      | cons record rest => cases same
  | cons record rest =>
      cases second with
      | nil => cases same
      | cons record' rest' =>
          have heads := (List.cons.inj same).1
          have names : (kept (allowed (record :: rest)) record).map Prod.fst =
              allowed (record :: rest) := map_kept_head rfl
          rw [← names, heads]
          exact map_kept_head rfl

theorem lookup_kept {names : List String} {name : String} (listed : name ∈ names)
    (record : Record φ) :
    (kept names record).lookup name = (record.lookup name).map (keep names) := by
  rw [kept, JsonText.lookup_select, if_pos listed, JsonText.lookup_keepFields]

theorem kept_congr {names : List String} {first second : Record φ}
    (same : ∀ name ∈ names,
      (first.lookup name).map (keep names) = (second.lookup name).map (keep names)) :
    kept names first = kept names second := by
  refine List.filterMap_congr fun name member => ?_
  rw [JsonText.lookup_keepFields, JsonText.lookup_keepFields, same name member]

/-! ## Batches that are covered -/

theorem lookup_eq_of_kept {names : List String} {name : String} {first second : Record φ}
    (same : kept names first = kept names second) (listed : name ∈ names)
    (exact : ∀ value ∈ second.lookup name, Exact value) :
    first.lookup name = second.lookup name := by
  have values := congrArg (List.lookup name) same
  rw [lookup_kept listed, lookup_kept listed] at values
  cases found : second.lookup name with
  | none =>
      rw [found, Option.map_none, Option.map_eq_none_iff] at values
      exact values
  | some value =>
      rw [found, Option.map_some, Option.map_eq_some_iff] at values
      obtain ⟨other, found', alike⟩ := values
      rw [found', (exact value found).eq_of_keep alike.symm]

theorem lookup_eq_none {name : String} {record : Record φ}
    (absent : name ∉ record.map Prod.fst) : record.lookup name = none := by
  rw [← Option.not_isSome_iff_eq_none, lookup_isSome]
  exact absent

theorem lookup_head {records : List (Record φ)} {name : String} (absent : name ∉ allowed records)
    (inside : 0 < records.length) : records[0].lookup name = none := by
  cases records with
  | nil => exact absurd inside (Nat.lt_irrefl 0)
  | cons first rest => exact lookup_eq_none fun member => absent (mem_sortedKeys.mpr member)

theorem reads_eq_of_covered {first second : List (Record φ)} (covered : Covered second)
    (same : first.map (kept (allowed first)) = second.map (kept (allowed second))) :
    reads first = reads second := by
  have names := allowed_eq same
  rw [names] at same
  have size : first.length = second.length := by simpa using congrArg List.length same
  refine List.ext_getElem (by simpa [reads] using size) fun index inside inside' => ?_
  simp only [reads, List.getElem_map]
  have here : index < first.length := by simpa [reads] using inside
  have there : index < second.length := by simpa [reads] using inside'
  have records : kept (allowed second) first[index] = kept (allowed second) second[index] := by
    have entries := congrArg (·[index]?) same
    simpa [here, there] using entries
  refine List.map_congr_left fun name reading => ?_
  by_cases listed : name ∈ allowed second
  · exact lookup_eq_of_kept records listed
      (covered.exact _ (List.getElem_mem there) name reading)
  · -- A field that is read can be missing from the list in a batch of one record only.
    have head : second.head? = some second[0] := List.head?_eq_getElem? ▸ List.getElem?_eq_getElem _
    cases covered.listed _ head with
    | inl single =>
        obtain rfl : index = 0 := by omega
        rw [lookup_head (names ▸ listed) here, lookup_head listed there]
    | inr all =>
        refine absurd (mem_sortedKeys.mpr (all name reading)) fun member => listed ?_
        rw [allowed, head]
        exact member

section Signatures

variable {library : Library} {requireSignatures : Bool}

theorem verified_of_accepts {signature pubkey : String} {agentPubkey : Option String}
    {records : List (Record φ)} (filled : records ≠ [])
    (accepts : Accepts numerals library requireSignatures signature pubkey agentPubkey records) :
    ∃ pubkeyBytes, library.crypto.bs58Decode pubkey = some pubkeyBytes ∧
      library.crypto.detachedVerify
        (library.crypto.sha256 (encode (String.ofList (serializeRecords numerals records))))
        (library.bufferFromBase64 signature) pubkeyBytes = true := by
  obtain ⟨written, keyed, passed⟩ := accepts
  have signed : Requests.Headers.given (some signature) = some signature :=
    Requests.Headers.given_eq_some.mpr ⟨rfl, written⟩
  have named : Requests.Headers.given (some pubkey) = some pubkey :=
    Requests.Headers.given_eq_some.mpr ⟨rfl, keyed⟩
  obtain ⟨first, rest, rfl⟩ := List.exists_cons_of_ne_nil filled
  rw [verifyRecordSignature, signed, named] at passed
  dsimp only at passed
  split at passed
  case isTrue => cases passed
  case isFalse =>
      split at passed
      case isTrue => cases passed
      case isFalse =>
          cases decoded : library.crypto.bs58Decode pubkey with
          | none =>
              rw [decoded] at passed
              cases passed
          | some pubkeyBytes =>
              rw [decoded] at passed
              dsimp only at passed
              split at passed
              case isTrue => cases passed
              case isFalse =>
                  split at passed
                  case isTrue valid => exact ⟨pubkeyBytes, rfl, valid⟩
                  case isFalse => cases passed

def Unforgeable (library : Library) (made : (signature pubkey : List UInt8) → Option (List UInt8)) :
    Prop :=
  ∀ message signature pubkey, library.crypto.detachedVerify message signature pubkey = true →
    made signature pubkey = some message

def CollisionFree (library : Library) : Prop :=
  ∀ first second : List Char, library.crypto.sha256 (encode (String.ofList first)) =
    library.crypto.sha256 (encode (String.ofList second)) → first = second

variable {made : (signature pubkey : List UInt8) → Option (List UInt8)}

theorem text_eq_of_accepts (unforgeable : Unforgeable library made)
    (collisionFree : CollisionFree library) {signature pubkey : String}
    {agentPubkey agentPubkey' : Option String} {first second : List (Record φ)}
    (filled : first ≠ []) (filled' : second ≠ [])
    (accepts : Accepts numerals library requireSignatures signature pubkey agentPubkey first)
    (accepts' : Accepts numerals library requireSignatures signature pubkey agentPubkey' second) :
    serializeRecords numerals first = serializeRecords numerals second := by
  obtain ⟨bytes, decoded, valid⟩ := verified_of_accepts filled accepts
  obtain ⟨bytes', decoded', valid'⟩ := verified_of_accepts filled' accepts'
  rw [decoded] at decoded'
  cases decoded'
  have messages := (unforgeable _ _ _ valid).symm.trans (unforgeable _ _ _ valid')
  exact collisionFree _ _ (Option.some.inj messages)

theorem covers_of_covered (unforgeable : Unforgeable library made)
    (collisionFree : CollisionFree library) {records : List (Record φ)} (filled : records ≠ [])
    (covered : Covered records) : Covers numerals library requireSignatures records := by
  intro other batch differ
  have apart : serializeRecords numerals other ≠ serializeRecords numerals records := fun same =>
    differ (reads_eq_of_covered covered ((serializeRecords_inj batch.filled filled).mp same))
  refine ⟨apart, fun signature pubkey agentPubkey agentPubkey' accepts accepts' => apart ?_⟩
  exact (text_eq_of_accepts unforgeable collisionFree filled batch.filled accepts accepts').symm

end Signatures

/-! ## Batches that are not -/

mutual

/-- A value that is written like another one, with a name that is not listed. -/
def alter (name : String) : Value (Numeric φ) → Value (Numeric φ)
  | .null => .number (.infinite false)
  | .bool value => .bool value
  | .number (.finite value) => .number (.finite value)
  | .number (.infinite _) => .null
  | .string value => .string value
  | .array items => .array (alterItems name items)
  | .object fields => .object ((name, .null) :: fields)

def alterItems (name : String) : List (Value (Numeric φ)) → List (Value (Numeric φ))
  | [] => []
  | item :: rest => alter name item :: alterItems name rest

end

mutual

def outerNames : Value (Numeric φ) → List String
  | .array items => outerNamesOfItems items
  | .object fields => fields.map Prod.fst
  | _ => []

def outerNamesOfItems : List (Value (Numeric φ)) → List String
  | [] => []
  | item :: rest => outerNames item ++ outerNamesOfItems rest

end

section Alterations

variable {name : String}

theorem alterItems_eq (items : List (Value (Numeric φ))) :
    alterItems name items = items.map (alter name) := by
  induction items with
  | nil => rfl
  | cons item rest ih => rw [alterItems, ih, List.map_cons]

theorem outerNames_subset {items : List (Value (Numeric φ))} {item : Value (Numeric φ)}
    (member : item ∈ items) : outerNames item ⊆ outerNamesOfItems items := by
  induction items with
  | nil => cases member
  | cons first rest ih =>
      rw [outerNamesOfItems]
      cases member with
      | head => exact List.subset_append_left _ _
      | tail _ behind => exact List.Subset.trans (ih behind) (List.subset_append_right _ _)

theorem keep_alter {names : List String} (unlisted : name ∉ names) (value : Value (Numeric φ)) :
    keep names (alter name value) = keep names value := by
  induction value using Value.induct with
  | null => rfl
  | bool value => rfl
  | number value => cases value <;> rfl
  | string value => rfl
  | array items ih =>
      rw [alter, keep, keep, alterItems_eq, JsonText.keepItems_eq, JsonText.keepItems_eq,
        List.map_map]
      exact congrArg Value.array (List.map_congr_left ih)
  | object fields ih =>
      have other : ∀ listed ∈ names, (listed == name) = false := fun listed member =>
        beq_false_of_ne fun same => unlisted (same ▸ member)
      rw [alter, keep, keep]
      refine congrArg Value.object (List.filterMap_congr fun listed member => ?_)
      rw [JsonText.lookup_keepFields, JsonText.lookup_keepFields, List.lookup_cons,
        other listed member]

theorem exact_of_alter {value : Value (Numeric φ)} (same : alter name value = value) :
    Exact value := by
  induction value using Value.induct with
  | null => cases same
  | bool value => exact .bool value
  | number value =>
      cases value with
      | finite value => exact .number value
      | infinite negative => cases same
  | string value => exact .string value
  | array items ih =>
      rw [alter, alterItems_eq] at same
      have lists := Value.array.inj same
      refine .array items fun item member => ih item member ?_
      exact List.map_inj_left.mp (lists.trans (List.map_id items).symm) item member
  | object fields ih =>
      have longer := congrArg List.length (Value.object.inj same)
      simp at longer

theorem parsed_alter {value : Value (Numeric φ)} (parsed : Parsed value)
    (fresh : name ∉ outerNames value) (noProto : name ≠ "__proto__") :
    Parsed (alter name value) := by
  induction parsed with
  | null => exact .number _
  | bool value => exact .bool value
  | number value =>
      cases value with
      | finite value => exact .number _
      | infinite negative => exact .null
  | string value => exact .string value
  | array items parsed ih =>
      rw [alter, alterItems_eq]
      refine .array _ fun item member => ?_
      obtain ⟨original, listed, rfl⟩ := List.mem_map.mp member
      exact ih original listed fun inner => fresh (outerNames_subset listed inner)
  | object fields distinct plain parsed ih =>
      refine .object _ ?_ ?_ ?_
      · exact List.nodup_cons.mpr ⟨fresh, distinct⟩
      · exact fun member => (List.mem_cons.mp member).elim (fun same => noProto same.symm) plain
      · intro field member
        cases member with
        | head => exact .null
        | tail _ behind => exact parsed field behind

theorem exists_fresh (names : List String) : ∃ name, name ∉ names := by
  have injective : Function.Injective fun count => String.ofList (List.replicate count 'x') := by
    intro first second same
    simpa using congrArg (fun text => text.toList.length) same
  have infinite := Infinite.of_injective _ injective
  obtain ⟨name, fresh⟩ := Infinite.exists_notMem_finset names.toFinset
  exact ⟨name, fun member => fresh (List.mem_toFinset.mpr member)⟩

end Alterations

def put (name : String) (value : Value (Numeric φ)) (record : Record φ) : Record φ :=
  if name ∈ record.map Prod.fst then
    record.map fun field => if field.1 = name then (name, value) else field
  else (name, value) :: record

section Put

variable {name : String} {value : Value (Numeric φ)} {record : Record φ}

theorem map_replace (name : String) (value : Value (Numeric φ)) (record : Record φ) :
    (record.map fun field => if field.1 = name then (name, value) else field).map Prod.fst =
      record.map Prod.fst := by
  rw [List.map_map]
  refine List.map_congr_left fun field _ => ?_
  change (if field.1 = name then (name, value) else field).1 = field.1
  split
  case isTrue same => exact same.symm
  case isFalse => rfl

theorem lookup_replace (other : String) (record : Record φ) :
    (record.map fun field => if field.1 = name then (name, value) else field).lookup other =
      if other = name then (record.lookup name).map fun _ => value else record.lookup other := by
  induction record with
  | nil => simp
  | cons field rest ih =>
      obtain ⟨first, old⟩ := field
      rw [List.map_cons]
      by_cases here : first = name
      · by_cases same : other = name
        · simp [here, same]
        · simp [here, same, List.lookup_cons, beq_false_of_ne same, ih]
      · by_cases same : other = name
        · have apart : (name == first) = false := beq_false_of_ne fun alike => here alike.symm
          rw [same] at ih ⊢
          simpa [here, List.lookup_cons, apart] using ih
        · simp [here, same, List.lookup_cons, ih]

theorem lookup_put (other : String) :
    (put name value record).lookup other =
      if other = name then some value else record.lookup other := by
  unfold put
  split
  case isTrue present =>
      obtain ⟨old, found⟩ := Option.isSome_iff_exists.mp (lookup_isSome.mpr present)
      rw [lookup_replace, found]
      rfl
  case isFalse =>
      rw [List.lookup_cons]
      by_cases same : other = name
      · simp [same]
      · rw [beq_false_of_ne same, if_neg same]

theorem map_put (present : name ∈ record.map Prod.fst) :
    (put name value record).map Prod.fst = record.map Prod.fst := by
  rw [put, if_pos present, map_replace]

theorem parsed_put (parsed : Parsed (.object record)) (parsedValue : Parsed value)
    (noProto : name ≠ "__proto__") : Parsed (.object (put name value record)) := by
  cases parsed with
  | object _ distinct plain parsed =>
      unfold put
      split
      case isTrue present =>
          refine .object _ (by rwa [map_replace]) (by rwa [map_replace]) fun field member => ?_
          obtain ⟨old, listed, rfl⟩ := List.mem_map.mp member
          split
          case isTrue => exact parsedValue
          case isFalse => exact parsed old listed
      case isFalse absent =>
          refine .object _ (List.nodup_cons.mpr ⟨absent, distinct⟩) ?_ ?_
          · exact fun member =>
              (List.mem_cons.mp member).elim (fun same => noProto same.symm) plain
          · intro field member
            cases member with
            | head => exact parsedValue
            | tail _ behind => exact parsed field behind

/-- Putting in a value under a name that is not listed, or one that is written like the
value there, changes nothing of what is written. -/
theorem kept_put {names : List String}
    (same : name ∈ names → (record.lookup name).map (keep names) = some (keep names value)) :
    kept names (put name value record) = kept names record := by
  refine kept_congr fun other listed => ?_
  rw [lookup_put]
  split
  case isTrue here => rw [here, same (here ▸ listed), Option.map_some]
  case isFalse => rfl

end Put

theorem mem_of_lookup {name : String} {value : Value (Numeric φ)} {record : Record φ}
    (found : record.lookup name = some value) : (name, value) ∈ record := by
  obtain ⟨front, back, rfl, -⟩ := List.lookup_eq_some_iff.mp found
  exact List.mem_append_right _ List.mem_cons_self

theorem parsed_of_lookup {name : String} {value : Value (Numeric φ)} {record : Record φ}
    (parsed : Parsed (.object record)) (found : record.lookup name = some value) :
    Parsed value := by
  cases parsed with
  | object _ distinct plain parsed => exact parsed _ (mem_of_lookup found)

theorem allowed_put {front back : List (Record φ)} {record : Record φ} {name : String}
    {value : Value (Numeric φ)} (present : front = [] → name ∈ record.map Prod.fst) :
    allowed (front ++ put name value record :: back) = allowed (front ++ record :: back) := by
  cases front with
  | nil =>
      change sortedKeys (put name value record) = sortedKeys record
      rw [sortedKeys, map_put (present rfl), sortedKeys]
  | cons first rest => rfl

theorem reads_put_ne {front back : List (Record φ)} {record : Record φ} {name : String}
    {value : Value (Numeric φ)} (reading : name ∈ readFields)
    (differs : record.lookup name ≠ some value) :
    reads (front ++ put name value record :: back) ≠ reads (front ++ record :: back) := by
  intro same
  simp only [reads, List.map_append, List.map_cons, List.append_cancel_left_eq,
    List.cons.injEq] at same
  have fields := List.map_inj_left.mp same.1 name reading
  rw [lookup_put, if_pos rfl] at fields
  exact differs fields.symm

theorem ne_proto_of_reading {name : String} (reading : name ∈ readFields) :
    name ≠ "__proto__" := by
  rintro rfl
  exact absurd reading (by decide)

variable {library : Library} {requireSignatures : Bool}

theorem not_covers_of_put {front back : List (Record φ)} {record : Record φ} {name : String}
    {value : Value (Numeric φ)} (batch : Batch (front ++ record :: back))
    (reading : name ∈ readFields) (parsed : Parsed value)
    (differs : record.lookup name ≠ some value)
    (present : front = [] → name ∈ record.map Prod.fst)
    (same : name ∈ allowed (front ++ record :: back) →
      (record.lookup name).map (keep (allowed (front ++ record :: back))) =
        some (keep (allowed (front ++ record :: back)) value)) :
    ¬ Covers numerals library requireSignatures (front ++ record :: back) := by
  intro covers
  have inside : record ∈ front ++ record :: back :=
    List.mem_append_right _ List.mem_cons_self
  have changed : Batch (front ++ put name value record :: back) := by
    refine ⟨by simp, fun other member => ?_⟩
    cases List.mem_append.mp member with
    | inl before => exact batch.parsed other (List.mem_append_left _ before)
    | inr behind =>
        cases behind with
        | head => exact parsed_put (batch.parsed record inside) parsed (ne_proto_of_reading reading)
        | tail _ behind =>
            exact batch.parsed other
              (List.mem_append_right _ (List.mem_cons_of_mem _ behind))
  refine (covers _ changed (reads_put_ne reading differs)).1 ?_
  refine (serializeRecords_inj changed.filled batch.filled).mpr ?_
  rw [allowed_put present, List.map_append, List.map_append, List.map_cons, List.map_cons,
    kept_put same]

theorem listed_of_covers {first : Record φ} {rest : List (Record φ)}
    (batch : Batch (first :: rest))
    (covers : Covers numerals library requireSignatures (first :: rest)) :
    (first :: rest).length = 1 ∨ ∀ name ∈ readFields, name ∈ first.map Prod.fst := by
  cases rest with
  | nil => exact .inl rfl
  | cons second rest =>
      by_contra missing
      push Not at missing
      obtain ⟨-, name, reading, absent⟩ := missing
      obtain ⟨flag, differs⟩ : ∃ flag, second.lookup name ≠ some (.bool flag) := by
        by_cases yes : second.lookup name = some (.bool true)
        · exact ⟨false, fun no => by cases yes.symm.trans no⟩
        · exact ⟨true, yes⟩
      have unlisted : name ∉ allowed (first :: second :: rest) := fun member =>
        absent (mem_sortedKeys.mp member)
      have uncovered :
          ¬ Covers numerals library requireSignatures ([first] ++ second :: rest) :=
        not_covers_of_put batch reading (.bool flag) differs
          (fun empty => absurd empty (List.cons_ne_nil _ _)) (fun member => absurd member unlisted)
      exact uncovered covers

theorem exact_of_covers {records : List (Record φ)} (batch : Batch records)
    (covers : Covers numerals library requireSignatures records) {record : Record φ}
    (member : record ∈ records) {name : String} (reading : name ∈ readFields)
    {value : Value (Numeric φ)} (found : record.lookup name = some value) : Exact value := by
  by_contra inexact
  obtain ⟨fresh, apart⟩ := exists_fresh (allowed records ++ outerNames value ++ ["__proto__"])
  simp only [List.mem_append, List.mem_singleton, not_or] at apart
  obtain ⟨⟨unlisted, inner⟩, noProto⟩ := apart
  have parsed := parsed_of_lookup (batch.parsed record member) found
  obtain ⟨front, back, rfl⟩ := List.append_of_mem member
  refine not_covers_of_put batch reading (parsed_alter parsed inner noProto) ?_ ?_ ?_ covers
  · rw [found]
    exact fun same => inexact (exact_of_alter (Option.some.inj same).symm)
  · exact fun _ => lookup_isSome.mp (found ▸ rfl)
  · intro _
    rw [found, Option.map_some, keep_alter unlisted]

/-- The two sides write a batch the same way, and a batch is covered exactly if its first
record lists what is read and what is read is written in full. -/
theorem signature_covers_iff {made : (signature pubkey : List UInt8) → Option (List UInt8)}
    (unforgeable : Unforgeable library made) (collisionFree : CollisionFree library)
    {records : List (Record φ)} (batch : Batch records) :
    (∀ (first : Record φ) (rest : List (Record φ)),
      serialized numerals first rest = serializeRecords numerals (first :: rest)) ∧
    (Covers numerals library requireSignatures records ↔ Covered records) := by
  refine ⟨fun _ _ => rfl, fun covers => ⟨?_, ?_⟩, ?_⟩
  · intro first head
    obtain ⟨rest, rfl⟩ := List.head?_eq_some_iff.mp head
    exact listed_of_covers batch covers
  · exact fun record member name reading value found =>
      exact_of_covers batch covers member reading found
  · exact covers_of_covered unforgeable collisionFree batch.filled

/-! ## A batch that is covered and one that is not -/

namespace RecordDemo

def naturals : Numerals Nat where
  text := Nat.toDigits 10
  injective first second same := by
    have digits := congrArg (fun text => Nat.ofDigitChars 10 text 0) same
    simpa [Nat.ofDigitChars_ten_toDigits] using digits
  written _ := Nat.toDigits_ne_nil
  plain _ char member := by
    rw [JsonText.isNumeral, Nat.isDigit_of_mem_toDigits (by decide) (by decide) member]
    rfl

def record : Record Nat :=
  [("hostname", .string "api.helius.xyz"), ("endpoint", .string "/v0"),
    ("timestamp", .string "2026-01-01T00:00:00.000Z"), ("status_code", .number (.finite 504)),
    ("latency_ms", .number (.finite 5000)), ("classification", .string "timeout")]

def paid (amount : Nat) : Record Nat := ("payment_amount", .number (.finite amount)) :: record

theorem parsed_record : ∀ field ∈ record, Parsed field.2 ∧ Exact field.2 := by
  intro field member
  simp only [record, List.mem_cons, List.not_mem_nil, or_false] at member
  obtain rfl | rfl | rfl | rfl | rfl | rfl := member
  all_goals first
    | exact ⟨.string _, .string _⟩
    | exact ⟨.number _, .number _⟩

theorem parsed_paid (amount : Nat) : Parsed (.object (paid amount)) := by
  have names : (paid amount).map Prod.fst = "payment_amount" :: record.map Prod.fst := rfl
  refine .object _ (names ▸ by decide) (names ▸ by decide) fun field member => ?_
  cases member with
  | head => exact .number _
  | tail _ behind => exact (parsed_record field behind).1

theorem batch_record : Batch [record] := by
  refine ⟨List.cons_ne_nil _ _, fun only member => ?_⟩
  rw [List.mem_singleton.mp member]
  exact .object _ (by decide) (by decide) fun field member => (parsed_record field member).1

theorem batch_paid (amount : Nat) : Batch [record, paid amount] := by
  refine ⟨List.cons_ne_nil _ _, fun one member => ?_⟩
  cases member with
  | head => exact batch_record.parsed record List.mem_cons_self
  | tail _ behind =>
      rw [List.mem_singleton.mp behind]
      exact parsed_paid amount

/-- The amount of the second record is not in the text. -/
theorem amount_unsigned :
    ¬ ∀ first second : List (Record Nat), Batch first → Batch second →
      reads first ≠ reads second →
        serializeRecords naturals first ≠ serializeRecords naturals second := by
  intro claim
  refine claim [record, paid 5] [record, paid 1000000] (batch_paid 5) (batch_paid 1000000) ?_ ?_
  · intro same
    have amounts := congrArg (fun rows => (rows[1]?.bind fun row => row[7]?)) same
    simp [reads, readFields, paid, record, List.lookup_cons] at amounts
  · decide +kernel

def digest : List UInt8 :=
  [227, 213, 105, 150, 49, 176, 154, 129, 170, 62, 96, 216, 119, 90, 16, 116, 197, 249, 237, 230,
    29, 35, 239, 155, 235, 143, 196, 239, 87, 207, 255, 160]

def publicKey : List UInt8 :=
  [3, 161, 7, 191, 243, 206, 16, 190, 29, 112, 221, 24, 231, 75, 192, 153, 103, 228, 214, 48, 155,
    165, 13, 95, 29, 220, 134, 100, 18, 85, 49, 184]

def signature : List UInt8 :=
  [39, 74, 78, 197, 127, 158, 29, 100, 27, 64, 240, 90, 42, 251, 254, 202, 39, 122, 217, 230, 69,
    156, 41, 255, 16, 173, 129, 114, 129, 209, 113, 70, 213, 218, 156, 41, 30, 16, 228, 86, 159,
    53, 51, 210, 236, 173, 25, 240, 223, 234, 242, 240, 57, 212, 231, 86, 205, 18, 1, 133, 91, 154,
    18, 13]

def text : String := String.ofList (serializeRecords naturals [record])

/-- The platform on the text and the signature of the one record. -/
def platform : Library where
  crypto :=
    { sha256 := fun bytes => if bytes = encode text then digest else 0 :: bytes
      bs58Encode := fun _ => "FAe4sisG95oZ42w7buUn5qEE4TAnfTTFPiguZUHmhiF"
      bs58Decode := fun text =>
        if text = "FAe4sisG95oZ42w7buUn5qEE4TAnfTTFPiguZUHmhiF" then some publicKey else none
      detachedVerify := fun message sig pubkey =>
        message = digest && sig = signature && pubkey = publicKey }
  publicKey _ := .ok publicKey
  isOnCurve _ := true
  bufferFromBase64 text :=
    if text =
      "J0pOxX+eHWQbQPBaKvv+yid62eZFnCn/EK2BcoHRcUbV2pwpHhDkVp81M9LsrRnw3+ry8DnU51bNEgGFW5oSDQ=="
    then signature else []

theorem unforgeable :
    Unforgeable platform fun sig pubkey =>
      if sig = signature ∧ pubkey = publicKey then some digest else none := by
  intro message sig pubkey valid
  simp only [platform, Bool.and_eq_true, decide_eq_true_eq] at valid
  rw [valid.1.1]
  exact if_pos ⟨valid.1.2, valid.2⟩

theorem collisionFree : CollisionFree platform := by
  intro first second same
  have texts : ∀ {one other : List Char},
      encode (String.ofList one) = encode (String.ofList other) → one = other := fun alike =>
    String.ofList_injective (Requests.encode_injective alike)
  have apart : ∀ bytes, digest ≠ 0 :: bytes := fun bytes alike =>
    absurd (List.cons.inj alike).1 (by decide)
  simp only [platform] at same
  split at same <;> split at same
  case isTrue.isTrue one other => exact texts (one.trans other.symm)
  case isTrue.isFalse => exact absurd same (apart _)
  case isFalse.isTrue => exact absurd same.symm (apart _)
  case isFalse.isFalse => exact texts (List.cons.inj same).2

/-- A single record of plain values is covered. -/
theorem signature_covers_record : Covers naturals platform false [record] :=
  (signature_covers_iff unforgeable collisionFree batch_record).2.mpr
    ⟨fun _ _ => .inl rfl, fun only member name _ value found => by
      rw [List.mem_singleton.mp member] at found
      exact (parsed_record _ (mem_of_lookup found)).2⟩

end RecordDemo

end PactNetwork.Backend.Signed
