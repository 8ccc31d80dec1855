import PactNetwork.Adapters.EndpointScan
import PactNetwork.Indexer.Database

/-!
# The endpoint sync

`OnChainSyncService` on an EVM network: a pass scans from behind a stored
cursor, upserts what the adapter found, and moves the cursor last.
-/

set_option autoImplicit false

namespace PactNetwork.Indexer

open Adapters Chunks
open Evm (Slug EndpointConfig PactRegistry)

/-! ## The text of a slug -/

/-- A code point that `TextDecoder` has read in part. -/
structure PartialPoint where
  point : Nat
  needed : Nat
  lower : UInt8
  upper : UInt8
  deriving DecidableEq

def replacement : Char := Char.ofNat 0xFFFD

def leadByte (byte : UInt8) : List Char × Option PartialPoint :=
  if byte ≤ 0x7f then ([Char.ofNat byte.toNat], none)
  else if 0xc2 ≤ byte ∧ byte ≤ 0xdf then ([], some ⟨byte.toNat - 0xc0, 1, 0x80, 0xbf⟩)
  else if 0xe0 ≤ byte ∧ byte ≤ 0xef then
    ([], some ⟨byte.toNat - 0xe0, 2, if byte = 0xe0 then 0xa0 else 0x80,
      if byte = 0xed then 0x9f else 0xbf⟩)
  else if 0xf0 ≤ byte ∧ byte ≤ 0xf4 then
    ([], some ⟨byte.toNat - 0xf0, 3, if byte = 0xf0 then 0x90 else 0x80,
      if byte = 0xf4 then 0x8f else 0xbf⟩)
  else ([replacement], none)

/-- UTF-8 with a replacement character for what is malformed. -/
def decodeUtf8 : Option PartialPoint → List UInt8 → List Char
  | none, [] => []
  | some _, [] => [replacement]
  | none, byte :: rest => (leadByte byte).1 ++ decodeUtf8 (leadByte byte).2 rest
  | some part, byte :: rest =>
      if part.lower ≤ byte ∧ byte ≤ part.upper then
        let point := part.point * 64 + (byte.toNat - 0x80)
        if part.needed = 1 then Char.ofNat point :: decodeUtf8 none rest
        else decodeUtf8 (some ⟨point, part.needed - 1, 0x80, 0xbf⟩) rest
      else replacement :: (leadByte byte).1 ++ decodeUtf8 (leadByte byte).2 rest

/-- `TextDecoder.decode` leaves out a byte order mark. -/
def textDecode (bytes : List UInt8) : String :=
  let chars := decodeUtf8 none bytes
  String.ofList (if chars.head? = some (Char.ofNat 0xFEFF) then chars.tail else chars)

def slugBytesToString (slug : Slug) : String := textDecode (slug.toList.takeWhile (· ≠ 0))

/-! ## Passes -/

def defaultUpstreamBase : List (String × String) :=
  [("helius", "https://mainnet.helius-rpc.com"),
   ("birdeye", "https://public-api.birdeye.so"),
   ("jupiter", "https://api.jup.ag"),
   ("elfa", "https://api.elfa.ai"),
   ("fal", "https://queue.fal.run"),
   ("moralis", "https://deep-index.moralis.io"),
   ("covalent", "https://api.covalenthq.com"),
   ("dummy", "https://dummy.pactnetwork.io"),
   ("pay-default", "https://facilitator.pact.network/pay-default")]

def EndpointRow.refresh (row : EndpointRow) (raw : EndpointConfig) (now : Timestamp) :
    EndpointRow :=
  { row with
    flatPremiumLamports := raw.flatPremium.toNat
    percentBps := raw.percentBps.toNat
    slaLatencyMs := raw.slaLatencyMs.toNat
    imputedCostLamports := raw.imputedCost.toNat
    exposureCapPerHourLamports := raw.exposureCapPerHour.toNat
    paused := raw.paused
    lastUpdated := now }

def EndpointRow.create (slug : String) (raw : EndpointConfig) (now : Timestamp) : EndpointRow :=
  EndpointRow.refresh
    { EndpointRow.lazy slug now with
      upstreamBase := (defaultUpstreamBase.lookup slug).getD "" } raw now

/-- The rows and the cursors, and which upserts were made. -/
structure SyncState where
  endpoints : Table Key EndpointRow
  cursors : Table String Nat
  upserts : List (String × EndpointConfigSnapshot)

def SyncState.upsert (state : SyncState) (network slug : String)
    (snapshot : EndpointConfigSnapshot) (now : Timestamp) : SyncState :=
  { state with
    endpoints := state.endpoints.upsert (network, slug) (.create slug snapshot.raw now)
      fun row => row.refresh snapshot.raw now
    upserts := (network, snapshot) :: state.upserts }

inductive Statement where
  | findCursor
  | findKnown
  | upsertEndpoint (index : Nat)
  | saveCursor

/-- A network's adapter, and the registrations on its chain, by block. The registry
takes printable slugs only, and it was deployed at the deployment block. -/
structure Network where
  adapter : EvmAdapter
  deploymentBlock : Option Nat
  registered : Nat → List Slug
  printable : ∀ block, ∀ slug ∈ registered block, PactRegistry.validateSlug slug = .ok ()
  deployed : ∀ block < deploymentBlock.getD 0, registered block = []

/-- What the node and the database answer during one pass. -/
structure Pass where
  network : String
  client : RegistryClient
  statement : Statement → Except String Unit
  /-- The time of each upsert. -/
  now : Nat → Timestamp

/-- `upsertEndpointFromAdapter` for each snapshot, counted from an index. -/
def upsertSnapshots (pass : Pass) :
    Nat → List EndpointConfigSnapshot → SyncState → Except String Unit × SyncState
  | _, [], state => (.ok (), state)
  | index, snapshot :: rest, state =>
      let slug := slugBytesToString snapshot.slug
      if slug = "" then upsertSnapshots pass (index + 1) rest state
      else match pass.statement (.upsertEndpoint index) with
        | .error error => (.error error, state)
        | .ok () => upsertSnapshots pass (index + 1) rest
            (state.upsert pass.network slug snapshot (pass.now index))

def SyncState.fromBlock (state : SyncState) (name : String) (network : Network) : Nat :=
  match state.cursors.lookup name with
  | some lastScannedBlock => lastScannedBlock + 1
  | none => network.deploymentBlock.getD 0

def SyncState.knownSlugs (state : SyncState) (name : String) : List String :=
  (state.endpoints.keys.filter fun key => key.1 = name).map (·.2)

/-- One pass. An exception leaves the statements before it done. -/
def refreshViaAdapterWithCursor (network : Network) (pass : Pass) (state : SyncState) :
    Except String Unit × SyncState :=
  match pass.statement .findCursor with
  | .error error => (.error error, state)
  | .ok () =>
    match pass.statement .findKnown with
    | .error error => (.error error, state)
    | .ok () =>
      match network.adapter.readEndpointConfigsFrom pass.client
          (state.fromBlock pass.network network) (state.knownSlugs pass.network) with
      -- A failed read is logged only.
      | .error _ => (.ok (), state)
      | .ok result =>
        match upsertSnapshots pass 0 result.snapshots state with
        | (.error error, after) => (.error error, after)
        | (.ok (), after) =>
          match pass.statement .saveCursor with
          | .error error => (.error error, after)
          | .ok () => (.ok (),
              { after with cursors := after.cursors.insert pass.network result.scannedToBlock })

/-! ## What a pass leaves -/

def SyncState.Upserted (state : SyncState) (network : String) (slug : Slug) : Prop :=
  (∃ snapshot, (network, snapshot) ∈ state.upserts ∧ snapshot.slug = slug) ∧
    (state.endpoints.lookup (network, slugBytesToString slug)).isSome

section Upserts

variable {state : SyncState} {pass : Pass} {network : String} {slug : Slug}

theorem SyncState.Upserted.upsert (done : state.Upserted network slug) (other text : String)
    (snapshot : EndpointConfigSnapshot) (now : Timestamp) :
    (state.upsert other text snapshot now).Upserted network slug := by
  obtain ⟨⟨earlier, logged, same⟩, row⟩ := done
  refine ⟨⟨earlier, List.mem_cons_of_mem _ logged, same⟩, ?_⟩
  rw [SyncState.upsert, Table.lookup_upsert]
  split
  · rfl
  · exact row

theorem upserted_upsert (snapshot : EndpointConfigSnapshot) (now : Timestamp) :
    (state.upsert network (slugBytesToString snapshot.slug) snapshot now).Upserted network
      snapshot.slug := by
  refine ⟨⟨snapshot, List.mem_cons_self, rfl⟩, ?_⟩
  rw [SyncState.upsert, Table.lookup_upsert, if_pos rfl]
  rfl

theorem upsertSnapshots_keeps (index : Nat) (snapshots : List EndpointConfigSnapshot) :
    (upsertSnapshots pass index snapshots state).2.cursors = state.cursors ∧
      ∀ network slug, state.Upserted network slug →
        (upsertSnapshots pass index snapshots state).2.Upserted network slug := by
  induction snapshots generalizing index state with
  | nil => exact ⟨rfl, fun _ _ done => done⟩
  | cons snapshot rest ih =>
      rw [upsertSnapshots]
      by_cases empty : slugBytesToString snapshot.slug = ""
      · rw [if_pos empty]
        exact ih (index + 1)
      · rw [if_neg empty]
        cases pass.statement (.upsertEndpoint index) with
        | error error => exact ⟨rfl, fun _ _ done => done⟩
        | ok answered =>
            have later := @ih (state.upsert pass.network (slugBytesToString snapshot.slug) snapshot
              (pass.now index)) (index + 1)
            exact ⟨later.1, fun network slug done => later.2 network slug (done.upsert _ _ _ _)⟩

theorem upsertSnapshots_reach {index : Nat} {snapshots : List EndpointConfigSnapshot}
    {after : SyncState} (finished : upsertSnapshots pass index snapshots state = (.ok (), after))
    {snapshot : EndpointConfigSnapshot} (member : snapshot ∈ snapshots)
    (named : slugBytesToString snapshot.slug ≠ "") :
    after.Upserted pass.network snapshot.slug := by
  induction snapshots generalizing index state with
  | nil => cases member
  | cons first rest ih =>
      rw [upsertSnapshots] at finished
      by_cases empty : slugBytesToString first.slug = ""
      · rw [if_pos empty] at finished
        rcases List.mem_cons.mp member with rfl | later
        · exact absurd empty named
        · exact ih finished later
      · rw [if_neg empty] at finished
        cases answer : pass.statement (.upsertEndpoint index) with
        | error error =>
            rw [answer] at finished
            cases finished
        | ok answered =>
            rw [answer] at finished
            dsimp only at finished
            rcases List.mem_cons.mp member with rfl | later
            · have done : (state.upsert pass.network (slugBytesToString snapshot.slug) snapshot
                  (pass.now index)).Upserted pass.network snapshot.slug :=
                upserted_upsert snapshot (pass.now index)
              have kept : (upsertSnapshots pass (index + 1) rest _).2.Upserted pass.network
                  snapshot.slug := (upsertSnapshots_keeps (index + 1) rest).2 _ _ done
              rwa [finished] at kept
            · exact ih finished later

end Upserts

/-! ## Slugs with a text -/

theorem leadByte_printable : ∀ byte : UInt8, byte ≠ 0 → ¬(byte < 0x20 ∨ byte > 0x7e) →
    leadByte byte = ([Char.ofNat byte.toNat], none) ∧
      Char.ofNat byte.toNat ≠ Char.ofNat 0xFEFF := by
  decide +kernel

theorem textDecode_ne_empty {byte : UInt8} (rest : List UInt8) (nonzero : byte ≠ 0)
    (printable : ¬(byte < 0x20 ∨ byte > 0x7e)) : textDecode (byte :: rest) ≠ "" := by
  obtain ⟨lead, plain⟩ := leadByte_printable byte nonzero printable
  have chars : decodeUtf8 none (byte :: rest) =
      Char.ofNat byte.toNat :: decodeUtf8 none rest := by
    rw [decodeUtf8, lead]
    rfl
  intro empty
  rw [textDecode, chars, List.head?_cons,
    if_neg (fun marked => plain (Option.some.inj marked))] at empty
  have nothing := congrArg String.toList empty
  rw [String.toList_ofList] at nothing
  cases nothing

theorem slugBytesToString_ne_empty {slug : Slug} (valid : PactRegistry.validateSlug slug = .ok ())
    (named : slug.head ≠ 0) : slugBytesToString slug ≠ "" := by
  obtain ⟨bytes, sized⟩ := slug
  cases bytes with
  | nil => cases sized
  | cons byte rest =>
      have nonzero : byte ≠ 0 := named
      have printable : ¬(byte < 0x20 ∨ byte > 0x7e) := by
        intro outside
        unfold PactRegistry.validateSlug at valid
        rw [failIf_eq_ok] at valid
        exact valid ⟨byte, List.mem_cons_self, nonzero, outside⟩
      have kept : (byte :: rest).takeWhile (· ≠ 0) = byte :: rest.takeWhile (· ≠ 0) :=
        List.takeWhile_cons_of_pos (decide_eq_true nonzero)
      change textDecode ((byte :: rest).takeWhile (· ≠ 0)) ≠ ""
      rw [kept]
      exact textDecode_ne_empty _ nonzero printable

/-! ## Every state of a run -/

/-- One pass on some network. Its requests may fail, and the logs it gets are right. -/
def Passes (networks : String → Network) (before after : SyncState) : Prop :=
  ∃ pass : Pass, pass.client.Serves (networks pass.network).registered ∧
    after = (refreshViaAdapterWithCursor (networks pass.network) pass before).2

def SyncState.Cold (state : SyncState) : Prop := state.cursors = ∅

/-- What is registered up to a network's cursor, under a slug with a text, was upserted. -/
def SyncState.Complete (networks : String → Network) (state : SyncState) : Prop :=
  ∀ network cursor, state.cursors.lookup network = some cursor →
    ∀ block ≤ cursor, ∀ slug ∈ (networks network).registered block, slug.head ≠ 0 →
      state.Upserted network slug

section Runs

variable {networks : String → Network} {before after : SyncState}

theorem refresh_cases (network : Network) (pass : Pass) (before : SyncState) :
    (∀ name slug, before.Upserted name slug →
      (refreshViaAdapterWithCursor network pass before).2.Upserted name slug) ∧
    ((refreshViaAdapterWithCursor network pass before).2.cursors = before.cursors ∨
      ∃ result, network.adapter.readEndpointConfigsFrom pass.client
          (before.fromBlock pass.network network) (before.knownSlugs pass.network) = .ok result ∧
        (∀ snapshot ∈ result.snapshots, slugBytesToString snapshot.slug ≠ "" →
          (refreshViaAdapterWithCursor network pass before).2.Upserted pass.network
            snapshot.slug) ∧
        (refreshViaAdapterWithCursor network pass before).2.cursors =
          before.cursors.insert pass.network result.scannedToBlock) := by
  unfold refreshViaAdapterWithCursor
  cases pass.statement .findCursor with
  | error error => exact ⟨fun _ _ done => done, .inl rfl⟩
  | ok found =>
    cases pass.statement .findKnown with
    | error error => exact ⟨fun _ _ done => done, .inl rfl⟩
    | ok known =>
      cases read : network.adapter.readEndpointConfigsFrom pass.client
          (before.fromBlock pass.network network) (before.knownSlugs pass.network) with
      | error error => exact ⟨fun _ _ done => done, .inl rfl⟩
      | ok result =>
        have keeps := @upsertSnapshots_keeps before pass 0 result.snapshots
        cases upserted : upsertSnapshots pass 0 result.snapshots before with
        | mk outcome middle =>
          rw [upserted] at keeps
          obtain ⟨same, kept⟩ := keeps
          dsimp only
          rw [upserted]
          cases outcome with
          | error error => exact ⟨kept, .inl same⟩
          | ok done =>
            cases pass.statement .saveCursor with
            | error error => exact ⟨kept, .inl same⟩
            | ok saved =>
              refine ⟨kept, .inr ⟨result, rfl, fun snapshot member named => ?_, ?_⟩⟩
              · exact upsertSnapshots_reach upserted member named
              · exact congrArg (·.insert pass.network result.scannedToBlock) same

theorem SyncState.Complete.next (complete : before.Complete networks)
    (passes : Passes networks before after) : after.Complete networks := by
  obtain ⟨pass, serves, rfl⟩ := passes
  obtain ⟨kept, cursors⟩ := refresh_cases (networks pass.network) pass before
  intro name cursor stored block below slug event named
  rcases cursors with same | ⟨result, scanned, reached, moved⟩
  · rw [same] at stored
    exact kept name slug (complete name cursor stored block below slug event named)
  · rw [moved] at stored
    by_cases own : name = pass.network
    · subst own
      rw [AList.lookup_insert] at stored
      cases stored
      by_cases fresh : before.fromBlock pass.network (networks pass.network) ≤ block
      · obtain ⟨snapshot, found, same⟩ := scan_covers serves scanned fresh below event
        have valid := (networks pass.network).printable block slug event
        subst same
        exact reached snapshot found (slugBytesToString_ne_empty valid named)
      · refine kept pass.network slug ?_
        rw [SyncState.fromBlock] at fresh
        cases earlier : before.cursors.lookup pass.network with
        | some lastScannedBlock =>
            rw [earlier] at fresh
            exact complete pass.network lastScannedBlock earlier block
              (Nat.lt_succ_iff.mp (Nat.lt_of_not_le fresh)) slug event named
        | none =>
            rw [earlier] at fresh
            have none := (networks pass.network).deployed block (Nat.lt_of_not_le fresh)
            rw [none] at event
            cases event
    · rw [AList.lookup_insert_ne own] at stored
      exact kept name slug (complete name cursor stored block below slug event named)

end Runs

/-- Whatever fails in whichever passes, what is registered up to a stored cursor was
upserted, unless its slug begins with a zero. The windows of a scan hold each block
from its start to the finalized one exactly once. -/
theorem endpoint_scan_complete (networks : String → Network) (state : SyncState)
    (reached : Reachable SyncState.Cold (Passes networks) state) :
    (∀ network cursor, state.cursors.lookup network = some cursor →
      ∀ block ≤ cursor, ∀ slug ∈ (networks network).registered block, slug.head ≠ 0 →
        state.Upserted network slug) ∧
    ∀ (network : String) (fromBlock finalized block : Nat), fromBlock ≤ block →
      block ≤ finalized →
      ((Window.all (networks network).adapter.logRangeChunk fromBlock finalized).countP
        fun window => decide (window.first ≤ block ∧ block ≤ window.last)) = 1 := by
  constructor
  · refine reached.invariant (SyncState.Complete networks) (fun first cold => ?_)
      fun _ _ complete passes => complete.next passes
    intro network cursor stored
    rw [cold] at stored
    cases stored
  · intro network fromBlock finalized block start stop
    exact Window.count_all (networks network).adapter.chunkPositive start stop

namespace Scanned

def api : Slug := ⟨[0x61, 0x70, 0x69, 0, 0, 0, 0, 0, 0, 0, 0, 0, 0, 0, 0, 0], rfl⟩

def zeros : Slug := List.Vector.replicate 16 0

def registered (slug : Slug) (block : Nat) : List Slug := if block = 5 then [slug] else []

def network (slug : Slug) (valid : PactRegistry.validateSlug slug = .ok ()) : Network where
  adapter := ⟨8453, some "0x01", none, 4, by decide⟩
  deploymentBlock := some 3
  registered := registered slug
  printable block other event := by
    unfold registered at event
    split at event
    · rw [List.mem_singleton.mp event, valid]
    · cases event
  deployed block early := if_neg (Nat.ne_of_lt (Nat.lt_trans early (by decide)))

def pass (slug : Slug) : Pass where
  network := "base-mainnet"
  client :=
    { authority := .ok (List.Vector.replicate 20 0)
      getBlock := .ok 10
      getContractEvents window := .ok (window.numbers.flatMap (registered slug))
      getEndpoint _ := .ok .zero }
  statement _ := .ok ()
  now _ := 7

def after (slug : Slug) (valid : PactRegistry.validateSlug slug = .ok ()) : SyncState :=
  (refreshViaAdapterWithCursor (network slug valid) (pass slug) ⟨∅, ∅, []⟩).2

theorem reached (slug : Slug) (valid : PactRegistry.validateSlug slug = .ok ()) :
    Reachable SyncState.Cold (Passes fun _ => network slug valid) (after slug valid) := by
  have cold : SyncState.Cold ⟨∅, ∅, []⟩ := rfl
  exact .next (.start cold) ⟨pass slug, fun _ _ answered => (Except.ok.inj answered).symm, rfl⟩

end Scanned

theorem endpoint_scan_complete_api :
    (Scanned.after Scanned.api (by decide)).Upserted "base-mainnet" Scanned.api :=
  (endpoint_scan_complete _ _ (Scanned.reached Scanned.api (by decide))).1 "base-mainnet" 10
    (by decide +kernel) 5 (by decide) Scanned.api (by decide) (by decide)

/-- A slug of zeros may be registered, and is not upserted. -/
theorem endpoint_scan_skips : ¬∀ (networks : String → Network) (state : SyncState),
    Reachable SyncState.Cold (Passes networks) state →
      ∀ network cursor, state.cursors.lookup network = some cursor →
        ∀ block ≤ cursor, ∀ slug ∈ (networks network).registered block,
          state.Upserted network slug := by
  intro claimed
  obtain ⟨-, row⟩ := claimed _ _ (Scanned.reached Scanned.zeros (by decide)) "base-mainnet" 10
    (by decide +kernel) 5 (by decide) Scanned.zeros (by decide)
  revert row
  decide +kernel

end PactNetwork.Indexer
