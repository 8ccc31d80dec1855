import PactNetwork.Adapters.SettlementTail
import PactNetwork.Indexer.Duplicates
import PactNetwork.Indexer.Ledgers

/-!
# Reconciliation

`ReorgService.runReconcile` looks for the texts of recorded call ids among the
texts of canonical events. The settler's messages name a call in one form, the
events in another, so no recorded call is ever found.
-/

set_option autoImplicit false

namespace PactNetwork.Indexer

open Adapters Chunks
open Settler (MessageData parseCallId formatAdapterCallId codeUnits byteHex charUnits)

/-! ## The service -/

structure ChainAdapter where
  /-- By the block to begin with, and the turn of the iteration. -/
  tailSettlementEvents : Option (Nat → Nat → Tick SettlementEvent)

abbrev AdaptersService := List (String × ChainAdapter)

def AdaptersService.getAdapter (adapters : AdaptersService) (network : String) :
    Except String ChainAdapter :=
  match adapters.lookup network with
  | none =>
      let enabled := String.intercalate ", " (adapters.map (·.1))
      .error s!"No adapter for network \"{network}\". Enabled: {enabled}"
  | some adapter => .ok adapter

structure ReconcileResult where
  network : String
  scanned : Nat
  dbCalls : Nat
  orphans : Nat
  orphanCallIds : List String
  truncated : Bool
  deriving DecidableEq

def safetyCap : Nat := 50000

/-- The events the loop reads in a number of turns, from a turn on. `none` while
the loop has not finished. -/
def readTail (tail : Nat → Tick SettlementEvent) :
    Nat → Nat → List SettlementEvent → Option (Except String (List SettlementEvent))
  | 0, _, _ => none
  | turns + 1, turn, seen =>
      match tail turn with
      | .yields event =>
          if safetyCap ≤ seen.length + 1 then some (.ok (seen ++ [event]))
          else readTail tail turns (turn + 1) (seen ++ [event])
      | .waits => readTail tail turns (turn + 1) seen
      | .ends => some (.ok seen)
      | .throws error => some (.error error)

def Database.callIds (network : String) (db : Database) : List String :=
  (db.calls.keys.filter fun key => key.1 = network).map (·.2)

def reconcile (db : Database) (network : String) (seen : List SettlementEvent) :
    ReconcileResult :=
  let seenCallIds := seen.map (·.callId)
  let dbCalls := db.callIds network
  let orphanCallIds := dbCalls.filter fun id => id ∉ seenCallIds
  { network
    scanned := seen.length
    dbCalls := dbCalls.length
    orphans := orphanCallIds.length
    orphanCallIds
    truncated := safetyCap ≤ seen.length }

/-- What `runReconcile` has come to after a number of turns of its loop. -/
def runReconcile (adapters : AdaptersService) (db : Database) (network : String)
    (fromBlock turns : Nat) : Option (Except String ReconcileResult) :=
  match adapters.getAdapter network with
  | .error error => some (.error error)
  | .ok adapter =>
      match adapter.tailSettlementEvents with
      | none => some (.error
          s!"adapter for network \"{network}\" does not expose tailSettlementEvents")
      | some tail => (readTail (tail fromBlock) turns 0 []).map fun scan =>
          scan.map (reconcile db network)

/-! ## How calls are recorded -/

/-- A batch that the settler sent to an EVM network and pushed: it parsed the id of
every call, and the indexer got the message's own text. -/
def SettlementEventDto.Settled (dto : SettlementEventDto) : Prop :=
  ∀ call ∈ dto.calls, ∃ (data : MessageData) (hex : String),
    data.callId = .string call.callId ∧
      formatAdapterCallId .evm (data.callId.orElse (.string "")).toStr = .ok hex

def IngestsSettled (semantics : FailureSemantics) (network : String) (before after : Database) :
    Prop :=
  ∃ dto result, (dto.batchNetwork = network → dto.Settled) ∧
    (ingest semantics dto before []).result = .ok result ∧
      after = (ingest semantics dto before []).database

def Database.Parses (network : String) (db : Database) : Prop :=
  ∀ text ∈ db.callIds network, ∃ id, parseCallId text = .ok id

theorem mem_callIds {db : Database} {network text : String} :
    text ∈ db.callIds network ↔ (db.calls.lookup (network, text)).isSome := by
  rw [Database.callIds, AList.lookup_isSome, AList.mem_keys]
  simp

theorem Blank.parses {db : Database} (blank : Blank db) (network : String) :
    db.Parses network := by
  intro text member
  rw [mem_callIds, blank.calls] at member
  cases member

theorem insertedKeys_log {dto : SettlementEventDto} {inserted : List WrapCallEventDto}
    {network : String} {existingShares : Nat} :
    insertedKeys (dto.log network inserted existingShares) =
      inserted.map fun call => (network, call.callId) := by
  rw [SettlementEventDto.log, insertedKeys_append, insertedKeys_append,
    insertedKeys_targetWrites, insertedKeys_insertWrites, List.nil_append]
  split
  · exact List.append_nil _
  · rw [insertedKeys_aggregateWrites, List.append_nil]

theorem SettlementEventDto.Settled.parses {dto : SettlementEventDto} (settled : dto.Settled) :
    ∀ call ∈ dto.calls, ∃ id, parseCallId call.callId = .ok id := by
  intro call member
  obtain ⟨data, hex, named, formatted⟩ := settled call member
  rw [named] at formatted
  obtain ⟨id, parsed, -⟩ := (bind_eq_ok _ _ _).mp formatted
  exact ⟨id, parsed⟩

theorem Database.Parses.ingest {semantics : FailureSemantics} {network : String}
    {before after : Database} (parses : before.Parses network)
    (ingests : IngestsSettled semantics network before after) : after.Parses network := by
  obtain ⟨dto, result, settled, accepted, rfl⟩ := ingests
  obtain ⟨-, new, ⟨-, same⟩ | ⟨-, final⟩⟩ := ingest_undisturbed accepted
  · rw [same]
    exact parses
  · intro text member
    rw [mem_callIds, final, Option.isSome_iff_ne_none, ne_eq, lookup_calls_applyAll,
      insertedKeys_log] at member
    by_cases old : before.calls.lookup (network, text) = none
    · have fresh : (network, text) ∈ result.insertedCalls.map fun call =>
          (dto.batchNetwork, call.callId) := not_not.mp fun absent => member ⟨old, absent⟩
      obtain ⟨call, inserted, same⟩ := List.mem_map.mp fresh
      cases same
      exact (settled rfl).parses call (newCalls_subset _ _ _ (new ▸ inserted))
    · exact parses text (mem_callIds.mpr (Option.isSome_iff_ne_none.mpr old))

/-! ## The two texts of an id -/

/-- The units of a text that `parseCallId` counts. -/
def undashed (text : String) : List Nat := (codeUnits text).filter (· ≠ 45)

theorem length_undashed {text : String} {id : V1.CallId} (parsed : parseCallId text = .ok id) :
    (undashed text).length = 32 := by
  rw [parseCallId] at parsed
  split at parsed
  next even => exact even
  next => cases parsed

theorem undashed_byteHex : ∀ byte : UInt8,
    (((byteHex byte).flatMap charUnits).filter (· ≠ 45)).length = 2 := by
  decide +kernel

theorem length_undashed_hexText (bytes : List UInt8) :
    (undashed (hexText bytes)).length = 2 + 2 * bytes.length := by
  have digits : (((bytes.flatMap byteHex).flatMap charUnits).filter (· ≠ 45)).length =
      2 * bytes.length := by
    induction bytes with
    | nil => rfl
    | cons byte bytes ih =>
        rw [List.flatMap_cons, List.flatMap_append, List.filter_append, List.length_append, ih,
          undashed_byteHex, List.length_cons]
        omega
  rw [undashed, hexText, codeUnits, String.toList_append, String.toList_ofList,
    String.toList_ofList, List.flatMap_append, List.filter_append, List.length_append, digits]
  rfl

theorem ne_hexText {text : String} {id : V1.CallId} (parsed : parseCallId text = .ok id)
    (other : V1.CallId) : text ≠ hexText other.toList := by
  intro same
  have long := length_undashed_hexText other.toList
  rw [← same, length_undashed parsed, List.Vector.toList_length] at long
  cases long

/-! ## What is reported -/

section Reading

variable {tail : Nat → Tick SettlementEvent} {values : List SettlementEvent} {ends : Bool}
  {needed : Nat}

theorem delivered_length_mono (tail : Nat → Tick SettlementEvent) (first more : Nat) :
    (Tick.delivered tail first).length ≤ (Tick.delivered tail (first + more)).length := by
  induction more with
  | zero => exact Nat.le_refl _
  | succ more ih =>
      rw [← Nat.add_assoc, Tick.delivered, List.length_append]
      omega

theorem readTail_running (more turns turn : Nat)
    (running : ∀ later, turn ≤ later → later < turn + more → (tail later).Running)
    (short : (Tick.delivered tail (turn + more)).length < safetyCap) :
    readTail tail (more + turns) turn (Tick.delivered tail turn) =
      readTail tail turns (turn + more) (Tick.delivered tail (turn + more)) := by
  induction more generalizing turn with
  | zero => rw [Nat.zero_add, Nat.add_zero]
  | succ more ih =>
      have goes := running turn (Nat.le_refl turn) (by omega)
      have split : turn + (more + 1) = turn + 1 + more := by omega
      rw [split] at running short ⊢
      have later := ih (turn + 1) (fun later after before => running later (by omega) before) short
      have mono : (Tick.delivered tail (turn + 1)).length < safetyCap :=
        Nat.lt_of_le_of_lt (delivered_length_mono tail (turn + 1) more) short
      rw [← later, Nat.add_right_comm more 1 turns, readTail]
      rw [Tick.delivered] at mono ⊢
      cases tick : tail turn with
      | yields event =>
          rw [tick, Tick.values, List.length_append] at mono
          exact if_neg (Nat.not_le_of_lt mono)
      | waits =>
          dsimp only [Tick.values]
          rw [List.append_nil]
      | ends =>
          rw [tick] at goes
          exact goes.elim
      | throws error =>
          rw [tick] at goes
          exact goes.elim

theorem readTail_ends (scans : Tick.Scans tail values true needed)
    (short : values.length < safetyCap) (turns : Nat) :
    readTail tail turns 0 [] = if needed < turns then some (.ok values) else none := by
  have delivered := scans.delivered
  by_cases enough : needed < turns
  · obtain ⟨spare, rfl⟩ := Nat.exists_eq_add_of_lt enough
    have read := readTail_running needed (spare + 1) 0
      (fun later _ before => scans.running later (by omega))
      (by rw [Nat.zero_add, delivered]; exact short)
    rw [Nat.zero_add, delivered] at read
    rw [if_pos enough, Nat.add_assoc, ← Tick.delivered, read, readTail, scans.rest]
  · have read := readTail_running turns 0 0
      (fun later _ before => scans.running later (by omega)) ?_
    · rw [if_neg enough]
      exact read
    · obtain ⟨spare, rfl⟩ := Nat.exists_eq_add_of_le (Nat.le_of_not_lt enough)
      rw [Nat.zero_add]
      exact Nat.lt_of_le_of_lt (delivered_length_mono tail turns spare) (delivered ▸ short)

theorem readTail_waits (scans : Tick.Scans tail values false needed)
    (short : values.length < safetyCap) (turns : Nat) : readTail tail turns 0 [] = none := by
  have kept : ∀ more, Tick.delivered tail (needed + more) = values := by
    intro more
    induction more with
    | zero => exact scans.delivered
    | succ more ih =>
        rw [← Nat.add_assoc, Tick.delivered, ih, scans.rest _ (Nat.le_add_right needed more)]
        exact List.append_nil values
  refine readTail_running turns 0 0 (fun later _ _ => ?_) ?_
  · rcases Nat.lt_or_ge later needed with before | after
    · exact scans.running later before
    · rw [scans.rest later after]
      trivial
  · have bounded := delivered_length_mono tail (0 + turns) needed
    rw [Nat.add_comm (0 + turns) needed, kept] at bounded
    exact Nat.lt_of_le_of_lt bounded short

end Reading

section Exactness

variable (adapters : AdaptersService) (db : Database) (network : String) (fromBlock head : Nat)
  (chain : Nat → List CallSettledLog) (block : String → Nat)

def canonicalIds (first last : Nat) : List V1.CallId :=
  ((span first last).flatMap chain).map (·.callId)

def Reported (text : String) : Prop :=
  ∃ turns result, runReconcile adapters db network fromBlock turns = some (.ok result) ∧
    text ∈ result.orphanCallIds

/-- What a report says of every recorded call, where `block` is the block it settled in. -/
def Exact : Prop :=
  ∀ text ∈ db.callIds network, ∃ id, parseCallId text = .ok id ∧
    (fromBlock ≤ block text →
      (Reported adapters db network fromBlock text ↔ id ∉ canonicalIds chain fromBlock head)) ∧
    (id ∈ canonicalIds chain 0 head → ¬Reported adapters db network fromBlock text)

/-- The tail reports the canonical events of the range, too few to truncate the scan. -/
def Untruncated (tail : Nat → Tick SettlementEvent) (ends : Bool) : Prop :=
  ∃ events turns, Tick.Scans tail events ends turns ∧
    events.map (·.callId) = (canonicalIds chain fromBlock head).map (hexText ·.toList) ∧
    events.length < safetyCap

variable {adapters db network fromBlock head chain block}

theorem canonicalIds_mono {id : V1.CallId} (member : id ∈ canonicalIds chain fromBlock head) :
    id ∈ canonicalIds chain 0 head := by
  obtain ⟨log, logged, same⟩ := List.mem_map.mp member
  obtain ⟨number, inside, held⟩ := List.mem_flatMap.mp logged
  refine List.mem_map.mpr ⟨log, List.mem_flatMap.mpr ⟨number, ?_, held⟩, same⟩
  exact mem_span.mpr ⟨Nat.zero_le number, (mem_span.mp inside).2⟩

variable {adapter : ChainAdapter} {tail : Nat → Nat → Tick SettlementEvent}

theorem runReconcile_eq (found : adapters.getAdapter network = .ok adapter)
    (tails : adapter.tailSettlementEvents = some tail) (turns : Nat) :
    runReconcile adapters db network fromBlock turns =
      (readTail (tail fromBlock) turns 0 []).map fun scan => scan.map (reconcile db network) := by
  rw [runReconcile, found]
  dsimp only
  rw [tails]

theorem reported_of_ends (found : adapters.getAdapter network = .ok adapter)
    (tails : adapter.tailSettlementEvents = some tail)
    (scan : Untruncated fromBlock head chain (tail fromBlock) true)
    {text : String} {id : V1.CallId} (recorded : text ∈ db.callIds network)
    (parsed : parseCallId text = .ok id) : Reported adapters db network fromBlock text := by
  obtain ⟨events, needed, scans, texts, short⟩ := scan
  refine ⟨needed + 1, reconcile db network events, ?_, ?_⟩
  · rw [runReconcile_eq found tails, readTail_ends scans short, if_pos (Nat.lt_succ_self needed)]
    rfl
  · refine List.mem_filter.mpr ⟨recorded, decide_eq_true ?_⟩
    rw [texts]
    intro seen
    obtain ⟨other, -, same⟩ := List.mem_map.mp seen
    exact ne_hexText parsed other same.symm

theorem not_reported_of_waits (found : adapters.getAdapter network = .ok adapter)
    (tails : adapter.tailSettlementEvents = some tail)
    (scan : Untruncated fromBlock head chain (tail fromBlock) false) (text : String) :
    ¬Reported adapters db network fromBlock text := by
  intro reported
  obtain ⟨events, needed, scans, -, short⟩ := scan
  obtain ⟨turns, result, returned, -⟩ := reported
  rw [runReconcile_eq found tails, readTail_waits scans short] at returned
  cases returned

end Exactness

/-- With the adapter's own tail, on a chain that stops growing and whose range holds
few events, the job never returns. -/
theorem runReconcile_evm {adapters : AdaptersService} {network : String} {adapter : EvmAdapter}
    {client : PublicClient CallSettledLog} {chain : Nat → List CallSettledLog}
    {fromBlock head start : Nat} (db : Database)
    (found : adapters.getAdapter network = .ok ⟨some (adapter.tailSettlementEvents client)⟩)
    (deployed : adapter.settler.isSome = true) (settles : client.Settles chain head start)
    (few : (canonicalIds chain fromBlock head).length < safetyCap) (turns : Nat) :
    runReconcile adapters db network fromBlock turns = none := by
  obtain ⟨events, needed, scans, texts⟩ := tail_scans fromBlock settles deployed
  have short : events.length < safetyCap := by
    rw [← List.length_map (f := (·.callId)), texts, List.length_map]
    rwa [canonicalIds, List.length_map] at few
  rw [runReconcile_eq found rfl, readTail_waits scans short]
  rfl

/-- An untruncated scan is exact if and only if either it ends and no recorded call of
the network is on the canonical chain, or it polls for ever, as the adapter's does,
and every call settled at or after its start is. -/
theorem reconcile_exact_iff (semantics : FailureSemantics) (adapters : AdaptersService)
    (db : Database) (network : String) (fromBlock head : Nat)
    (chain : Nat → List CallSettledLog) (block : String → Nat) (adapter : ChainAdapter)
    (tail : Nat → Nat → Tick SettlementEvent) (ends : Bool)
    (path : Reachable Blank (IngestsSettled semantics network) db)
    (found : adapters.getAdapter network = .ok adapter)
    (tails : adapter.tailSettlementEvents = some tail)
    (scan : Untruncated fromBlock head chain (tail fromBlock) ends) :
    Exact adapters db network fromBlock head chain block ↔
      ∀ text ∈ db.callIds network, ∀ id, parseCallId text = .ok id →
        if ends then id ∉ canonicalIds chain 0 head
        else fromBlock ≤ block text → id ∈ canonicalIds chain fromBlock head := by
  have parses := path.invariant (Database.Parses network) (fun _ blank => blank.parses network)
    fun _ _ kept ingests => kept.ingest ingests
  cases ends with
  | true =>
      constructor
      · intro exact text recorded id parsed canonical
        obtain ⟨other, same, -, kept⟩ := exact text recorded
        cases parsed.symm.trans same
        exact kept canonical (reported_of_ends found tails scan recorded parsed)
      · intro orphaned text recorded
        obtain ⟨id, parsed⟩ := parses text recorded
        have reported : Reported adapters db network fromBlock text :=
          reported_of_ends found tails scan recorded parsed
        have absent : id ∉ canonicalIds chain 0 head := orphaned text recorded id parsed
        refine ⟨id, parsed, fun _ => iff_of_true reported ?_, fun canonical => ?_⟩
        · exact fun inside => absent (canonicalIds_mono inside)
        · exact absurd canonical absent
  | false =>
      have silent : ∀ text, ¬Reported adapters db network fromBlock text :=
        not_reported_of_waits found tails scan
      constructor
      · intro exact text recorded id parsed late
        obtain ⟨other, same, orphan, -⟩ := exact text recorded
        cases parsed.symm.trans same
        exact not_not.mp fun absent => silent text ((orphan late).mpr absent)
      · intro present text recorded
        obtain ⟨id, parsed⟩ := parses text recorded
        refine ⟨id, parsed, fun late => ?_, fun _ => silent text⟩
        exact iff_of_false (silent text) (not_not.mpr (present text recorded id parsed late))

namespace Reconciled

def text : String := "01234567-89ab-cdef-0123-456789abcdef"

def id : V1.CallId :=
  ⟨[0x01, 0x23, 0x45, 0x67, 0x89, 0xab, 0xcd, 0xef, 0x01, 0x23, 0x45, 0x67, 0x89, 0xab, 0xcd, 0xef],
    rfl⟩

def batch : SettlementEventDto := { Delivered.batch [text] with network := some "base-mainnet" }

def db : Database := (ingest .statement batch .empty []).database

/-- The message that the batch's call came with. -/
def message : MessageData where
  endpointSlug := .string "helius"
  callId := .string text
  agentPubkey := .string "agent"
  premiumLamports := .string "100"
  refundLamports := .string "40"
  latencyMs := .number 12
  outcome := .string "latency_breach"
  ts := .number 5
  timestamp := .undefined

theorem reached : Reachable Blank (IngestsSettled .statement "base-mainnet") db := by
  refine .next (.start .empty) ⟨batch, ⟨1, [Delivered.call text]⟩, fun _ => ?_, ?_, rfl⟩
  · intro call member
    cases List.mem_singleton.mp member
    exact ⟨message, "0x0123456789abcdef0123456789abcdef", rfl, by decide +kernel⟩
  · decide +kernel

def log : CallSettledLog := ⟨id, some "0xfeed", some 5⟩

def tail (logs : List CallSettledLog) (_fromBlock turn : Nat) : Tick SettlementEvent :=
  match logs[turn]? with
  | some log => .yields (log.event 10)
  | none => .ends

def adapters (logs : List CallSettledLog) : AdaptersService :=
  [("base-mainnet", ⟨some (tail logs)⟩)]

end Reconciled

/-- A call that was reorganized away is the orphan that is reported. -/
theorem reconcile_exact_orphan : Exact (Reconciled.adapters []) Reconciled.db "base-mainnet" 0 10
    (fun _ => []) (fun _ => 5) := by
  refine (reconcile_exact_iff .statement _ _ _ 0 10 _ _ _ (Reconciled.tail []) true
    Reconciled.reached rfl rfl ⟨[], 0, ⟨rfl, nofun, rfl⟩, rfl, by decide⟩).mpr ?_
  intro text recorded id parsed
  simp [canonicalIds]

/-- A call whose event is on the canonical chain is reported too. -/
theorem reconcile_misreports : ¬∀ (semantics : FailureSemantics) (adapters : AdaptersService)
    (db : Database) (network : String) (fromBlock head : Nat)
    (chain : Nat → List CallSettledLog) (block : String → Nat) (adapter : ChainAdapter)
    (tail : Nat → Nat → Tick SettlementEvent) (ends : Bool),
    Reachable Blank (IngestsSettled semantics network) db →
      adapters.getAdapter network = .ok adapter →
      adapter.tailSettlementEvents = some tail →
      Untruncated fromBlock head chain (tail fromBlock) ends →
      Exact adapters db network fromBlock head chain block := by
  intro claimed
  have exact := claimed .statement (Reconciled.adapters [Reconciled.log]) Reconciled.db
    "base-mainnet" 0 10 (fun number => if number = 5 then [Reconciled.log] else []) (fun _ => 5)
    _ _ true Reconciled.reached rfl rfl
    ⟨[Reconciled.log.event 10], 1, ⟨rfl, ?_, rfl⟩, rfl, by decide⟩
  · obtain ⟨id, parsed, -, kept⟩ := exact Reconciled.text (by decide +kernel)
    have same : id = Reconciled.id := by
      have known : parseCallId Reconciled.text = .ok Reconciled.id := by decide +kernel
      exact Except.ok.inj (parsed.symm.trans known)
    refine kept (same ▸ by decide +kernel) ⟨2, reconcile Reconciled.db "base-mainnet"
      [Reconciled.log.event 10], rfl, ?_⟩
    decide +kernel
  · intro turn first
    cases Nat.lt_one_iff.mp first
    trivial

end PactNetwork.Indexer
