import PactNetwork.Client.SettledEvents
import PactNetwork.Foundation.NewestRows
import PactNetwork.Indexer.Database

/-!
# Reconciliation by polling

Flushes that the indexer answers while it settles nothing new. An answer shows the
newest of the agent's calls only, so that a flush after a flush asks for the same calls.
-/

set_option autoImplicit false

namespace PactNetwork.Client.Sdk

open Indexer (Database Key CallRow Timestamp)
open Requests (Json JsonLibrary)
open Requests.Webhook (Notification notification)

/-! ## The indexer's answer -/

namespace AgentsController

abbrev Call := Key × CallRow

def callId (call : Call) : String := call.1.2

def ts (call : Call) : Timestamp := call.2.ts

/-- The `limit` of a query, between one and two hundred. -/
def clampLimit (limit : Nat) : Nat := min (max (if 0 < limit then limit else 50) 1) 200

def callsOf (db : Database) (pubkey : String) : List Call :=
  (db.calls.entries.map fun entry => (entry.1, entry.2)).filter fun call =>
    call.2.agentPubkey = pubkey

/-- What `GET /api/agents/:pubkey/calls?limit=N` can answer. -/
def GetAgentCalls (db : Database) (pubkey : String) (limit : Nat) (answer : List Call) : Prop :=
  Newest ts (clampLimit limit) (callsOf db pubkey) answer

def orNull : Option String → Json
  | none => .null
  | some text => .string text

/-- A call as it is read from the answer, its times as texts. -/
def serializeCall (dateText : Timestamp → String) (call : Call) : Json :=
  .object [("callId", .string (callId call)), ("agentPubkey", .string call.2.agentPubkey),
    ("endpointSlug", .string call.2.endpointSlug),
    ("premiumLamports", .string (toString call.2.premiumLamports)),
    ("refundLamports", .string (toString call.2.refundLamports)),
    ("latencyMs", .number call.2.latencyMs), ("breach", .bool call.2.breach),
    ("breachReason", orNull call.2.breachReason), ("source", orNull call.2.source),
    ("ts", .string (dateText call.2.ts)), ("settledAt", .string (dateText call.2.settledAt)),
    ("signature", .string call.2.signature)]

end AgentsController

open AgentsController (Call callId ts clampLimit callsOf GetAgentCalls serializeCall)

/-! ## Flushes -/

section

variable {σ : Type} (storage : ObservationStorage σ) (library : JsonLibrary)
  (behaviour : Behaviour) (dateText : Timestamp → String)

def Instance.poll (state : Instance σ) (answer : List Call) : Instance σ :=
  (state.apply storage library behaviour .flush).apply storage library behaviour
    (.answer (some (.array (answer.map (serializeCall dateText)))))

def Instance.polls (answers : Nat → List Call) (state : Instance σ) : Nat → Instance σ
  | 0 => state
  | count + 1 =>
      (Instance.polls answers state count).poll storage library behaviour dateText (answers count)

def pollLimit (limit : Option Nat) : Nat := limit.getD 50

def Instance.Pending (state : Instance σ) (id : String) : Prop :=
  ∃ p ∈ storage.loadPending state.store, p.callId = id

end

/-- Fewer of the agent's other calls than an answer has room for are as recent. -/
def Recent (calls : List Call) (room : Nat) (id : String) : Prop :=
  ∃ call ∈ calls, (callId call == id) = true ∧
    (rivals ts (fun other => callId other == id) calls call).length < room

section

variable {σ : Type} {storage : ObservationStorage σ} (library : JsonLibrary)
  (behaviour : Behaviour) (dateText : Timestamp → String) {good : σ → Prop}
  {content : σ → List PendingObservation}

theorem notification_serializeCall (call : Call) :
    ∃ n, notification library (serializeCall dateText call) = some n ∧
      n.callId = some (.string (callId call)) :=
  ⟨_, rfl, rfl⟩

theorem startFlush_cases (storage : ObservationStorage σ) (state : Instance σ) :
    (state.startFlush storage).store = state.store ∧
      ((state.startFlush storage).pendingIds = none ∧ storage.loadPending state.store = [] ∨
        ∃ ids, (state.startFlush storage).pendingIds = some ids ∧
          (state.pendingIds = none →
            ids = (storage.loadPending state.store).map fun p => p.callId)) := by
  refine ⟨state.same_startFlush.store, ?_⟩
  rw [Instance.startFlush]
  cases busy : state.pendingIds with
  | some ids => exact .inr ⟨ids, busy, fun idle => absurd idle (Option.some_ne_none ids)⟩
  | none =>
      dsimp only
      cases waiting : storage.loadPending state.store with
      | nil => exact .inl ⟨busy, rfl⟩
      | cons first rest => exact .inr ⟨_, rfl, fun _ => rfl⟩

variable (works : storage.Works good content)
include works

theorem mem_loadPending_mark {store : σ} (fine : good store) (id : String)
    (p : PendingObservation) :
    p ∈ storage.loadPending (storage.markReconciled store id) ↔
      p ∈ storage.loadPending store ∧ p.callId ≠ id := by
  obtain ⟨kept, marked⟩ := works.markReconciled store id fine
  rw [works.loadPending _ kept, works.loadPending _ fine, marked, List.mem_filter,
    List.mem_filter, List.mem_map]
  constructor
  case mp =>
      rintro ⟨⟨row, inside, rfl⟩, open'⟩
      rw [FsObservationBuffer.reconcile] at open' ⊢
      split at open'
      case isTrue => cases open'
      case isFalse other =>
          rw [if_neg other]
          have waiting : row.reconciled = false := by simpa using open'
          exact ⟨⟨inside, open'⟩, fun named => other ⟨named, waiting⟩⟩
  case mpr =>
      rintro ⟨⟨inside, open'⟩, other⟩
      exact ⟨⟨p, inside, if_neg fun same => other same.1⟩, open'⟩

theorem pending_mark {state emitted : Instance σ} (fine : good state.store)
    (kept : emitted.store = state.store) (id other : String) :
    good (emitted.mark storage id).store ∧
      ((emitted.mark storage id).Pending storage other ↔
        state.Pending storage other ∧ other ≠ id) := by
  have stored : (emitted.mark storage id).store = storage.markReconciled state.store id :=
    congrArg (storage.markReconciled · id) kept
  rw [Instance.Pending, stored]
  refine ⟨(works.markReconciled _ id fine).1, ?_⟩
  constructor
  case mp =>
      rintro ⟨p, member, named⟩
      obtain ⟨waiting, apart⟩ := (mem_loadPending_mark works fine id p).mp member
      exact ⟨⟨p, waiting, named⟩, named ▸ apart⟩
  case mpr =>
      rintro ⟨⟨p, waiting, named⟩, apart⟩
      exact ⟨p, (mem_loadPending_mark works fine id p).mpr ⟨waiting, named ▸ apart⟩, named⟩

theorem pending_recordSettled {state : Instance σ} (fine : good state.store) {n : Notification}
    {id : String} (named : n.callId = some (.string id)) (other : String) :
    good (state.recordSettled storage behaviour n).store ∧
      ((state.recordSettled storage behaviour n).Pending storage other ↔
        state.Pending storage other ∧ other ≠ id) := by
  rw [Instance.recordSettled, named]
  dsimp only
  split
  case isTrue =>
      have both : { state with emitted := state.emitted ++ emissions id n }.Same
          ((state.emitBilled storage behaviour id n).emitRefund storage behaviour id n) :=
        state.same_emitBoth id n
      exact pending_mark works fine both.store id other
  case isFalse absent =>
      refine ⟨fine, fun pending => ⟨pending, ?_⟩, And.left⟩
      rintro rfl
      obtain ⟨p, member, same⟩ := pending
      exact absent (List.any_eq_true.mpr ⟨p, member, decide_eq_true same⟩)

theorem pending_pollRows (pendingIds : List String) (answer : List Call) {state : Instance σ}
    (fine : good state.store) (other : String) :
    good (Instance.pollRows storage library behaviour pendingIds
        (answer.map (serializeCall dateText)) state).store ∧
      ((Instance.pollRows storage library behaviour pendingIds
          (answer.map (serializeCall dateText)) state).Pending storage other ↔
        state.Pending storage other ∧ ¬ (other ∈ pendingIds ∧ other ∈ answer.map callId)) := by
  induction answer generalizing state with
  | nil => exact ⟨fine, fun pending => ⟨pending, fun taken => List.not_mem_nil taken.2⟩, And.left⟩
  | cons call rest ih =>
      obtain ⟨n, read, named⟩ := notification_serializeCall library dateText call
      rw [List.map_cons, Instance.pollRows, read, List.map_cons, List.mem_cons]
      dsimp only
      rw [named]
      dsimp only
      split
      case isTrue asked =>
          obtain ⟨settled, sink⟩ := pending_recordSettled behaviour works fine named other
          obtain ⟨kept, rows⟩ := ih settled
          refine ⟨kept, rows.trans ?_⟩
          rw [sink]
          constructor
          case mp =>
              rintro ⟨⟨pending, apart⟩, behind⟩
              exact ⟨pending, fun taken => taken.2.elim apart fun later => behind ⟨taken.1, later⟩⟩
          case mpr =>
              rintro ⟨pending, open'⟩
              exact ⟨⟨pending, fun same => open' ⟨same ▸ asked, .inl same⟩⟩,
                fun taken => open' ⟨taken.1, .inr taken.2⟩⟩
      case isFalse foreign =>
          obtain ⟨kept, rows⟩ := ih fine
          refine ⟨kept, rows.trans (and_congr_right fun _ => not_congr ?_)⟩
          refine and_congr_right fun asked => ⟨.inr, fun member => member.elim ?_ id⟩
          exact fun same => absurd (same ▸ asked) foreign

omit works in
theorem answer_of_asked {state : Instance σ} {ids : List String} {rows : List Json}
    (asked : state.pendingIds = some ids) :
    state.apply storage library behaviour (.answer (some (.array rows))) =
      { Instance.pollRows storage library behaviour ids rows state with pendingIds := none } := by
  simp only [Instance.apply, asked]

omit works in
theorem answer_of_idle {state : Instance σ} {body : Option Json} (idle : state.pendingIds = none) :
    state.apply storage library behaviour (.answer body) = { state with pendingIds := none } := by
  simp only [Instance.apply, idle]

/-- What a flush does to the calls that wait, whoever started the one under way. -/
structure Polled (storage : ObservationStorage σ) (good : σ → Prop) (answer : List Call)
    (before after : Instance σ) : Prop where
  good : good after.store
  idle : after.pendingIds = none
  fewer : ∀ id, after.Pending storage id → before.Pending storage id
  kept : ∀ id, before.Pending storage id → id ∉ answer.map callId → after.Pending storage id
  taken : before.pendingIds = none → ∀ id, after.Pending storage id → id ∉ answer.map callId

theorem polled (answer : List Call) {state : Instance σ} (fine : good state.store) :
    Polled storage good answer state
      (state.poll storage library behaviour dateText answer) := by
  obtain ⟨stored, asked⟩ := startFlush_cases storage state
  have started : good (state.startFlush storage).store := stored ▸ fine
  have same : ∀ id, (state.startFlush storage).Pending storage id ↔ state.Pending storage id := by
    intro id
    rw [Instance.Pending, stored]
    rfl
  have halves : state.poll storage library behaviour dateText answer =
      (state.startFlush storage).apply storage library behaviour
        (.answer (some (.array (answer.map (serializeCall dateText))))) := rfl
  rw [halves]
  cases asked with
  | inl nothing =>
      have empty : ∀ id, ¬ state.Pending storage id := by
        rintro id ⟨p, member, -⟩
        rw [nothing.2] at member
        exact List.not_mem_nil member
      rw [answer_of_idle library behaviour nothing.1]
      exact ⟨started, rfl, fun id => (same id).mp, fun id pending _ => absurd pending (empty id),
        fun _ id pending => absurd ((same id).mp pending) (empty id)⟩
  | inr asked =>
      obtain ⟨ids, requested, whole⟩ := asked
      have rows := pending_pollRows library behaviour dateText works ids answer started
      rw [answer_of_asked library behaviour requested]
      refine ⟨(rows "").1, rfl, ?_, ?_, ?_⟩
      case refine_1 =>
          exact fun id pending => (same id).mp (((rows id).2.mp pending).1)
      case refine_2 =>
          exact fun id pending absent =>
            (rows id).2.mpr ⟨(same id).mpr pending, fun both => absent both.2⟩
      case refine_3 =>
          intro idle id pending member
          obtain ⟨before, open'⟩ := (rows id).2.mp pending
          obtain ⟨p, waiting, named⟩ := (same id).mp before
          refine open' ⟨?_, member⟩
          rw [whole idle, ← named]
          exact List.mem_map_of_mem waiting

/-! ## Runs of flushes -/

theorem pending_polls {answers : Nat → List Call} {state : Instance σ} (fine : good state.store)
    {id : String} (waiting : state.Pending storage id)
    (hidden : ∀ index, id ∉ (answers index).map callId) (count : Nat) :
    good (state.polls storage library behaviour dateText answers count).store ∧
      (state.polls storage library behaviour dateText answers count).Pending storage id := by
  induction count with
  | zero => exact ⟨fine, waiting⟩
  | succ count ih =>
      have step := polled library behaviour dateText works (answers count) ih.1
      exact ⟨step.good, step.kept id ih.2 (hidden count)⟩

theorem taken_polls {answers : Nat → List Call} {state : Instance σ} (fine : good state.store)
    {id : String}
    (waiting : (state.polls storage library behaviour dateText answers 2).Pending storage id) :
    state.Pending storage id ∧ id ∉ (answers 1).map callId := by
  have first := polled library behaviour dateText works (answers 0) fine
  have second := polled library behaviour dateText works (answers 1) first.good
  exact ⟨first.fewer id (second.fewer id waiting), second.taken first.idle id waiting⟩

omit works in
theorem mem_ids {calls : List Call} {id : String} :
    id ∈ calls.map callId ↔ ∃ call ∈ calls, (callId call == id) = true := by
  simp

/-- Flushes reach every settled call exactly if each call that waits is recent. -/
theorem reconciled_iff (db : Database) (pubkey : String) (limit : Option Nat)
    {state : Instance σ} (fine : good state.store) :
    (∀ answers, (∀ index, GetAgentCalls db pubkey (pollLimit limit) (answers index)) →
      ∃ count, ∀ p ∈ storage.loadPending
          (state.polls storage library behaviour dateText answers count).store,
        p.callId ∉ (callsOf db pubkey).map callId) ↔
    ∀ p ∈ storage.loadPending state.store, p.callId ∈ (callsOf db pubkey).map callId →
      Recent (callsOf db pubkey) (clampLimit (pollLimit limit)) p.callId := by
  constructor
  case mp =>
      intro reaches p waiting settled
      refine forall_newest_iff.mp fun answer newest => mem_ids.mp ?_
      by_contra hidden
      obtain ⟨count, done⟩ := reaches (fun _ => answer) fun _ => newest
      obtain ⟨-, q, still, named⟩ := pending_polls library behaviour dateText works fine
        ⟨p, waiting, rfl⟩ (fun _ => hidden) count
      exact done q still (named ▸ settled)
  case mpr =>
      intro recent answers answered
      refine ⟨2, fun p still settled => ?_⟩
      obtain ⟨⟨q, waiting, named⟩, hidden⟩ :=
        taken_polls library behaviour dateText works fine ⟨p, still, rfl⟩
      have shown := forall_newest_iff.mpr (recent q waiting (named ▸ settled)) _ (answered 1)
      exact hidden (mem_ids.mpr (named ▸ shown))

end

/-! ## More calls than an answer holds -/

namespace PollDemo

def dateText (_ : Timestamp) : String := "2026"

def call (number : Nat) : Call :=
  (("solana-devnet", toString number),
    ⟨"agent", "demo", 1000, 0, 120, false, none, none, none, none, none, 1000 - number,
      2000 + number, "sig"⟩)

theorem callId_call (number : Nat) : callId (call number) = number.repr := rfl

theorem repr_inj {first second : Nat} (same : first.repr = second.repr) : first = second := by
  have digits := congrArg (fun text => Nat.ofDigitChars 10 text.toList 0) same
  simpa [Nat.toList_repr, Nat.ofDigitChars_ten_toDigits] using digits

def entries (count : Nat) : List (Sigma fun _ : Key => CallRow) :=
  (List.range count).map fun number => ⟨(call number).1, (call number).2⟩

theorem nodup_entries (count : Nat) : (entries count).NodupKeys := by
  rw [List.NodupKeys, List.keys, entries, List.map_map]
  refine (List.nodup_range (n := count)).map fun first second same => ?_
  exact repr_inj (congrArg (fun key : Key => key.2) same)

def db (count : Nat) : Database :=
  { Database.empty with calls := ⟨entries count, nodup_entries count⟩ }

theorem callsOf_db (count : Nat) : callsOf (db count) "agent" = (List.range count).map call := by
  have all : ((entries count).map fun entry => (entry.1, entry.2)) =
      (List.range count).map call := by
    rw [entries, List.map_map]
    rfl
  rw [callsOf]
  change List.filter _ ((entries count).map fun entry => (entry.1, entry.2)) = _
  rw [all]
  exact List.filter_eq_self.mpr fun row member => by
    obtain ⟨number, -, rfl⟩ := List.mem_map.mp member
    rfl

def waiting (number : Nat) : Instance (List PendingObservation) :=
  ⟨[{ Demo.observation with callId := toString number }], none, fun _ => [], [], [], []⟩

/-- The only call that was settled is reconciled. -/
theorem reconciled_iff_first :
    ∃ count, ∀ p ∈ MemoryStorage.loadPending
        ((waiting 0).polls MemoryStorage Demo.library Demo.behaviour dateText (fun _ => [call 0])
          count).store,
      p.callId ∉ (callsOf (db 1) "agent").map callId := by
  have shown : GetAgentCalls (db 1) "agent" (pollLimit none) [call 0] := by
    have sorted : [call 0].Pairwise fun first second => ts second ≤ ts first :=
      List.pairwise_singleton _ _
    rw [GetAgentCalls, callsOf_db]
    exact Newest.of_sorted sorted
  refine (reconciled_iff Demo.library Demo.behaviour dateText MemoryStorage.works (db 1) "agent"
    none trivial).mpr (fun p waiting _ => ?_) (fun _ => [call 0]) fun _ => shown
  have first : p.callId = "0" := by
    rw [List.mem_singleton.mp waiting]
    rfl
  rw [first, callsOf_db]
  exact ⟨call 0, List.mem_singleton_self _, rfl, by decide⟩

/-- Fifty other calls are newer, so that no answer shows the oldest. -/
theorem oldest_never_reconciled :
    ¬ ∀ answers, (∀ index, GetAgentCalls (db 51) "agent" (pollLimit none) (answers index)) →
      ∃ count, ∀ p ∈ MemoryStorage.loadPending
          ((waiting 50).polls MemoryStorage Demo.library Demo.behaviour dateText answers
            count).store,
        p.callId ∉ (callsOf (db 51) "agent").map callId := by
  intro claim
  have sorted : ((List.range 51).map call).Pairwise fun first second => ts second ≤ ts first := by
    refine List.pairwise_map.mpr (List.pairwise_lt_range.imp fun before => ?_)
    exact Nat.sub_le_sub_left before.le 1000
  have answer : ((List.range 51).map call).take 50 = (List.range 50).map call := by
    rw [← List.map_take, List.take_range]
    rfl
  obtain ⟨count, done⟩ := claim (fun _ => (List.range 50).map call) fun _ => by
    rw [GetAgentCalls, callsOf_db, ← answer]
    exact Newest.of_sorted sorted
  have hidden : ∀ _ : Nat, (50 : Nat).repr ∉ ((List.range 50).map call).map callId := by
    intro _ member
    obtain ⟨row, shown, named⟩ := List.mem_map.mp member
    obtain ⟨number, early, rfl⟩ := List.mem_map.mp shown
    have same := repr_inj (callId_call number ▸ named)
    exact absurd (List.mem_range.mp early) (by omega)
  have asked : (waiting 50).Pending MemoryStorage (50 : Nat).repr :=
    ⟨_, List.mem_singleton_self _, rfl⟩
  obtain ⟨-, p, still, named⟩ := pending_polls Demo.library Demo.behaviour dateText
    MemoryStorage.works trivial asked hidden count
  refine done p still ?_
  rw [callsOf_db, named]
  exact List.mem_map.mpr ⟨call 50, List.mem_map_of_mem (List.mem_range.mpr (by omega)), rfl⟩

end PollDemo

end PactNetwork.Client.Sdk
