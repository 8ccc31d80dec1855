import PactNetwork.Client.Storage
import PactNetwork.Requests.Webhook

/-!
# Settled events

The one sink that the poller and the webhook receiver of an SDK instance feed:
what it emits, what the listeners can do in the middle of it, and how often a
call is emitted while observations, polls and deliveries come in any order.
-/

set_option autoImplicit false

namespace PactNetwork.Client.Sdk

open Requests (Json JsonLibrary truthy)
open Requests.Webhook (Notification notification)

inductive SettledEvent
  | billed
  | refund
  deriving DecidableEq

structure Emission where
  event : SettledEvent
  callId : String
  slug : Option Json
  lamports : Int
  settledAt : Option Json
  txSignature : Option Json

/-- What a listener does that has an effect before it returns. A shutdown starts the
poller's last flush; other calls into the SDK only schedule something. -/
inductive Reaction
  | on (event : SettledEvent) (listener : Nat)
  | shutdown
  | throw

/-- How listeners react, given all that listeners were called with before. -/
abbrev Behaviour := List (Nat × Emission) → Nat → Emission → List Reaction

/-- An SDK instance: its storage, the calls the flush under way asked for, the
listeners, whom they were called with, what was emitted, and the calls settled. -/
structure Instance (σ : Type) where
  store : σ
  pendingIds : Option (List String)
  listeners : SettledEvent → List Nat
  invoked : List (Nat × Emission)
  emitted : List Emission
  processed : List String

inductive Event
  | on (event : SettledEvent) (listener : Nat)
  | observe (obs : PendingObservation)
  | flush
  | answer (body : Option Json)
  | deliver (payload : Json)

section

variable {σ : Type} (storage : ObservationStorage σ) (library : JsonLibrary)
  (behaviour : Behaviour)

def Instance.on (state : Instance σ) (event : SettledEvent) (listener : Nat) : Instance σ :=
  { state with
    listeners := fun other =>
      if other = event ∧ listener ∉ state.listeners event then state.listeners event ++ [listener]
      else state.listeners other }

/-- The part of a flush before its request is answered. -/
def Instance.startFlush (state : Instance σ) : Instance σ :=
  match state.pendingIds with
  | some _ => state
  | none =>
      match storage.loadPending state.store with
      | [] => state
      | pending => { state with pendingIds := some (pending.map fun p => p.callId) }

def Instance.react (state : Instance σ) : List Reaction → Instance σ
  | [] => state
  | .on event listener :: rest => (state.on event listener).react rest
  | .shutdown :: rest => (state.startFlush storage).react rest
  | .throw :: _ => state

def Instance.call (emission : Emission) (state : Instance σ) (listener : Nat) : Instance σ :=
  { state with invoked := state.invoked ++ [(listener, emission)] }.react storage
    (behaviour state.invoked listener emission)

/-- The listeners that are there when an event is emitted are called one by one. -/
def Instance.emit (state : Instance σ) (emission : Emission) : Instance σ :=
  (state.listeners emission.event).foldl (Instance.call storage behaviour emission)
    { state with emitted := state.emitted ++ [emission] }

def Instance.emitBilled (state : Instance σ) (callId : String) (n : Notification) : Instance σ :=
  if 0 < n.premiumLamports then
    state.emit storage behaviour
      ⟨.billed, callId, n.slug, n.premiumLamports, n.settledAt, n.txSignature⟩
  else state

def Instance.emitRefund (state : Instance σ) (callId : String) (n : Notification) : Instance σ :=
  if truthy n.breach && 0 < n.refundLamports then
    state.emit storage behaviour
      ⟨.refund, callId, n.slug, n.refundLamports, n.settledAt, n.txSignature⟩
  else state

def Instance.mark (state : Instance σ) (callId : String) : Instance σ :=
  { state with
    store := storage.markReconciled state.store callId
    processed := state.processed ++ [callId] }

def Instance.recordSettled (state : Instance σ) (n : Notification) : Instance σ :=
  match n.callId with
  | some (.string callId) =>
      if (storage.loadPending state.store).any fun p => p.callId = callId then
        ((state.emitBilled storage behaviour callId n).emitRefund storage behaviour callId n).mark
          storage callId
      else state
  | _ => state

/-- The rows of the indexer's answer, up to one that cannot be read. -/
def Instance.pollRows (pendingIds : List String) : List Json → Instance σ → Instance σ
  | [], state => state
  | row :: rows, state =>
      match notification library row with
      | none => state
      | some n =>
          match n.callId with
          | some (.string callId) =>
              if callId ∈ pendingIds then
                Instance.pollRows pendingIds rows (state.recordSettled storage behaviour n)
              else Instance.pollRows pendingIds rows state
          | _ => Instance.pollRows pendingIds rows state

def Instance.routeCalls : List Json → Instance σ → Instance σ
  | [], state => state
  | call :: calls, state =>
      match notification library call with
      | none => state
      | some n => Instance.routeCalls calls (state.recordSettled storage behaviour n)

def Instance.apply (state : Instance σ) : Event → Instance σ
  | .on event listener => state.on event listener
  | .observe obs =>
      { state with store := storage.append state.store { obs with reconciled := false } }
  | .flush => state.startFlush storage
  | .answer body =>
      match state.pendingIds, body with
      | some pendingIds, some (.array rows) =>
          { Instance.pollRows storage library behaviour pendingIds rows state with
            pendingIds := none }
      | _, _ => { state with pendingIds := none }
  | .deliver payload =>
      match payload.property "calls" with
      | some (some (.array calls)) => Instance.routeCalls storage library behaviour calls state
      | _ => state

end

/-! ## What listeners cannot change -/

section

variable {σ : Type} {storage : ObservationStorage σ} {library : JsonLibrary}
  {behaviour : Behaviour}

/-- Storage, emissions and settled calls are the same. -/
structure Instance.Same (before after : Instance σ) : Prop where
  store : after.store = before.store
  emitted : after.emitted = before.emitted
  processed : after.processed = before.processed

theorem Instance.Same.refl (state : Instance σ) : state.Same state := ⟨rfl, rfl, rfl⟩

theorem Instance.Same.trans {first second third : Instance σ} (left : first.Same second)
    (right : second.Same third) : first.Same third :=
  ⟨right.store.trans left.store, right.emitted.trans left.emitted,
    right.processed.trans left.processed⟩

theorem Instance.same_on (state : Instance σ) (event : SettledEvent) (listener : Nat) :
    state.Same (state.on event listener) := ⟨rfl, rfl, rfl⟩

theorem Instance.same_startFlush (state : Instance σ) :
    state.Same (state.startFlush storage) := by
  rw [startFlush]
  cases state.pendingIds with
  | some ids => exact .refl state
  | none =>
      dsimp only
      cases storage.loadPending state.store with
      | nil => exact .refl state
      | cons pending rest => exact ⟨rfl, rfl, rfl⟩

theorem Instance.same_react (state : Instance σ) (reactions : List Reaction) :
    state.Same (state.react storage reactions) := by
  induction reactions generalizing state with
  | nil => exact .refl state
  | cons reaction rest ih =>
      cases reaction with
      | on event listener => exact (state.same_on event listener).trans (ih _)
      | shutdown => exact state.same_startFlush.trans (ih _)
      | throw => exact .refl state

theorem Instance.same_calls (emission : Emission) (listeners : List Nat) (state : Instance σ) :
    state.Same (listeners.foldl (Instance.call storage behaviour emission) state) := by
  induction listeners generalizing state with
  | nil => exact .refl state
  | cons listener rest ih =>
      have called : { state with invoked := state.invoked ++ [(listener, emission)] }.Same
          (state.call storage behaviour emission listener) := Instance.same_react _ _
      exact Instance.Same.trans ⟨called.store, called.emitted, called.processed⟩ (ih _)

theorem Instance.same_emit (state : Instance σ) (emission : Emission) :
    { state with emitted := state.emitted ++ [emission] }.Same
      (state.emit storage behaviour emission) := Instance.same_calls _ _ _

/-! ## One settlement -/

def billed (callId : String) (n : Notification) : List Emission :=
  if 0 < n.premiumLamports then
    [⟨.billed, callId, n.slug, n.premiumLamports, n.settledAt, n.txSignature⟩]
  else []

def refunded (callId : String) (n : Notification) : List Emission :=
  if truthy n.breach && 0 < n.refundLamports then
    [⟨.refund, callId, n.slug, n.refundLamports, n.settledAt, n.txSignature⟩]
  else []

def emissions (callId : String) (n : Notification) : List Emission :=
  billed callId n ++ refunded callId n

theorem mem_emissions {callId : String} {n : Notification} {emission : Emission}
    (member : emission ∈ emissions callId n) : emission.callId = callId := by
  rcases List.mem_append.mp member with first | second
  · rw [billed] at first
    split at first
    · rw [List.mem_singleton.mp first]
    · cases first
  · rw [refunded] at second
    split at second
    · rw [List.mem_singleton.mp second]
    · cases second

theorem nodup_emissions (callId : String) (n : Notification) :
    ((emissions callId n).map fun e => (e.event, e.callId)).Nodup := by
  rw [emissions, billed, refunded]
  split
  · split
    · simp
    · simp
  · split
    · simp
    · simp

theorem Instance.same_emitBilled (state : Instance σ) (callId : String) (n : Notification) :
    { state with emitted := state.emitted ++ billed callId n }.Same
      (state.emitBilled storage behaviour callId n) := by
  rw [emitBilled, billed]
  split
  · exact state.same_emit _
  · rw [List.append_nil]
    exact .refl state

theorem Instance.same_emitRefund (state : Instance σ) (callId : String) (n : Notification) :
    { state with emitted := state.emitted ++ refunded callId n }.Same
      (state.emitRefund storage behaviour callId n) := by
  rw [emitRefund, refunded]
  split
  · exact state.same_emit _
  · rw [List.append_nil]
    exact .refl state

theorem Instance.same_emitBoth (state : Instance σ) (callId : String) (n : Notification) :
    { state with emitted := state.emitted ++ emissions callId n }.Same
      ((state.emitBilled storage behaviour callId n).emitRefund storage behaviour callId n) := by
  generalize afterBilled : state.emitBilled storage behaviour callId n = middle
  have first : { state with emitted := state.emitted ++ billed callId n }.Same middle :=
    afterBilled ▸ state.same_emitBilled callId n
  have second : { middle with emitted := middle.emitted ++ refunded callId n }.Same
      (middle.emitRefund storage behaviour callId n) := middle.same_emitRefund callId n
  refine ⟨second.store.trans first.store, ?_, second.processed.trans first.processed⟩
  rw [second.emitted]
  change _ ++ refunded callId n = state.emitted ++ (billed callId n ++ refunded callId n)
  rw [first.emitted, List.append_assoc]

theorem Instance.recordSettled_cases (state : Instance σ) (n : Notification) :
    state.recordSettled storage behaviour n = state ∨
      ∃ callId, (∃ p ∈ storage.loadPending state.store, p.callId = callId) ∧
        { state with
          store := storage.markReconciled state.store callId
          emitted := state.emitted ++ emissions callId n
          processed := state.processed ++ [callId] }.Same
            (state.recordSettled storage behaviour n) := by
  rw [recordSettled]
  split
  · rename_i callId _
    split
    · rename_i found
      obtain ⟨p, member, named⟩ := List.any_eq_true.mp found
      refine .inr ⟨callId, ⟨p, member, of_decide_eq_true named⟩, ?_⟩
      have both : { state with emitted := state.emitted ++ emissions callId n }.Same
          ((state.emitBilled storage behaviour callId n).emitRefund storage behaviour callId n) :=
        state.same_emitBoth callId n
      exact ⟨congrArg (storage.markReconciled · callId) both.store, both.emitted,
        congrArg (· ++ [callId]) both.processed⟩
    · exact .inl rfl
  · exact .inl rfl

end

/-! ## Runs -/

section

variable {σ : Type} (storage : ObservationStorage σ) (library : JsonLibrary)
  (behaviour : Behaviour) (good : σ → Prop) (content : σ → List PendingObservation)

def Instance.Initial (state : Instance σ) : Prop :=
  good state.store ∧ state.emitted = [] ∧ state.processed = []

def Instance.Clear (state : Instance σ) : Event → Prop
  | .observe obs => ∀ row ∈ content state.store, row.reconciled = true → row.callId ≠ obs.callId
  | .on _ _ | .flush | .answer _ | .deliver _ => True

def Instance.Step (clear : Instance σ → Event → Prop) (before after : Instance σ) : Prop :=
  ∃ event, clear before event ∧ after = before.apply storage library behaviour event

def Instance.Reached (clear : Instance σ → Event → Prop) : Instance σ → Prop :=
  Reachable (Instance.Initial good) (Instance.Step storage library behaviour clear)

/-- Every call is emitted at most once an event and only if it was observed, and a call
that was settled is not pending. -/
structure Instance.FiresOnce (state : Instance σ) : Prop where
  once : (state.emitted.map fun e => (e.event, e.callId)).Nodup
  observed : ∀ e ∈ state.emitted, ∃ row ∈ content state.store, row.callId = e.callId
  settled : ∀ callId ∈ state.processed, ∀ p ∈ storage.loadPending state.store, p.callId ≠ callId

end

section

variable {σ : Type} {storage : ObservationStorage σ} {library : JsonLibrary}
  {behaviour : Behaviour} {good : σ → Prop} {content : σ → List PendingObservation}

/-- What was settled is reconciled in storage, and what was emitted was settled. -/
structure Instance.Sound (good : σ → Prop) (content : σ → List PendingObservation)
    (state : Instance σ) : Prop where
  good : good state.store
  once : (state.emitted.map fun e => (e.event, e.callId)).Nodup
  emitted : ∀ e ∈ state.emitted, e.callId ∈ state.processed
  stored : ∀ callId ∈ state.processed, ∃ row ∈ content state.store,
    row.callId = callId ∧ row.reconciled = true
  reconciled : ∀ callId ∈ state.processed, ∀ row ∈ content state.store, row.callId = callId →
    row.reconciled = true

theorem Instance.Sound.same {before after : Instance σ} (sound : before.Sound good content)
    (same : before.Same after) : after.Sound good content where
  good := same.store ▸ sound.good
  once := same.emitted ▸ sound.once
  emitted := by
    rw [same.emitted, same.processed]
    exact sound.emitted
  stored := by
    rw [same.store, same.processed]
    exact sound.stored
  reconciled := by
    rw [same.store, same.processed]
    exact sound.reconciled

theorem reconcile_callId (callId : String) (row : PendingObservation) :
    (FsObservationBuffer.reconcile callId row).callId = row.callId := by
  rw [FsObservationBuffer.reconcile]
  split
  · rfl
  · rfl

theorem reconcile_reconciled {callId : String} {row : PendingObservation} :
    (FsObservationBuffer.reconcile callId row).reconciled = true ↔
      row.reconciled = true ∨ row.callId = callId := by
  rw [FsObservationBuffer.reconcile]
  split
  · rename_i both
    simp [both.1]
  · rename_i neither
    constructor
    · exact .inl
    · rintro (already | named)
      · exact already
      · exact Bool.eq_true_of_not_eq_false fun pending => neither ⟨named, pending⟩

section

variable (works : storage.Works good content)

include works

theorem Instance.Sound.settle {state : Instance σ} (sound : state.Sound good content)
    (n : Notification) : (state.recordSettled storage behaviour n).Sound good content := by
  have cases : state.recordSettled storage behaviour n = state ∨ _ := state.recordSettled_cases n
  rcases cases with same | ⟨callId, ⟨p, pending, named⟩, same⟩
  · rwa [same]
  refine Instance.Sound.same ?_ same
  rw [works.loadPending state.store sound.good, List.mem_filter] at pending
  have fresh : callId ∉ state.processed := by
    intro old
    have reconciled := sound.reconciled callId old p pending.1 named
    rw [reconciled] at pending
    exact Bool.false_ne_true pending.2
  obtain ⟨kept, marked⟩ := works.markReconciled state.store callId sound.good
  refine ⟨kept, ?_, ?_, ?_, ?_⟩
  · rw [List.map_append, List.nodup_append]
    refine ⟨sound.once, nodup_emissions callId n, ?_⟩
    rintro left old right new rfl
    obtain ⟨first, inFirst, rfl⟩ := List.mem_map.mp old
    obtain ⟨second, inSecond, same⟩ := List.mem_map.mp new
    have id : first.callId = callId :=
      (congrArg Prod.snd same).symm.trans (mem_emissions inSecond)
    exact fresh (id ▸ sound.emitted first inFirst)
  · intro e member
    rcases List.mem_append.mp member with old | new
    · exact List.mem_append_left _ (sound.emitted e old)
    · exact List.mem_append_right _ (mem_emissions new ▸ List.mem_singleton_self _)
  · intro settled member
    rw [marked]
    rcases List.mem_append.mp member with old | new
    · obtain ⟨row, inside, id, reconciled⟩ := sound.stored settled old
      exact ⟨_, List.mem_map_of_mem inside, (reconcile_callId callId row).trans id,
        reconcile_reconciled.mpr (.inl reconciled)⟩
    · rw [List.mem_singleton.mp new]
      exact ⟨_, List.mem_map_of_mem pending.1, (reconcile_callId callId p).trans named,
        reconcile_reconciled.mpr (.inr named)⟩
  · intro settled member row inside id
    rw [marked] at inside
    obtain ⟨old, stored, rfl⟩ := List.mem_map.mp inside
    rw [reconcile_callId] at id
    rw [reconcile_reconciled]
    rcases List.mem_append.mp member with earlier | new
    · exact .inl (sound.reconciled settled earlier old stored id)
    · exact .inr (id.trans (List.mem_singleton.mp new))

theorem Instance.Sound.pollRows (pendingIds : List String) (rows : List Json)
    {state : Instance σ} (sound : state.Sound good content) :
    (Instance.pollRows storage library behaviour pendingIds rows state).Sound good content := by
  induction rows generalizing state with
  | nil => exact sound
  | cons row rows ih =>
      rw [Instance.pollRows]
      cases notification library row with
      | none => exact sound
      | some n =>
          dsimp only
          split
          · split
            · exact ih (sound.settle works n)
            · exact ih sound
          · exact ih sound

theorem Instance.Sound.routeCalls (calls : List Json) {state : Instance σ}
    (sound : state.Sound good content) :
    (Instance.routeCalls storage library behaviour calls state).Sound good content := by
  induction calls generalizing state with
  | nil => exact sound
  | cons call calls ih =>
      rw [Instance.routeCalls]
      cases notification library call with
      | none => exact sound
      | some n => exact ih (sound.settle works n)

theorem Instance.Sound.observe {state : Instance σ} (sound : state.Sound good content)
    {obs : PendingObservation} (clear : state.Clear content (.observe obs)) :
    (state.apply storage library behaviour (.observe obs)).Sound good content := by
  obtain ⟨kept, appended⟩ :=
    works.append state.store { obs with reconciled := false } sound.good
  refine ⟨kept, sound.once, sound.emitted, ?_, ?_⟩
  · intro callId member
    obtain ⟨row, inside, both⟩ := sound.stored callId member
    refine ⟨row, ?_, both⟩
    exact appended ▸ List.mem_append_left _ inside
  · intro callId member row inside id
    have parts : row ∈ content state.store ++ [{ obs with reconciled := false }] :=
      appended ▸ inside
    rcases List.mem_append.mp parts with old | new
    · exact sound.reconciled callId member row old id
    · obtain ⟨settled, stored, named, reconciled⟩ := sound.stored callId member
      rw [List.mem_singleton.mp new] at id
      exact absurd (named.trans id.symm) (clear settled stored reconciled)

theorem Instance.Sound.step {before after : Instance σ} (sound : before.Sound good content)
    (moves : Instance.Step storage library behaviour (Instance.Clear content) before after) :
    after.Sound good content := by
  obtain ⟨event, clear, rfl⟩ := moves
  cases event with
  | on event listener => exact sound.same (before.same_on event listener)
  | observe obs => exact sound.observe works clear
  | flush => exact sound.same before.same_startFlush
  | answer body =>
      simp only [Instance.apply]
      split
      · rename_i pendingIds rows _
        exact (sound.pollRows works pendingIds rows).same ⟨rfl, rfl, rfl⟩
      · exact sound.same ⟨rfl, rfl, rfl⟩
  | deliver payload =>
      simp only [Instance.apply]
      split
      · exact sound.routeCalls works _
      · exact sound

/-- Whatever order observations, polls and deliveries come in and whatever listeners
do, a call is emitted once. -/
theorem fires_once {state : Instance σ}
    (reached : Instance.Reached storage library behaviour good (Instance.Clear content) state) :
    state.FiresOnce storage content := by
  have sound := Reachable.invariant (Instance.Sound good content) reached ?_
    fun _ _ sound moves => sound.step works moves
  · refine ⟨sound.once, ?_, ?_⟩
    · intro e member
      obtain ⟨row, inside, named, -⟩ := sound.stored e.callId (sound.emitted e member)
      exact ⟨row, inside, named⟩
    · intro callId member p pending named
      rw [works.loadPending state.store sound.good, List.mem_filter] at pending
      rw [sound.reconciled callId member p pending.1 named] at pending
      exact Bool.false_ne_true pending.2
  · rintro first ⟨good, emitted, processed⟩
    refine ⟨good, ?_, ?_, ?_, ?_⟩
    · rw [emitted]
      exact List.nodup_nil
    · rw [emitted]
      exact fun _ member => absurd member List.not_mem_nil
    · rw [processed]
      exact fun _ member => absurd member List.not_mem_nil
    · rw [processed]
      exact fun _ member => absurd member List.not_mem_nil

end

end

/-! ## A call observed twice -/

namespace Demo

def library : JsonLibrary where
  stringify _ := ""
  parse _ := none
  bigInt value :=
    match value with
    | some (.string "1000") => some 1000
    | _ => none
  number _ := none

def behaviour : Behaviour := fun _ _ _ => [.throw]

def observation : PendingObservation :=
  ⟨"call", "agent", "demo", "api.demo", "2026", none, none, none, none, false⟩

def settledCall : Json :=
  .object [("callId", .string "call"), ("endpointSlug", .string "demo"),
    ("premiumLamports", .string "1000"), ("refundLamports", .string "0"),
    ("breach", .bool false), ("settledAt", .string "2026"), ("signature", .string "sig")]

def delivery : Event := .deliver (.object [("calls", .array [settledCall])])

def start : Instance (List PendingObservation) := ⟨[], none, fun _ => [], [], [], []⟩

def after (events : List Event) : Instance (List PendingObservation) :=
  events.foldl (Instance.apply MemoryStorage library behaviour) start

theorem start_reached (clear : Instance (List PendingObservation) → Event → Prop) :
    Instance.Reached MemoryStorage library behaviour (fun _ => True) clear start :=
  .start ⟨trivial, rfl, rfl⟩

theorem fires_once_demo : (after [.observe observation, delivery]).FiresOnce MemoryStorage id := by
  have observed : Instance.Reached MemoryStorage library behaviour (fun _ => True)
      (Instance.Clear id) (after [.observe observation]) :=
    .next (start_reached _) ⟨.observe observation, fun _ member => absurd member List.not_mem_nil,
      rfl⟩
  exact fires_once MemoryStorage.works (.next observed ⟨delivery, trivial, rfl⟩)

/-- The gateway gives the id of a settled call again: it is observed, and billed, twice. -/
theorem not_fires_once : ¬∀ state, Instance.Reached MemoryStorage library behaviour
    (fun _ => True) (fun _ _ => True) state → state.FiresOnce MemoryStorage id := by
  intro claim
  have step : ∀ {state}, Instance.Reached MemoryStorage library behaviour (fun _ => True)
      (fun _ _ => True) state → ∀ event, Instance.Reached MemoryStorage library behaviour
        (fun _ => True) (fun _ _ => True)
          (state.apply MemoryStorage library behaviour event) :=
    fun reached event => reached.next ⟨event, trivial, rfl⟩
  have twice := claim _ (step (step (step (step (start_reached _) (.observe observation)) delivery)
    (.observe observation)) delivery)
  exact absurd twice.once (by decide +kernel)

end Demo

end PactNetwork.Client.Sdk
