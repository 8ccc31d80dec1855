import PactNetwork.Foundation.Grouping
import PactNetwork.Foundation.Traces
import PactNetwork.Settler.MessageData
import PactNetwork.Settler.Pipeline

/-!
# The batcher on its event loop

`BatcherService` with its timer handle, the timers of the loop and the calls of the
flush callback. A turn of the loop runs to its end: `flush` dispatches all its groups
before its first `await`. The callback is an async function, which fails by rejecting.
-/

set_option autoImplicit false

namespace PactNetwork.Settler.Batching

open V1Client (ClientError)
open Grouping (only)

/-- `typeof value === "string" ? value : fallback`. -/
def stringOr (fallback : String) : Json → String
  | .string text => text
  | _ => fallback

structure SettleMessage where
  id : String
  network : Json
  data : MessageData
  deriving DecidableEq

namespace SettleMessage

def key (message : SettleMessage) : String × String :=
  (stringOr "solana-devnet" message.network, stringOr "" message.data.endpointSlug)

def premium (runtime : Runtime) (message : SettleMessage) : Except ClientError Int :=
  runtime.toBigInt (message.data.premiumLamports.orElse (.string "0"))

def Charged (runtime : Runtime) (message : SettleMessage) : Prop :=
  ∃ premium, message.premium runtime = .ok premium ∧ premium ≠ 0

instance (runtime : Runtime) (message : SettleMessage) : Decidable (message.Charged runtime) :=
  match found : message.premium runtime with
  | .error _ => .isFalse fun ⟨_, read, _⟩ => nomatch found.symm.trans read
  | .ok premium => decidable_of_iff (premium ≠ 0)
      ⟨fun differs => ⟨premium, found, differs⟩, fun ⟨_, read, differs⟩ => by
        rw [found] at read
        exact Except.ok.inj read ▸ differs⟩

end SettleMessage

inductive Settled where
  | fulfilled
  | rejected
  deriving DecidableEq

/-- A call of the flush callback. `none` is a promise that has not settled. -/
structure Call where
  messages : List SettleMessage
  result : Option Settled
  deriving DecidableEq

structure World where
  pending : List SettleMessage
  flushTimer : Option Nat
  onFlush : Bool
  /-- The timers that have neither fired nor been cleared. -/
  timers : List Nat
  /-- How many timers were ever set; the next one gets this handle. -/
  timersSet : Nat
  calls : List Call
  acked : List SettleMessage
  deriving DecidableEq

namespace World

def constructed : World := ⟨[], none, false, [], 0, [], []⟩

def setTimer (world : World) : World :=
  { world with
    flushTimer := some world.timersSet
    timers := world.timers ++ [world.timersSet]
    timersSet := world.timersSet + 1 }

def cancelTimer (world : World) : World :=
  match world.flushTimer with
  | none => world
  | some timer => { world with flushTimer := none, timers := world.timers.erase timer }

def dispatch (batches : List (List SettleMessage)) (world : World) : World :=
  { world with calls := world.calls ++ batches.map fun batch => ⟨batch, none⟩ }

def flush (world : World) : World :=
  let cancelled := world.cancelTimer
  if cancelled.pending.length = 0 then cancelled
  else
    let emptied := { cancelled with pending := [] }
    if emptied.onFlush then
      emptied.dispatch (Grouping.partition SettleMessage.key cancelled.pending)
    else emptied

def enqueue (message : SettleMessage) (world : World) : World :=
  let queued := { world with pending := world.pending ++ [message] }
  if queued.pending.length = 1 then queued.setTimer else queued

/-- `push` throws when the premium does not parse. -/
def push (runtime : Runtime) (message : SettleMessage) (world : World) :
    Except ClientError World := do
  let premium ← message.premium runtime
  if premium = 0 then .ok { world with acked := world.acked ++ [message] }
  else
    let queued := world.enqueue message
    .ok (if queued.pending.length ≥ maxBatchSize then queued.cancelTimer.flush else queued)

end World

inductive Turn where
  | setFlushCallback
  | push (message : SettleMessage)
  | timer (handle : Nat)
  /-- `flush` or `flushNow`, called from outside. -/
  | flush
  /-- The promise of a callback settles. -/
  | settle (call : Nat) (result : Settled)
  deriving DecidableEq

def Turn.Possible (world : World) : Turn → Prop
  | .timer handle => handle ∈ world.timers
  | .settle call _ => ∃ messages, world.calls[call]? = some ⟨messages, none⟩
  | _ => True

def Turn.apply (runtime : Runtime) (world : World) : Turn → World
  | .setFlushCallback => { world with onFlush := true }
  | .push message =>
      match world.push runtime message with
      | .ok next => next
      | .error _ => world
  | .timer handle => World.flush { world with timers := world.timers.erase handle }
  | .flush => world.flush
  | .settle call result =>
      { world with calls := world.calls.modify call fun entry =>
          { entry with result := some result } }

def Turn.charged (runtime : Runtime) : Turn → List SettleMessage
  | .push message => if message.Charged runtime then [message] else []
  | _ => []

abbrev Reached (runtime : Runtime) : World → Prop :=
  Reachable (· = World.constructed) (Fires (Turn.apply runtime) Turn.Possible)

/-! ## Between turns -/

/-- The queue is below its limit, and the one timer is set while it is not empty. -/
structure Sound (world : World) : Prop where
  below : world.pending.length < maxBatchSize
  single : world.timers = world.flushTimer.toList
  armed : world.flushTimer.isSome ↔ world.pending ≠ []

structure Idle (world : World) : Prop where
  empty : world.pending = []
  unset : world.flushTimer = none
  silent : world.timers = []

theorem Idle.sound {world : World} (idle : Idle world) : Sound world where
  below := by
    rw [idle.empty]
    exact Nat.zero_lt_succ _
  single := by rw [idle.silent, idle.unset, Option.toList_none]
  armed := by simp [idle.unset, idle.empty]

section Parts

variable {world : World}

@[simp] theorem World.pending_cancelTimer : world.cancelTimer.pending = world.pending := by
  unfold World.cancelTimer
  split <;> rfl

@[simp] theorem World.calls_cancelTimer : world.cancelTimer.calls = world.calls := by
  unfold World.cancelTimer
  split <;> rfl

@[simp] theorem World.onFlush_cancelTimer : world.cancelTimer.onFlush = world.onFlush := by
  unfold World.cancelTimer
  split <;> rfl

theorem World.flushTimer_cancelTimer : world.cancelTimer.flushTimer = none := by
  cases stored : world.flushTimer with
  | none => rw [World.cancelTimer, stored, stored]
  | some timer => rw [World.cancelTimer, stored]

theorem World.timers_cancelTimer (handled : world.timers.Sublist world.flushTimer.toList) :
    world.cancelTimer.timers = [] := by
  cases stored : world.flushTimer with
  | none =>
      rw [stored, Option.toList_none, List.sublist_nil] at handled
      rw [World.cancelTimer, stored, handled]
  | some timer =>
      rw [stored, Option.toList_some, List.sublist_singleton] at handled
      rw [World.cancelTimer, stored]
      cases handled with
      | inl none => simp [none]
      | inr alone => simp [alone]

/-- `flush` after its timer is cancelled: the messages it takes go out in batches. -/
theorem World.flush_spec : world.flush =
    { world.cancelTimer with
      pending := []
      calls := world.calls ++ (if world.onFlush then
        (Grouping.partition SettleMessage.key world.pending).map (⟨·, none⟩) else []) } := by
  unfold World.flush
  cases pending : world.pending with
  | nil =>
      have same : world.cancelTimer.pending = [] := World.pending_cancelTimer.trans pending
      have none : (if world.onFlush then
          (Grouping.partition SettleMessage.key []).map fun batch => Call.mk batch none else []) =
            [] := by
        split <;> rfl
      simp only [same, List.length_nil, ↓reduceIte, none, List.append_nil]
      rw [← World.calls_cancelTimer, ← same]
  | cons first rest =>
      simp only [World.pending_cancelTimer, pending, List.length_cons, Nat.add_eq_zero_iff,
        Nat.one_ne_zero, and_false, ↓reduceIte, World.onFlush_cancelTimer]
      cases set : world.onFlush with
      | false => simp
      | true => simp [World.dispatch]

theorem World.flush_idle (handled : world.timers.Sublist world.flushTimer.toList) :
    Idle world.flush := by
  rw [World.flush_spec]
  exact ⟨rfl, World.flushTimer_cancelTimer, World.timers_cancelTimer handled⟩

@[simp] theorem World.pending_enqueue (message : SettleMessage) :
    (world.enqueue message).pending = world.pending ++ [message] := by
  dsimp only [World.enqueue, World.setTimer]
  split <;> rfl

@[simp] theorem World.calls_enqueue (message : SettleMessage) :
    (world.enqueue message).calls = world.calls := by
  dsimp only [World.enqueue, World.setTimer]
  split <;> rfl

@[simp] theorem World.onFlush_enqueue (message : SettleMessage) :
    (world.enqueue message).onFlush = world.onFlush := by
  dsimp only [World.enqueue, World.setTimer]
  split <;> rfl

theorem Sound.timer_enqueue (sound : Sound world) (message : SettleMessage) :
    ∃ timer, (world.enqueue message).flushTimer = some timer ∧
      (world.enqueue message).timers = [timer] := by
  unfold World.enqueue
  by_cases first : world.pending = []
  · have unset : world.flushTimer = none := by
      cases stored : world.flushTimer with
      | none => rfl
      | some timer => exact absurd first (sound.armed.mp (by rw [stored]; rfl))
    refine ⟨world.timersSet, ?_, ?_⟩
    · simp [first, World.setTimer]
    · simp [first, World.setTimer, sound.single, unset]
  · obtain ⟨timer, stored⟩ := Option.isSome_iff_exists.mp (sound.armed.mpr first)
    refine ⟨timer, ?_, ?_⟩
    · simp [first, stored]
    · simp [first, sound.single, stored]

theorem Sound.enqueue (sound : Sound world) {message : SettleMessage}
    (below : (world.enqueue message).pending.length < maxBatchSize) :
    Sound (world.enqueue message) := by
  obtain ⟨timer, stored, alone⟩ := sound.timer_enqueue message
  refine ⟨below, ?_, ?_⟩
  · rw [stored, alone, Option.toList_some]
  · simp [stored]

end Parts

/-! ## What a turn does -/

section Turns

variable {runtime : Runtime} {world before after : World}

theorem World.push_of_charged {message : SettleMessage} (charged : message.Charged runtime) :
    world.push runtime message = .ok
      (if (world.enqueue message).pending.length ≥ maxBatchSize then
        (world.enqueue message).cancelTimer.flush
      else world.enqueue message) := by
  obtain ⟨premium, read, differs⟩ := charged
  rw [World.push, read]
  exact if_neg differs

theorem World.push_of_not_charged {message : SettleMessage} {next : World}
    (skipped : ¬message.Charged runtime) (pushed : world.push runtime message = .ok next) :
    next = { world with acked := world.acked ++ [message] } := by
  obtain ⟨premium, read, pushed⟩ := (bind_eq_ok _ _ _).mp pushed
  by_cases zero : premium = 0
  · rw [if_pos zero] at pushed
    exact (Except.ok.inj pushed).symm
  · exact absurd ⟨premium, read, zero⟩ skipped

theorem Sound.push (sound : Sound world) (message : SettleMessage) :
    Sound (Turn.apply runtime world (.push message)) := by
  by_cases charged : message.Charged runtime
  · simp only [Turn.apply, World.push_of_charged charged]
    by_cases full : (world.enqueue message).pending.length ≥ maxBatchSize
    · obtain ⟨timer, stored, alone⟩ := sound.timer_enqueue message
      have handled : (world.enqueue message).timers.Sublist
          (world.enqueue message).flushTimer.toList := by
        rw [stored, alone, Option.toList_some]
      rw [if_pos full]
      refine (World.flush_idle ?_).sound
      rw [World.timers_cancelTimer handled]
      exact List.nil_sublist _
    · rw [if_neg full]
      exact sound.enqueue (Nat.lt_of_not_ge full)
  · cases pushed : world.push runtime message with
    | error failure => simpa only [Turn.apply, pushed] using sound
    | ok next =>
        simp only [Turn.apply, pushed, World.push_of_not_charged charged pushed]
        exact ⟨sound.below, sound.single, sound.armed⟩

theorem Sound.apply (sound : Sound world) (turn : Turn) : Sound (turn.apply runtime world) := by
  cases turn with
  | setFlushCallback => exact ⟨sound.below, sound.single, sound.armed⟩
  | push message => exact sound.push message
  | timer handle =>
      refine (World.flush_idle ?_).sound
      rw [sound.single]
      exact List.erase_sublist
  | flush => exact (World.flush_idle (by rw [sound.single])).sound
  | settle call result => exact ⟨sound.below, sound.single, sound.armed⟩

theorem sound_of_reached (reached : Reached runtime world) : Sound world := by
  refine reached.fires Sound ?_ fun before turn sound _ => sound.apply turn
  intro first same
  rw [same]
  exact (Idle.mk rfl rfl rfl).sound

/-- From one state to another the callback got these batches: key by key, the messages
queued before or pushed since are those sent out and those still queued, in order. -/
structure Emits (before : World) (pushed : List SettleMessage)
    (emitted : List (List SettleMessage)) (after : World) : Prop where
  called : after.calls.map Call.messages = before.calls.map Call.messages ++ emitted
  ordered : ∀ key, only SettleMessage.key key (before.pending ++ pushed) =
    only SettleMessage.key key (emitted.flatten ++ after.pending)
  formed : ∀ batch ∈ emitted, batch ≠ [] ∧ batch.length ≤ maxBatchSize ∧
    ∃ key, ∀ message ∈ batch, message.key = key

theorem Emits.quiet (called : after.calls.map Call.messages = before.calls.map Call.messages)
    (pending : after.pending = before.pending) : Emits before [] [] after where
  called := by rw [called, List.append_nil]
  ordered key := by rw [pending, List.append_nil, List.flatten_nil, List.nil_append]
  formed _ member := absurd member List.not_mem_nil

theorem Emits.trans {middle : World} {first second : List SettleMessage}
    {early late : List (List SettleMessage)} (front : Emits before first early middle)
    (back : Emits middle second late after) :
    Emits before (first ++ second) (early ++ late) after where
  called := by rw [back.called, front.called, List.append_assoc]
  ordered key := by
    have one := front.ordered key
    have two := back.ordered key
    simp only [Grouping.only_append] at one two
    simp only [Grouping.only_append, List.flatten_append, List.append_assoc, ← two]
    simp only [← List.append_assoc, one]
  formed batch member := (List.mem_append.mp member).elim (front.formed batch) (back.formed batch)

theorem World.flush_emits (set : world.onFlush = true)
    (bounded : world.pending.length ≤ maxBatchSize) :
    Emits world [] (Grouping.partition SettleMessage.key world.pending) world.flush where
  called := by
    simp only [World.flush_spec, set, ↓reduceIte, List.map_append, List.map_map]
    exact congrArg _ (List.map_id _)
  ordered key := by
    simp only [World.flush_spec, List.append_nil]
    exact (Grouping.only_partition key _).symm
  formed batch member :=
    ⟨Grouping.ne_nil_of_mem_partition member,
      (Grouping.length_of_mem_partition member).trans bounded,
      Grouping.keyed_of_mem_partition member⟩

theorem Sound.push_emits (sound : Sound world) (set : world.onFlush = true)
    (message : SettleMessage) :
    ∃ emitted, Emits world (Turn.charged runtime (.push message)) emitted
      (Turn.apply runtime world (.push message)) := by
  by_cases charged : message.Charged runtime
  · have queued : Emits world [message] [] (world.enqueue message) := by
      refine ⟨?_, fun key => ?_, fun _ member => absurd member List.not_mem_nil⟩
      · rw [World.calls_enqueue, List.append_nil]
      · rw [World.pending_enqueue, List.flatten_nil, List.nil_append]
    simp only [Turn.apply, Turn.charged, World.push_of_charged charged, if_pos charged]
    by_cases full : (world.enqueue message).pending.length ≥ maxBatchSize
    · have cancelled : Emits (world.enqueue message) [] [] (world.enqueue message).cancelTimer :=
        .quiet (by rw [World.calls_cancelTimer]) World.pending_cancelTimer
      have bounded : (world.enqueue message).cancelTimer.pending.length ≤ maxBatchSize := by
        rw [World.pending_cancelTimer, World.pending_enqueue, List.length_append]
        exact sound.below
      have flushed := World.flush_emits (by simpa using set) bounded
      rw [if_pos full]
      exact ⟨_, (queued.trans cancelled).trans flushed⟩
    · rw [if_neg full]
      exact ⟨[], queued⟩
  · refine ⟨[], ?_⟩
    simp only [Turn.charged, if_neg charged]
    cases pushed : world.push runtime message with
    | error failure =>
        simp only [Turn.apply, pushed]
        exact .quiet rfl rfl
    | ok next =>
        simp only [Turn.apply, pushed, World.push_of_not_charged charged pushed]
        exact .quiet rfl rfl

theorem Sound.emits (sound : Sound world) (set : world.onFlush = true) (turn : Turn) :
    ∃ emitted, Emits world (turn.charged runtime) emitted (turn.apply runtime world) := by
  cases turn with
  | setFlushCallback => exact ⟨[], .quiet rfl rfl⟩
  | push message => exact sound.push_emits set message
  | timer handle =>
      have fired : Emits world [] [] { world with timers := world.timers.erase handle } :=
        .quiet rfl rfl
      exact ⟨_, fired.trans (World.flush_emits set sound.below.le)⟩
  | flush => exact ⟨_, World.flush_emits set sound.below.le⟩
  | settle call result =>
      refine ⟨[], .quiet ?_ rfl⟩
      refine List.ext_getElem? fun index => ?_
      simp only [Turn.apply, List.getElem?_map, List.getElem?_modify]
      cases world.calls[index]? with
      | none => rfl
      | some entry =>
          by_cases here : call = index
          · simp [here]
          · simp [here]

theorem Turn.onFlush_apply (set : world.onFlush = true) (turn : Turn) :
    (turn.apply runtime world).onFlush = true := by
  cases turn with
  | setFlushCallback => rfl
  | push message =>
      simp only [Turn.apply]
      by_cases charged : message.Charged runtime
      · rw [World.push_of_charged charged]
        dsimp only
        split <;> simp [World.flush_spec, set]
      · cases pushed : world.push runtime message with
        | error failure => exact set
        | ok next =>
            rw [World.push_of_not_charged charged pushed]
            exact set
  | timer handle => simp [Turn.apply, World.flush_spec, set]
  | flush => simp [Turn.apply, World.flush_spec, set]
  | settle call result => exact set

end Turns

/-! ## Runs -/

def charged (runtime : Runtime) (turns : List Turn) : List SettleMessage :=
  turns.flatMap (Turn.charged runtime)

theorem Sound.run {world : World} (sound : Sound world) (runtime : Runtime)
    (set : world.onFlush = true) (turns : List Turn) :
    ∃ emitted, Emits world (charged runtime turns) emitted
      (turns.foldl (Turn.apply runtime) world) := by
  induction turns generalizing world with
  | nil => exact ⟨[], .quiet rfl rfl⟩
  | cons turn turns ih =>
      obtain ⟨early, first⟩ := sound.emits set turn
      obtain ⟨late, rest⟩ := ih (sound.apply turn) (turn.onFlush_apply set)
      exact ⟨early ++ late, first.trans rest⟩

/-- Once the callback is set, a message that is pushed goes out in one batch or waits
for the timer that is set, in the order of its network and slug. -/
theorem pushed_once {runtime : Runtime} {before : World} (reached : Reached runtime before)
    (set : before.onFlush = true) (turns : List Turn)
    (possible : Allows (Turn.apply runtime) Turn.Possible before turns) :
    let after := turns.foldl (Turn.apply runtime) before
    ∃ emitted, after.calls.map Call.messages = before.calls.map Call.messages ++ emitted ∧
      (before.pending ++ charged runtime turns).Perm (emitted.flatten ++ after.pending) ∧
      (∀ key, only SettleMessage.key key (before.pending ++ charged runtime turns) =
        only SettleMessage.key key (emitted.flatten ++ after.pending)) ∧
      (after.pending ≠ [] → ∃ timer, after.flushTimer = some timer ∧ after.timers = [timer]) ∧
      ∀ batch ∈ emitted, batch ≠ [] ∧ batch.length ≤ maxBatchSize ∧
        ∃ key, ∀ message ∈ batch, message.key = key := by
  obtain ⟨emitted, emits⟩ := (sound_of_reached reached).run runtime set turns
  have sound := sound_of_reached (reached.replay turns possible)
  refine ⟨emitted, emits.called, Grouping.perm_of_only_eq emits.ordered, emits.ordered, ?_,
    emits.formed⟩
  intro waiting
  obtain ⟨timer, stored⟩ := Option.isSome_iff_exists.mp (sound.armed.mpr waiting)
  refine ⟨timer, stored, ?_⟩
  rw [sound.single, stored, Option.toList_some]

namespace Demo

def runtime : Runtime where
  bigInt text := [("0", 0), ("1000", 1000)].lookup text
  number _ := none
  dateParse _ := none

def message (id : String) (network : Json) : SettleMessage where
  id := id
  network := network
  data := {
    endpointSlug := .string "helius"
    callId := .string "00000000-0000-0000-0000-000000000001"
    agentPubkey := .string "11111111111111111111111111111111"
    premiumLamports := .string "1000"
    refundLamports := .string "0"
    latencyMs := .number 100
    outcome := .string "ok"
    ts := .undefined
    timestamp := .number 1700000000 }

def listening : World := { World.constructed with onFlush := true }

/-- Two networks fill a batch, one of the two calls is rejected, and a message follows. -/
def turns : List Turn :=
  [.push (message "a" .undefined), .push (message "b" (.string "arc")),
    .push (message "c" .undefined), .settle 0 .rejected, .push (message "d" .undefined)]

theorem listening_reached : Reached runtime listening :=
  .next (.start rfl) ⟨.setFlushCallback, trivial, rfl⟩

theorem turns_possible : Allows (Turn.apply runtime) Turn.Possible listening turns :=
  ⟨trivial, trivial, trivial, ⟨[message "a" .undefined, message "c" .undefined], by decide +kernel⟩,
    trivial, trivial⟩

end Demo

open Demo in
theorem pushed_once_demo :
    let after := turns.foldl (Turn.apply runtime) listening
    (charged runtime turns).Perm
        ([message "a" .undefined, message "c" .undefined, message "b" (.string "arc")] ++
          [message "d" .undefined]) ∧
      ∃ timer, after.flushTimer = some timer ∧ after.timers = [timer] := by
  obtain ⟨emitted, called, conserved, -, armed, -⟩ :=
    pushed_once listening_reached rfl turns turns_possible
  have sent : (turns.foldl (Turn.apply runtime) listening).calls.map Call.messages =
      [[message "a" .undefined, message "c" .undefined], [message "b" (.string "arc")]] := by
    decide +kernel
  have waiting : (turns.foldl (Turn.apply runtime) listening).pending =
      [message "d" .undefined] := by
    decide +kernel
  have batches : emitted = _ := called.symm.trans sent
  rw [batches, waiting] at conserved
  exact ⟨conserved, armed (by rw [waiting]; exact List.cons_ne_nil _ _)⟩

/-! ## The pipeline's batcher -/

theorem addToGroup_eq (message : Message) (groups : List ((String × String) × List Message)) :
    addToGroup message groups = Grouping.insert Message.key message groups := by
  induction groups with
  | nil => rfl
  | cons first rest ih => rw [addToGroup, Grouping.insert, ih]

theorem partitionByKey_eq (messages : List Message) :
    partitionByKey messages = Grouping.partition Message.key messages := by
  have step : (fun groups message => addToGroup message groups) =
      fun groups message => Grouping.insert Message.key message groups := by
    funext groups message
    exact addToGroup_eq message groups
  rw [partitionByKey, step]
  rfl

section Refinement

variable {runtime : Runtime} {world : World} (read : SettleMessage → Message)

/-- The batcher as the pipeline has it: whether a timer is set, but not which. -/
def World.batcher (world : World) : Batcher :=
  ⟨world.pending.map read, world.flushTimer.isSome⟩

variable {read} (keyed : ∀ message, (read message).key = message.key)

include keyed

theorem flush_refines (world : World) (set : world.onFlush = true) :
    ∃ batches : List (List SettleMessage), (world.batcher read).flush =
        (world.flush.batcher read, batches.map (List.map read)) ∧
      world.flush.calls = world.calls ++ batches.map (⟨·, none⟩) := by
  refine ⟨Grouping.partition SettleMessage.key world.pending, ?_, ?_⟩
  · rw [Batcher.flush, World.batcher, partitionByKey_eq, Grouping.partition_map keyed]
    simp [World.flush_spec, World.batcher, World.flushTimer_cancelTimer]
  · simp [World.flush_spec, set]

theorem push_refines (sound : Sound world) (set : world.onFlush = true) {message : SettleMessage}
    (charged : message.Charged runtime) :
    ∃ batches : List (List SettleMessage), (world.batcher read).push (read message) =
        ((Turn.apply runtime world (.push message)).batcher read, batches.map (List.map read)) ∧
      (Turn.apply runtime world (.push message)).calls =
        world.calls ++ batches.map (⟨·, none⟩) := by
  obtain ⟨timer, stored, -⟩ := sound.timer_enqueue message
  have queued : (world.enqueue message).batcher read =
      ⟨(world.batcher read).pending ++ [read message], true⟩ := by
    simp [World.batcher, stored]
  have armed : (if ((world.batcher read).pending ++ [read message]).length = 1 then true
      else (world.batcher read).timerArmed) = true := by
    by_cases first : world.pending = []
    · simp [World.batcher, first]
    · simp [World.batcher, sound.armed.mpr first]
  have size : ((world.batcher read).pending ++ [read message]).length =
      (world.enqueue message).pending.length := by
    simp [World.batcher]
  simp only [Turn.apply, World.push_of_charged charged]
  by_cases full : (world.enqueue message).pending.length ≥ maxBatchSize
  · have cancelled : ((world.enqueue message).cancelTimer.batcher read).flush =
        Batcher.flush ⟨(world.batcher read).pending ++ [read message], true⟩ := by
      simp [World.batcher, Batcher.flush]
    obtain ⟨batches, flushed, called⟩ :=
      flush_refines keyed (world.enqueue message).cancelTimer (by simpa using set)
    refine ⟨batches, ?_, ?_⟩
    · simp only [Batcher.push, armed, if_pos (size ▸ full), if_pos full, ← cancelled, flushed]
    · rw [if_pos full, called, World.calls_cancelTimer, World.calls_enqueue]
  · refine ⟨[], ?_, ?_⟩
    · simp only [Batcher.push, armed, if_neg (size ▸ full), if_neg full, queued, List.map_nil]
    · rw [if_neg full, World.calls_enqueue, List.map_nil, List.append_nil]

end Refinement

end PactNetwork.Settler.Batching
