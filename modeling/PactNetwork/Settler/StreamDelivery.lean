import PactNetwork.Foundation.Transition
import PactNetwork.Settler.RedisStreams

/-!
# Delivery from the stream

An entry leaves the pending list only when its `ack` was called, when it was
moved to the dead-letter stream, or when it was malformed. A process that runs
is given each entry at most once: what it nacks does not come back to it.
-/

set_option autoImplicit false

namespace PactNetwork.Settler.Streams

/-! ## Replies -/

def FromStream (redis : Redis) (entries : List (EntryId × List String)) : Prop :=
  ∀ entry ∈ entries, redis.stream[entry.1]? = some entry.2

theorem readGroup_entry {redis : Redis} {consumer : Nat} {entry : EntryId × List String}
    (member : entry ∈ (redis.readGroup consumer).2) :
    redis.cursor ≤ entry.1 ∧ redis.stream[entry.1]? = some entry.2 := by
  obtain ⟨swapped, numbered, rfl⟩ := List.mem_map.mp member
  obtain ⟨later, found⟩ := List.mk_mem_zipIdx_iff_le_and_getElem?_sub.mp numbered
  refine ⟨later, ?_⟩
  rw [List.getElem?_take, List.getElem?_drop, Nat.add_sub_cancel' later] at found
  split at found
  · exact found
  · cases found

theorem fromStream_readGroup (redis : Redis) (consumer : Nat) :
    FromStream redis (redis.readGroup consumer).2 :=
  fun _ member => (readGroup_entry member).2

theorem fromStream_autoClaim (redis : Redis) (consumer : Nat) :
    FromStream redis (redis.autoClaim consumer).2 := by
  intro entry member
  obtain ⟨id, -, found⟩ := List.mem_filterMap.mp member
  obtain ⟨fields, read, rfl⟩ := Option.map_eq_some_iff.mp found
  exact read

theorem FromStream.read {redis : Redis}
    {command : Redis → Redis × List (EntryId × List String)} (fate : Fate)
    (sound : FromStream redis (command redis).2) :
    FromStream redis (fate.read redis command).2 := by
  cases fate with
  | replied => exact sound
  | lost => exact fun _ member => absurd member List.not_mem_nil
  | unsent => exact fun _ member => absurd member List.not_mem_nil

/-! ## Why an entry is acked -/

def Malformed (environment : Environment) (redis : Redis) (id : EntryId) : Prop :=
  ∃ fields, redis.stream[id]? = some fields ∧ decode environment fields = none

def Justified (environment : Environment) (redis : Redis) (ackCalls : List EntryId)
    (id : EntryId) : Prop :=
  id ∈ ackCalls ∨ (∃ payload, (payload, id) ∈ redis.dlq) ∨ Malformed environment redis id

def Redis.Delivered (redis : Redis) (id : EntryId) : Prop :=
  redis.grouped = true ∧ id < redis.cursor

section Commands

variable {environment : Environment} {redis : Redis}

theorem enqueueEntries_xack {entries : List (EntryId × List String)} {consumer : Consumer}
    {id : EntryId} (sound : FromStream redis entries)
    (sent : .xack id ∈ (consumer.enqueueEntries environment entries).commands) :
    .xack id ∈ consumer.commands ∨ Malformed environment redis id := by
  induction entries generalizing consumer with
  | nil => exact .inl sent
  | cons entry rest ih =>
      have first := sound entry List.mem_cons_self
      have later : FromStream redis rest :=
        fun other member => sound other (List.mem_cons_of_mem _ member)
      unfold Consumer.enqueueEntries Consumer.enqueueEntry at sent
      cases decoded : decode environment entry.2 with
      | none =>
          simp only [decoded] at sent
          rcases ih later sent with old | bad
          · rcases List.mem_append.mp old with old | new
            · exact .inl old
            · cases List.mem_singleton.mp new
              exact .inr ⟨entry.2, first, decoded⟩
          · exact .inr bad
      | some payload =>
          simp only [decoded] at sent
          split at sent
          case h_1 next same =>
            obtain ⟨rfl, -⟩ := Prod.mk.inj same
            have held := ih later sent
            exact held
          case h_2 next same =>
            obtain ⟨rfl, -⟩ := Prod.mk.inj same
            exact .inl sent

/-- What one move of a consumer does to the server and to the acks on their way. -/
structure Follows (environment : Environment) (redis : Redis) (consumer : Consumer) (move : Move)
    (after : Redis) (next : Consumer) : Prop where
  stream : after.stream = redis.stream
  dlq : redis.dlq ⊆ after.dlq
  delivered : ∀ id, redis.Delivered id → after.Delivered id
  acked : ∀ id ∈ after.acked, id ∈ redis.acked ∨ .xack id ∈ consumer.commands
  sent : ∀ id, .xack id ∈ next.commands →
    .xack id ∈ consumer.commands ∨ Justified environment after move.ackCalls id

theorem Follows.quiet {consumer next : Consumer} {move : Move}
    (same : ∀ id, .xack id ∈ next.commands → .xack id ∈ consumer.commands) :
    Follows environment redis consumer move redis next :=
  ⟨rfl, List.Subset.refl _, fun _ old => old, fun _ old => .inl old,
    fun id sent => .inl (same id sent)⟩

theorem Follows.read {consumer next : Consumer} {move : Move} {fate : Fate}
    {command : Redis → Redis × List (EntryId × List String)}
    (stream : (command redis).1.stream = redis.stream)
    (dlq : (command redis).1.dlq = redis.dlq) (acked : (command redis).1.acked = redis.acked)
    (delivered : ∀ id, redis.Delivered id → (command redis).1.Delivered id)
    (sound : FromStream redis (command redis).2)
    (sent : next.commands =
      (consumer.enqueueEntries environment (fate.read redis command).2).commands) :
    Follows environment redis consumer move (fate.read redis command).1 next := by
  have bad : ∀ id, .xack id ∈ next.commands →
      .xack id ∈ consumer.commands ∨ Malformed environment redis id := by
    intro id member
    rw [sent] at member
    exact enqueueEntries_xack (sound.read fate) member
  have kept : (fate.read redis command).1.stream = redis.stream ∧
      (fate.read redis command).1.dlq = redis.dlq ∧
        (fate.read redis command).1.acked = redis.acked ∧
          ∀ id, redis.Delivered id → (fate.read redis command).1.Delivered id := by
    cases fate with
    | replied => exact ⟨stream, dlq, acked, delivered⟩
    | lost => exact ⟨stream, dlq, acked, delivered⟩
    | unsent => exact ⟨rfl, rfl, rfl, fun _ old => old⟩
  refine ⟨kept.1, kept.2.1 ▸ List.Subset.refl _, kept.2.2.2,
    fun id member => .inl (kept.2.2.1 ▸ member), ?_⟩
  intro id member
  rcases bad id member with old | ⟨fields, found, malformed⟩
  · exact .inl old
  · exact .inr (.inr (.inr ⟨fields, kept.1 ▸ found, malformed⟩))

theorem ack_eq (redis : Redis) (id : EntryId) : ∃ pending acked,
    redis.ack id = { redis with pending, acked := redis.acked ++ acked } ∧
      ∀ other ∈ acked, other = id := by
  unfold Redis.ack
  split
  · exact ⟨_, [id], rfl, fun other member => List.mem_singleton.mp member⟩
  · exact ⟨redis.pending, [], by rw [List.append_nil], nofun⟩

theorem Follows.settle {consumer : Consumer} {command : Command} {place : Nat} {fate : Fate}
    (held : consumer.commands[place]? = some command) :
    Follows environment redis consumer (.settle place fate) (command.run redis fate).1
      { consumer with
        commands := consumer.commands.eraseIdx place ++ (command.run redis fate).2 } := by
  have kept : ∀ id, .xack id ∈ consumer.commands.eraseIdx place →
      Command.xack id ∈ consumer.commands :=
    fun id member => (List.eraseIdx_sublist _ _).subset member
  cases command with
  | xack id =>
      have sent : ∀ other, .xack other ∈ consumer.commands.eraseIdx place ++ [] →
          Command.xack other ∈ consumer.commands := by
        intro other member
        exact kept other (by simpa using member)
      by_cases unsent : fate = .unsent
      · rw [Command.run, if_pos unsent]
        exact .quiet sent
      · rw [Command.run, if_neg unsent]
        obtain ⟨pending, acked, same, only⟩ := ack_eq redis id
        rw [same]
        refine ⟨rfl, List.Subset.refl _, fun _ old => old, fun other member => ?_,
          fun other member => .inl (sent other member)⟩
        rcases List.mem_append.mp member with old | new
        · exact .inl old
        · rw [only other new]
          exact .inr (List.mem_of_getElem? held)
  | xpending id payload =>
      refine .quiet fun other member => ?_
      rcases List.mem_append.mp member with old | new
      · exact kept other old
      · dsimp only [Command.run] at new
        split at new
        · cases List.mem_singleton.mp new
        · cases new
  | xadd id payload =>
      cases fate with
      | unsent =>
          refine .quiet fun other member => kept other ?_
          rcases List.mem_append.mp member with old | new
          · exact old
          · cases new
      | lost =>
          refine ⟨rfl, List.subset_append_left _ _, fun _ old => old, fun other old => .inl old,
            fun other member => .inl (kept other ?_)⟩
          rcases List.mem_append.mp member with old | new
          · exact old
          · cases new
      | replied =>
          refine ⟨rfl, List.subset_append_left _ _, fun _ old => old, fun other old => .inl old,
            fun other member => ?_⟩
          rcases List.mem_append.mp member with old | new
          · exact .inl (kept other old)
          · cases List.mem_singleton.mp new
            exact .inr (.inr (.inl ⟨payload, List.mem_append_right _ List.mem_cons_self⟩))

end Commands

section Steps

variable {environment : Environment} {redis after : Redis} {index : Nat}
  {consumer next : Consumer} {move : Move}

theorem createGroup_eq (redis : Redis) : ∃ grouped cursor,
    redis.createGroup = { redis with grouped, cursor } ∧
      ∀ id, redis.Delivered id → redis.createGroup.Delivered id := by
  unfold Redis.createGroup
  split
  case isTrue => exact ⟨redis.grouped, redis.cursor, rfl, fun _ old => old⟩
  case isFalse absent =>
    exact ⟨true, redis.stream.length, rfl, fun _ old => absurd old.1 absent⟩

theorem follows_of_step
    (stepped : consumer.step environment redis index move = some (after, next)) :
    Follows environment redis consumer move after next := by
  cases move with
  | restart =>
      cases stepped
      exact .quiet nofun
  | setEnqueueCallback =>
      cases stepped
      exact .quiet fun _ old => old
  | createGroup =>
      obtain ⟨-, same⟩ := Option.ite_none_right_eq_some.mp stepped
      cases same
      obtain ⟨grouped, cursor, same, delivered⟩ := createGroup_eq redis
      rw [same] at delivered ⊢
      exact ⟨rfl, List.Subset.refl _, delivered, fun _ old => .inl old, fun _ old => .inl old⟩
  | recoverStalePending fate =>
      obtain ⟨-, same⟩ := Option.ite_none_right_eq_some.mp stepped
      cases same
      exact .read rfl rfl rfl (fun _ old => old) (fromStream_autoClaim redis index) rfl
  | poll fate =>
      obtain ⟨-, same⟩ := Option.ite_none_right_eq_some.mp stepped
      cases same
      exact .read rfl rfl rfl (fun _ old => ⟨old.1, Nat.lt_add_right _ old.2⟩)
        (fromStream_readGroup redis index) rfl
  | ack id =>
      obtain ⟨-, same⟩ := Option.ite_none_right_eq_some.mp stepped
      cases same
      refine ⟨rfl, List.Subset.refl _, fun _ old => old, fun _ old => .inl old,
        fun other member => ?_⟩
      rcases List.mem_append.mp member with old | new
      · exact .inl old
      · cases List.mem_singleton.mp new
        exact .inr (.inl List.mem_cons_self)
  | nack id =>
      obtain ⟨message, -, same⟩ := Option.map_eq_some_iff.mp stepped
      cases same
      refine .quiet fun other member => ?_
      rcases List.mem_append.mp member with old | new
      · exact old
      · cases List.mem_singleton.mp new
  | drain =>
      cases stepped
      exact .quiet fun _ old => old
  | settle place fate =>
      obtain ⟨command, held, same⟩ := Option.map_eq_some_iff.mp stepped
      cases same
      exact .settle held
  | destroy =>
      obtain ⟨-, same⟩ := Option.ite_none_right_eq_some.mp stepped
      cases same
      exact .quiet fun _ old => old

end Steps

/-! ## Runs -/

def Moves (environment : Environment) (before after : System) : Prop :=
  ∃ action, before.step environment action = some after

/-- Every ack that was sent, and every one that took effect, is justified. -/
structure Sound (environment : Environment) (system : System) : Prop where
  acked : ∀ id ∈ system.redis.acked, Justified environment system.redis system.ackCalls id
  sent : ∀ consumer ∈ system.consumers, ∀ id, .xack id ∈ consumer.commands →
    Justified environment system.redis system.ackCalls id

section Runs

variable {environment : Environment} {before after : System}

theorem step_act {index : Nat} {move : Move}
    (stepped : before.step environment (.act index move) = some after) :
    ∃ consumer redis next, before.consumers[index]? = some consumer ∧
      consumer.step environment before.redis index move = some (redis, next) ∧
      after = ⟨redis, before.consumers.set index next, before.ackCalls ++ move.ackCalls,
        before.nackCalls ++ move.nackCalls⟩ := by
  obtain ⟨consumer, found, rest⟩ := Option.bind_eq_some_iff.mp stepped
  obtain ⟨⟨redis, next⟩, moved, same⟩ := Option.bind_eq_some_iff.mp rest
  cases same
  exact ⟨consumer, redis, next, found, moved, rfl⟩

theorem Justified.mono {redis later : Redis} {ackCalls laterCalls : List EntryId} {id : EntryId}
    (justified : Justified environment redis ackCalls id)
    (stream : redis.stream <+: later.stream) (dlq : redis.dlq ⊆ later.dlq)
    (calls : ackCalls ⊆ laterCalls) : Justified environment later laterCalls id := by
  rcases justified with called | ⟨payload, moved⟩ | ⟨fields, found, malformed⟩
  · exact .inl (calls called)
  · exact .inr (.inl ⟨payload, dlq moved⟩)
  · obtain ⟨rest, whole⟩ := stream
    refine .inr (.inr ⟨fields, ?_, malformed⟩)
    rw [← whole, List.getElem?_append_left (List.getElem?_eq_some_iff.mp found).1]
    exact found

theorem Sound.act (sound : Sound environment before) {index : Nat} {move : Move}
    (stepped : before.step environment (.act index move) = some after) :
    Sound environment after := by
  obtain ⟨consumer, redis, next, found, moved, rfl⟩ := step_act stepped
  have follows := follows_of_step moved
  have later : ∀ id, Justified environment before.redis before.ackCalls id →
      Justified environment redis (before.ackCalls ++ move.ackCalls) id :=
    fun id justified => justified.mono (follows.stream ▸ List.prefix_rfl) follows.dlq
      (List.subset_append_left _ _)
  have held : ∀ id, .xack id ∈ consumer.commands →
      Justified environment redis (before.ackCalls ++ move.ackCalls) id :=
    fun id member => later id (sound.sent consumer (List.mem_of_getElem? found) id member)
  constructor
  · intro id member
    rcases follows.acked id member with old | mine
    · exact later id (sound.acked id old)
    · exact held id mine
  · intro other included id member
    rcases List.mem_or_eq_of_mem_set included with old | rfl
    · exact later id (sound.sent other old id member)
    · rcases follows.sent id member with mine | justified
      · exact held id mine
      · exact justified.mono List.prefix_rfl (List.Subset.refl _) (List.subset_append_right _ _)

theorem Sound.moves (sound : Sound environment before) (moves : Moves environment before after) :
    Sound environment after := by
  obtain ⟨action, stepped⟩ := moves
  cases action with
  | produce fields =>
      cases stepped
      have later : ∀ id, Justified environment before.redis before.ackCalls id →
          Justified environment { before.redis with stream := before.redis.stream ++ [fields] }
            before.ackCalls id :=
        fun id justified => justified.mono (List.prefix_append _ _) (List.Subset.refl _)
          (List.Subset.refl _)
      exact ⟨fun id member => later id (sound.acked id member),
        fun consumer included id member => later id (sound.sent consumer included id member)⟩
  | pass ms =>
      cases stepped
      exact ⟨sound.acked, sound.sent⟩
  | boot =>
      cases stepped
      refine ⟨sound.acked, fun consumer included id member => ?_⟩
      rcases List.mem_append.mp included with old | new
      · exact sound.sent consumer old id member
      · cases List.mem_singleton.mp new
        cases member
  | act index move => exact sound.act stepped

end Runs

/-- In every run an entry that `XACK` took off the pending list had its `ack`
called, or was moved to the dead-letter stream, or was malformed. -/
theorem acked_justified (environment : Environment) (system : System)
    (reached : Reachable (· = System.empty) (Moves environment) system) (id : EntryId)
    (acked : id ∈ system.redis.acked) :
    id ∈ system.ackCalls ∨ (∃ payload, (payload, id) ∈ system.redis.dlq) ∨
      ∃ fields, system.redis.stream[id]? = some fields ∧ decode environment fields = none := by
  have sound := reached.invariant (Sound environment)
    (fun first empty => by subst empty; exact ⟨nofun, nofun⟩)
    fun _ _ kept moves => kept.moves moves
  exact sound.acked id acked

/-! ## No second delivery -/

def Consumer.deliveries (consumer : Consumer) (id : EntryId) : Nat :=
  (consumer.enqueued.map SettleMessage.id).count id

def Consumer.Started (consumer : Consumer) : Prop :=
  consumer.phase = .running ∨ consumer.phase = .stopping ∨ consumer.phase = .stopped

section Deliveries

variable {environment : Environment} {redis after : Redis} {index : Nat}
  {consumer next : Consumer} {move : Move} {id : EntryId}

theorem deliveries_enqueueEntries {entries : List (EntryId × List String)}
    (others : ∀ entry ∈ entries, entry.1 ≠ id) :
    (consumer.enqueueEntries environment entries).deliveries id = consumer.deliveries id := by
  induction entries generalizing consumer with
  | nil => rfl
  | cons entry rest ih =>
      have later : ∀ other ∈ rest, other.1 ≠ id :=
        fun other member => others other (List.mem_cons_of_mem _ member)
      unfold Consumer.enqueueEntries Consumer.enqueueEntry
      cases decoded : decode environment entry.2 with
      | none => exact ih later
      | some payload =>
          have one : Consumer.deliveries { consumer with
              queue := consumer.queue ++ [⟨entry.1, payload⟩]
              enqueued := consumer.enqueued ++ [⟨entry.1, payload⟩] } id =
                consumer.deliveries id := by
            simp [Consumer.deliveries, others entry List.mem_cons_self]
          dsimp only
          split
          case h_1 next same =>
            obtain ⟨rfl, -⟩ := Prod.mk.inj same
            exact (ih later).trans one
          case h_2 next same =>
            obtain ⟨rfl, -⟩ := Prod.mk.inj same
            exact one

theorem deliveries_step (started : consumer.Started) (delivered : redis.Delivered id)
    (alive : move ≠ .restart)
    (stepped : consumer.step environment redis index move = some (after, next)) :
    next.Started ∧ next.deliveries id = consumer.deliveries id := by
  cases move with
  | restart => exact absurd rfl alive
  | createGroup =>
      obtain ⟨created, -⟩ := Option.ite_none_right_eq_some.mp stepped
      unfold Consumer.Started at started
      rw [created] at started
      simp at started
  | recoverStalePending fate =>
      obtain ⟨recovering, -⟩ := Option.ite_none_right_eq_some.mp stepped
      unfold Consumer.Started at started
      rw [recovering] at started
      simp at started
  | poll fate =>
      obtain ⟨-, same⟩ := Option.ite_none_right_eq_some.mp stepped
      cases same
      constructor
      · unfold Consumer.Started
        dsimp only
        split
        · exact .inr (.inr rfl)
        · exact .inl rfl
      · refine deliveries_enqueueEntries fun entry member => ?_
        cases fate with
        | replied => exact (delivered.2.trans_le (readGroup_entry member).1).ne'
        | lost => cases member
        | unsent => cases member
  | setEnqueueCallback =>
      cases stepped
      exact ⟨started, rfl⟩
  | ack other =>
      obtain ⟨-, same⟩ := Option.ite_none_right_eq_some.mp stepped
      cases same
      exact ⟨started, rfl⟩
  | nack other =>
      obtain ⟨message, -, same⟩ := Option.map_eq_some_iff.mp stepped
      cases same
      exact ⟨started, rfl⟩
  | drain =>
      cases stepped
      exact ⟨started, rfl⟩
  | settle place fate =>
      obtain ⟨command, -, same⟩ := Option.map_eq_some_iff.mp stepped
      cases same
      exact ⟨started, rfl⟩
  | destroy =>
      obtain ⟨-, same⟩ := Option.ite_none_right_eq_some.mp stepped
      cases same
      exact ⟨.inr (.inl rfl), rfl⟩

end Deliveries

def MovesAlive (environment : Environment) (index : Nat) (before after : System) : Prop :=
  ∃ action, action ≠ .act index .restart ∧ before.step environment action = some after

/-- Whatever the producers, the clock and the other processes do, a started
process is not given again an entry that was delivered once. -/
theorem never_redelivered {environment : Environment} {index : Nat} {before after : System}
    {consumer : Consumer} {id : EntryId} (found : before.consumers[index]? = some consumer)
    (started : consumer.Started) (delivered : before.redis.Delivered id)
    (steps : Relation.ReflTransGen (MovesAlive environment index) before after) :
    ∃ later, after.consumers[index]? = some later ∧ later.Started ∧
      later.deliveries id = consumer.deliveries id ∧ after.redis.Delivered id := by
  induction steps with
  | refl => exact ⟨consumer, found, started, rfl, delivered⟩
  | tail _ moves ih =>
      obtain ⟨middle, present, runs, same, known⟩ := ih
      obtain ⟨action, alive, stepped⟩ := moves
      cases action with
      | produce fields =>
          cases stepped
          exact ⟨middle, present, runs, same, known⟩
      | pass ms =>
          cases stepped
          exact ⟨middle, present, runs, same, known⟩
      | boot =>
          cases stepped
          refine ⟨middle, ?_, runs, same, known⟩
          rw [List.getElem?_append_left (List.getElem?_eq_some_iff.mp present).1]
          exact present
      | act other move =>
          obtain ⟨mover, redis, next, isThere, moved, rfl⟩ := step_act stepped
          have kept := (follows_of_step moved).delivered id known
          by_cases own : other = index
          · subst own
            cases isThere.symm.trans present
            have lives : move ≠ .restart := fun dies => alive (by rw [dies])
            obtain ⟨still, equal⟩ := deliveries_step runs known lives moved
            refine ⟨next, ?_, still, equal.trans same, kept⟩
            rw [List.getElem?_set_self (List.getElem?_eq_some_iff.mp present).1]
          · refine ⟨middle, ?_, runs, same, kept⟩
            rw [List.getElem?_set_ne own]
            exact present

/-! ## Runs as lists of actions -/

def System.play (environment : Environment) (system : System) (actions : List Action) :
    Option System :=
  actions.foldlM (System.step environment) system

theorem System.reachable_of_play {environment : Environment} {start system : System}
    {actions : List Action} (reached : Reachable (· = System.empty) (Moves environment) start)
    (played : start.play environment actions = some system) :
    Reachable (· = System.empty) (Moves environment) system := by
  induction actions generalizing start with
  | nil =>
      cases played
      exact reached
  | cons action actions ih =>
      obtain ⟨middle, first, rest⟩ := Option.bind_eq_some_iff.mp played
      exact ih (.next reached ⟨action, first⟩) rest

namespace Stranded

def payload : String := "\x7b\"callId\":\"7\",\"premiumLamports\":\"1000\"\x7d"

def environment : Environment := ⟨fun text => text = payload, fun _ => true⟩

def booted (fields : List String) : List Action :=
  [.boot, .act 0 .setEnqueueCallback, .act 0 .createGroup, .act 0 (.recoverStalePending .replied),
    .produce fields, .act 0 (.poll .replied)]

def nacked : List Action :=
  booted ["event", payload] ++ [.act 0 (.nack 0), .act 0 (.settle 0 .replied)]

def malformed : List Action := booted ["other", payload] ++ [.act 0 (.settle 0 .replied)]

def acked : List Action :=
  booted ["event", payload] ++ [.act 0 (.ack 0), .act 0 (.settle 0 .replied)]

end Stranded

/-- The run in which the one entry is acked. -/
theorem acked_justified_called : ∃ system,
    System.empty.play Stranded.environment Stranded.acked = some system ∧
      0 ∈ system.redis.acked ∧
      (0 ∈ system.ackCalls ∨ (∃ payload, (payload, 0) ∈ system.redis.dlq) ∨
        ∃ fields, system.redis.stream[0]? = some fields ∧
          decode Stranded.environment fields = none) := by
  have played : ((System.empty.play Stranded.environment Stranded.acked).any fun system =>
      decide (0 ∈ system.redis.acked)) = true := by
    decide +kernel
  obtain ⟨system, same, holds⟩ := (Option.any_eq_true _ _).mp played
  have acked := of_decide_eq_true holds
  exact ⟨system, same, acked, acked_justified Stranded.environment system
    (System.reachable_of_play (.start rfl) same) 0 acked⟩

/-- A running process never enqueues again an entry that it nacked once, and an
entry without an event is acked though nobody called its `ack`. -/
theorem nacked_stranded :
    (∃ system consumer,
      Reachable (· = System.empty) (Moves Stranded.environment) system ∧
        system.consumers[0]? = some consumer ∧ consumer.phase = .running ∧
        0 ∈ system.nackCalls ∧
        (∃ row ∈ system.redis.pending, row.id = 0 ∧ row.deliveryCount < maxDeliveryAttempts) ∧
        ∀ after, Relation.ReflTransGen (MovesAlive Stranded.environment 0) system after →
          ∃ later, after.consumers[0]? = some later ∧
            later.deliveries 0 = consumer.deliveries 0) ∧
      ∃ system, Reachable (· = System.empty) (Moves Stranded.environment) system ∧
        0 ∈ system.redis.acked ∧ 0 ∉ system.ackCalls ∧
        ¬∃ payload, (payload, 0) ∈ system.redis.dlq := by
  constructor
  · have played : ((System.empty.play Stranded.environment Stranded.nacked).any fun system =>
        decide (system.nackCalls = [0] ∧ system.redis.pending = [⟨0, 0, 0, 1⟩] ∧
          system.redis.grouped = true ∧ 0 < system.redis.cursor) &&
        system.consumers[0]?.any fun consumer => consumer.phase = .running) = true := by
      decide +kernel
    obtain ⟨system, same, holds⟩ := (Option.any_eq_true _ _).mp played
    obtain ⟨known, running⟩ := (Bool.and_eq_true _ _).mp holds
    obtain ⟨nacked, pending, grouped, read⟩ := of_decide_eq_true known
    obtain ⟨consumer, found, phase⟩ := (Option.any_eq_true _ _).mp running
    have phase := of_decide_eq_true phase
    refine ⟨system, consumer, System.reachable_of_play (.start rfl) same, found, phase,
      nacked ▸ List.mem_cons_self, ⟨_, pending ▸ List.mem_cons_self, rfl, by decide⟩, ?_⟩
    intro after steps
    obtain ⟨later, present, -, equal, -⟩ :=
      never_redelivered found (.inl phase) ⟨grouped, read⟩ steps
    exact ⟨later, present, equal⟩
  · have played : ((System.empty.play Stranded.environment Stranded.malformed).any fun system =>
        decide (system.redis.acked = [0] ∧ system.ackCalls = [] ∧ system.redis.dlq = [])) =
          true := by
      decide +kernel
    obtain ⟨system, same, holds⟩ := (Option.any_eq_true _ _).mp played
    obtain ⟨acked, uncalled, empty⟩ := of_decide_eq_true holds
    refine ⟨system, System.reachable_of_play (.start rfl) same, acked ▸ List.mem_cons_self,
      uncalled ▸ List.not_mem_nil, ?_⟩
    rintro ⟨payload, moved⟩
    rw [empty] at moved
    cases moved

end PactNetwork.Settler.Streams
