import Mathlib.Data.List.Basic

/-!
# The Redis Streams consumer

A Redis server with one stream and one consumer group, and any number of
settler processes that read it. Commands are sent without waiting and may fail
before or after the server runs them.
-/

set_option autoImplicit false

namespace PactNetwork.Settler.Streams

def maxDeliveryAttempts : Nat := 10

def readCount : Nat := 16

def staleClaimThresholdMs : Nat := 60000

def claimCount : Nat := 100

/-- What the consumer asks of the code around it: whether `JSON.parse` takes a
payload, and whether the enqueue callback returns when it gets one. -/
structure Environment where
  parses : String → Bool
  accepts : String → Bool

/-! ## The server -/

/-- Entry ids grow with the stream, so an entry's place stands for its id. -/
abbrev EntryId := Nat

structure PendingRow where
  id : EntryId
  consumer : Nat
  deliveredAt : Nat
  deliveryCount : Nat
  deriving DecidableEq

structure Redis where
  clock : Nat
  /-- The fields of each entry. -/
  stream : List (List String)
  grouped : Bool
  /-- The entries before it were delivered to the group. -/
  cursor : Nat
  pending : List PendingRow
  /-- The entries `XACK` took off the pending list so far. -/
  acked : List EntryId
  /-- The payload and the `origId` of each entry of the dead-letter stream. -/
  dlq : List (String × EntryId)
  deriving DecidableEq

/-- `XGROUP CREATE <stream> <group> $ MKSTREAM`, the BUSYGROUP error ignored. -/
def Redis.createGroup (redis : Redis) : Redis :=
  if redis.grouped then redis
  else { redis with grouped := true, cursor := redis.stream.length }

/-- `XREADGROUP ... COUNT 16 STREAMS <stream> >`. -/
def Redis.readGroup (redis : Redis) (consumer : Nat) : Redis × List (EntryId × List String) :=
  let fresh := (redis.stream.drop redis.cursor).take readCount
  let entries := (fresh.zipIdx redis.cursor).map Prod.swap
  let rows := entries.map fun entry => PendingRow.mk entry.1 consumer redis.clock 1
  ({ redis with
      cursor := redis.cursor + fresh.length
      pending := redis.pending ++ rows },
    entries)

/-- The entries `XAUTOCLAIM ... 60000 0 COUNT 100` takes: it scans ten rows for
each entry it may claim. -/
def Redis.stale (redis : Redis) : List EntryId :=
  (((redis.pending.take (10 * claimCount)).filter fun row =>
    row.deliveredAt + staleClaimThresholdMs < redis.clock).take claimCount).map PendingRow.id

def Redis.autoClaim (redis : Redis) (consumer : Nat) : Redis × List (EntryId × List String) :=
  let claimed := redis.stale
  let pending := redis.pending.map fun row =>
    if row.id ∈ claimed then PendingRow.mk row.id consumer redis.clock (row.deliveryCount + 1)
    else row
  ({ redis with pending },
    claimed.filterMap fun id => redis.stream[id]?.map fun fields => (id, fields))

/-- The delivery count `XPENDING ... <id> <id> 1` answers, one if there is no
such row. -/
def Redis.deliveryCount (redis : Redis) (id : EntryId) : Nat :=
  ((redis.pending.find? fun row => row.id = id).map PendingRow.deliveryCount).getD 1

def Redis.ack (redis : Redis) (id : EntryId) : Redis :=
  if redis.pending.any fun row => row.id = id then
    { redis with
      pending := redis.pending.filter fun row => row.id ≠ id
      acked := redis.acked ++ [id] }
  else redis

def Redis.addToDlq (redis : Redis) (payload : String) (id : EntryId) : Redis :=
  { redis with dlq := redis.dlq ++ [(payload, id)] }

/-! ## A consumer -/

inductive Phase where
  | created
  /-- `init` has the group and waits for `recoverStalePending`. -/
  | recovering
  | running
  /-- `destroy` was called and the last read has not come back. -/
  | stopping
  | stopped
  deriving DecidableEq

structure SettleMessage where
  id : EntryId
  payload : String
  deriving DecidableEq

/-- A command on its way, with what the consumer does after it. -/
inductive Command where
  | xack (id : EntryId)
  | xpending (id : EntryId) (payload : String)
  | xadd (id : EntryId) (payload : String)
  deriving DecidableEq

structure Consumer where
  phase : Phase
  /-- Whether `setEnqueueCallback` was called. -/
  callback : Bool
  queue : List SettleMessage
  /-- Every message enqueued so far; their `ack` and `nack` may be called. -/
  enqueued : List SettleMessage
  commands : List Command
  deriving DecidableEq

def Consumer.fresh : Consumer := ⟨.created, false, [], [], []⟩

def eventPayload : List String → String
  | key :: value :: rest => if key = "event" then value else eventPayload rest
  | _ => ""

def decode (environment : Environment) (fields : List String) : Option String :=
  let payload := eventPayload fields
  if payload.isEmpty then none
  else if environment.parses payload then some payload
  else none

/-- The consumer after `enqueueEntry`, and whether the callback returned. -/
def Consumer.enqueueEntry (environment : Environment) (consumer : Consumer)
    (entry : EntryId × List String) : Consumer × Bool :=
  match decode environment entry.2 with
  | none => ({ consumer with commands := consumer.commands ++ [.xack entry.1] }, true)
  | some payload =>
      let message := SettleMessage.mk entry.1 payload
      ({ consumer with
          queue := consumer.queue ++ [message]
          enqueued := consumer.enqueued ++ [message] },
        !consumer.callback || environment.accepts payload)

/-- The loop over the entries of a reply; an exception of the callback ends it. -/
def Consumer.enqueueEntries (environment : Environment) :
    Consumer → List (EntryId × List String) → Consumer
  | consumer, [] => consumer
  | consumer, entry :: rest =>
      match consumer.enqueueEntry environment entry with
      | (next, true) => next.enqueueEntries environment rest
      | (next, false) => next

/-! ## The system -/

structure System where
  redis : Redis
  consumers : List Consumer
  /-- The entries whose `ack` was called, and whose `nack` was called. -/
  ackCalls : List EntryId
  nackCalls : List EntryId
  deriving DecidableEq

def System.empty : System := ⟨⟨0, [], false, 0, [], [], []⟩, [], [], []⟩

/-- What becomes of a command: it runs and the reply arrives, it runs and the
reply is lost, or it never runs. -/
inductive Fate where
  | replied
  | lost
  | unsent
  deriving DecidableEq

inductive Move where
  /-- The process dies and starts over. -/
  | restart
  | setEnqueueCallback
  /-- The two steps of `init`. -/
  | createGroup
  | recoverStalePending (fate : Fate)
  | poll (fate : Fate)
  | ack (id : EntryId)
  | nack (id : EntryId)
  | drain
  /-- The command at this place of the consumer's commands meets its fate. -/
  | settle (place : Nat) (fate : Fate)
  | destroy
  deriving DecidableEq

inductive Action where
  /-- A producer adds an entry. -/
  | produce (fields : List String)
  | pass (ms : Nat)
  /-- One more process starts. -/
  | boot
  | act (consumer : Nat) (move : Move)
  deriving DecidableEq

/-- The server after a reading command, and the entries the consumer gets. -/
def Fate.read (fate : Fate) (redis : Redis)
    (command : Redis → Redis × List (EntryId × List String)) :
    Redis × List (EntryId × List String) :=
  match fate with
  | .replied => command redis
  | .lost => ((command redis).1, [])
  | .unsent => (redis, [])

/-- The server after a command, and what the consumer sends next: `handleNack`
moves an exhausted entry to the dead-letter stream and then acks it. -/
def Command.run (redis : Redis) (fate : Fate) : Command → Redis × List Command
  | .xack id => (if fate = .unsent then redis else redis.ack id, [])
  | .xpending id payload =>
      (redis, if fate = .replied ∧ redis.deliveryCount id ≥ maxDeliveryAttempts then
        [.xadd id payload] else [])
  | .xadd id payload =>
      (if fate = .unsent then redis else redis.addToDlq payload id,
        if fate = .replied then [.xack id] else [])

/-- The server and the consumer at an index after a move of that consumer. -/
def Consumer.step (environment : Environment) (redis : Redis) (index : Nat)
    (consumer : Consumer) : Move → Option (Redis × Consumer)
  | .restart => some (redis, .fresh)
  | .setEnqueueCallback => some (redis, { consumer with callback := true })
  | .createGroup =>
      if consumer.phase = .created then
        some (redis.createGroup, { consumer with phase := .recovering })
      else none
  | .recoverStalePending fate =>
      if consumer.phase = .recovering then
        let reply := fate.read redis fun redis => redis.autoClaim index
        some (reply.1, { consumer.enqueueEntries environment reply.2 with phase := .running })
      else none
  | .poll fate =>
      if consumer.phase = .running ∨ consumer.phase = .stopping then
        let reply := fate.read redis fun redis => redis.readGroup index
        let phase := if consumer.phase = .stopping then .stopped else .running
        some (reply.1, { consumer.enqueueEntries environment reply.2 with phase })
      else none
  | .ack id =>
      if consumer.enqueued.any fun message => message.id = id then
        some (redis, { consumer with commands := consumer.commands ++ [.xack id] })
      else none
  | .nack id =>
      (consumer.enqueued.find? fun message => message.id = id).map fun message =>
        (redis, { consumer with
          commands := consumer.commands ++ [.xpending id message.payload] })
  | .drain => some (redis, { consumer with queue := [] })
  | .settle place fate =>
      consumer.commands[place]?.map fun command =>
        let after := command.run redis fate
        (after.1, { consumer with commands := consumer.commands.eraseIdx place ++ after.2 })
  | .destroy =>
      if consumer.phase = .running then some (redis, { consumer with phase := .stopping })
      else none

/-- The calls a move makes of `ack`, and of `nack`. -/
def Move.ackCalls : Move → List EntryId
  | .ack id => [id]
  | _ => []

def Move.nackCalls : Move → List EntryId
  | .nack id => [id]
  | _ => []

def System.step (environment : Environment) (system : System) : Action → Option System
  | .produce fields =>
      some { system with redis := { system.redis with stream := system.redis.stream ++ [fields] } }
  | .pass ms => some { system with redis := { system.redis with clock := system.redis.clock + ms } }
  | .boot => some { system with consumers := system.consumers ++ [.fresh] }
  | .act index move => do
      let consumer ← system.consumers[index]?
      let (redis, consumer) ← consumer.step environment system.redis index move
      return { redis, consumers := system.consumers.set index consumer,
               ackCalls := system.ackCalls ++ move.ackCalls,
               nackCalls := system.nackCalls ++ move.nackCalls }

end PactNetwork.Settler.Streams
