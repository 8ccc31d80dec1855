import PactNetwork.Foundation.Transition
import PactNetwork.Settler.Submitter

/-!
# The pipeline

The batcher, `processBatch`, and the settler as a whole: messages arrive any
number of times, batches run side by side, and transactions land whenever they
can, from this settler or from another.
-/

set_option autoImplicit false

namespace PactNetwork.Settler

open Interaction (query)

/-! ## The batcher -/

def maxBatchSize : Nat := 3

def Message.key (message : Message) : String × String :=
  (message.networkName, message.endpointSlug.getD "")

structure Batcher where
  pending : List Message
  timerArmed : Bool
  deriving DecidableEq

def addToGroup (message : Message) :
    List ((String × String) × List Message) → List ((String × String) × List Message)
  | [] => [(message.key, [message])]
  | group :: rest =>
      if group.1 = message.key then (group.1, group.2 ++ [message]) :: rest
      else group :: addToGroup message rest

def partitionByKey (messages : List Message) : List (List Message) :=
  (messages.foldl (fun groups message => addToGroup message groups) []).map Prod.snd

/-- `flush`: the emptied batcher and the batches dispatched. -/
def Batcher.flush (batcher : Batcher) : Batcher × List (List Message) :=
  (⟨[], false⟩, partitionByKey batcher.pending)

/-- `push` of a message with a non-zero premium. -/
def Batcher.push (batcher : Batcher) (message : Message) : Batcher × List (List Message) :=
  let queued := batcher.pending ++ [message]
  let timerArmed := if queued.length = 1 then true else batcher.timerArmed
  if queued.length ≥ maxBatchSize then Batcher.flush ⟨queued, timerArmed⟩
  else (⟨queued, timerArmed⟩, [])

/-! ## Processing a batch -/

inductive Disposition where
  | ack
  | nack
  /-- The exception escaped `processBatch`: neither call was made. -/
  | escaped
  deriving DecidableEq

def processBatch (settings : Settings) (batch : List Message) : Program Disposition := do
  match ← submit settings batch with
  | .error (.skipBatch _) => pure .ack
  | .error .batchSubmit => pure .nack
  | .error .other => pure .escaped
  | .ok outcome =>
      match ← query (.push outcome.signature outcome.perEventShares) with
      | .pushed => pure .ack
      | .pushRejected => pure .nack
      | _ => pure .escaped

/-! ## The settler -/

/-- A batch in flight and what is left of its processing. -/
structure Job where
  messages : List Message
  rest : Program Disposition

def Job.disposed (job : Job) (disposition : Disposition) : List Message :=
  match job.rest with
  | .done final => if final = disposition then job.messages else []
  | .ask _ _ => []

structure System where
  batcher : Batcher
  jobs : List Job
  chain : Chain
  acked : List Message
  nacked : List Message

def System.empty : System := ⟨⟨[], false⟩, [], [], [], []⟩

inductive Event where
  /-- The queue delivers a message, for the first time or again. -/
  | deliver (message : Message)
  | timer
  /-- The job at this index gets an answer. -/
  | answer (job : Nat) (answer : Answer)
  | land (tx : Tx)
  deriving DecidableEq

def System.dispatch (settings : Settings) (system : System)
    (flushed : Batcher × List (List Message)) : System :=
  let jobs := flushed.2.map fun batch => Job.mk batch (processBatch settings batch)
  { system with
    batcher := flushed.1
    jobs := system.jobs ++ jobs
    acked := system.acked ++ jobs.flatMap (·.disposed .ack)
    nacked := system.nacked ++ jobs.flatMap (·.disposed .nack) }

def System.deliver (settings : Settings) (system : System) (message : Message) : System :=
  if message.premiumLamports = 0 then { system with acked := system.acked ++ [message] }
  else system.dispatch settings (system.batcher.push message)

/-- The job at an index goes on with an answer the chain allows. -/
def System.answer (system : System) (index : Nat) (answer : Answer) : Option System :=
  match system.jobs[index]? with
  | none => none
  | some job =>
      match job.rest with
      | .done _ => none
      | .ask question next =>
          if Truthful system.chain question answer then
            let resumed := { job with rest := next answer }
            some { system with
              jobs := system.jobs.set index resumed
              acked := system.acked ++ resumed.disposed .ack
              nacked := system.nacked ++ resumed.disposed .nack }
          else none

def System.step (settings : Settings) (system : System) : Event → Option System
  | .deliver message => some (system.deliver settings message)
  | .timer =>
      if system.batcher.timerArmed then some (system.dispatch settings system.batcher.flush)
      else none
  | .answer index answer => system.answer index answer
  | .land tx =>
      if CanLand system.chain tx then some { system with chain := tx :: system.chain } else none

end PactNetwork.Settler
