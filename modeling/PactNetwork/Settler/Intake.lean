import PactNetwork.Requests.Webhook
import PactNetwork.Settler.Batching
import PactNetwork.Settler.RedisStreams

/-!
# Taking in messages

What both consumers do with one delivered entry, down to the premium that the
batcher's `push` converts, and with what follows an entry whose handler throws.
-/

set_option autoImplicit false

namespace PactNetwork.Settler.Intake

/-- What the consumers and the batcher take from the language. `none` is an exception. -/
structure Library where
  /-- `JSON.parse(text)`. -/
  parse : String → Option Requests.Json
  /-- `BigInt(value)`. -/
  bigInt : Requests.Json → Option Int
  bigInt_zero : bigInt (.string "0") = some 0

inductive Disposal where
  | acked
  | nacked
  | deadLettered
  deriving DecidableEq

structure Treatment where
  /-- The calls of the batcher's `push`. -/
  pushes : Nat
  disposal : Option Disposal
  /-- An exception left the handler. -/
  thrown : Bool
  deriving DecidableEq

def Treatment.abandoned : Treatment := ⟨0, none, false⟩

section Handlers

variable (library : Library) (listening : Bool)

def premium (data : Requests.Json) : Option Int := do
  let field ← data.property "premiumLamports"
  match field with
  | none | some .null => library.bigInt (.string "0")
  | some value => library.bigInt value

def push (data : Requests.Json) : Treatment :=
  match premium library data with
  | none => ⟨1, none, true⟩
  | some premium => if premium = 0 then ⟨1, some .acked, false⟩ else ⟨1, none, false⟩

/-- `this.onEnqueue?.(message)`, with the pipeline's callback. It listens once it is set
and until the shutdown begins. -/
def onEnqueue (data : Requests.Json) : Treatment :=
  if listening then push library data else ⟨0, none, false⟩

def enqueueEntry (fields : List String) : Treatment :=
  let payload := Streams.eventPayload fields
  if payload.isEmpty then ⟨0, some .acked, false⟩
  else
    match library.parse payload with
    | none => ⟨0, some .acked, false⟩
    | some data => onEnqueue library listening data

def enqueueEntries : List (List String) → List (List String × Treatment)
  | [] => []
  | fields :: rest =>
      let treatment := enqueueEntry library listening fields
      (fields, treatment) ::
        if treatment.thrown then rest.map (·, Treatment.abandoned) else enqueueEntries rest

def onMessage (text : String) : Treatment :=
  match library.parse text with
  | none => ⟨0, none, true⟩
  | some data => onEnqueue library listening data

end Handlers

/-! ## The poll loop -/

/-- What a turn of the loop gets from Redis. Claimed entries come in a reply as well. -/
inductive Turn where
  | reply (entries : List (List String))
  | timeout
  | failed

def Turn.entries : Turn → List (List String)
  | .reply entries => entries
  | .timeout | .failed => []

structure Loop where
  running : Bool
  treated : List (List String × Treatment)
  /-- How often the loop logged an exception and backed off. -/
  backoffs : Nat

def Loop.started : Loop := ⟨true, [], 0⟩

/-- One turn of `runPollLoop`, whose `try` covers the read and the entries. -/
def Loop.turn (library : Library) (listening : Bool) (loop : Loop) : Turn → Loop
  | .reply entries =>
      let treated := enqueueEntries library listening entries
      { loop with
        treated := loop.treated ++ treated
        backoffs := loop.backoffs + (treated.filter fun entry => entry.2.thrown).length }
  | .timeout => loop
  | .failed => { loop with backoffs := loop.backoffs + 1 }

def runPollLoop (library : Library) (turns : List (Bool × Turn)) : Loop :=
  turns.foldl (fun loop turn => loop.turn library turn.1 turn.2) .started

/-! ## Well-formed entries -/

section Formed

variable (library : Library) (listening : Bool)

def WellFormed (data : Requests.Json) : Prop :=
  ∃ fields value premium, data = .object fields ∧ fields.lookup "premiumLamports" = some value ∧
    value ≠ .null ∧ library.bigInt value = some premium

def eventData (fields : List String) : Option Requests.Json :=
  if (Streams.eventPayload fields).isEmpty then none
  else library.parse (Streams.eventPayload fields)

/-- A well-formed entry is handed to the batcher once, a malformed one is disposed of,
and the handler returns. -/
structure Guarded (data : Option Requests.Json) (treatment : Treatment) : Prop where
  handed : (∃ value, data = some value ∧ WellFormed library value) → treatment.pushes = 1
  disposed : (¬∃ value, data = some value ∧ WellFormed library value) → treatment.disposal.isSome
  returned : treatment.thrown = false

def Taken (data : Requests.Json) : Prop := listening = true ∧ (premium library data).isSome

end Formed

section Premium

variable {library : Library} {listening : Bool} {data : Requests.Json}

theorem premium_of_not_wellFormed (unsound : ¬WellFormed library data) :
    premium library data = none ∨ premium library data = some 0 := by
  cases data with
  | null => exact .inl rfl
  | object fields =>
      cases found : fields.lookup "premiumLamports" with
      | none => exact .inr (by simp [premium, Requests.Json.property, found, library.bigInt_zero])
      | some value =>
          cases value with
          | null => exact .inr (by simp [premium, Requests.Json.property, found, library.bigInt_zero])
          | _ =>
              refine .inl (Option.eq_none_iff_forall_not_mem.mpr fun number converted => ?_)
              refine unsound ⟨fields, _, number, rfl, found, by simp, ?_⟩
              simpa [premium, Requests.Json.property, found] using converted
  | _ => exact .inr (by simp [premium, Requests.Json.property, library.bigInt_zero])

theorem guarded_onEnqueue_iff :
    Guarded library (some data) (onEnqueue library listening data) ↔
      Taken library listening data := by
  constructor
  · intro guarded
    cases listening with
    | false =>
        have untaken : onEnqueue library false data = ⟨0, none, false⟩ := rfl
        rw [untaken] at guarded
        by_cases sound : WellFormed library data
        · exact absurd (guarded.handed ⟨data, rfl, sound⟩) Nat.zero_ne_one
        · have kept := guarded.disposed fun ⟨value, same, formed⟩ => by
            cases same
            exact sound formed
          cases kept
    | true =>
        refine ⟨rfl, ?_⟩
        cases read : premium library data with
        | none =>
            have thrown : onEnqueue library true data = ⟨1, none, true⟩ := by
              simp [onEnqueue, push, read]
            rw [thrown] at guarded
            cases guarded.returned
        | some number => rfl
  · intro taken
    obtain ⟨rfl, converts⟩ := taken
    obtain ⟨number, read⟩ := Option.isSome_iff_exists.mp converts
    have pushed : onEnqueue library true data =
        if number = 0 then ⟨1, some .acked, false⟩ else ⟨1, none, false⟩ := by
      simp [onEnqueue, push, read]
    refine ⟨fun _ => ?_, fun malformed => ?_, ?_⟩
    · rw [pushed]
      split <;> rfl
    · have unsound : ¬WellFormed library data := fun sound => malformed ⟨data, rfl, sound⟩
      cases premium_of_not_wellFormed unsound with
      | inl none =>
          rw [none] at read
          cases read
      | inr nothing =>
          cases nothing.symm.trans read
          rw [pushed, if_pos rfl]
          rfl
    · rw [pushed]
      split <;> rfl

end Premium

/-! ## Whole runs -/

section Runs

variable {library : Library} {listening : Bool}

theorem guarded_enqueueEntry_iff {fields : List String} :
    Guarded library (eventData library fields) (enqueueEntry library listening fields) ↔
      ∀ data, eventData library fields = some data → Taken library listening data := by
  have acked : Guarded library none ⟨0, some .acked, false⟩ :=
    ⟨fun ⟨_, same, _⟩ => absurd same.symm (Option.some_ne_none _), fun _ => rfl, rfl⟩
  by_cases empty : (Streams.eventPayload fields).isEmpty
  · simp only [eventData, enqueueEntry, empty, if_true]
    exact ⟨fun _ _ same => absurd same.symm (Option.some_ne_none _), fun _ => acked⟩
  · simp only [eventData, enqueueEntry, empty]
    cases parsed : library.parse (Streams.eventPayload fields) with
    | none => exact ⟨fun _ _ same => absurd same.symm (Option.some_ne_none _), fun _ => acked⟩
    | some data =>
        refine guarded_onEnqueue_iff.trans ⟨fun taken other same => ?_, fun taken => taken data rfl⟩
        exact Option.some.inj same ▸ taken

theorem guarded_onMessage_iff {text : String} :
    Guarded library (library.parse text) (onMessage library listening text) ↔
      ∃ data, library.parse text = some data ∧ Taken library listening data := by
  unfold onMessage
  cases library.parse text with
  | none => exact ⟨fun guarded => Bool.noConfusion guarded.returned, fun ⟨_, same, _⟩ =>
      absurd same.symm (Option.some_ne_none _)⟩
  | some data =>
      refine guarded_onEnqueue_iff.trans ⟨fun taken => ⟨data, rfl, taken⟩, fun held => ?_⟩
      obtain ⟨other, same, taken⟩ := held
      exact Option.some.inj same ▸ taken

theorem guarded_enqueueEntries_iff {entries : List (List String)} :
    (∀ entry ∈ enqueueEntries library listening entries,
        Guarded library (eventData library entry.1) entry.2) ↔
      ∀ fields ∈ entries, ∀ data, eventData library fields = some data →
        Taken library listening data := by
  induction entries with
  | nil => simp [enqueueEntries]
  | cons fields rest ih =>
      rw [enqueueEntries, List.forall_mem_cons, List.forall_mem_cons, guarded_enqueueEntry_iff]
      refine and_congr_right fun harmless => ?_
      have returned := (guarded_enqueueEntry_iff.mpr harmless).returned
      simp only [returned, Bool.false_eq_true, if_false]
      exact ih

theorem Loop.turn_treated (loop : Loop) (turn : Turn) :
    (loop.turn library listening turn).treated =
      loop.treated ++ enqueueEntries library listening turn.entries := by
  cases turn with
  | reply entries => rfl
  | timeout => exact (List.append_nil _).symm
  | failed => exact (List.append_nil _).symm

theorem Loop.turn_running (loop : Loop) (turn : Turn) :
    (loop.turn library listening turn).running = loop.running := by
  cases turn <;> rfl

theorem runPollLoop_spec (turns : List (Bool × Turn)) :
    (runPollLoop library turns).running = true ∧
      (runPollLoop library turns).treated =
        turns.flatMap fun turn => enqueueEntries library turn.1 turn.2.entries := by
  have general : ∀ loop : Loop,
      (turns.foldl (fun loop turn => loop.turn library turn.1 turn.2) loop).running =
          loop.running ∧
        (turns.foldl (fun loop turn => loop.turn library turn.1 turn.2) loop).treated =
          loop.treated ++ turns.flatMap fun turn =>
            enqueueEntries library turn.1 turn.2.entries := by
    induction turns with
    | nil => exact fun loop => ⟨rfl, (List.append_nil _).symm⟩
    | cons turn rest ih =>
        intro loop
        obtain ⟨running, treated⟩ := ih (loop.turn library turn.1 turn.2)
        refine ⟨running.trans (loop.turn_running turn.2), ?_⟩
        rw [List.foldl_cons, treated, loop.turn_treated, List.flatMap_cons, List.append_assoc]
  exact general .started

theorem push_refines {runtime : Runtime} {data : Requests.Json} {message : Batching.SettleMessage}
    (world : Batching.World)
    (same : premium library data = (message.premium runtime).toOption) :
    ((push library data).thrown = false ↔ accepts (world.push runtime message)) ∧
      (push library data = ⟨1, none, false⟩ ↔ message.Charged runtime) := by
  unfold push Batching.World.push Batching.SettleMessage.Charged
  rw [same]
  cases message.premium runtime with
  | error failure => simp [Except.toOption, accepts, error_bind]
  | ok number =>
      by_cases zero : number = 0
      · simp [Except.toOption, accepts, zero]
      · simp [Except.toOption, accepts, zero]

def environment (library : Library) : Streams.Environment where
  parses text := (library.parse text).isSome
  accepts text := ((library.parse text).bind (premium library)).isSome

/-- The consumer in front of its server finds the same entries malformed, and its callback
returns for the same. -/
theorem enqueueEntry_refines (consumer : Streams.Consumer) (id : Streams.EntryId)
    (fields : List String) :
    (Streams.decode (environment library) fields = none ↔ eventData library fields = none) ∧
      (consumer.enqueueEntry (environment library) (id, fields)).2 =
        !(enqueueEntry library consumer.callback fields).thrown := by
  unfold Streams.Consumer.enqueueEntry Streams.decode eventData enqueueEntry
  by_cases empty : (Streams.eventPayload fields).isEmpty
  · simp [empty]
  · cases parsed : library.parse (Streams.eventPayload fields) with
    | none => simp [empty, environment, parsed]
    | some data =>
        have thrown : (push library data).thrown = !(premium library data).isSome := by
          unfold push
          cases premium library data with
          | none => rfl
          | some number =>
              dsimp only
              split <;> rfl
        cases consumer.callback with
        | false => simp [empty, environment, parsed, onEnqueue]
        | true => simp [empty, environment, parsed, onEnqueue, thrown]

end Runs

namespace Demo

def library : Library where
  parse text := [("null", Requests.Json.null),
    ("call", .object [("premiumLamports", .string "1000")])].lookup text
  bigInt value :=
    match value with
    | .string text => [("0", 0), ("1000", 1000)].lookup text
    | _ => none
  bigInt_zero := rfl

def entries : List (List String) := [["event", "null"], ["event", "call"]]

end Demo

end PactNetwork.Settler.Intake
