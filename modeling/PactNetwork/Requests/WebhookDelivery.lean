import PactNetwork.Foundation.Transition
import PactNetwork.Requests.WebhookSender

/-!
# Webhook deliveries

The indexer's sender against the SDK's handler over a network that loses and
delays requests and answers and has intermediaries answer for the handler. All
attempts carry one signature and one nonce, which the handler takes once.
-/

set_option autoImplicit false

namespace PactNetwork.Requests

open ReplayCache (live seen unlessSeen live_iff lookup_of_seen)
open Headers (given_eq_some)

namespace WebhookDelivery

open WebhookSender
open Webhook (Deps Notification Reply handle receive)

structure Setup where
  crypto : Crypto
  library : JsonLibrary
  parser : UrlParser
  deps : Deps
  config : Config
  signer : Signer
  url : String
  payload : WebhookPayload
  signedAt : Int
  randomBytes : List UInt8
  /-- Headers that the sender's platform puts after its own. -/
  added : List (String × HeaderValue)

namespace Setup

variable (setup : Setup)

def prepared : Option (Url × Signed) :=
  prepare setup.crypto setup.library setup.parser setup.signer setup.config setup.url setup.payload
    setup.signedAt setup.randomBytes

def wire (url : Url) (signed : Signed) : Webhook.Request where
  method := "POST"
  path := url.path
  headers := signed.headers.map (fun header => (header.1, .one header.2)) ++ setup.added
  body := .bytes (encode signed.body)

def nonce : String := setup.crypto.bs58Encode setup.randomBytes

def key : String := replayKey (setup.crypto.bs58Encode setup.signer.publicKey) setup.nonce

def body : String := setup.library.stringify setup.payload.toJson

def sig (url : Url) : List UInt8 :=
  setup.signer.sign (encode (buildWebhookCanonical url.path setup.signedAt setup.nonce
    (setup.crypto.sha256Hex (encode setup.body))))

end Setup

/-! ## Runs -/

/-- An answer of the handler on its way. It is remembered where the request
came while the guard held the nonce of an attempt that was accepted. -/
structure Answer where
  attempt : Nat
  status : Nat
  remembered : Bool

structure State where
  cache : Webhook.Nonces
  clock : Int
  phase : Phase
  /-- Attempts whose requests are on the way, whether or not they are waited for. -/
  requests : List Nat
  answers : List Answer
  /-- Attempts in the order their requests reached the handler, the last one first. -/
  arrived : List Nat
  /-- Attempts the handler answered with 202, with the clock read of its guard. -/
  accepted : List (Nat × Int)
  /-- Attempts whose answer from the handler reached the sender. -/
  heard : List Nat

inductive Event
  | arrive (attempt : Nat) (checkedAt seenAt : Int)
  | loseRequest (attempt : Nat)
  | loseAnswer (attempt : Nat)
  | hear (attempt : Nat)
  | relay (attempt status : Nat)
  | fail (attempt : Nat)
  | wake (attempt : Nat)
  | other (arrival : Arrival Webhook.Request)

section Deliveries

variable (setup : Setup)

def OnTime (state : State) (checkedAt seenAt : Int) : Prop :=
  state.clock ≤ checkedAt ∧ checkedAt ≤ seenAt ∧
    |(checkedAt - setup.signedAt : ℚ)| ≤ setup.deps.skew

instance (state : State) (checkedAt seenAt : Int) : Decidable (OnTime setup state checkedAt seenAt) :=
  inferInstanceAs (Decidable (_ ∧ _ ∧ _))

def remembered (state : State) (seenAt : Int) : Bool :=
  state.accepted.any fun attempt => decide ((seenAt : ℚ) < attempt.2 + setup.deps.skew)

/-- The handler takes a request of the delivery. -/
def arrive (request : Webhook.Request) (state : State) (attempt : Nat) (checkedAt seenAt : Int) :
    State :=
  let answered := handle setup.crypto setup.library setup.deps state.cache
    ⟨request, checkedAt, seenAt⟩
  { state with
    cache := answered.2
    clock := seenAt
    requests := state.requests.erase attempt
    answers := ⟨attempt, answered.1.status, remembered setup state seenAt⟩ :: state.answers
    arrived := attempt :: state.arrived
    accepted :=
      if answered.1.status = 202 then (attempt, seenAt) :: state.accepted else state.accepted }

def handleOther (state : State) (arrival : Arrival Webhook.Request) : State :=
  { state with
    cache := (handle setup.crypto setup.library setup.deps state.cache arrival).2
    clock := arrival.seenAt }

def answerTo (state : State) (attempt : Nat) : Option Answer :=
  state.answers.find? fun answer => answer.attempt = attempt

/-- The answers of the handler and of the network move the sender on while it
waits for that attempt. -/
def step (request : Webhook.Request) (state : State) : Event → Option State
  | .arrive attempt checkedAt seenAt =>
      if attempt ∈ state.requests ∧ OnTime setup state checkedAt seenAt then
        some (arrive setup request state attempt checkedAt seenAt)
      else none
  | .loseRequest attempt => some { state with requests := state.requests.erase attempt }
  | .loseAnswer attempt =>
      some { state with answers := state.answers.filter fun answer => answer.attempt ≠ attempt }
  | .hear attempt =>
      match answerTo state attempt with
      | none => none
      | some answer =>
          if state.phase = .waiting attempt then
            some { state with
              phase := afterStatus setup.config attempt answer.status
              heard := attempt :: state.heard }
          else none
  | .relay attempt status =>
      if state.phase = .waiting attempt ∧ 500 ≤ status ∧ status < 600 then
        some { state with phase := afterStatus setup.config attempt status }
      else none
  | .fail attempt =>
      if state.phase = .waiting attempt then
        some { state with phase := retry setup.config attempt }
      else none
  | .wake attempt =>
      if state.phase = .resting attempt then
        some { state with
          phase := .waiting (attempt + 1)
          requests := (attempt + 1) :: state.requests }
      else none
  | .other arrival =>
      if state.clock ≤ arrival.checkedAt ∧ arrival.checkedAt ≤ arrival.seenAt ∧
          Webhook.key arrival ≠ setup.key then
        some (handleOther setup state arrival)
      else none

/-- The handler does not hold the nonce when the delivery starts. -/
structure Starts (state : State) : Prop where
  phase : state.phase = firstAttempt setup.config
  requests : state.requests = if 1 ≤ setup.config.maxAttempts then [1] else []
  answers : state.answers = []
  arrived : state.arrived = []
  accepted : state.accepted = []
  heard : state.heard = []
  idle : ∀ expires, state.cache.lookup setup.key = some expires → expires ≤ state.clock

def run (request : Webhook.Request) : State → List Event → Option State
  | state, [] => some state
  | state, event :: rest => (step setup request state event).bind fun next => run request next rest

/-- The sender never hears of a request that came while the guard held the
nonce of an accepted attempt. -/
def Clear (state : State) : Event → Prop
  | .hear attempt => ∀ answer, answerTo state attempt = some answer → answer.remembered = false
  | _ => True

def Moves (request : Webhook.Request) (before after : State) : Prop :=
  ∃ event, step setup request before event = some after

def ClearMoves (request : Webhook.Request) (before after : State) : Prop :=
  ∃ event, Clear before event ∧ step setup request before event = some after

/-- What the two ends agree on: the first request to reach the idle handler is
accepted, a delivery whose acceptance or any later answer is heard has
succeeded, and the agent's webhook is not counted as failed for it. -/
structure Agrees (state : State) : Prop where
  first : ∀ attempt ∈ state.arrived.getLast?, ∃ seenAt, (attempt, seenAt) ∈ state.accepted
  delivered : ∀ accepted ∈ state.accepted, ∀ heard ∈ state.heard, accepted.1 ≤ heard →
    state.phase = .finished true
  counted : ∀ accepted ∈ state.accepted, ∀ heard ∈ state.heard, accepted.1 ≤ heard →
    ∀ ok, state.phase = .finished ok → ∀ maxFailCount now row,
      recordResult maxFailCount now ok row =
        { row with webhookLastDeliveryAt := some now, webhookFailCount := 0 }

/-! ## One request -/

/-- The keys, the codecs and the sink do what they are there for: the handler
pins the key that signs, signatures verify, texts decode to what was encoded,
the payload is read back as it was written, and the sink throws at no call. -/
structure Working : Prop where
  pinned : setup.crypto.bs58Decode setup.deps.indexerSigningKey = some setup.signer.publicKey
  keyLength : setup.signer.publicKey.length = 32
  verifies : ∀ message, setup.crypto.detachedVerify message (setup.signer.sign message)
    setup.signer.publicKey = true
  signatureLength : ∀ message, (setup.signer.sign message).length = 64
  published : setup.crypto.bs58Decode (setup.crypto.bs58Encode setup.signer.publicKey) =
    some setup.signer.publicKey
  decodes : ∀ message, setup.crypto.bs58Decode (setup.crypto.bs58Encode
    (setup.signer.sign message)) = some (setup.signer.sign message)
  spells : ∀ bytes, bytes ≠ [] → setup.crypto.bs58Encode bytes ≠ ""
  nonceLength : setup.randomBytes.length = 16
  clock : isFinite setup.signedAt = true
  written : setup.body ≠ ""
  parses : setup.library.parse (encode setup.body) = some setup.payload.toJson
  takes : ∀ notification, setup.deps.reconcile notification = .ok ()

variable {setup}

theorem signed_of_prepared {url : Url} {signed : Signed}
    (sends : setup.prepared = some (url, signed)) :
    signed = signWebhook setup.crypto setup.library setup.signer url setup.payload setup.signedAt
      setup.randomBytes := by
  unfold Setup.prepared prepare at sends
  split at sends
  case h_1 => cases sends
  case h_2 =>
    split at sends
    case h_1 => cases sends
    case h_2 =>
      dsimp only at sends
      split at sends
      case isTrue => cases sends
      case isFalse =>
        cases sends
        rfl

theorem calls_toJson (payload : WebhookPayload) : payload.toJson.property "calls" =
    some (some (.array (payload.calls.map WebhookCall.toJson))) := by
  simp [WebhookPayload.toJson, Json.property, List.lookup_cons]

theorem route_toJson (works : Working setup) (calls : List WebhookCall) :
    (Webhook.route setup.library setup.deps (calls.map WebhookCall.toJson)).2 = none := by
  induction calls with
  | nil => rfl
  | cons call calls ih =>
      rw [List.map_cons, Webhook.route]
      have noted : Webhook.notification setup.library call.toJson ≠ none := Option.some_ne_none _
      split
      case h_1 none => exact absurd none noted
      case h_2 notified _ =>
        rw [works.takes notified]
        exact ih

section Wire

variable (works : Working setup) {url : Url} {signed : Signed}
  (sends : setup.prepared = some (url, signed))

include works sends

theorem receive_wire : (receive setup.crypto setup.library setup.deps (setup.wire url signed)
    setup.signer.publicKey setup.nonce (setup.crypto.bs58Encode (setup.sig url))
    setup.signedAt).status = 202 := by
  obtain rfl := signed_of_prepared sends
  have hashed : setup.crypto.bodyHash (encode setup.body) =
      setup.crypto.sha256Hex (encode setup.body) :=
    if_neg fun empty => works.written (encode_eq_nil.mp empty)
  have agreed : Webhook.canonical setup.crypto (setup.wire url (signWebhook setup.crypto
      setup.library setup.signer url setup.payload setup.signedAt setup.randomBytes)) setup.nonce
      setup.signedAt = buildWebhookCanonical url.path setup.signedAt setup.nonce
        (setup.crypto.sha256Hex (encode setup.body)) := by
    rw [buildWebhookCanonical, ← hashed]
    rfl
  have length : (setup.sig url).length = 64 := works.signatureLength _
  have decoded : setup.crypto.bs58Decode (setup.crypto.bs58Encode (setup.sig url)) =
      some (setup.sig url) := works.decodes _
  rw [Webhook.receive_of_genuine decoded length]
  · exact Webhook.routePayload_status works.parses (calls_toJson setup.payload)
      (route_toJson works _)
  · rw [verifyDetached, agreed]
    exact works.verifies _

/-- What the handler does with a request of the delivery: it asks its guard for
the nonce and answers 401 if it holds it. -/
theorem handle_wire (cache : Webhook.Nonces) {checkedAt : Int} (seenAt : Int)
    (inside : |(checkedAt - setup.signedAt : ℚ)| ≤ setup.deps.skew) :
    (handle setup.crypto setup.library setup.deps cache
      ⟨setup.wire url signed, checkedAt, seenAt⟩).1.status =
        (if live cache setup.key (seenAt : ℚ) then 401 else 202) ∧
    (handle setup.crypto setup.library setup.deps cache
      ⟨setup.wire url signed, checkedAt, seenAt⟩).2 =
        (seen Webhook.guardLimit setup.deps.skew cache setup.key (seenAt : ℚ)).2 := by
  have status := receive_wire works sends
  obtain rfl := signed_of_prepared sends
  have filled : setup.signer.publicKey ≠ [] := by
    intro empty
    have length := works.keyLength
    rw [empty] at length
    cases length
  have salted : setup.randomBytes ≠ [] := by
    intro empty
    have length := works.nonceLength
    rw [empty] at length
    cases length
  have signing : setup.sig url ≠ [] := by
    intro empty
    have length : (setup.sig url).length = 64 := works.signatureLength _
    rw [empty] at length
    cases length
  have shown : toString setup.signedAt ≠ "" := by
    intro empty
    have parsed := parseInt_toString setup.signedAt
    rw [empty] at parsed
    cases parsed
  rw [Webhook.handle_of_pinned ⟨setup.wire url _, checkedAt, seenAt⟩ works.pinned
    works.keyLength (given_eq_some.mpr ⟨rfl, works.spells _ filled⟩)
    (given_eq_some.mpr ⟨rfl, shown⟩) (given_eq_some.mpr ⟨rfl, works.spells _ salted⟩)
    (given_eq_some.mpr ⟨rfl, works.spells _ signing⟩) works.published
    (timestampMs_toString works.clock) inside]
  refine ⟨?_, rfl⟩
  rw [ReplayCache.unlessSeen_fst, apply_ite Reply.status]
  exact congrArg (fun accepting => if live cache setup.key (seenAt : ℚ) then 401 else accepting)
    status

end Wire

/-! ## Runs -/

variable (setup) in
/-- What holds along a run: an entry of the guard that has not expired was made
by an attempt that was accepted, so an answer that was not remembered is a 202,
and hearing one ends the delivery. -/
structure Invariant (state : State) : Prop where
  stamped : ∀ expires, state.cache.lookup setup.key = some expires →
    expires ≤ state.clock ∨ ∃ attempt ∈ state.accepted, expires = attempt.2 + setup.deps.skew
  fresh : state.arrived = [] → state.accepted = []
  first : ∀ attempt ∈ state.arrived.getLast?, ∃ seenAt, (attempt, seenAt) ∈ state.accepted
  answered : ∀ answer ∈ state.answers, answer.remembered = false → answer.status = 202
  heard : state.heard ≠ [] → state.phase = .finished true

theorem Starts.invariant {state : State} (starts : Starts setup state) :
    Invariant setup state where
  stamped expires found := .inl (starts.idle expires found)
  fresh _ := starts.accepted
  first attempt member := by
    rw [starts.arrived] at member
    cases member
  answered answer member := by
    rw [starts.answers] at member
    cases member
  heard some := absurd starts.heard some

theorem Invariant.not_live {state : State} {seenAt : Int} (kept : Invariant setup state)
    (later : state.clock ≤ seenAt) (forgotten : remembered setup state seenAt = false) :
    live state.cache setup.key (seenAt : ℚ) = false := by
  rw [Bool.eq_false_iff, ne_eq, live_iff]
  rintro ⟨expires, found, holding⟩
  rcases kept.stamped expires found with expired | ⟨attempt, member, stamp⟩
  · have passed : (state.clock : ℚ) ≤ seenAt := Int.cast_le.mpr later
    exact absurd holding (not_lt.mpr (expired.trans passed))
  · rw [remembered, List.any_eq_false] at forgotten
    rw [stamp] at holding
    exact forgotten attempt member (decide_eq_true holding)

section Steps

variable (works : Working setup) {url : Url} {signed : Signed}
  (sends : setup.prepared = some (url, signed)) {before after : State}

include works sends

theorem Invariant.arrive {attempt : Nat} {checkedAt seenAt : Int}
    (kept : Invariant setup before) (onTime : OnTime setup before checkedAt seenAt) :
    Invariant setup
      (arrive setup (setup.wire url signed) before attempt checkedAt seenAt) := by
  obtain ⟨earlier, ordered, inside⟩ := onTime
  have later : before.clock ≤ seenAt := earlier.trans ordered
  obtain ⟨status, cached⟩ := handle_wire works sends before.cache seenAt inside
  refine ⟨?stamped, ?fresh, ?first, ?answered, kept.heard⟩
  case stamped =>
    intro expires found
    dsimp only [WebhookDelivery.arrive] at found ⊢
    rw [cached] at found
    rcases lookup_of_seen found with old | ⟨-, made, absent⟩
    · rcases kept.stamped expires old with expired | ⟨stamper, member, stamp⟩
      · exact .inl (expired.trans (Int.cast_le.mpr later))
      · refine .inr ⟨stamper, ?_, stamp⟩
        split
        · exact List.mem_cons_of_mem _ member
        · exact member
    · rw [absent, if_neg Bool.false_ne_true] at status
      refine .inr ⟨(attempt, seenAt), ?_, made⟩
      rw [if_pos status]
      exact List.mem_cons_self
  case fresh => exact fun none => absurd none (List.cons_ne_nil _ _)
  case first =>
    intro earliest member
    dsimp only [WebhookDelivery.arrive] at member ⊢
    cases arrived : before.arrived with
    | nil =>
        rw [arrived] at member
        obtain rfl : attempt = earliest := Option.some.inj member
        have forgotten : remembered setup before seenAt = false := by
          rw [remembered, kept.fresh arrived]
          rfl
        rw [kept.not_live later forgotten, if_neg Bool.false_ne_true] at status
        rw [if_pos status]
        exact ⟨seenAt, List.mem_cons_self⟩
    | cons last rest =>
        rw [arrived, List.getLast?_cons_cons, ← arrived] at member
        obtain ⟨firstSeenAt, accepted⟩ := kept.first earliest member
        refine ⟨firstSeenAt, ?_⟩
        split
        · exact List.mem_cons_of_mem _ accepted
        · exact accepted
  case answered =>
    intro answer member forgotten
    rcases List.mem_cons.mp member with rfl | member
    · rw [kept.not_live later forgotten, if_neg Bool.false_ne_true] at status
      exact status
    · exact kept.answered answer member forgotten

omit works sends in
theorem Invariant.other {arrival : Arrival Webhook.Request}
    (kept : Invariant setup before) (later : before.clock ≤ arrival.seenAt)
    (apart : Webhook.key arrival ≠ setup.key) :
    Invariant setup (handleOther setup before arrival) := by
  refine ⟨?stamped, kept.fresh, kept.first, kept.answered, kept.heard⟩
  intro expires found
  have asked := Webhook.asks_handle setup.crypto setup.library setup.deps before.cache arrival
  have old : before.cache.lookup setup.key = some expires := by
    dsimp only [handleOther] at found
    generalize handle setup.crypto setup.library setup.deps before.cache arrival = result
      at asked found
    cases asked with
    | early => exact found
    | asked =>
        rcases lookup_of_seen found with old | ⟨same, -⟩
        · exact old
        · exact absurd same.symm apart
  rcases kept.stamped expires old with expired | stamp
  · exact .inl (expired.trans (Int.cast_le.mpr later))
  · exact .inr stamp

theorem Invariant.step {event : Event} (kept : Invariant setup before)
    (clear : Clear before event)
    (moves : step setup (setup.wire url signed) before event = some after) :
    Invariant setup after := by
  -- While the sender waits it has heard nothing.
  have unheard : ∀ {phase}, before.phase = phase → phase ≠ .finished true → before.heard = [] :=
    fun standing open' => by_contra fun some => open' (standing ▸ kept.heard some)
  cases event with
  | arrive attempt checkedAt seenAt =>
      simp only [WebhookDelivery.step, Option.ite_none_right_eq_some] at moves
      obtain ⟨⟨-, onTime⟩, made⟩ := moves
      cases made
      exact kept.arrive works sends onTime
  | loseRequest attempt =>
      cases moves
      exact ⟨kept.stamped, kept.fresh, kept.first, kept.answered, kept.heard⟩
  | loseAnswer attempt =>
      cases moves
      refine ⟨kept.stamped, kept.fresh, kept.first, ?_, kept.heard⟩
      exact fun answer member => kept.answered answer (List.mem_of_mem_filter member)
  | hear attempt =>
      cases found : answerTo before attempt with
      | none => simp [WebhookDelivery.step, found] at moves
      | some answer =>
          simp only [WebhookDelivery.step, found, Option.ite_none_right_eq_some] at moves
          obtain ⟨-, made⟩ := moves
          cases made
          have status := kept.answered answer (List.mem_of_find?_eq_some found)
            (clear answer found)
          refine ⟨kept.stamped, kept.fresh, kept.first, kept.answered, fun _ => ?_⟩
          dsimp only
          rw [status]
          rfl
  | relay attempt status =>
      simp only [WebhookDelivery.step, Option.ite_none_right_eq_some] at moves
      obtain ⟨⟨waiting, -⟩, made⟩ := moves
      cases made
      exact ⟨kept.stamped, kept.fresh, kept.first, kept.answered,
        fun some => absurd (unheard waiting (by rintro ⟨⟩)) some⟩
  | fail attempt =>
      simp only [WebhookDelivery.step, Option.ite_none_right_eq_some] at moves
      obtain ⟨waiting, made⟩ := moves
      cases made
      exact ⟨kept.stamped, kept.fresh, kept.first, kept.answered,
        fun some => absurd (unheard waiting (by rintro ⟨⟩)) some⟩
  | wake attempt =>
      simp only [WebhookDelivery.step, Option.ite_none_right_eq_some] at moves
      obtain ⟨resting, made⟩ := moves
      cases made
      exact ⟨kept.stamped, kept.fresh, kept.first, kept.answered,
        fun some => absurd (unheard resting (by rintro ⟨⟩)) some⟩
  | other arrival =>
      simp only [WebhookDelivery.step, Option.ite_none_right_eq_some] at moves
      obtain ⟨⟨earlier, ordered, apart⟩, made⟩ := moves
      cases made
      exact kept.other (earlier.trans ordered) apart

end Steps

theorem Invariant.agrees {state : State} (kept : Invariant setup state) :
    Agrees state where
  first := kept.first
  delivered _ _ heard member _ := kept.heard (List.ne_nil_of_mem member)
  counted _ _ heard member _ ok finished maxFailCount now row := by
    rw [kept.heard (List.ne_nil_of_mem member)] at finished
    cases finished
    rfl

/-- Where the sender hears of no request that came while the guard held the
nonce of an accepted attempt, the two ends agree in every state of the run. -/
theorem delivery_agreed (works : Working setup) {url : Url} {signed : Signed}
    (sends : setup.prepared = some (url, signed)) {state : State}
    (reached : Reachable (Starts setup) (ClearMoves setup (setup.wire url signed)) state) :
    Agrees state := by
  refine Invariant.agrees (reached.invariant _ (fun _ => Starts.invariant) ?_)
  rintro before after kept ⟨event, clear, moves⟩
  exact kept.step works sends clear moves

theorem step_hear {request : Webhook.Request} {state : State} {attempt : Nat} {answer : Answer}
    (found : answerTo state attempt = some answer) (waiting : state.phase = .waiting attempt) :
    step setup request state (.hear attempt) = some { state with
      phase := afterStatus setup.config attempt answer.status
      heard := attempt :: state.heard } := by
  rw [step, found]
  exact if_pos waiting

theorem reachable_of_run {request : Webhook.Request} {events : List Event} {before after : State}
    (reached : Reachable (Starts setup) (Moves setup request) before)
    (ran : run setup request before events = some after) :
    Reachable (Starts setup) (Moves setup request) after := by
  induction events generalizing before with
  | nil =>
      cases ran
      exact reached
  | cons event rest ih =>
      obtain ⟨next, moves, ran⟩ := Option.bind_eq_some_iff.mp ran
      exact ih (reached.next ⟨event, moves⟩) ran

end Deliveries

namespace Demo

open Requests.Demo (agent agentBytes nonce)

def signature : String :=
  "4e2KdPunpk4J8wdsDquWWWFKniG5NHx5LbAyeaoyGy7jNftDQKTrd9ZPuoC3ZzDre9yVhQS6LtouyoTG7aQh3Tuf"

def signatureBytes : List UInt8 :=
  [181, 250, 96, 114, 31, 51, 173, 146, 181, 196, 81, 206, 163, 4, 16, 125, 26, 207, 224, 195, 22,
    188, 1, 117, 120, 187, 68, 77, 214, 212, 98, 240, 168, 213, 49, 92, 30, 35, 120, 211, 221, 171,
    107, 137, 227, 162, 111, 103, 41, 181, 128, 205, 156, 114, 109, 38, 194, 153, 77, 174, 196, 246,
    106, 6]

def crypto : Crypto where
  sha256 _ := [112, 109, 150, 174, 125, 138, 207, 115, 0, 63, 208, 127, 161, 215, 113, 112, 103, 15,
    84, 97, 120, 11, 71, 11, 10, 98, 95, 249, 154, 73, 198, 163]
  bs58Encode bytes :=
    if bytes = agentBytes then agent else if bytes = signatureBytes then signature else nonce
  bs58Decode text :=
    if text = agent then some agentBytes
    else if text = signature then some signatureBytes
    else none
  detachedVerify _ sig pubkey := sig = signatureBytes && pubkey = agentBytes

def body : String :=
  "\x7b\"type\":\"settlement.calls\",\"version\":1,\"indexerTs\":\"2025-01-01T00:00:00.000Z\"," ++
    "\"agentPubkey\":\"agent\",\"calls\":[]\x7d"

def payload : WebhookPayload where
  type := "settlement.calls"
  version := 1
  indexerTs := "2025-01-01T00:00:00.000Z"
  agentPubkey := "agent"
  calls := []

def library : JsonLibrary where
  stringify _ := body
  parse bytes := if bytes = encode body then some payload.toJson else none
  bigInt _ := none
  number _ := none

def webUrl : Url where
  href := "https://hooks.example.com/pact-webhook"
  protocol := "https:"
  username := ""
  password := ""
  hostname := "hooks.example.com"
  port := ""
  pathname := "/pact-webhook"
  search := ""

def parser : UrlParser where
  parse text := if text = webUrl.href then some webUrl else none
  reparse := by
    intro text url parsed
    split at parsed
    case isTrue => rw [← Option.some.inj parsed, if_pos rfl]
    case isFalse => cases parsed

def setup : Setup where
  crypto := crypto
  library := library
  parser := parser
  deps := { indexerSigningKey := agent, skewMs := none, reconcile := fun _ => .ok () }
  config := { maxAttempts := 4, maxBodyBytes := 262144 }
  signer := { sign := fun _ => signatureBytes, publicKey := agentBytes }
  url := webUrl.href
  payload := payload
  signedAt := 1735689600000
  randomBytes := [1, 2, 3, 4, 5, 6, 7, 8, 9, 10, 11, 12, 13, 14, 15, 16]
  added := []

def signed : Signed := signWebhook crypto library setup.signer webUrl payload setup.signedAt
  setup.randomBytes

def start : State where
  cache := ∅
  clock := 1735689600000
  phase := .waiting 1
  requests := [1]
  answers := []
  arrived := []
  accepted := []
  heard := []

theorem works : Working setup where
  pinned := by decide +kernel
  keyLength := rfl
  verifies _ := by simp [setup, crypto]
  signatureLength _ := rfl
  published := by decide +kernel
  decodes _ :=
    (by decide +kernel : crypto.bs58Decode (crypto.bs58Encode signatureBytes) = some signatureBytes)
  spells bytes _ := by
    show (if bytes = agentBytes then agent else if bytes = signatureBytes then signature
      else nonce) ≠ ""
    split
    · decide
    · split <;> decide
  nonceLength := rfl
  clock := by decide +kernel
  written := by decide +kernel
  parses := by
    show (if encode body = encode body then some payload.toJson else none) = some payload.toJson
    rw [if_pos rfl]
  takes _ := rfl

theorem sends : setup.prepared = some (webUrl, signed) := by
  have parsed : parser.parse webUrl.href = some webUrl := by
    show (if webUrl.href = webUrl.href then some webUrl else none) = some webUrl
    rw [if_pos rfl]
  have named : isUnsafeIp webUrl.hostname = false := by decide +kernel
  have safe : assertSafeWebhookUrl parser webUrl.href = .ok webUrl := by
    rw [assertSafeWebhookUrl, parsed]
    dsimp only
    rw [named]
    rfl
  have small : ¬ setup.config.maxBodyBytes < (encode signed.body).length := by decide +kernel
  show prepare crypto library parser setup.signer setup.config webUrl.href payload setup.signedAt
    setup.randomBytes = _
  rw [prepare, safe]
  dsimp only
  rw [parsed]
  exact if_neg small

theorem starts : Starts setup start where
  phase := rfl
  requests := rfl
  answers := rfl
  arrived := rfl
  accepted := rfl
  heard := rfl
  idle _ found := by cases found

/-- The first attempt is answered. -/
theorem delivery_agreed_demo :
    Agrees { arrive setup (setup.wire webUrl signed) start 1 1735689600100 1735689600100 with
      phase := .finished true
      heard := [1] } := by
  have onTime : OnTime setup start 1735689600100 1735689600100 := by decide +kernel
  have arrived : step setup (setup.wire webUrl signed) start
      (.arrive 1 1735689600100 1735689600100) =
        some (arrive setup (setup.wire webUrl signed) start 1 1735689600100 1735689600100) :=
    if_pos ⟨List.mem_singleton.mpr rfl, onTime⟩
  have once : Reachable (Starts setup) (ClearMoves setup (setup.wire webUrl signed)) _ :=
    .next (.start starts) ⟨.arrive 1 1735689600100 1735689600100, trivial, arrived⟩
  have status : (handle setup.crypto setup.library setup.deps start.cache
      ⟨setup.wire webUrl signed, 1735689600100, 1735689600100⟩).1.status = 202 := by
    decide +kernel
  have found : answerTo (arrive setup (setup.wire webUrl signed) start 1 1735689600100
      1735689600100) 1 = some ⟨1, 202, false⟩ := by
    rw [← status]
    rfl
  refine delivery_agreed works sends (once.next ⟨.hear 1, ?_, step_hear found rfl⟩)
  intro answer same
  rw [found] at same
  cases same
  rfl

/-- The answer to the first attempt is lost, and the second is told that its
nonce is a replay. -/
theorem delivery_disagreed :
    ¬ ∀ state, Reachable (Starts setup) (Moves setup (setup.wire webUrl signed)) state →
      Agrees state := by
  intro holds
  have ran : (run setup (setup.wire webUrl signed) start [.arrive 1 1735689600100 1735689600100,
      .fail 1, .wake 1, .arrive 2 1735689605600 1735689605600, .hear 2]).map
        (fun state => (state.accepted, state.heard, state.phase)) =
      some ([(1, 1735689600100)], [2], .finished false) := by
    decide +kernel
  obtain ⟨state, ended, parts⟩ := Option.map_eq_some_iff.mp ran
  have agrees := holds state (reachable_of_run (.start starts) ended)
  obtain ⟨accepted, heard, phase⟩ := Prod.mk.inj parts |>.imp_right Prod.mk.inj
  have delivered := agrees.delivered (1, 1735689600100) (by rw [accepted]; exact List.mem_cons_self)
    2 (by rw [heard]; exact List.mem_cons_self) (by decide)
  rw [phase] at delivered
  cases delivered

end Demo

end WebhookDelivery

end PactNetwork.Requests
