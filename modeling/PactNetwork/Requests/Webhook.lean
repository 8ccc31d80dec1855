import Mathlib.Algebra.Order.Ring.Rat
import Mathlib.Data.Rat.Cast.Order
import Mathlib.Tactic.Linarith
import Mathlib.Tactic.NormNum
import PactNetwork.Requests.SingleUse

/-!
# Webhook receiver

The handler through which an agent's host takes settled calls from the one
indexer key it pins: what it checks, what it remembers, and what it hands on.
-/

set_option autoImplicit false

namespace PactNetwork.Requests

open ReplayCache (unlessSeen answers Asks Prompt SingleUse singleUse_of_prompt)
open Headers (given given_eq_some)

inductive Json
  | null
  | bool (value : Bool)
  | number (value : ℚ)
  | string (value : String)
  | array (items : List Json)
  | object (fields : List (String × Json))

/-- A property of a value, if reading it does not throw; `none` inside is
`undefined`. -/
def Json.property (name : String) : Json → Option (Option Json)
  | .null => none
  | .object fields => some (fields.lookup name)
  | _ => some none

def truthy : Option Json → Bool
  | none | some .null => false
  | some (.bool value) => value
  | some (.number value) => value ≠ 0
  | some (.string value) => value ≠ ""
  | some (.array _) | some (.object _) => true

/-- What the sender and the receiver take from the platform. -/
structure JsonLibrary where
  /-- `JSON.stringify(value)`. -/
  stringify : Json → String
  /-- `JSON.parse(new TextDecoder().decode(bytes))`. -/
  parse : List UInt8 → Option Json
  /-- `BigInt(value)`. -/
  bigInt : Option Json → Option Int
  /-- `Number(value)`. -/
  number : Option Json → Option ℚ

namespace Webhook

structure Notification where
  callId : Option Json
  slug : Option Json
  premiumLamports : Int
  refundLamports : Int
  breach : Option Json
  settledAt : Option Json
  txSignature : Option Json

inductive Body
  | bytes (raw : List UInt8)
  | text (content : String)

def Body.toBytes : Body → List UInt8
  | .bytes raw => raw
  | .text content => encode content

structure Request where
  method : String
  path : String
  headers : List (String × HeaderValue)
  body : Body

/-- The handler's configuration and the sink it hands calls to, which may throw. -/
structure Deps where
  indexerSigningKey : String
  skewMs : Option ℚ
  reconcile : Notification → Except String Unit

def Deps.skew (deps : Deps) : ℚ := deps.skewMs.getD 300000

def header (headers : List (String × HeaderValue)) (name : String) : Option String :=
  ((headers.lookup name).orElse fun _ => headers.lookup (toLowerCase name)).bind HeaderValue.first

/-- A status with the reason of a rejection, and the calls handed on before it. -/
structure Reply where
  status : Nat
  error : Option String
  reconciled : List Notification

def reject (status : Nat) (reason : String) : Reply := ⟨status, some reason, []⟩

/-- A cache of the nonces, with the time each expires. -/
abbrev Nonces := Table String ℚ

def guardLimit : Nat := 2048

section Handler

variable (crypto : Crypto) (library : JsonLibrary) (deps : Deps)

def toBig (value : Option Json) : Int := (library.bigInt value).getD 0

/-- The notification of a call of the payload; reading `null` throws. -/
def notification (call : Json) : Option Notification := do
  let callId ← call.property "callId"
  let slug ← call.property "endpointSlug"
  let premiumLamports ← call.property "premiumLamports"
  let refundLamports ← call.property "refundLamports"
  let breach ← call.property "breach"
  let settledAt ← call.property "settledAt"
  let txSignature ← call.property "signature"
  some ⟨callId, slug, toBig library premiumLamports, toBig library refundLamports, breach,
    settledAt, txSignature⟩

/-- Hand the calls on one by one, up to the first that throws. -/
def route : List Json → List Notification × Option String
  | [] => ([], none)
  | call :: rest =>
      match notification library call with
      | none => ([], some "Cannot read properties of null (reading 'callId')")
      | some notified =>
          match deps.reconcile notified with
          | .error message => ([], some message)
          | .ok () => (notified :: (route rest).1, (route rest).2)

/-- Read the payload of a verified delivery and route its calls. -/
def routePayload (bodyBytes : List UInt8) : Reply :=
  match library.parse bodyBytes with
  | none => reject 400 "malformed JSON body"
  | some payload =>
      match payload.property "calls" with
      | some (some (.array calls)) =>
          match (route library deps calls).2 with
          | none => ⟨202, none, (route library deps calls).1⟩
          | some message => ⟨400, some ("unhandled: " ++ message), (route library deps calls).1⟩
      | _ => reject 400 "missing calls[]"

def canonical (request : Request) (nonce : String) (tsMs : Int) : String :=
  joinLines ["v1", "POST", request.path, toString tsMs, nonce,
    crypto.bodyHash request.body.toBytes]

def receive (request : Request) (pinnedKey : List UInt8) (nonce signature : String) (tsMs : Int) :
    Reply :=
  match crypto.bs58Decode signature with
  | none => reject 401 "bad signature encoding"
  | some sig =>
      if sig.length = 64 ∧ verifyDetached crypto pinnedKey sig
          (canonical crypto request nonce tsMs) then
        routePayload library deps request.body.toBytes
      else reject 401 "signature verification failed"

def handle (cache : Nonces) (arrival : Arrival Request) : Reply × Nonces :=
  match crypto.bs58Decode deps.indexerSigningKey with
  | none => (reject 500 "indexerSigningKey not configured", cache)
  | some pinnedKey =>
      if pinnedKey.length ≠ 32 then (reject 500 "indexerSigningKey not configured", cache)
      else
        match given (header arrival.request.headers "x-pact-agent"),
          given (header arrival.request.headers "x-pact-timestamp"),
          given (header arrival.request.headers "x-pact-nonce"),
          given (header arrival.request.headers "x-pact-signature") with
        | some agent, some ts, some nonce, some signature =>
            match crypto.bs58Decode agent with
            | none => (reject 401 "bad x-pact-agent", cache)
            | some agentKey =>
                if agentKey ≠ pinnedKey then
                  (reject 401 "signer is not the pinned indexer key", cache)
                else
                  match timestampMs ts with
                  | none => (reject 401 "timestamp outside skew window", cache)
                  | some tsMs =>
                      if deps.skew < |(arrival.checkedAt - tsMs : ℚ)| then
                        (reject 401 "timestamp outside skew window", cache)
                      else
                        unlessSeen guardLimit deps.skew cache (replayKey agent nonce)
                          arrival.seenAt (reject 401 "nonce replay")
                          (receive crypto library deps arrival.request pinnedKey nonce signature
                            tsMs)
        | _, _, _, _ => (reject 400 "missing pact webhook headers", cache)

section Accepting

variable {crypto library deps}

theorem routePayload_status {bodyBytes : List UInt8} {payload : Json} {calls : List Json}
    (parsed : library.parse bodyBytes = some payload)
    (listed : payload.property "calls" = some (some (.array calls)))
    (routed : (route library deps calls).2 = none) :
    (routePayload library deps bodyBytes).status = 202 := by
  rw [routePayload, parsed]
  dsimp only
  rw [listed]
  dsimp only
  rw [routed]

theorem receive_of_genuine {request : Request} {pinnedKey sig : List UInt8}
    {nonce signature : String} {tsMs : Int} (decoded : crypto.bs58Decode signature = some sig)
    (length : sig.length = 64)
    (genuine : verifyDetached crypto pinnedKey sig (canonical crypto request nonce tsMs) = true) :
    receive crypto library deps request pinnedKey nonce signature tsMs =
      routePayload library deps request.body.toBytes := by
  rw [receive, decoded]
  exact if_pos ⟨length, genuine⟩

theorem handle_of_pinned {cache : Nonces} (arrival : Arrival Request) {pinnedKey : List UInt8}
    {agent timestamp nonce signature : String} {tsMs : Int}
    (pinned : crypto.bs58Decode deps.indexerSigningKey = some pinnedKey)
    (keyLength : pinnedKey.length = 32)
    (agentGiven : given (header arrival.request.headers "x-pact-agent") = some agent)
    (timestampGiven : given (header arrival.request.headers "x-pact-timestamp") = some timestamp)
    (nonceGiven : given (header arrival.request.headers "x-pact-nonce") = some nonce)
    (signatureGiven : given (header arrival.request.headers "x-pact-signature") = some signature)
    (decoded : crypto.bs58Decode agent = some pinnedKey)
    (parsed : timestampMs timestamp = some tsMs)
    (inside : |(arrival.checkedAt - tsMs : ℚ)| ≤ deps.skew) :
    handle crypto library deps cache arrival =
      unlessSeen guardLimit deps.skew cache (replayKey agent nonce) arrival.seenAt
        (reject 401 "nonce replay")
        (receive crypto library deps arrival.request pinnedKey nonce signature tsMs) := by
  rw [handle, pinned]
  dsimp only
  rw [if_neg (not_not.mpr keyLength), agentGiven, timestampGiven, nonceGiven, signatureGiven]
  dsimp only
  rw [decoded]
  dsimp only
  rw [if_neg (not_not.mpr rfl), parsed]
  dsimp only
  rw [if_neg (not_lt.mpr inside)]

end Accepting

/-! ## Single use of deliveries -/

/-- The headers and bytes that identify a signed delivery. -/
structure Delivery where
  timestamp : Option String
  nonce : Option String
  path : String
  body : List UInt8
  signature : Option String

def Request.delivery (request : Request) : Delivery :=
  ⟨header request.headers "x-pact-timestamp", header request.headers "x-pact-nonce", request.path,
    request.body.toBytes, header request.headers "x-pact-signature"⟩

def Delivery.signedAt (delivery : Delivery) : Option Int := delivery.timestamp.bind timestampMs

/-- The same timestamp, nonce, path, body and signature. -/
structure Same (first second : Arrival Request) : Prop where
  signedAt : first.request.delivery.signedAt = second.request.delivery.signedAt
  nonce : first.request.delivery.nonce = second.request.delivery.nonce
  path : first.request.delivery.path = second.request.delivery.path
  body : first.request.delivery.body = second.request.delivery.body
  signature : first.request.delivery.signature = second.request.delivery.signature

/-- A delivery in the pinned key's name, within the skew of its timestamp. -/
structure InWindow (arrival : Arrival Request) : Prop where
  signer : ∃ agent, header arrival.request.headers "x-pact-agent" = some agent ∧
    crypto.bs58Decode agent = crypto.bs58Decode deps.indexerSigningKey ∧
    crypto.bs58Decode agent ≠ none
  skew : ∃ tsMs, arrival.request.delivery.signedAt = some tsMs ∧
    |(arrival.checkedAt - tsMs : ℚ)| ≤ deps.skew

def Accepted (reply : Reply) : Prop := reply.status = 202

theorem not_accepted_reject {status : Nat} {reason : String} (other : status ≠ 202) :
    ¬ Accepted (reject status reason) := other

def key (arrival : Arrival Request) : String :=
  replayKey ((header arrival.request.headers "x-pact-agent").getD "")
    (arrival.request.delivery.nonce.getD "")

theorem asks_handle (cache : Nonces) (arrival : Arrival Request) :
    Asks guardLimit deps.skew key (fun arrival => (arrival.seenAt : ℚ)) Accepted cache arrival
      (handle crypto library deps cache arrival) := by
  unfold handle
  split
  case h_1 => exact .early _ (not_accepted_reject (by decide))
  case h_2 pinnedKey pinned =>
    split
    case isTrue => exact .early _ (not_accepted_reject (by decide))
    case isFalse =>
      split
      case h_2 => exact .early _ (not_accepted_reject (by decide))
      case h_1 agent ts nonce signature agentGiven _ nonceGiven _ =>
        split
        case h_1 => exact .early _ (not_accepted_reject (by decide))
        case h_2 agentKey decoded =>
          split
          case isTrue => exact .early _ (not_accepted_reject (by decide))
          case isFalse =>
            split
            case h_1 => exact .early _ (not_accepted_reject (by decide))
            case h_2 tsMs _ =>
              split
              case isTrue => exact .early _ (not_accepted_reject (by decide))
              case isFalse =>
                refine ReplayCache.asks_unlessSeen ?_ (not_accepted_reject (by decide))
                rw [key, Request.delivery, (given_eq_some.mp agentGiven).1,
                  (given_eq_some.mp nonceGiven).1]
                rfl

theorem inWindow_of_accepted (cache : Nonces) (arrival : Arrival Request)
    (passed : Accepted (handle crypto library deps cache arrival).1) :
    InWindow crypto deps arrival := by
  unfold handle at passed
  split at passed
  case h_1 => exact absurd passed (not_accepted_reject (by decide))
  case h_2 pinnedKey pinned =>
    split at passed
    case isTrue => exact absurd passed (not_accepted_reject (by decide))
    case isFalse =>
      split at passed
      case h_2 => exact absurd passed (not_accepted_reject (by decide))
      case h_1 agent ts nonce signature agentGiven timestampGiven _ _ =>
        split at passed
        case h_1 => exact absurd passed (not_accepted_reject (by decide))
        case h_2 agentKey decoded =>
          split at passed
          case isTrue => exact absurd passed (not_accepted_reject (by decide))
          case isFalse signer =>
            split at passed
            case h_1 => exact absurd passed (not_accepted_reject (by decide))
            case h_2 tsMs parsed =>
              split at passed
              case isTrue => exact absurd passed (not_accepted_reject (by decide))
              case isFalse inside =>
                rw [not_not] at signer
                refine ⟨⟨agent, (given_eq_some.mp agentGiven).1, ?_, ?_⟩, tsMs, ?_,
                  not_lt.mp inside⟩
                · rw [decoded, pinned, signer]
                · rw [decoded]
                  exact Option.some_ne_none _
                · rw [Delivery.signedAt, Request.delivery, (given_eq_some.mp timestampGiven).1]
                  exact parsed

variable {crypto deps}

theorem key_eq_of_same
    (spelled : ∀ text other bytes, crypto.bs58Decode text = some bytes →
      crypto.bs58Decode other = some bytes → text = other)
    {first second : Arrival Request} (same : Same first second)
    (one : InWindow crypto deps first) (two : InWindow crypto deps second) :
    key first = key second := by
  obtain ⟨agent, named, pinned, decoded⟩ := one.signer
  obtain ⟨other, renamed, repinned, -⟩ := two.signer
  obtain ⟨bytes, decodes⟩ := Option.ne_none_iff_exists'.mp decoded
  have alike : agent = other :=
    spelled agent other bytes decodes (by rw [repinned, ← pinned, decodes])
  rw [key, key, same.nonce, named, renamed, alike]

end Handler

namespace Demo

open Requests.Demo (agent agentBytes nonce twice ordered_twice)

def signature : String :=
  "5XCQqVGfHCb1bsPAGEpF2wQoGyiEnXHiu119hr9ehpC5t8wzmxVncV4wEjaWgmn4X2Fi2v1JW32W6CbpMWiuUqby"

def signatureBytes : List UInt8 :=
  [226, 27, 199, 189, 152, 169, 160, 60, 17, 9, 183, 201, 190, 118, 168, 86, 26, 105, 150, 239, 34,
    13, 235, 242, 199, 112, 113, 94, 80, 210, 246, 190, 74, 72, 29, 188, 156, 197, 41, 64, 36, 250,
    202, 198, 120, 247, 175, 237, 117, 209, 162, 82, 123, 197, 68, 253, 247, 122, 224, 156, 67, 177,
    77, 4]

def body : String := "\x7b\"calls\":[]\x7d"

/-- The indexer signed one delivery of no calls. -/
def crypto : Crypto where
  sha256 _ := [98, 29, 81, 32, 47, 56, 105, 62, 50, 7, 132, 4, 234, 27, 175, 23, 149, 71, 198, 126,
    248, 95, 231, 246, 179, 253, 183, 155, 34, 101, 154, 99]
  bs58Encode _ := ""
  bs58Decode text :=
    if text = agent then some agentBytes
    else if text = signature then some signatureBytes
    else none
  detachedVerify message sig pubkey :=
    message = encode (joinLines ["v1", "POST", "/pact-webhook", "1735689600000", nonce,
      "621d51202f38693e32078404ea1baf179547c67ef85fe7f6b3fdb79b22659a63"]) &&
      sig = signatureBytes && pubkey = agentBytes

theorem spelled (text other : String) (bytes : List UInt8)
    (first : crypto.bs58Decode text = some bytes)
    (second : crypto.bs58Decode other = some bytes) : text = other := by
  have apart : agentBytes ≠ signatureBytes := by decide
  have each : ∀ text, crypto.bs58Decode text = some bytes →
      text = agent ∧ bytes = agentBytes ∨ text = signature ∧ bytes = signatureBytes := by
    intro text found
    change (if text = agent then some agentBytes
      else if text = signature then some signatureBytes else none) = some bytes at found
    split at found
    case isTrue same => exact .inl ⟨same, (Option.some.inj found).symm⟩
    case isFalse =>
      split at found
      case isTrue same => exact .inr ⟨same, (Option.some.inj found).symm⟩
      case isFalse => cases found
  rcases each text first with ⟨rfl, rfl⟩ | ⟨rfl, rfl⟩ <;>
    rcases each other second with ⟨rfl, same⟩ | ⟨rfl, same⟩
  · rfl
  · exact absurd same apart
  · exact absurd same.symm apart
  · rfl

def library : JsonLibrary where
  stringify _ := body
  parse bytes := if bytes = encode body then some (.object [("calls", .array [])]) else none
  bigInt _ := none
  number _ := none

def deps : Deps where
  indexerSigningKey := agent
  skewMs := none
  reconcile _ := .ok ()

def request : Request where
  method := "POST"
  path := "/pact-webhook"
  headers := [("x-pact-agent", .one agent), ("x-pact-timestamp", .one "1735689600000"),
    ("x-pact-nonce", .one nonce), ("x-pact-signature", .one signature)]
  body := .text body

end Demo

end Webhook

end PactNetwork.Requests
