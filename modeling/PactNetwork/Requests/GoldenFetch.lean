import Mathlib.Data.List.Dedup
import PactNetwork.Requests.Webhook

/-!
# Golden fetch

The SDK's covered fetch: it resolves the host of a call to an endpoint, signs
the call, sends it through the gateway, and falls back to a bare fetch wherever
the gateway's answer does not show that it was processed.
-/

set_option autoImplicit false

namespace PactNetwork.Requests

open Settler (isSpace)

namespace Sdk

/-! ## Hosts -/

def trim (text : List Char) : List Char :=
  let leading := text.dropWhile fun char => isSpace char.toNat
  (leading.reverse.dropWhile fun char => isSpace char.toNat).reverse

def hasScheme : List Char → Bool
  | [] => false
  | first :: rest =>
      first.isAlpha && "://".toList.isPrefixOf (rest.dropWhile fun char =>
        char.isAlphanum || char = '+' || char = '.' || char = '-')

def dropTrailing (char : Char) (text : String) : String :=
  String.ofList ((text.toList.reverse.dropWhile (· = char)).reverse)

/-- The host a call is resolved under; `none` where it throws. -/
def canonicalHostname (parser : UrlParser) (input : String) : Option String :=
  let trimmed := trim input.toList
  if trimmed = [] then none
  else
    let withScheme := if hasScheme trimmed then String.ofList trimmed
      else "https://" ++ String.ofList trimmed
    match parser.parse withScheme with
    | none => none
    | some url =>
        let host := dropTrailing '.' (toLowerCase url.hostname)
        if host = "" then none else some host

/-! ## Bodies and headers -/

inductive BodyInit
  | absent
  | text (content : String)
  | uint8Array (raw : List UInt8)
  | arrayBuffer (raw : List UInt8)
  | view (raw : List UInt8)
  /-- Streams, forms, blobs and search parameters. -/
  | other
  deriving DecidableEq

def bodyToBytes : BodyInit → Option (List UInt8)
  | .absent => none
  | .text content => if content = "" then none else some (encode content)
  | .uint8Array raw => some raw
  | .arrayBuffer raw => some raw
  | .view raw => some raw
  | .other => none

def hasBody : BodyInit → Bool
  | .absent => false
  | .text content => content ≠ ""
  | _ => true

structure RequestInit where
  method : Option String
  headers : List (String × String)
  body : BodyInit

def isBlank (char : Char) : Bool := char = ' ' || char = '\t' || char = '\n' || char = '\r'

def trimBlanks (value : String) : String :=
  String.ofList (((value.toList.dropWhile isBlank).reverse.dropWhile isBlank).reverse)

def isTokenChar (char : Char) : Bool := char.isAlphanum || char ∈ "!#$%&'*+-.^_`|~".toList

def validHeaders (headers : List (String × String)) : Bool :=
  headers.all fun header =>
    header.1 ≠ "" && header.1.toList.all isTokenChar &&
      (trimBlanks header.2).toList.all fun char =>
        char.toNat ≠ 0 && char ≠ '\n' && char ≠ '\r' && char.toNat < 256

def toHeaders (headers : List (String × String)) : Headers :=
  headers.map fun header => (toLowerCase header.1, trimBlanks header.2)

def headersToRecord (headers : List (String × String)) : Headers :=
  ((toHeaders headers).map Prod.fst).dedup.map fun name =>
    (name, ((toHeaders headers).get name).getD "")

def strippedHeaders : List String :=
  ["authorization", "x-api-key", "x-helius-api-key", "x-birdeye-api-key"]

def cleanForwardHeaders (headers : List (String × String)) : List (String × String) :=
  let out := headers.filter fun header => toLowerCase header.1 ∉ strippedHeaders
  if out.any fun header => toLowerCase header.1 = "accept-encoding" then out
  else out ++ [("accept-encoding", "identity;q=1, *;q=0")]

def spread (base other : List (String × String)) : List (String × String) :=
  (base.filter fun header => header.1 ∉ other.map Prod.fst) ++ other

/-! ## Signing -/

def buildSignaturePayload (method path network : String) (timestampMs : Int)
    (nonce bodyHash : String) : String :=
  joinLines ["v2", toUpperCase method, path, network, toString timestampMs, nonce, bodyHash]

def buildProxiedUrl (parser : UrlParser) (proxyBaseUrl slug originalUrl : String) :
    Option String :=
  (parser.parse originalUrl).map fun u =>
    dropTrailing '/' proxyBaseUrl ++ "/v1/" ++ slug ++ u.pathname ++ u.search

/-- What signs a payload, for either kind of key; `none` where it throws. -/
inductive SignFn
  | evm (sign : List UInt8 → Option String)
  | solana (sign : List UInt8 → Option (List UInt8))

def SignFn.signature (crypto : Crypto) (payload : List UInt8) : SignFn → Option String
  | .evm sign => sign payload
  | .solana sign => (sign payload).map crypto.bs58Encode

structure Deps where
  proxyBaseUrl : String
  project : String
  network : Option String
  signRequests : Bool
  agentPubkey : String
  sign : Option SignFn

/-- The clock read and the random bytes of a signature. -/
structure Moment where
  now : Int
  randomBytes : List UInt8

def Moment.nonce (crypto : Crypto) (moment : Moment) : String :=
  crypto.bs58Encode moment.randomBytes

def buildAuthHeaders (crypto : Crypto) (parser : UrlParser) (deps : Deps) (sign : SignFn)
    (moment : Moment) (method proxiedUrl : String) (bodyBytes : Option (List UInt8)) :
    Option (List (String × String)) := do
  let u ← parser.parse proxiedUrl
  let bodyHash := crypto.bodyHash (bodyBytes.getD [])
  let payload := buildSignaturePayload method u.path (deps.network.getD "") moment.now
    (moment.nonce crypto) bodyHash
  let signature ← sign.signature crypto (encode payload)
  some ([("x-pact-agent", deps.agentPubkey), ("x-pact-timestamp", toString moment.now),
    ("x-pact-nonce", moment.nonce crypto), ("x-pact-signature", signature),
    ("x-pact-project", deps.project)] ++
      (Headers.given deps.network).toList.map fun network => ("x-pact-network", network))

/-! ## The fetch -/

inductive DegradedReason
  | unregistered
  | paused
  | discoveryFailed
  | invalidHostname
  | unsigned
  | unsignableBody
  | proxyUnreachable
  | proxyAuthRejected
  | proxyError
  | proxyUnprocessed
  deriving DecidableEq

/-- The resolver's answer for a host, with the premium, which may be no number. -/
inductive SlugResolution
  | ok (slug : String) (premiumBps : Option ℚ)
  | failed (reason : DegradedReason)

structure FetchCall where
  url : String
  method : String
  headers : List (String × String)
  body : BodyInit
  deriving DecidableEq

/-- The endpoint a call was resolved to, as far as it was. -/
structure Target where
  host : Option String
  slug : Option String
  premiumBps : Option (Option ℚ)
  deriving DecidableEq

/-- What is left to do once a call is prepared: nothing where an address is no
URL or a header cannot be sent, a bare fetch, or a fetch through the gateway. -/
inductive Attempt
  | threw
  | bare (reason : DegradedReason) (target : Target)
  | proxied (call : FetchCall) (target : Target)
  deriving DecidableEq

def prepare (crypto : Crypto) (parser : UrlParser) (deps : Deps)
    (resolve : String → SlugResolution) (moment : Moment) (url : String) (init : RequestInit)
    (hostnameOverride : Option String) : Attempt :=
  let method := toUpperCase (init.method.getD "GET")
  match canonicalHostname parser (hostnameOverride.getD url) with
  | none => .bare .invalidHostname ⟨none, none, none⟩
  | some host =>
      match resolve host with
      | .failed reason => .bare reason ⟨some host, none, none⟩
      | .ok slug premiumBps =>
          let target : Target := ⟨some host, some slug, some premiumBps⟩
          match deps.signRequests, deps.sign with
          | true, some sign =>
              if hasBody init.body ∧ bodyToBytes init.body = none then .bare .unsignableBody target
              else
                match buildProxiedUrl parser deps.proxyBaseUrl slug url with
                | none => .threw
                | some proxiedUrl =>
                    match buildAuthHeaders crypto parser deps sign moment method proxiedUrl
                      (bodyToBytes init.body) with
                    | none => .bare .unsigned target
                    | some authHeaders =>
                        if validHeaders init.headers then
                          let headers :=
                            spread (cleanForwardHeaders (headersToRecord init.headers)) authHeaders
                          .proxied ⟨proxiedUrl, method, headers, init.body⟩ target
                        else .threw
          | _, _ => .bare .unsigned target

structure Response where
  status : Nat
  headers : Headers
  body : Option (List UInt8)
  deriving DecidableEq

structure PactResponseHeaders where
  callId : Option String
  premiumLamports : Option Int
  refundLamports : Option Int
  latencyMs : Option ℚ
  outcome : Option String
  pool : Option String
  settlementPending : Bool

def parsePactHeaders (library : JsonLibrary) (headers : Headers) : PactResponseHeaders where
  callId := headers.get "x-pact-call-id"
  premiumLamports := (headers.get "x-pact-premium").bind fun v => library.bigInt (some (.string v))
  refundLamports := (headers.get "x-pact-refund").bind fun v => library.bigInt (some (.string v))
  latencyMs := (headers.get "x-pact-latency-ms").bind fun v => library.number (some (.string v))
  outcome := headers.get "x-pact-outcome"
  pool := headers.get "x-pact-pool"
  settlementPending := headers.get "x-pact-settlement-pending" = some "1"

def isPactProcessed (pact : PactResponseHeaders) : Bool :=
  pact.callId.isSome || pact.outcome.isSome

structure GoldenFetchResult where
  response : Response
  degraded : Bool
  degradedReason : Option DegradedReason
  pactHeaders : Option PactResponseHeaders
  callId : Option String
  target : Target

def unprocessedReason (status : Nat) : DegradedReason :=
  if status = 401 then .proxyAuthRejected
  else if 500 ≤ status then .proxyError
  else .proxyUnprocessed

section Fetching

variable {σ : Type} (library : JsonLibrary) (bareFetch : σ → Option Response × σ)

def bare (reason : DegradedReason) (target : Target) (world : σ) : Option GoldenFetchResult × σ :=
  match bareFetch world with
  | (none, world) => (none, world)
  | (some response, world) => (some ⟨response, true, some reason, none, none, target⟩, world)

/-- Carry out a prepared call in a world that the fetches change. -/
def goldenFetch (proxyFetch : FetchCall → σ → Option Response × σ) (attempt : Attempt)
    (world : σ) : Option GoldenFetchResult × σ :=
  match attempt with
  | .threw => (none, world)
  | .bare reason target => bare bareFetch reason target world
  | .proxied call target =>
      match proxyFetch call world with
      | (none, world) => bare bareFetch .proxyUnreachable target world
      | (some response, world) =>
          let pact := parsePactHeaders library response.headers
          if isPactProcessed pact then
            (some ⟨response, false, none, some pact, pact.callId, target⟩, world)
          else bare bareFetch (unprocessedReason response.status) target world

end Fetching

/-! ## The wire -/

def isPactHeader (name : String) : Bool := "x-pact-".toList.isPrefixOf (toLowerCase name).toList

/-- What the platform's fetch and the gateway's server make of a call: whether it
is sent at all, and which headers are added on the way. -/
structure Wire where
  sendable : FetchCall → Bool
  added : FetchCall → Headers
  unmarked : ∀ call, ∀ header ∈ added call, isPactHeader header.1 = false

def wireBody : BodyInit → List UInt8
  | .absent => []
  | .text content => encode content
  | .uint8Array raw => raw
  | .arrayBuffer raw => raw
  | .view raw => raw
  | .other => []

/-- A call as it reaches the gateway, which reads the address it is given once
more. -/
def transmit (parser : UrlParser) (wire : Wire) (endpointNetwork : Except String (Option String))
    (call : FetchCall) : Option Gateway.Context :=
  match parser.parse call.url with
  | none => none
  | some url =>
      if wire.sendable call then
        some { method := call.method
               url := parser.parse url.href
               headers := toHeaders call.headers ++ wire.added call
               body := some (wireBody call.body)
               endpointNetwork := endpointNetwork }
      else none

end Sdk

end PactNetwork.Requests
