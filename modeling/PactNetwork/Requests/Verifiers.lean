import PactNetwork.Foundation.ReplayCache
import PactNetwork.Requests.Http

/-!
# Request verifiers

The three places that check an agent's signature over a request: the gateway's
middleware, the facilitator's copy of it and the indexer's guard in front of
the webhook registration. Each keeps a cache of the nonces it has seen.
-/

set_option autoImplicit false

namespace PactNetwork.Requests

open ReplayCache (unlessSeen)
open Headers (given)

def defaultSkewMs : Int := 30000

def defaultReplayTtlMs : Int := 60000

def cacheLimit : Nat := 1024

inductive AuthError
  | missing
  | agentMismatch
  | stale
  | replay
  | badSig
  deriving DecidableEq

def AuthError.code : AuthError → String
  | .missing => "pact_auth_missing"
  | .agentMismatch => "pact_auth_agent_mismatch"
  | .stale => "pact_auth_stale"
  | .replay => "pact_auth_replay"
  | .badSig => "pact_auth_bad_sig"

/-- A cache of the nonces of agents, with the time each expires. -/
abbrev Nonces := Table String Int

def replayKey (agent nonce : String) : String := agent ++ ":" ++ nonce

/-- A request with what the two clock reads of its check gave. -/
structure Arrival (ρ : Type) where
  request : ρ
  checkedAt : Int
  seenAt : Int

/-- A middleware runs the next handler with the agent it stashed, rejects the
request with a status of 401, or throws. -/
inductive Answer
  | next (verifiedAgent : Option String)
  | reject (error : AuthError) (message : String)
  | failed
  deriving DecidableEq

def joinLines (lines : List String) : String := "\n".intercalate lines

variable (crypto : Crypto)

def verifyDetached (pubkey sig : List UInt8) (payload : String) : Bool :=
  crypto.detachedVerify (encode payload) sig pubkey

/-! ## The gateway -/

namespace Gateway

inductive AuthVm
  | evm
  | solana
  deriving DecidableEq

def AuthVm.text : AuthVm → String
  | .evm => "evm"
  | .solana => "solana"

def networkToVm (network : String) : AuthVm :=
  if "solana".toList.isPrefixOf network.toList then .solana else .evm

def isHexAddress (address : String) : Bool :=
  match address.toList with
  | '0' :: 'x' :: digits =>
      digits.length = 40 && digits.all fun digit => (Settler.hexDigit digit.toNat).isSome
  | _ => false

/-- What the gateway takes from `viem`. The checksum form of an address has its
letters in other cases. -/
structure Viem where
  checksumAddress : String → String
  casing : ∀ address, isHexAddress address = true →
    toLowerCase (checksumAddress address) = toLowerCase address
  /-- `none` where it throws. -/
  verifyMessage : (address message signature : String) → Option Bool

def Viem.isAddress (viem : Viem) (address : String) : Bool :=
  isHexAddress address &&
    (toLowerCase address = address || viem.checksumAddress address = address)

/-- The context of a request: besides what it carries, whether its body could
be read, how its address parses and what the network of the endpoint is. -/
structure Context where
  method : String
  url : Option Url
  headers : Headers
  body : Option (List UInt8)
  endpointNetwork : Except String (Option String)

def buildSignaturePayload (method path : String) (timestampMs : Int) (nonce bodyHash : String)
    (network : Option String) : String :=
  match network with
  | none => joinLines ["v1", toUpperCase method, path, toString timestampMs, nonce, bodyHash]
  | some network =>
      joinLines ["v2", toUpperCase method, path, network, toString timestampMs, nonce, bodyHash]

variable (viem : Viem)

def agentVm (agent : String) : AuthVm := if viem.isAddress agent then .evm else .solana

def normalizedAgent (agent : String) : String :=
  match agentVm viem agent with
  | .evm => toLowerCase (viem.checksumAddress agent)
  | .solana => agent

def verifySignature (agent signature : String) (payloads : List String) : Answer :=
  match agentVm viem agent with
  | .evm =>
      if payloads.any fun payload =>
          (viem.verifyMessage (normalizedAgent viem agent) payload signature).getD false then
        .next (some (normalizedAgent viem agent))
      else .reject .badSig "signature verification failed"
  | .solana =>
      match crypto.bs58Decode agent, crypto.bs58Decode signature with
      | some pubkey, some sig =>
          if pubkey.length ≠ 32 ∨ sig.length ≠ 64 then
            .reject .badSig "wrong signature or pubkey length"
          else if payloads.any (verifyDetached crypto pubkey sig) then
            .next (some (normalizedAgent viem agent))
          else .reject .badSig "signature verification failed"
      | _, _ => .reject .badSig "malformed signature or pubkey"

def authenticate (context : Context) (agent nonce signature : String) (tsMs : Int) : Answer :=
  match context.body with
  | none => .reject .badSig "could not read request body"
  | some body =>
      match context.url with
      | none => .failed
      | some url =>
          let payload := buildSignaturePayload context.method url.path tsMs nonce
            (crypto.bodyHash body)
          let payloads :=
            [payload (some ((context.headers.get "x-pact-network").getD "")), payload none]
          match context.endpointNetwork with
          | .error _ => .failed
          | .ok endpointNetwork =>
              match given endpointNetwork with
              | none => verifySignature crypto viem agent signature payloads
              | some network =>
                  if networkToVm network ≠ agentVm viem agent then
                    .reject .badSig ("agent key type (" ++ (agentVm viem agent).text ++
                      ") does not match endpoint network " ++ network)
                  else verifySignature crypto viem agent signature payloads

def verifyPactSignature (cache : Nonces) (arrival : Arrival Context) : Answer × Nonces :=
  match given (arrival.request.headers.get "x-pact-agent") with
  | none => (.next none, cache)
  | some agent =>
      match given (arrival.request.headers.get "x-pact-timestamp"),
        given (arrival.request.headers.get "x-pact-nonce"),
        given (arrival.request.headers.get "x-pact-signature"),
        given (arrival.request.headers.get "x-pact-project") with
      | some timestamp, some nonce, some signature, some _ =>
          match timestampMs timestamp with
          | none => (.reject .stale "malformed x-pact-timestamp", cache)
          | some tsMs =>
              if defaultSkewMs < |arrival.checkedAt - tsMs| then
                (.reject .stale "timestamp outside skew window", cache)
              else
                unlessSeen cacheLimit defaultReplayTtlMs cache
                  (replayKey (normalizedAgent viem agent) nonce) arrival.seenAt
                  (.reject .replay "nonce already seen")
                  (authenticate crypto viem arrival.request agent nonce signature tsMs)
      | _, _, _, _ => (.reject .missing "missing pact auth header", cache)

end Gateway

/-! ## The facilitator -/

namespace Facilitator

/-- As in the gateway, without a network of the endpoint. -/
structure Context where
  method : String
  url : Option Url
  headers : Headers
  body : Option (List UInt8)

def buildSignaturePayload (method path : String) (timestampMs : Int) (nonce bodyHash : String) :
    String :=
  joinLines ["v1", toUpperCase method, path, toString timestampMs, nonce, bodyHash]

def authenticate (context : Context) (agent nonce signature : String) (tsMs : Int) : Answer :=
  match context.body with
  | none => .reject .badSig "could not read request body"
  | some body =>
      match context.url with
      | none => .failed
      | some url =>
          let payload := buildSignaturePayload context.method url.path tsMs nonce
            (crypto.bodyHash body)
          match crypto.bs58Decode agent, crypto.bs58Decode signature with
          | some pubkey, some sig =>
              if pubkey.length ≠ 32 ∨ sig.length ≠ 64 then
                .reject .badSig "wrong signature or pubkey length"
              else if verifyDetached crypto pubkey sig payload then .next (some agent)
              else .reject .badSig "signature verification failed"
          | _, _ => .reject .badSig "malformed signature or pubkey"

/-- An agent is required here, a project is not. -/
def verifyPactSignature (cache : Nonces) (arrival : Arrival Context) : Answer × Nonces :=
  match given (arrival.request.headers.get "x-pact-agent") with
  | none => (.reject .missing "missing x-pact-agent header", cache)
  | some agent =>
      match given (arrival.request.headers.get "x-pact-timestamp"),
        given (arrival.request.headers.get "x-pact-nonce"),
        given (arrival.request.headers.get "x-pact-signature") with
      | some timestamp, some nonce, some signature =>
          match timestampMs timestamp with
          | none => (.reject .stale "malformed x-pact-timestamp", cache)
          | some tsMs =>
              if defaultSkewMs < |arrival.checkedAt - tsMs| then
                (.reject .stale "timestamp outside skew window", cache)
              else
                unlessSeen cacheLimit defaultReplayTtlMs cache (replayKey agent nonce)
                  arrival.seenAt (.reject .replay "nonce already seen")
                  (authenticate crypto arrival.request agent nonce signature tsMs)
      | _, _, _ => (.reject .missing "missing pact auth header", cache)

end Facilitator

/-! ## The indexer's guard -/

namespace AgentGuard

structure Context where
  method : String
  originalUrl : Option String
  url : String
  pubkey : String
  rawBody : Option (List UInt8)
  headers : List (String × HeaderValue)

def header (context : Context) (name : String) : Option String :=
  (context.headers.lookup name).bind HeaderValue.first

/-- The signature under a guard that takes anything malformed for a bad one. -/
def signed (context : Context) (agent nonce signature : String) (tsMs : Int) : Bool :=
  let path := context.originalUrl.getD context.url
  let bodyHash := crypto.bodyHash (context.rawBody.getD [])
  let payload := joinLines ["v1", toUpperCase context.method, path, toString tsMs, nonce, bodyHash]
  match crypto.bs58Decode agent, crypto.bs58Decode signature with
  | some pubkey, some sig =>
      pubkey.length = 32 && sig.length = 64 && verifyDetached crypto pubkey sig payload
  | _, _ => false

/-- Lets the request through or throws the exception with the error's code. -/
def canActivate (cache : Nonces) (arrival : Arrival Context) : Except AuthError Unit × Nonces :=
  match given (header arrival.request "x-pact-agent"),
    given (header arrival.request "x-pact-timestamp"),
    given (header arrival.request "x-pact-nonce"),
    given (header arrival.request "x-pact-signature") with
  | some agent, some ts, some nonce, some signature =>
      if agent ≠ arrival.request.pubkey then (.error .agentMismatch, cache)
      else
        match timestampMs ts with
        | none => (.error .stale, cache)
        | some tsMs =>
            if defaultSkewMs < |arrival.checkedAt - tsMs| then (.error .stale, cache)
            else
              unlessSeen cacheLimit defaultReplayTtlMs cache (replayKey agent nonce)
                arrival.seenAt (.error .replay)
                (if signed crypto arrival.request agent nonce signature tsMs then .ok ()
                else .error .badSig)
  | _, _, _, _ => (.error .missing, cache)

end AgentGuard

end PactNetwork.Requests
