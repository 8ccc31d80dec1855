import Mathlib.Algebra.Order.Group.Abs
import PactNetwork.Requests.Verifiers

/-!
# Single use of signed requests

Each verifier remembers an agent's nonce for a minute from the clock read of
its cache, and lets a timestamp pass for half a minute on either side of the
clock read of its skew check. A signed request can outlive its entry only on
the last instant of its window.
-/

set_option autoImplicit false

namespace PactNetwork.Requests

open ReplayCache (answers Asks Prompt SingleUse singleUse_of_prompt not_singleUse_pair)
open Headers (given given_eq_some)

/-! ## Signed requests -/

structure SignedRequest where
  agent : Option String
  timestamp : Option String
  nonce : Option String
  signature : Option String

def SignedRequest.signedAt (signed : SignedRequest) : Option Int :=
  signed.timestamp.bind timestampMs

/-- Two requests carry the same timestamp, nonce and signature of one agent. -/
structure SignedRequest.Same (sameAgent : Option String → Option String → Prop)
    (first second : SignedRequest) : Prop where
  agent : sameAgent first.agent second.agent
  signedAt : first.signedAt = second.signedAt
  nonce : first.nonce = second.nonce
  signature : first.signature = second.signature

def SignedRequest.InWindow (signed : SignedRequest) (checkedAt : Int) : Prop :=
  ∃ tsMs, signed.signedAt = some tsMs ∧ |checkedAt - tsMs| ≤ defaultSkewMs

/-- The clock never goes back, within a request or between two. -/
structure Ordered {ρ : Type} (arrivals : List (Arrival ρ)) : Prop where
  within : ∀ arrival ∈ arrivals, arrival.checkedAt ≤ arrival.seenAt
  between : arrivals.Pairwise fun first second => first.seenAt ≤ second.checkedAt

def Accepted (answer : Answer) : Prop := ∃ agent, answer = .next (some agent)

theorem not_accepted_pass : ¬ Accepted (.next none) := by
  rintro ⟨agent, ⟨⟩⟩

theorem not_accepted_reject {error : AuthError} {message : String} :
    ¬ Accepted (.reject error message) := by
  rintro ⟨agent, ⟨⟩⟩

section Runs

variable {ρ : Type}

theorem Ordered.seenAt {arrivals : List (Arrival ρ)} (ordered : Ordered arrivals) :
    arrivals.Pairwise fun first second => first.seenAt ≤ second.seenAt :=
  List.Pairwise.imp_of_mem
    (fun _ member before => before.trans (ordered.within _ member)) ordered.between

end Runs

/-! ## The gateway -/

namespace Gateway

variable (crypto : Crypto) (viem : Viem)

def signedRequest (context : Context) : SignedRequest :=
  ⟨context.headers.get "x-pact-agent", context.headers.get "x-pact-timestamp",
    context.headers.get "x-pact-nonce", context.headers.get "x-pact-signature"⟩

def SameAgent (first second : Option String) : Prop :=
  first = second ∨ ∃ agent other, first = some agent ∧ second = some other ∧
    viem.isAddress agent = true ∧ viem.isAddress other = true ∧
    toLowerCase agent = toLowerCase other

def Same (first second : Arrival Context) : Prop :=
  (signedRequest first.request).Same (SameAgent viem) (signedRequest second.request)

def InWindow (arrival : Arrival Context) : Prop :=
  (signedRequest arrival.request).InWindow arrival.checkedAt

def key (arrival : Arrival Context) : String :=
  replayKey (normalizedAgent viem ((signedRequest arrival.request).agent.getD ""))
    ((signedRequest arrival.request).nonce.getD "")

variable {viem} in
theorem isHexAddress_of_isAddress {agent : String} (admitted : viem.isAddress agent = true) :
    isHexAddress agent = true := by
  rw [Viem.isAddress, Bool.and_eq_true] at admitted
  exact admitted.1

variable {viem} in
theorem normalizedAgent_of_isAddress {agent : String} (admitted : viem.isAddress agent = true) :
    normalizedAgent viem agent = toLowerCase agent := by
  have vm : agentVm viem agent = .evm := if_pos admitted
  rw [normalizedAgent, vm]
  exact viem.casing agent (isHexAddress_of_isAddress admitted)

theorem key_eq_of_same {first second : Arrival Context} (same : Same viem first second) :
    key viem first = key viem second := by
  rw [key, key, same.nonce]
  rcases same.agent with equal | ⟨agent, other, named, renamed, admitted, readmitted, cased⟩
  · rw [equal]
  · rw [named, renamed, Option.getD_some, Option.getD_some,
      normalizedAgent_of_isAddress admitted, normalizedAgent_of_isAddress readmitted, cased]

theorem asks_verifyPactSignature (cache : Nonces) (arrival : Arrival Context) :
    Asks cacheLimit defaultReplayTtlMs (key viem) Arrival.seenAt Accepted cache arrival
      (verifyPactSignature crypto viem cache arrival) := by
  unfold verifyPactSignature
  split
  case h_1 => exact .early _ not_accepted_pass
  case h_2 agent agentGiven =>
    split
    case h_2 => exact .early _ not_accepted_reject
    case h_1 timestamp nonce signature project _ nonceGiven _ _ =>
      split
      case h_1 => exact .early _ not_accepted_reject
      case h_2 tsMs _ =>
        split
        case isTrue => exact .early _ not_accepted_reject
        case isFalse =>
          refine ReplayCache.asks_unlessSeen ?_ not_accepted_reject
          rw [key, signedRequest, (given_eq_some.mp agentGiven).1, (given_eq_some.mp nonceGiven).1]
          rfl

theorem inWindow_of_accepted (cache : Nonces) (arrival : Arrival Context)
    (passed : Accepted (verifyPactSignature crypto viem cache arrival).1) : InWindow arrival := by
  unfold verifyPactSignature at passed
  split at passed
  case h_1 => exact absurd passed not_accepted_pass
  case h_2 agent agentGiven =>
    split at passed
    case h_2 => exact absurd passed not_accepted_reject
    case h_1 timestamp nonce signature project timestampGiven _ _ _ =>
      split at passed
      case h_1 => exact absurd passed not_accepted_reject
      case h_2 tsMs parsed =>
        split at passed
        case isTrue => exact absurd passed not_accepted_reject
        case isFalse inside =>
          refine ⟨tsMs, ?_, not_lt.mp inside⟩
          rw [SignedRequest.signedAt, signedRequest, (given_eq_some.mp timestampGiven).1]
          exact parsed

end Gateway

/-! ## The facilitator -/

namespace Facilitator

variable (crypto : Crypto)

def signedRequest (context : Context) : SignedRequest :=
  ⟨context.headers.get "x-pact-agent", context.headers.get "x-pact-timestamp",
    context.headers.get "x-pact-nonce", context.headers.get "x-pact-signature"⟩

def Same (first second : Arrival Context) : Prop :=
  (signedRequest first.request).Same Eq (signedRequest second.request)

def InWindow (arrival : Arrival Context) : Prop :=
  (signedRequest arrival.request).InWindow arrival.checkedAt

def key (arrival : Arrival Context) : String :=
  replayKey ((signedRequest arrival.request).agent.getD "")
    ((signedRequest arrival.request).nonce.getD "")

theorem asks_verifyPactSignature (cache : Nonces) (arrival : Arrival Context) :
    Asks cacheLimit defaultReplayTtlMs key Arrival.seenAt Accepted cache arrival
      (verifyPactSignature crypto cache arrival) := by
  unfold verifyPactSignature
  split
  case h_1 => exact .early _ not_accepted_reject
  case h_2 agent agentGiven =>
    split
    case h_2 => exact .early _ not_accepted_reject
    case h_1 timestamp nonce signature _ nonceGiven _ =>
      split
      case h_1 => exact .early _ not_accepted_reject
      case h_2 tsMs _ =>
        split
        case isTrue => exact .early _ not_accepted_reject
        case isFalse =>
          refine ReplayCache.asks_unlessSeen ?_ not_accepted_reject
          rw [key, signedRequest, (given_eq_some.mp agentGiven).1, (given_eq_some.mp nonceGiven).1]
          rfl

theorem inWindow_of_accepted (cache : Nonces) (arrival : Arrival Context)
    (passed : Accepted (verifyPactSignature crypto cache arrival).1) : InWindow arrival := by
  unfold verifyPactSignature at passed
  split at passed
  case h_1 => exact absurd passed not_accepted_reject
  case h_2 agent agentGiven =>
    split at passed
    case h_2 => exact absurd passed not_accepted_reject
    case h_1 timestamp nonce signature timestampGiven _ _ =>
      split at passed
      case h_1 => exact absurd passed not_accepted_reject
      case h_2 tsMs parsed =>
        split at passed
        case isTrue => exact absurd passed not_accepted_reject
        case isFalse inside =>
          refine ⟨tsMs, ?_, not_lt.mp inside⟩
          rw [SignedRequest.signedAt, signedRequest, (given_eq_some.mp timestampGiven).1]
          exact parsed

end Facilitator

/-! ## The indexer's guard -/

namespace AgentGuard

variable (crypto : Crypto)

def signedRequest (context : Context) : SignedRequest :=
  ⟨header context "x-pact-agent", header context "x-pact-timestamp",
    header context "x-pact-nonce", header context "x-pact-signature"⟩

def Accepted (answer : Except AuthError Unit) : Prop := answer.isOk = true

theorem not_accepted_error {error : AuthError} : ¬ Accepted (.error error) := Bool.false_ne_true

def Same (first second : Arrival Context) : Prop :=
  (signedRequest first.request).Same Eq (signedRequest second.request)

def InWindow (arrival : Arrival Context) : Prop :=
  (signedRequest arrival.request).InWindow arrival.checkedAt

def key (arrival : Arrival Context) : String :=
  replayKey ((signedRequest arrival.request).agent.getD "")
    ((signedRequest arrival.request).nonce.getD "")

theorem asks_canActivate (cache : Nonces) (arrival : Arrival Context) :
    Asks cacheLimit defaultReplayTtlMs key Arrival.seenAt Accepted cache arrival
      (canActivate crypto cache arrival) := by
  unfold canActivate
  split
  case h_2 => exact .early _ not_accepted_error
  case h_1 agent ts nonce signature agentGiven _ nonceGiven _ =>
    split
    case isTrue => exact .early _ not_accepted_error
    case isFalse =>
      split
      case h_1 => exact .early _ not_accepted_error
      case h_2 tsMs _ =>
        split
        case isTrue => exact .early _ not_accepted_error
        case isFalse =>
          refine ReplayCache.asks_unlessSeen ?_ not_accepted_error
          rw [key, signedRequest, (given_eq_some.mp agentGiven).1, (given_eq_some.mp nonceGiven).1]
          rfl

theorem inWindow_of_accepted (cache : Nonces) (arrival : Arrival Context)
    (passed : Accepted (canActivate crypto cache arrival).1) : InWindow arrival := by
  unfold canActivate at passed
  split at passed
  case h_2 => exact absurd passed not_accepted_error
  case h_1 agent ts nonce signature _ timestampGiven _ _ =>
    split at passed
    case isTrue => exact absurd passed not_accepted_error
    case isFalse =>
      split at passed
      case h_1 => exact absurd passed not_accepted_error
      case h_2 tsMs parsed =>
        split at passed
        case isTrue => exact absurd passed not_accepted_error
        case isFalse inside =>
          refine ⟨tsMs, ?_, not_lt.mp inside⟩
          rw [SignedRequest.signedAt, signedRequest, (given_eq_some.mp timestampGiven).1]
          exact parsed

end AgentGuard

/-! ## Runs of the verifiers -/

/-- Where no two arrivals of a signed request within its window are a minute
apart for the cache, each verifier accepts it at most once. -/
theorem signed_request_single_use (crypto : Crypto) (viem : Gateway.Viem) :
    (∀ arrivals, Ordered arrivals →
      Prompt defaultReplayTtlMs Arrival.seenAt (Gateway.Same viem) Gateway.InWindow arrivals →
      SingleUse Accepted (Gateway.Same viem)
        (answers (Gateway.verifyPactSignature crypto viem) ∅ arrivals)) ∧
    (∀ arrivals, Ordered arrivals →
      Prompt defaultReplayTtlMs Arrival.seenAt Facilitator.Same Facilitator.InWindow arrivals →
      SingleUse Accepted Facilitator.Same
        (answers (Facilitator.verifyPactSignature crypto) ∅ arrivals)) ∧
    ∀ arrivals, Ordered arrivals →
      Prompt defaultReplayTtlMs Arrival.seenAt AgentGuard.Same AgentGuard.InWindow arrivals →
      SingleUse AgentGuard.Accepted AgentGuard.Same
        (answers (AgentGuard.canActivate crypto) ∅ arrivals) := by
  refine ⟨?gateway, ?facilitator, ?guard⟩
  case gateway =>
    intro arrivals ordered prompt
    exact singleUse_of_prompt (Gateway.asks_verifyPactSignature crypto viem)
      (Gateway.inWindow_of_accepted crypto viem)
      (fun _ _ same _ _ => Gateway.key_eq_of_same viem same) ∅ ordered.seenAt prompt
  case facilitator =>
    intro arrivals ordered prompt
    refine singleUse_of_prompt (Facilitator.asks_verifyPactSignature crypto)
      (Facilitator.inWindow_of_accepted crypto) (fun first second same _ _ => ?_) ∅
      ordered.seenAt prompt
    rw [Facilitator.key, Facilitator.key, same.agent, same.nonce]
  case guard =>
    intro arrivals ordered prompt
    refine singleUse_of_prompt (AgentGuard.asks_canActivate crypto)
      (AgentGuard.inWindow_of_accepted crypto) (fun first second same _ _ => ?_) ∅
      ordered.seenAt prompt
    rw [AgentGuard.key, AgentGuard.key, same.agent, same.nonce]

namespace Demo

def agent : String := "GmaDrppBC7P5ARKV8g3djiwP89vz1jLK23V2GBjuAEGB"

def nonce : String := "8DfbjXLth7APvt3qQPgtf"

def signature : String :=
  "W83AjUuATStMNFQ3fHkec9q7Dj9HAA92V7Q1nQPZe28hg9cCzHRxKjby3Ex6Ks2kYm7TJbNXWKCE7F5BaQoADVT"

def agentBytes : List UInt8 :=
  [234, 74, 108, 99, 226, 156, 82, 10, 190, 245, 80, 123, 19, 46, 197, 249, 149, 71, 118, 174,
    190, 190, 123, 146, 66, 30, 234, 105, 20, 70, 210, 44]

def signatureBytes : List UInt8 :=
  [25, 28, 246, 74, 53, 119, 13, 114, 187, 38, 101, 165, 58, 44, 54, 146, 6, 77, 38, 177, 86, 140,
    248, 253, 160, 65, 41, 232, 203, 225, 93, 185, 173, 197, 213, 56, 242, 50, 152, 99, 75, 133,
    188, 233, 28, 186, 100, 109, 211, 15, 225, 120, 115, 4, 102, 141, 14, 169, 55, 64, 146, 22, 49,
    10]

/-- The agent signed one request for `/v1/demo/ping`. -/
def crypto : Crypto where
  sha256 _ := []
  bs58Encode _ := ""
  bs58Decode text :=
    if text = agent then some agentBytes
    else if text = signature then some signatureBytes
    else none
  detachedVerify message sig pubkey :=
    message = encode (joinLines ["v1", "GET", "/v1/demo/ping", "1735689600000", nonce, ""]) &&
      sig = signatureBytes && pubkey = agentBytes

def viem : Gateway.Viem where
  checksumAddress := id
  casing _ _ := rfl
  verifyMessage _ _ _ := none

def url : Url where
  href := "https://market.example.com/v1/demo/ping"
  protocol := "https:"
  username := ""
  password := ""
  hostname := "market.example.com"
  port := ""
  pathname := "/v1/demo/ping"
  search := ""

def request : Gateway.Context where
  method := "GET"
  url := some url
  headers := [("x-pact-agent", agent), ("x-pact-timestamp", "1735689600000"),
    ("x-pact-nonce", nonce), ("x-pact-signature", signature), ("x-pact-project", "demo")]
  body := some []
  endpointNetwork := .ok none

def facilitated : Facilitator.Context where
  method := request.method
  url := request.url
  headers := request.headers
  body := request.body

def guarded : AgentGuard.Context where
  method := "GET"
  originalUrl := some "/v1/demo/ping"
  url := "/v1/demo/ping"
  pubkey := agent
  rawBody := none
  headers := request.headers.map fun header => (header.1, .one header.2)

def twice {ρ : Type} (request : ρ) (first second : Int) : List (Arrival ρ) :=
  [⟨request, first, first⟩, ⟨request, second, second⟩]

theorem ordered_twice {ρ : Type} {request : ρ} {first second : Int} (forward : first ≤ second) :
    Ordered (twice request first second) where
  within := by simp [twice]
  between := by simpa [twice] using forward

/-- Ten seconds later the request is a replay. -/
theorem signed_request_single_use_demo :
    SingleUse Accepted (Gateway.Same viem)
      (answers (Gateway.verifyPactSignature crypto viem) ∅
        (twice request 1735689600000 1735689610000)) ∧
    (answers (Gateway.verifyPactSignature crypto viem) ∅
      (twice request 1735689600000 1735689610000)).map Prod.snd =
        [.next (some agent), .reject .replay "nonce already seen"] := by
  refine ⟨(signed_request_single_use crypto viem).1 _ (ordered_twice (by decide)) ?_, ?_⟩
  · refine List.pairwise_cons.mpr ⟨?_, List.pairwise_singleton _ _⟩
    intro second member _ _ _
    rw [List.mem_singleton.mp member]
    decide
  · decide +kernel

/-- Each verifier accepts a request on the first instant of its window and
again on the last. -/
theorem signed_request_used_twice :
    (¬ ∀ arrivals, Ordered arrivals →
      SingleUse Accepted (Gateway.Same viem)
        (answers (Gateway.verifyPactSignature crypto viem) ∅ arrivals)) ∧
    (¬ ∀ arrivals, Ordered arrivals →
      SingleUse Accepted Facilitator.Same
        (answers (Facilitator.verifyPactSignature crypto) ∅ arrivals)) ∧
    ¬ ∀ arrivals, Ordered arrivals →
      SingleUse AgentGuard.Accepted AgentGuard.Same
        (answers (AgentGuard.canActivate crypto) ∅ arrivals) := by
  have forward : (1735689570000 : Int) ≤ 1735689630000 := by decide
  refine ⟨fun holds => ?gateway, fun holds => ?facilitator, fun holds => ?guard⟩
  case gateway =>
    refine not_singleUse_pair ?_ ?_ ?_ (holds (twice request _ _) (ordered_twice forward))
    · exact ⟨.inl rfl, rfl, rfl, rfl⟩
    · exact ⟨agent, by decide +kernel⟩
    · exact ⟨agent, by decide +kernel⟩
  case facilitator =>
    refine not_singleUse_pair ?_ ?_ ?_ (holds (twice facilitated _ _) (ordered_twice forward))
    · exact ⟨rfl, rfl, rfl, rfl⟩
    · exact ⟨agent, by decide +kernel⟩
    · exact ⟨agent, by decide +kernel⟩
  case guard =>
    refine not_singleUse_pair ?_ ?_ ?_ (holds (twice guarded _ _) (ordered_twice forward))
    · exact ⟨rfl, rfl, rfl, rfl⟩
    · unfold AgentGuard.Accepted
      decide +kernel
    · unfold AgentGuard.Accepted
      decide +kernel

end Demo

end PactNetwork.Requests
