import PactNetwork.Coverage.Economics

/-!
# The wrapped fetch

The network's primitive around a call to a provider: the balance check in front
of it, the classification and the settlement event behind it, and the headers
that tell the agent about both.
-/

set_option autoImplicit false

namespace PactNetwork.Coverage

open Requests (Headers Json JsonLibrary encode toLowerCase)
open Requests.Sdk (Response isPactHeader)

/-! ## Headers and responses -/

/-- `headers.set(name, value)` under a lower-case name. -/
def setHeader (headers : Headers) (name value : String) : Headers :=
  headers.filter (fun header => header.1 ≠ name) ++ [(name, value)]

/-- `headers.entries()`, which joins the values of a repeated header. -/
def entries (headers : Headers) : Headers :=
  (headers.map Prod.fst).dedup.map fun name => (name, (headers.get name).getD "")

def nullBodyStatuses : List Nat := [101, 103, 204, 205, 304]

/-- `new Response(body, { status, headers })`, if it does not throw. -/
def newResponse (response : Response) : Option Response :=
  if 200 ≤ response.status ∧ response.status ≤ 599 ∧
      (response.body = none ∨ response.status ∉ nullBodyStatuses) then some response
  else none

def jsonResponse (library : JsonLibrary) (status : Nat) (fields : List (String × Option Json)) :
    Response where
  status := status
  headers := [("content-type", "application/json")]
  body := some (encode (library.stringify
    (.object (fields.filterMap fun field => field.2.map fun value => (field.1, value)))))

structure PactHeaderInputs where
  callId : String
  outcome : Outcome
  premiumLamports : Int
  refundLamports : Int
  latencyMs : Int
  pool : Option String
  settlementPending : Bool

/-- The headers of a response with the network's own on top. -/
def pactHeaders (headers : Headers) (inputs : PactHeaderInputs) : Headers :=
  let headers := setHeader headers "x-pact-premium" (toString inputs.premiumLamports)
  let headers := setHeader headers "x-pact-refund" (toString inputs.refundLamports)
  let headers := setHeader headers "x-pact-latency-ms" (toString inputs.latencyMs)
  let headers := setHeader headers "x-pact-outcome" inputs.outcome.text
  let headers :=
    match inputs.pool with
    | some pool => setHeader headers "x-pact-pool" pool
    | none => headers
  let headers :=
    if inputs.settlementPending then setHeader headers "x-pact-settlement-pending" "1" else headers
  setHeader headers "x-pact-call-id" inputs.callId

def attachPactHeaders (response : Response) (inputs : PactHeaderInputs) : Option Response :=
  newResponse { response with headers := pactHeaders response.headers inputs }

/-! ## The balance check -/

inductive RejectionReason
  | insufficientBalance
  | insufficientAllowance
  | noAta
  deriving DecidableEq

def RejectionReason.text : RejectionReason → String
  | .insufficientBalance => "insufficient_balance"
  | .insufficientAllowance => "insufficient_allowance"
  | .noAta => "no_ata"

inductive BalanceCheckResult
  | eligible (ataBalance allowance : Int)
  | ineligible (reason : RejectionReason) (ataBalance allowance : Option Int)
  deriving DecidableEq

/-- What the check answers for a wallet and an amount, or the message it throws. -/
abbrev BalanceCheck := String → Int → Except String BalanceCheckResult

/-! ## The fetch -/

/-- The event of a wrapped call, with the time it completed at in milliseconds. -/
structure SettlementEvent where
  callId : String
  agentPubkey : String
  endpointSlug : String
  premiumLamports : String
  refundLamports : String
  latencyMs : Int
  outcome : Outcome
  ts : Int
  network : String
  verdictSource : String
  deriving DecidableEq

/-- The options of a call, with the answer of its fetch, if that does not throw, and
the times its clock reads before and after it. -/
structure WrapFetchOptions where
  endpointSlug : String
  walletPubkey : String
  classifier : ClassifierInput → ClassifierResult
  balanceCheck : Option BalanceCheck
  endpointConfig : EndpointConfig
  fetched : Option Response
  tStart : Int
  tEnd : Int
  callId : String
  pool : Option String
  network : Option String

/-- What a call comes to: its response, unless building that throws, what it cost,
whether the provider was called, and the event that was published. -/
structure WrapFetchResult where
  response : Option Response
  outcome : Outcome
  premiumLamports : Int
  refundLamports : Int
  latencyMs : Int
  forwarded : Bool
  published : Option SettlementEvent

section

variable (library : JsonLibrary) (opts : WrapFetchOptions)

def unforwarded (status : Nat) (outcome : Outcome) (fields : List (String × Option Json)) :
    WrapFetchResult where
  response := attachPactHeaders (jsonResponse library status fields)
    ⟨opts.callId, outcome, 0, 0, 0, opts.pool, false⟩
  outcome := outcome
  premiumLamports := 0
  refundLamports := 0
  latencyMs := 0
  forwarded := false
  published := none

/-- The fetch, its classification, its event and its response. -/
def forward : WrapFetchResult :=
  let latencyMs := max 0 (opts.tEnd - opts.tStart)
  let classified := opts.classifier ⟨opts.fetched, latencyMs, opts.endpointConfig⟩
  let baseResponse := opts.fetched.getD (jsonResponse library 502
    [("error", some (.string "upstream_unreachable")), ("callId", some (.string opts.callId))])
  { response := attachPactHeaders baseResponse
      ⟨opts.callId, classified.outcome, classified.premium, classified.refund, latencyMs, opts.pool,
        true⟩
    outcome := classified.outcome
    premiumLamports := classified.premium
    refundLamports := classified.refund
    latencyMs := latencyMs
    forwarded := true
    published := some
      { callId := opts.callId
        agentPubkey := opts.walletPubkey
        endpointSlug := opts.endpointSlug
        premiumLamports := toString classified.premium
        refundLamports := toString classified.refund
        latencyMs := latencyMs
        outcome := classified.outcome
        ts := opts.tEnd
        network := opts.network.getD "solana-devnet"
        verdictSource := "pact_observed" } }

def wrapFetch : WrapFetchResult :=
  match opts.balanceCheck with
  | none => forward library opts
  | some check =>
      let required := opts.endpointConfig.flatPremiumLamports
      match check opts.walletPubkey required with
      | .error message =>
          unforwarded library opts 503 .serverError
            [("error", some (.string "balance_check_failed")), ("message", some (.string message)),
              ("callId", some (.string opts.callId))]
      | .ok (.ineligible reason ataBalance allowance) =>
          unforwarded library opts 402 .clientError
            [("error", some (.string "payment_required")),
              ("reason", some (.string reason.text)), ("callId", some (.string opts.callId)),
              ("ataBalance", ataBalance.map fun amount => .string (toString amount)),
              ("allowance", allowance.map fun amount => .string (toString amount)),
              ("requiredLamports", some (.string (toString required)))]
      | .ok (.eligible _ _) => forward library opts

end

/-! ## Marks -/

def Marked (headers : Headers) : Prop :=
  (headers.get "x-pact-call-id").isSome = true ∨ (headers.get "x-pact-outcome").isSome = true

theorem isSome_get {headers : Headers} {name : String} :
    (headers.get name).isSome = true ↔ name ∈ headers.map Prod.fst := by
  rw [Headers.get]
  split
  case h_1 absent =>
    constructor
    · intro present
      cases present
    · intro member
      obtain ⟨header, listed, rfl⟩ := List.mem_map.mp member
      have kept : header ∈ headers.filter fun other => other.1 = header.1 :=
        List.mem_filter.mpr ⟨listed, decide_eq_true rfl⟩
      rw [absent] at kept
      cases kept
  case h_2 first rest found =>
    constructor
    · intro _
      have kept : first ∈ headers.filter fun header => header.1 = name := by
        rw [found]
        exact List.mem_cons_self
      obtain ⟨member, same⟩ := List.mem_filter.mp kept
      exact List.mem_map.mpr ⟨first, member, of_decide_eq_true same⟩
    · intro _
      rfl

theorem get_of_mem_entries {headers : Headers} {header : String × String}
    (member : header ∈ entries headers) : headers.get header.1 = some header.2 := by
  obtain ⟨name, listed, rfl⟩ := List.mem_map.mp member
  obtain ⟨value, found⟩ := Option.isSome_iff_exists.mp (isSome_get.mpr (List.mem_dedup.mp listed))
  rw [found, Option.getD_some]

theorem names_entries (headers : Headers) {name : String} :
    name ∈ (entries headers).map Prod.fst ↔ name ∈ headers.map Prod.fst := by
  rw [entries, List.map_map]
  simp

theorem names_setHeader {headers : Headers} {name value other : String} :
    other ∈ (setHeader headers name value).map Prod.fst ↔
      other = name ∨ other ∈ headers.map Prod.fst := by
  simp only [setHeader, List.map_append, List.mem_append, List.mem_map, List.mem_filter,
    List.map_cons, List.map_nil, List.mem_singleton, decide_eq_true_eq]
  constructor
  · rintro (⟨header, ⟨member, -⟩, rfl⟩ | rfl)
    · exact .inr ⟨header, member, rfl⟩
    · exact .inl rfl
  · rintro (rfl | ⟨header, member, rfl⟩)
    · exact .inr rfl
    · by_cases same : header.1 = name
      · exact .inr same
      · exact .inl ⟨header, ⟨member, same⟩, rfl⟩

theorem callId_pactHeaders (headers : Headers) (inputs : PactHeaderInputs) :
    "x-pact-call-id" ∈ (pactHeaders headers inputs).map Prod.fst := by
  unfold pactHeaders
  exact names_setHeader.mpr (.inl rfl)

theorem newResponse_eq_some {response built : Response} (made : newResponse response = some built) :
    built = response := by
  unfold newResponse at made
  split at made
  case isTrue => exact (Option.some.inj made).symm
  case isFalse => cases made

theorem newResponse_headers {response : Response} (buildable : newResponse response = some response)
    (headers : Headers) :
    newResponse { response with headers := headers } = some { response with headers := headers } := by
  unfold newResponse at buildable ⊢
  split at buildable
  case isTrue fits => rw [if_pos fits]
  case isFalse => cases buildable

theorem newResponse_body {response : Response} {body : List UInt8}
    (buildable : (newResponse { response with body := some body }).isSome) (other : List UInt8) :
    newResponse { response with body := some other } =
      some { response with body := some other } := by
  obtain ⟨built, buildable⟩ := Option.isSome_iff_exists.mp buildable
  unfold newResponse at buildable ⊢
  split at buildable
  case isTrue fits =>
    obtain ⟨low, high, absent | solid⟩ := fits
    · cases absent
    · exact if_pos ⟨low, high, .inr solid⟩
  case isFalse => cases buildable

theorem buildable_json (library : JsonLibrary) {status : Nat} (fields : List (String × Option Json))
    (low : 200 ≤ status) (high : status ≤ 599) (solid : status ∉ nullBodyStatuses) :
    newResponse (jsonResponse library status fields) = some (jsonResponse library status fields) :=
  if_pos ⟨low, high, .inr solid⟩

end PactNetwork.Coverage
