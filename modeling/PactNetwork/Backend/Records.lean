import Mathlib.Data.List.Basic
import Mathlib.Logic.Function.Basic
import PactNetwork.Foundation.Traces
import PactNetwork.V2.State

/-!
# Call records and claims

`POST /api/v1/records` and `POST /api/v1/claims/submit` against the tables and
the chain. A request takes one statement or call at a time; in between, other
requests, the admins' flags and the chain move, and each statement may fail with
or without having had its effect.
-/

set_option autoImplicit false

namespace PactNetwork.Backend.Claims

inductive Classification
  | success
  | timeout
  | clientError
  | serverError
  | schemaMismatch
  | latencySla
  deriving DecidableEq

def validClassifications : List Classification :=
  [.success, .timeout, .clientError, .serverError, .schemaMismatch]

def refundPct : Classification → Option Int
  | .timeout => some 100
  | .serverError => some 100
  | .schemaMismatch => some 75
  | .latencySla => some 50
  | .success | .clientError => none

def triggerTypeMap : Classification → Option V2.TriggerType
  | .timeout => some .timeout
  | .serverError => some .error
  | .schemaMismatch => some .schemaMismatch
  | .latencySla => some .latencySla
  | .success | .clientError => none

def triggerTypeCheck : List Classification :=
  [.timeout, .serverError, .schemaMismatch, .latencySla]

def maxSimulatedCallLamports : Int := 1000000000

def clampCallCost (paymentAmount : Int) : Int := min paymentAmount maxSimulatedCallLamports

/-- The refund written before the chain decides; `Math.round` of the percentage. -/
def estimateRefund (paymentAmount pct : Int) : Int :=
  min ((clampCallCost paymentAmount * pct + 50) / 100) maxSimulatedCallLamports

structure ApiKey where
  label : String
  agentPubkey : Option String
  named : label ≠ ""
  deriving DecidableEq

structure RecordInput where
  hostname : String
  endpoint : String
  timestamp : Nat
  statusCode : Int
  latencyMs : Int
  classification : Classification
  paymentAmount : Option Int
  deriving DecidableEq

/-- A row of `call_records` with the hostname of its provider; its id is its position. -/
structure CallRow where
  apiProvider : String
  endpoint : String
  timestamp : Nat
  statusCode : Int
  latencyMs : Int
  classification : Classification
  paymentAmount : Option Int
  agentId : String
  agentPubkey : Option String
  createdAt : Nat
  deriving DecidableEq

inductive ClaimStatus
  | simulated
  | settled
  | frozen
  deriving DecidableEq

/-- A row of `claims`; its id is its position. -/
structure ClaimRow where
  callRecordId : Nat
  agentId : String
  triggerType : Classification
  callCost : Int
  refundPct : Int
  refundAmount : Int
  status : ClaimStatus
  createdAt : Nat
  deriving DecidableEq

/-- What `submitClaimOnChain` is given. -/
structure CallRecord where
  id : Nat
  agentId : String
  agentPubkey : String
  apiProvider : String
  paymentAmount : Int
  latencyMs : Int
  statusCode : Int
  classification : Classification
  createdAt : Nat
  deriving DecidableEq

inductive TxStatus
  | pending
  | landed
  | refused
  deriving DecidableEq

/-- A `submit_claim` that was sent. -/
structure Tx where
  record : CallRecord
  status : TxStatus
  deriving DecidableEq

/-- A `Claim` account, whose address follows from the policy and the call id. -/
structure Account where
  record : CallRecord
  refundAmount : Int
  createdAt : Nat
  deriving DecidableEq

/-! ## Requests -/

/-- A POST of records: what it was given and what is still to come. -/
structure Post where
  key : ApiKey
  batch : List RecordInput
  rest : List RecordInput
  deriving DecidableEq

/-- The statements of `maybeCreateClaim` up to the row. -/
inductive Opening
  | flagging
  | freezing
  | counting
  | claiming
  deriving DecidableEq

/-- Who has a claim settled: a POST for the row it wrote, or claims-submit. -/
inductive Origin
  | post (post : Post) (claimId : Nat)
  | submit
  deriving DecidableEq

inductive Stage
  | resolving
  | submitting
  | sent (tx : Nat)
  | updating (refundAmount : Int)
  deriving DecidableEq

/-- Where a request stands, before its next statement. An answer to claims-submit says
whether no call failed, and whether the claim was on chain by then. -/
inductive Phase
  | idle
  | posting (post : Post)
  | opening (step : Opening) (post : Post) (rec : RecordInput) (host : String) (callId : Nat)
  | selecting (agentId : String) (callId : Nat) (host : String)
  | settling (stage : Stage) (origin : Origin) (record : CallRecord)
  | accepted (post : Post)
  | replied (callId : Nat) (clean : Bool) (existed : Bool)
  deriving DecidableEq

structure State where
  now : Nat
  calls : List CallRow
  claims : List ClaimRow
  pendingFlags : String → Nat
  active : String → String → Bool
  txs : List Tx
  accounts : List Account
  requests : Nat → Phase

inductive Outcome
  | ok
  | failed
  | lost
  deriving DecidableEq

/-- What a statement does to the tables or the chain. -/
inductive Effect
  | none
  | addCall (row : CallRow)
  | addClaim (row : ClaimRow)
  | send (record : CallRecord)
  | settle (origin : Origin) (callId : Nat) (refundAmount : Int)

def Outcome.effect (outcome : Outcome) (effect : Effect) : Effect :=
  if outcome = .failed then .none else effect

/-! ## Statements -/

def State.setPhase (state : State) (request : Nat) (phase : Phase) : State :=
  { state with requests := Function.update state.requests request phase }

@[simp] theorem State.setPhase_self (state : State) (request : Nat) (phase : Phase) :
    (state.setPhase request phase).requests request = phase := by
  simp [setPhase]

theorem State.setPhase_of_ne (state : State) {request other : Nat} (differ : other ≠ request)
    (phase : Phase) : (state.setPhase request phase).requests other = state.requests other := by
  simp [setPhase, differ]

def ClaimRow.settle (refundAmount : Option Int) (row : ClaimRow) : ClaimRow :=
  { row with status := .settled, refundAmount := refundAmount.getD row.refundAmount }

/-- The UPDATE of a POST goes by the claim's id, that of claims-submit by the record's. -/
def State.settledClaims (state : State) (callId : Nat) (refundAmount : Int) :
    Origin → List ClaimRow
  | .post _ claimId => state.claims.modify claimId (ClaimRow.settle (some refundAmount))
  | .submit => state.claims.map fun row =>
      if row.callRecordId = callId then row.settle Option.none else row

def State.perform (state : State) : Effect → State
  | .none => state
  | .addCall row => { state with calls := state.calls ++ [row] }
  | .addClaim row => { state with claims := state.claims ++ [row] }
  | .send record => { state with txs := state.txs ++ [⟨record, .pending⟩] }
  | .settle origin callId refundAmount =>
      { state with claims := state.settledClaims callId refundAmount origin }

def day : Nat := 86400000000

def ClaimRow.counts (agentId : String) (now : Nat) (row : ClaimRow) : Bool :=
  row.agentId = agentId && row.status ≠ .frozen && now < row.createdAt + day

def State.dailyCount (state : State) (agentId : String) : Nat :=
  state.claims.countP (ClaimRow.counts agentId state.now)

def maxRecordsPerHour : Nat := 10000

def State.hourlyCount (state : State) (agentId : String) : Nat :=
  state.calls.countP fun row => row.agentId = agentId && state.now < row.createdAt + 3600000000

def State.duplicate (state : State) (key : ApiKey) (rec : RecordInput) : Bool :=
  key.agentPubkey.isSome && state.calls.any fun row =>
    row.agentPubkey = key.agentPubkey && row.timestamp = rec.timestamp && row.endpoint = rec.endpoint

def State.onChain (state : State) (callId : Nat) : Bool :=
  state.accounts.any fun account => account.record.id = callId

def callRow (key : ApiKey) (rec : RecordInput) (host : String) (now : Nat) : CallRow :=
  ⟨host, rec.endpoint, rec.timestamp, rec.statusCode, rec.latencyMs, rec.classification,
    rec.paymentAmount, key.label, key.agentPubkey, now⟩

def State.finish (state : State) (clean : Bool) (record : CallRecord) : Origin → Phase
  | .post post _ => .posting post
  | .submit => .replied record.id clean (state.onChain record.id)

section Hostnames

variable (canonicalHostname : String → Option String)

def State.post (state : State) (outcome : Outcome) (post : Post) : Effect × Phase :=
  match post.rest with
  | [] => (.none, if outcome = .ok then .accepted post else .idle)
  | rec :: rest =>
      match canonicalHostname rec.hostname with
      | none => (.none, .posting { post with rest })
      | some host =>
          if state.duplicate post.key rec then
            (.none, if outcome = .ok then .posting { post with rest } else .idle)
          else
            (outcome.effect (.addCall (callRow post.key rec host state.now)),
              if outcome = .ok then
                .opening .flagging { post with rest } rec host state.calls.length
              else .idle)

end Hostnames

def RecordInput.paid (rec : RecordInput) : Bool :=
  rec.paymentAmount.any fun amount => 0 < amount

def State.openClaim (state : State) (outcome : Outcome) (post : Post) (rec : RecordInput)
    (host : String) (callId : Nat) : Opening → Effect × Phase
  | .flagging =>
      if rec.classification = .success ∨ rec.paid = false then (.none, .posting post)
      else (.none,
        if outcome = .ok then
          .opening (if 0 < state.pendingFlags post.key.label then .freezing else .counting) post rec
            host callId
        else .idle)
  | .freezing =>
      if rec.classification ∈ triggerTypeCheck then
        (outcome.effect (.addClaim ⟨callId, post.key.label, rec.classification,
            rec.paymentAmount.getD 0, 0, 0, .frozen, state.now⟩),
          if outcome = .ok then .posting post else .idle)
      else (.none, .idle)
  | .counting =>
      (.none,
        if outcome = .ok then
          if 1000 ≤ state.dailyCount post.key.label then .posting post
          else .opening .claiming post rec host callId
        else .idle)
  | .claiming =>
      match refundPct rec.classification with
      | none => (.none, .posting post)
      | some pct =>
          (outcome.effect (.addClaim ⟨callId, post.key.label, rec.classification,
              clampCallCost (rec.paymentAmount.getD 0), pct,
              estimateRefund (rec.paymentAmount.getD 0) pct, .simulated, state.now⟩),
            if outcome = .ok then
              match post.key.agentPubkey with
              | none => .posting post
              | some agentPubkey =>
                  if agentPubkey = "" then .posting post
                  else .settling .resolving (.post post state.claims.length)
                    ⟨callId, post.key.label, agentPubkey, host, rec.paymentAmount.getD 0,
                      rec.latencyMs, rec.statusCode, rec.classification, rec.timestamp⟩
            else .idle)

def State.select (state : State) (outcome : Outcome) (agentId : String) (callId : Nat)
    (host : String) : Phase :=
  if outcome = .ok then
    match state.calls[callId]? with
    | none => .replied callId true (state.onChain callId)
    | some row =>
        if agentId ≠ row.agentId then .replied callId true (state.onChain callId)
        else if host ≠ row.apiProvider then .replied callId true (state.onChain callId)
        else
          match row.agentPubkey with
          | none => .replied callId true (state.onChain callId)
          | some agentPubkey =>
              if agentPubkey = "" then .replied callId true (state.onChain callId)
              else .settling .resolving .submit
                ⟨callId, row.agentId, agentPubkey, row.apiProvider, row.paymentAmount.getD 0,
                  row.latencyMs, row.statusCode, row.classification, row.createdAt⟩
  else .replied callId false (state.onChain callId)

/-- `hasActiveOnChainPolicy`, the steps of `submitClaimOnChain`, and the UPDATE. -/
def State.settle (state : State) (outcome : Outcome) (origin : Origin) (record : CallRecord) :
    Stage → Effect × Phase
  | .resolving =>
      (.none,
        if outcome = .ok ∧ state.active record.agentPubkey record.apiProvider = true then
          .settling .submitting origin record
        else state.finish (outcome = .ok) record origin)
  | .submitting =>
      if (triggerTypeMap record.classification).isSome ∧ 0 ≤ record.paymentAmount then
        (outcome.effect (.send record),
          if outcome = .ok then .settling (.sent state.txs.length) origin record
          else state.finish false record origin)
      else (.none, state.finish (outcome = .ok) record origin)
  | .sent tx =>
      (.none,
        if outcome = .ok then
          match state.txs[tx]? with
          | some ⟨_, .pending⟩ => .settling (.sent tx) origin record
          | some ⟨_, .landed⟩ =>
              match state.accounts.find? fun account => account.record.id = record.id with
              | some account => .settling (.updating account.refundAmount) origin record
              | none => state.finish true record origin
          | some ⟨_, .refused⟩ | none => state.finish true record origin
        else state.finish false record origin)
  | .updating refundAmount =>
      (outcome.effect (.settle origin record.id refundAmount),
        state.finish (outcome = .ok) record origin)

/-! ## Runs -/

inductive Event
  | tick (elapsed : Nat)
  | flag (agentId : String)
  | resolve (agentId : String)
  | policy (agentPubkey : String) (host : String) (active : Bool)
  | post (request : Nat) (key : ApiKey) (batch : List RecordInput)
  | submit (request : Nat) (agentId : String) (callId : Nat) (hostname : String)
  | run (request : Nat) (outcome : Outcome)
  | land (tx : Nat) (maxCoveragePerCall totalAvailable : Int)
  | reject (tx : Nat)
  | stop (request : Nat)

def maxBatchSize : Nat := 500

def State.admits (state : State) (key : ApiKey) (batch : List RecordInput) : Bool :=
  batch ≠ [] && batch.length ≤ maxBatchSize &&
    batch.all (fun rec => rec.classification ∈ validClassifications) &&
    state.hourlyCount key.label + batch.length ≤ maxRecordsPerHour

def Phase.isFree : Phase → Bool
  | .idle | .accepted _ | .replied _ _ _ => true
  | .posting _ | .opening _ _ _ _ _ | .selecting _ _ _ | .settling _ _ _ => false

def clampRefund (paymentAmount maxCoveragePerCall totalAvailable : Int) : Int :=
  min (min paymentAmount maxCoveragePerCall) totalAvailable

def Tx.decide (status : TxStatus) (tx : Tx) : Tx := { tx with status := status }

/-- The program takes a claim once, and none of nothing. -/
def State.land (state : State) (tx : Nat) (maxCoveragePerCall totalAvailable : Int) : State :=
  match state.txs[tx]? with
  | some ⟨record, .pending⟩ =>
      if state.onChain record.id = true ∨ record.paymentAmount ≤ 0 then
        { state with txs := state.txs.modify tx (Tx.decide .refused) }
      else { state with
        txs := state.txs.modify tx (Tx.decide .landed)
        accounts := state.accounts ++ [⟨record,
          clampRefund record.paymentAmount maxCoveragePerCall totalAvailable, state.now⟩] }
  | some ⟨_, .landed⟩ | some ⟨_, .refused⟩ | none => state

def State.reject (state : State) (tx : Nat) : State :=
  match state.txs[tx]? with
  | some ⟨_, .pending⟩ => { state with txs := state.txs.modify tx (Tx.decide .refused) }
  | some ⟨_, .landed⟩ | some ⟨_, .refused⟩ | none => state

section Runs

variable (canonicalHostname : String → Option String)

def State.advance (state : State) (outcome : Outcome) : Phase → Effect × Phase
  | .posting post => state.post canonicalHostname outcome post
  | .opening step post rec host callId => state.openClaim outcome post rec host callId step
  | .selecting agentId callId host => (.none, state.select outcome agentId callId host)
  | .settling stage origin record => state.settle outcome origin record stage
  | .idle => (.none, .idle)
  | .accepted post => (.none, .accepted post)
  | .replied callId clean existed => (.none, .replied callId clean existed)

def State.run (state : State) (request : Nat) (outcome : Outcome) : State :=
  let (effect, phase) := state.advance canonicalHostname outcome (state.requests request)
  (state.perform effect).setPhase request phase

def State.apply (state : State) : Event → State
  | .tick elapsed => { state with now := state.now + elapsed }
  | .flag agentId => { state with
      pendingFlags := Function.update state.pendingFlags agentId (state.pendingFlags agentId + 1) }
  | .resolve agentId => { state with
      pendingFlags := Function.update state.pendingFlags agentId (state.pendingFlags agentId - 1) }
  | .policy agentPubkey host active => { state with
      active := Function.update state.active agentPubkey
        (Function.update (state.active agentPubkey) host active) }
  | .post request key batch =>
      if (state.requests request).isFree && state.admits key batch then
        state.setPhase request (.posting ⟨key, batch, batch⟩)
      else state
  | .submit request agentId callId hostname =>
      if (state.requests request).isFree then
        match canonicalHostname hostname with
        | none => state.setPhase request (.replied callId true (state.onChain callId))
        | some host => state.setPhase request (.selecting agentId callId host)
      else state
  | .run request outcome => state.run canonicalHostname request outcome
  | .land tx maxCoveragePerCall totalAvailable => state.land tx maxCoveragePerCall totalAvailable
  | .reject tx => state.reject tx
  | .stop request => state.setPhase request .idle

def State.Initial (state : State) : Prop :=
  state = { state with
    calls := []
    claims := []
    txs := []
    accounts := []
    requests := fun _ => .idle }

def State.Reached (clear : State → Event → Prop) : State → Prop :=
  Reachable State.Initial (Fires (State.apply canonicalHostname) clear)

end Runs

namespace Demo

def key : ApiKey := ⟨"agent", some "pubkey", by decide⟩

def failure : RecordInput :=
  ⟨"api.example.com", "/v1/data", 1700000000000, 503, 120, .serverError, some 500000⟩

def start : State :=
  ⟨1700000000000000, [], [], fun _ => 0, fun _ _ => false, [], [], fun _ => .idle⟩

def ingest : List Event :=
  [.post 0 key [failure], .run 0 .ok, .run 0 .ok, .run 0 .ok, .run 0 .ok]

def record : CallRecord :=
  ⟨0, "agent", "pubkey", "api.example.com", 500000, 120, 503, .serverError, 1700000000000⟩

def claim : ClaimRow :=
  ⟨0, "agent", .serverError, 500000, 100, 500000, .simulated, 1700000000000000⟩

def replay (events : List Event) : State :=
  events.foldl (State.apply some) start

example : (replay ingest).claims = [claim] := by decide +kernel

end Demo

end PactNetwork.Backend.Claims
