import Mathlib.Data.List.Sort
import PactNetwork.Indexer.Database

/-!
# Ingestion

`EventsService.ingest`: a batch of settled calls is recorded in one transaction,
and only the calls that were really inserted move the aggregates.
-/

set_option autoImplicit false

namespace PactNetwork.Indexer

inductive SettlementOutcome where
  | ok
  | latencyBreach
  | serverError
  | clientError
  | networkError
  deriving DecidableEq

structure RecipientShareDto where
  kind : Nat
  pubkey : String
  amountLamports : Int
  deriving DecidableEq

structure WrapCallEventDto where
  callId : String
  agentPubkey : String
  endpointSlug : String
  premiumLamports : Int
  refundLamports : Int
  latencyMs : Int
  outcome : SettlementOutcome
  source : Option String
  verdictSource : Option String
  payee : Option String
  resource : Option String
  ts : Timestamp
  settledAt : Timestamp
  signature : String
  /-- `none` is a field that is not an array. -/
  shares : Option (List RecipientShareDto)
  network : Option String
  deriving DecidableEq

structure SettlementEventDto where
  signature : String
  batchSize : Nat
  totalPremiumsLamports : Int
  totalRefundsLamports : Int
  ts : Timestamp
  calls : List WrapCallEventDto
  network : Option String
  deriving DecidableEq

def outcomeToBreach : SettlementOutcome → Bool × Option String
  | .ok => (false, none)
  | .latencyBreach => (true, some "latency_breach")
  | .serverError => (true, some "server_error")
  | .clientError => (false, some "client_error")
  | .networkError => (true, some "network_error")

inductive IngestError where
  | sharesMissing (callId : String)
  | networkDiverges (batchNetwork callId callNetwork : String)
  | database (error : DbError)
  deriving DecidableEq

structure IngestResult where
  accepted : Nat
  /-- The calls handed to webhook delivery. -/
  insertedCalls : List WrapCallEventDto
  deriving DecidableEq

def WrapCallEventDto.recipientShares (call : WrapCallEventDto) : List RecipientShareDto :=
  call.shares.getD []

/-- `EventsController.ingest` stamps the network on the batch and its calls. -/
def SettlementEventDto.stamped (dto : SettlementEventDto) : SettlementEventDto :=
  { dto with
    network := some (dto.network.getD "solana-devnet")
    calls := dto.calls.map fun call =>
      { call with network := some (call.network.getD (dto.network.getD "solana-devnet")) } }

def SettlementEventDto.batchNetwork (dto : SettlementEventDto) : String :=
  dto.network.getD ((dto.calls.head?.bind (·.network)).getD "solana-devnet")

def SettlementEventDto.checkContract (dto : SettlementEventDto) : Except IngestError Unit :=
  match dto.calls.find? fun call => call.shares.isNone with
  | some call => .error (.sharesMissing call.callId)
  | none =>
      match dto.calls.find? fun call => call.network.getD dto.batchNetwork ≠ dto.batchNetwork with
      | some call => .error (.networkDiverges dto.batchNetwork call.callId
          (call.network.getD dto.batchNetwork))
      | none => .ok ()

/-! ## Foreign-key targets -/

def keepEarliest (earliest : Table String Timestamp) (call : WrapCallEventDto) :
    Table String Timestamp :=
  match earliest.lookup call.agentPubkey with
  | none => earliest.insert call.agentPubkey call.ts
  | some prev => if call.ts < prev then earliest.insert call.agentPubkey call.ts else earliest

def SettlementEventDto.earliestTsByAgent (dto : SettlementEventDto) : Table String Timestamp :=
  dto.calls.foldl keepEarliest ∅

def SettlementEventDto.sortedAgentPubkeys (dto : SettlementEventDto) : List String :=
  dto.earliestTsByAgent.keys.insertionSort (· ≤ ·)

def SettlementEventDto.sortedEndpointSlugs (dto : SettlementEventDto) : List String :=
  (dto.calls.map (·.endpointSlug)).dedup.insertionSort (· ≤ ·)

/-! ## Deltas of the inserted calls -/

def addToAgent (perAgent : Table String AgentDelta) (call : WrapCallEventDto) :
    Table String AgentDelta :=
  let slot := (perAgent.lookup call.agentPubkey).getD ⟨0, 0, 0, call.ts⟩
  perAgent.insert call.agentPubkey
    ⟨slot.callCount + 1, slot.premium + call.premiumLamports, slot.refund + call.refundLamports,
      if call.ts > slot.lastCallAt then call.ts else slot.lastCallAt⟩

def addToEndpoint (perEndpoint : Table String PoolDelta) (call : WrapCallEventDto) :
    Table String PoolDelta :=
  let slot := (perEndpoint.lookup call.endpointSlug).getD ⟨0, 0, 0⟩
  perEndpoint.insert call.endpointSlug
    ⟨slot.premium + call.premiumLamports, slot.refund + call.refundLamports,
      call.recipientShares.foldl (fun fees share => fees + share.amountLamports) slot.feesPaid⟩

def addToRecipient (perRecipient : Table (Nat × String) Int) (share : RecipientShareDto) :
    Table (Nat × String) Int :=
  let amount := (perRecipient.lookup (share.kind, share.pubkey)).getD 0
  perRecipient.insert (share.kind, share.pubkey) (amount + share.amountLamports)

def perAgent (inserted : List WrapCallEventDto) : Table String AgentDelta :=
  inserted.foldl addToAgent ∅

def perEndpoint (inserted : List WrapCallEventDto) : Table String PoolDelta :=
  inserted.foldl addToEndpoint ∅

def aggregatedShares (inserted : List WrapCallEventDto) : List RecipientShareDto :=
  ((inserted.flatMap (·.recipientShares)).foldl addToRecipient ∅).entries.map fun entry =>
    ⟨entry.1.1, entry.1.2, entry.2⟩

def sortedRecipients (shares : List RecipientShareDto) : List RecipientShareDto :=
  shares.insertionSort fun first second => first.pubkey ≤ second.pubkey

/-! ## The transaction -/

section Transaction

variable (semantics : FailureSemantics)

def WrapCallEventDto.row (call : WrapCallEventDto) : CallRow where
  agentPubkey := call.agentPubkey
  endpointSlug := call.endpointSlug
  premiumLamports := call.premiumLamports
  refundLamports := call.refundLamports
  latencyMs := call.latencyMs
  breach := (outcomeToBreach call.outcome).1
  breachReason := (outcomeToBreach call.outcome).2
  source := call.source
  verdictSource := call.verdictSource
  payee := call.payee
  resource := call.resource
  ts := call.ts
  settledAt := call.settledAt
  signature := call.signature

def tryInsertCall (network : String) (call : WrapCallEventDto) : Tx Bool :=
  Tx.landing <| Tx.catching (do
    Tx.write semantics [.insertCall (network, call.callId) call.row]
    return true) .uniqueViolation false

def insertCalls (network : String) : List WrapCallEventDto → Tx (List WrapCallEventDto)
  | [] => pure []
  | call :: rest => do
      let inserted ← tryInsertCall semantics network call
      let later ← insertCalls network rest
      return if inserted then call :: later else later

def SettlementEventDto.settlementRow (dto : SettlementEventDto) : SettlementRow :=
  ⟨dto.batchSize, dto.totalPremiumsLamports, dto.totalRefundsLamports, dto.ts⟩

def prepareTargets (dto : SettlementEventDto) (network : String) : Tx Unit := do
  dto.sortedAgentPubkeys.forM fun pubkey =>
    Tx.write semantics [.ensureAgent pubkey ((dto.earliestTsByAgent.lookup pubkey).getD 0)]
  dto.sortedEndpointSlugs.forM fun slug =>
    Tx.write semantics [.ensureEndpoint (network, slug) dto.ts]

def countAgents (dto : SettlementEventDto) (inserted : List WrapCallEventDto) : Tx Unit :=
  dto.sortedAgentPubkeys.forM fun pubkey =>
    match (perAgent inserted).lookup pubkey with
    | none => pure ()
    | some delta => Tx.write semantics [.countCalls pubkey delta]

def recordShares (dto : SettlementEventDto) (network : String)
    (inserted : List WrapCallEventDto) : Tx Unit := do
  let shares := aggregatedShares inserted
  let existingShares ← Tx.read fun db => (db.sharesOf network dto.signature).length
  if existingShares = 0 ∧ 0 < shares.length then
    Tx.write semantics (shares.map fun share =>
      .insertShare ⟨network, dto.signature, share.kind, share.pubkey, share.amountLamports⟩)
    (sortedRecipients shares).forM fun share =>
      Tx.write semantics [.earn (network, share.pubkey) share.kind share.amountLamports dto.ts]
  else pure ()

def movePools (dto : SettlementEventDto) (network : String)
    (inserted : List WrapCallEventDto) : Tx Unit :=
  dto.sortedEndpointSlugs.forM fun slug =>
    match (perEndpoint inserted).lookup slug with
    | none => pure ()
    | some delta => Tx.write semantics [.movePool (network, slug) delta dto.ts]

def recordAggregates (dto : SettlementEventDto) (network : String)
    (inserted : List WrapCallEventDto) : Tx Unit := do
  Tx.write semantics [.ensureSettlement (network, dto.signature) dto.settlementRow]
  countAgents semantics dto inserted
  recordShares semantics dto network inserted
  movePools semantics dto network inserted

def ingestCalls (dto : SettlementEventDto) (network : String) : Tx IngestResult := do
  prepareTargets semantics dto network
  let insertedCalls ← insertCalls semantics network dto.calls
  if insertedCalls.isEmpty then return ⟨0, []⟩
  else
    recordAggregates semantics dto network insertedCalls
    return ⟨insertedCalls.length, insertedCalls⟩

end Transaction

/-- The outcome of one ingestion while other transactions commit `arrivals`. -/
structure Ingested where
  result : Except IngestError IngestResult
  database : Database
  /-- What the other transactions alone leave. -/
  others : Database

def ingest (semantics : FailureSemantics) (dto : SettlementEventDto) (db : Database)
    (arrivals : List (List Write)) : Ingested :=
  match dto.checkContract with
  | .error error => ⟨.error error, db, db⟩
  | .ok () =>
      let outcome := transaction (ingestCalls semantics dto dto.batchNetwork) db arrivals
      ⟨outcome.result.mapError .database, outcome.database, outcome.others⟩

end PactNetwork.Indexer
