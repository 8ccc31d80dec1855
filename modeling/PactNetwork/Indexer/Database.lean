import PactNetwork.Foundation.Checked
import PactNetwork.Foundation.Table
import PactNetwork.Foundation.Transition

/-!
# The indexer's database

The tables that event ingestion reads and writes, and transactions over them.
A transaction keeps a log of its own writes over what is committed, so that the
writes of other transactions can be committed in between. Amounts are the
integers of the decimal strings, times are in milliseconds.
-/

set_option autoImplicit false

namespace PactNetwork.Indexer

abbrev Timestamp := Nat

/-- A network, and an identifier that is unique on it. -/
abbrev Key := String × String

structure AgentRow where
  totalPremiumsLamports : Int
  totalRefundsLamports : Int
  callCount : Int
  lastCallAt : Option Timestamp
  createdAt : Timestamp
  deriving DecidableEq

structure EndpointRow where
  flatPremiumLamports : Int
  percentBps : Int
  slaLatencyMs : Int
  imputedCostLamports : Int
  exposureCapPerHourLamports : Int
  paused : Bool
  upstreamBase : String
  displayName : String
  registeredAt : Timestamp
  lastUpdated : Timestamp
  deriving DecidableEq

structure CallRow where
  agentPubkey : String
  endpointSlug : String
  premiumLamports : Int
  refundLamports : Int
  latencyMs : Int
  breach : Bool
  breachReason : Option String
  source : Option String
  verdictSource : Option String
  payee : Option String
  resource : Option String
  ts : Timestamp
  settledAt : Timestamp
  signature : String
  deriving DecidableEq

structure SettlementRow where
  batchSize : Nat
  totalPremiumsLamports : Int
  totalRefundsLamports : Int
  ts : Timestamp
  deriving DecidableEq

structure ShareRow where
  network : String
  settlementSig : String
  recipientKind : Nat
  recipientPubkey : String
  amountLamports : Int
  deriving DecidableEq

structure PoolRow where
  currentBalanceLamports : Int
  totalDepositsLamports : Int
  totalPremiumsLamports : Int
  totalFeesPaidLamports : Int
  totalRefundsLamports : Int
  lastUpdated : Timestamp
  deriving DecidableEq

structure EarningsRow where
  recipientKind : Nat
  lifetimeEarnedLamports : Int
  lastUpdated : Timestamp
  deriving DecidableEq

structure Database where
  agents : Table String AgentRow
  endpoints : Table Key EndpointRow
  calls : Table Key CallRow
  settlements : Table Key SettlementRow
  shares : List ShareRow
  pools : Table Key PoolRow
  earnings : Table Key EarningsRow

def Database.empty : Database := ⟨∅, ∅, ∅, ∅, [], ∅, ∅⟩

/-- The rows `settlementRecipientShare.count` counts. -/
def Database.sharesOf (db : Database) (network signature : String) : List ShareRow :=
  db.shares.filter fun row => row.network = network ∧ row.settlementSig = signature

/-! ## Writes -/

structure AgentDelta where
  callCount : Int
  premium : Int
  refund : Int
  lastCallAt : Timestamp
  deriving DecidableEq

structure PoolDelta where
  premium : Int
  refund : Int
  feesPaid : Int
  deriving DecidableEq

def PoolDelta.balance (delta : PoolDelta) : Int := delta.premium - delta.refund - delta.feesPaid

inductive Write where
  /-- Upsert with an empty update. -/
  | ensureAgent (pubkey : String) (createdAt : Timestamp)
  | ensureEndpoint (key : Key) (now : Timestamp)
  | ensureSettlement (key : Key) (row : SettlementRow)
  | insertCall (key : Key) (row : CallRow)
  | insertShare (row : ShareRow)
  /-- Increment the counters of an agent. -/
  | countCalls (pubkey : String) (delta : AgentDelta)
  | earn (key : Key) (kind : Nat) (amount : Int) (now : Timestamp)
  | movePool (key : Key) (delta : PoolDelta) (now : Timestamp)

/-- Endpoints that ingestion meets first are paused and zeroed. -/
def EndpointRow.lazy (slug : String) (now : Timestamp) : EndpointRow where
  flatPremiumLamports := 0
  percentBps := 0
  slaLatencyMs := 0
  imputedCostLamports := 0
  exposureCapPerHourLamports := 0
  paused := true
  upstreamBase := ""
  displayName := slug
  registeredAt := now
  lastUpdated := now

def AgentRow.add (row : AgentRow) (delta : AgentDelta) : AgentRow :=
  { row with
    lastCallAt := some delta.lastCallAt
    callCount := row.callCount + delta.callCount
    totalPremiumsLamports := row.totalPremiumsLamports + delta.premium
    totalRefundsLamports := row.totalRefundsLamports + delta.refund }

def PoolRow.create (delta : PoolDelta) (now : Timestamp) : PoolRow where
  currentBalanceLamports := delta.balance
  totalDepositsLamports := 0
  totalPremiumsLamports := delta.premium
  totalFeesPaidLamports := delta.feesPaid
  totalRefundsLamports := delta.refund
  lastUpdated := now

def PoolRow.add (row : PoolRow) (delta : PoolDelta) (now : Timestamp) : PoolRow :=
  { row with
    currentBalanceLamports := row.currentBalanceLamports + delta.balance
    totalPremiumsLamports := row.totalPremiumsLamports + delta.premium
    totalFeesPaidLamports := row.totalFeesPaidLamports + delta.feesPaid
    totalRefundsLamports := row.totalRefundsLamports + delta.refund
    lastUpdated := now }

def EarningsRow.add (row : EarningsRow) (amount : Int) (now : Timestamp) : EarningsRow :=
  { row with
    lifetimeEarnedLamports := row.lifetimeEarnedLamports + amount
    lastUpdated := now }

def Database.apply (db : Database) : Write → Database
  | .ensureAgent pubkey createdAt =>
      { db with agents := db.agents.ensure pubkey ⟨0, 0, 0, none, createdAt⟩ }
  | .ensureEndpoint key now =>
      { db with endpoints := db.endpoints.ensure key (.lazy key.2 now) }
  | .ensureSettlement key row => { db with settlements := db.settlements.ensure key row }
  | .insertCall key row => { db with calls := db.calls.insert key row }
  | .insertShare row => { db with shares := db.shares ++ [row] }
  | .countCalls pubkey delta =>
      { db with agents := db.agents.modify pubkey fun row => row.add delta }
  | .earn key kind amount now =>
      { db with earnings := db.earnings.upsert key ⟨kind, amount, now⟩ fun row =>
          row.add amount now }
  | .movePool key delta now =>
      { db with pools := db.pools.upsert key (.create delta now) fun row => row.add delta now }

inductive DbError where
  /-- P2002. -/
  | uniqueViolation
  | foreignKeyViolation
  /-- P2025: the row to update does not exist. -/
  | notFound
  /-- 25P02: an earlier statement of the transaction failed. -/
  | inFailedTransaction
  deriving DecidableEq

def Database.check (db : Database) : Write → Except DbError Unit
  | .insertCall key row => do
      failIf (db.calls.lookup key).isSome .uniqueViolation
      failIf (!(db.agents.lookup row.agentPubkey).isSome) .foreignKeyViolation
      failIf (!(db.endpoints.lookup (key.1, row.endpointSlug)).isSome) .foreignKeyViolation
  | .insertShare row =>
      failIf (!(db.settlements.lookup (row.network, row.settlementSig)).isSome)
        .foreignKeyViolation
  | .countCalls pubkey _ => failIf (!(db.agents.lookup pubkey).isSome) .notFound
  | .movePool key _ _ => failIf (!(db.endpoints.lookup key).isSome) .foreignKeyViolation
  | _ => .ok ()

def Database.perform (db : Database) (write : Write) : Except DbError Database := do
  db.check write
  return db.apply write

/-! ## Transactions -/

/-- What a failed statement does to its transaction: it is undone alone, or the
whole transaction is aborted until rollback, as in PostgreSQL. -/
inductive FailureSemantics where
  | statement
  | transaction
  deriving DecidableEq

def insertedKeys (writes : List Write) : List Key :=
  writes.filterMap fun
    | .insertCall key _ => some key
    | _ => none

/-- Other transactions commit `arrival`, unless it violates a constraint or
waits for a row that the open transaction has inserted. -/
def Database.land (db : Database) (held : List Key) (arrival : List Write) : Database :=
  match arrival.foldlM Database.perform db with
  | .error _ => db
  | .ok landed => if (insertedKeys arrival).any (· ∈ held) then db else landed

structure Session where
  committed : Database
  /-- The writes of the open transaction. -/
  log : List Write
  aborted : Bool
  /-- What other transactions commit before each of the next inserts. -/
  arrivals : List (List Write)

def Session.visible (session : Session) : Database :=
  session.log.foldl Database.apply session.committed

def Session.land (session : Session) : Session :=
  { session with
    committed := session.committed.land (insertedKeys session.log)
      (session.arrivals.headD [])
    arrivals := session.arrivals.tail }

def Session.extend (session : Session) (writes : List Write) : Session :=
  { session with log := session.log ++ writes }

def Tx (α : Type) := Session → Except DbError α × Session

namespace Tx

variable {α β : Type}

def bind (program : Tx α) (next : α → Tx β) : Tx β := fun session =>
  match program session with
  | (.ok result, after) => next result after
  | (.error error, after) => (.error error, after)

instance : Monad Tx where
  pure result := fun session => (.ok result, session)
  bind := bind

@[simp] theorem pure_apply (result : α) (session : Session) :
    (pure result : Tx α) session = (.ok result, session) := rfl

theorem bind_apply (program : Tx α) (next : α → Tx β) (session : Session) :
    (program >>= next) session = match program session with
      | (.ok result, after) => next result after
      | (.error error, after) => (.error error, after) := rfl

def write (semantics : FailureSemantics) (writes : List Write) : Tx Unit := fun session =>
  if session.aborted then (.error .inFailedTransaction, session)
  else match writes.foldlM Database.perform session.visible with
    | .ok _ => (.ok (), session.extend writes)
    | .error error => (.error error, { session with aborted := semantics = .transaction })

def read (query : Database → α) : Tx α := fun session =>
  if session.aborted then (.error .inFailedTransaction, session)
  else (.ok (query session.visible), session)

def landing (program : Tx α) : Tx α := fun session => program session.land

def catching (program : Tx α) (caught : DbError) (result : α) : Tx α := fun session =>
  match program session with
  | (.error error, after) => (if error = caught then .ok result else .error error, after)
  | done => done

end Tx

/-- What a transaction leaves, and what the other transactions alone leave. -/
structure Outcome (α : Type) where
  result : Except DbError α
  database : Database
  others : Database

/-- `prisma.$transaction`: commit when the callback returns, roll back when it
throws. The commit of an aborted transaction is a rollback. -/
def transaction {α : Type} (program : Tx α) (db : Database) (arrivals : List (List Write)) :
    Outcome α :=
  let (result, session) := program ⟨db, [], false, arrivals⟩
  match result with
  | .ok value =>
      ⟨.ok value, if session.aborted then session.committed else session.visible,
        session.committed⟩
  | .error error => ⟨.error error, session.committed, session.committed⟩

end PactNetwork.Indexer
