import PactNetwork.Foundation.RowLocks
import PactNetwork.Indexer.Ledgers

/-!
# Rollback

`ReorgService.rollback`: an operator undoes one call in a transaction, and the
batch's fee records with the last of its calls.
-/

set_option autoImplicit false

namespace PactNetwork.Indexer

open RowLocks

/-! ## Statements -/

inductive Undo where
  | drainPool (key : Key) (premium : Int)
  | unearn (key : Key) (amount : Int)
  | deleteShares (network signature : String)
  | deleteSettlement (key : Key)
  | deleteCall (key : Key)

def PoolRow.drain (row : PoolRow) (premium : Int) : PoolRow :=
  { row with currentBalanceLamports := row.currentBalanceLamports - premium }

def EarningsRow.unearn (row : EarningsRow) (amount : Int) : EarningsRow :=
  { row with lifetimeEarnedLamports := row.lifetimeEarnedLamports - amount }

def Database.undo (db : Database) : Undo → Database
  | .drainPool key premium =>
      { db with pools := db.pools.modify key fun row => row.drain premium }
  | .unearn key amount =>
      { db with earnings := db.earnings.modify key fun row => row.unearn amount }
  | .deleteShares network signature =>
      { db with shares := db.shares.filter fun row =>
          ¬(row.network = network ∧ row.settlementSig = signature) }
  | .deleteSettlement key => { db with settlements := db.settlements.erase key }
  | .deleteCall key => { db with calls := db.calls.erase key }

/-- An update or a delete of one row fails where there is none, and a settlement
stays while shares refer to it. -/
def Database.checkUndo (db : Database) : Undo → Except DbError Unit
  | .drainPool key _ => failIf (!(db.pools.lookup key).isSome) .notFound
  | .unearn key _ => failIf (!(db.earnings.lookup key).isSome) .notFound
  | .deleteShares _ _ => .ok ()
  | .deleteSettlement key => do
      failIf (!(db.settlements.lookup key).isSome) .notFound
      failIf (db.sharesOf key.1 key.2 ≠ []) .foreignKeyViolation
  | .deleteCall key => failIf (!(db.calls.lookup key).isSome) .notFound

inductive LockedRow where
  | pool (key : Key)
  | earnings (key : Key)
  | shares (network signature : String)
  | settlement (key : Key)
  | call (key : Key)
  deriving DecidableEq

def Undo.row : Undo → LockedRow
  | .drainPool key _ => .pool key
  | .unearn key _ => .earnings key
  | .deleteShares network signature => .shares network signature
  | .deleteSettlement key => .settlement key
  | .deleteCall key => .call key

inductive RollbackError where
  /-- "no Call row for network=… callId=…". -/
  | noCallRow (network callId : String)
  | database (error : DbError)
  deriving DecidableEq

def undoStore : Store Database Undo RollbackError LockedRow where
  check db statement := (db.checkUndo statement).mapError .database
  apply := Database.undo
  row := Undo.row

/-! ## The transaction -/

def Database.callsInBatch (network signature : String) (db : Database) : Nat :=
  (db.calls.entries.filter fun entry =>
    entry.1.1 = network ∧ entry.2.signature = signature).length

def clearBatch (network callId signature : String) (shares : List ShareRow) : List Undo :=
  shares.map (fun share => .unearn (network, share.recipientPubkey) share.amountLamports) ++
    [.deleteShares network signature, .deleteSettlement (network, signature),
      .deleteCall (network, callId)]

def rollbackFound (network callId : String) (call : CallRow) :
    Script Database Undo RollbackError :=
  .write (.drainPool (network, call.endpointSlug) call.premiumLamports) <|
    .query fun db =>
      if db.callsInBatch network call.signature = 1 then
        .query fun db => .writes (clearBatch network callId call.signature
          (db.sharesOf network call.signature))
      else .writes [.deleteCall (network, callId)]

def rollback (network callId : String) : Script Database Undo RollbackError :=
  .query fun db =>
    match db.calls.lookup (network, callId) with
    | none => .throws (.noCallRow network callId)
    | some call => rollbackFound network callId call

def rollbackAll (network : String) (callIds : List String) (db : Database) :
    Except RollbackError Database :=
  callIds.foldlM (fun db callId => (rollback network callId).run undoStore db) db

/-! ## What a rollback does -/

section Effects

variable {network callId : String} {call : CallRow} {db after : Database}

theorem check_undo (db : Database) (statement : Undo) :
    undoStore.check db statement = .ok () ↔ db.checkUndo statement = .ok () := by
  change (db.checkUndo statement).mapError RollbackError.database = .ok () ↔ _
  cases db.checkUndo statement with
  | error failure => exact ⟨nofun, nofun⟩
  | ok passes => exact ⟨fun _ => rfl, fun _ => rfl⟩

theorem perform_undo_eq_ok {statement : Undo} : undoStore.perform db statement = .ok after ↔
    db.checkUndo statement = .ok () ∧ db.undo statement = after := by
  rw [Store.perform, bind_eq_ok]
  constructor
  · intro performed
    obtain ⟨checked, passes, same⟩ := performed
    exact ⟨(check_undo db statement).mp passes, Except.ok.inj same⟩
  · intro performed
    obtain ⟨passes, same⟩ := performed
    exact ⟨(), (check_undo db statement).mpr passes, congrArg Except.ok same⟩

theorem run_rollback_eq_ok : (rollback network callId).run undoStore db = .ok after ↔
    ∃ call, db.calls.lookup (network, callId) = some call ∧
      (rollbackFound network callId call).run undoStore db = .ok after := by
  rw [rollback, Script.run]
  cases db.calls.lookup (network, callId) with
  | none =>
      constructor
      · intro ran
        cases ran
      · intro ran
        obtain ⟨_, absent, -⟩ := ran
        cases absent
  | some call =>
      constructor
      · intro ran
        exact ⟨call, rfl, ran⟩
      · intro ran
        obtain ⟨_, same, ran⟩ := ran
        cases same
        exact ran

def Database.rollbackRest (network callId : String) (call : CallRow) (db : Database) : List Undo :=
  if db.callsInBatch network call.signature = 1 then
    clearBatch network callId call.signature (db.sharesOf network call.signature)
  else [.deleteCall (network, callId)]

theorem run_found_eq_ok : (rollbackFound network callId call).run undoStore db = .ok after ↔
    (db.pools.lookup (network, call.endpointSlug)).isSome ∧
      (db.rollbackRest network callId call).foldlM undoStore.perform
        (db.undo (.drainPool (network, call.endpointSlug) call.premiumLamports)) = .ok after := by
  rw [rollbackFound, Script.run, bind_eq_ok]
  have checked : undoStore.check db (.drainPool (network, call.endpointSlug)
      call.premiumLamports) = .ok () ↔ (db.pools.lookup (network, call.endpointSlug)).isSome := by
    rw [check_undo, Database.checkUndo, failIf_eq_ok, Bool.not_eq_true', Bool.not_eq_false]
  have continued : ((Script.query fun db : Database =>
      if db.callsInBatch network call.signature = 1 then
        .query fun db => .writes (clearBatch network callId call.signature
          (db.sharesOf network call.signature))
      else .writes [.deleteCall (network, callId)]).run undoStore
        (db.undo (.drainPool (network, call.endpointSlug) call.premiumLamports))) =
      (db.rollbackRest network callId call).foldlM undoStore.perform
        (db.undo (.drainPool (network, call.endpointSlug) call.premiumLamports)) := by
    rw [← Script.run_writes, Script.run, Database.rollbackRest]
    change Script.run undoStore (if db.callsInBatch network call.signature = 1 then _ else _) _ = _
    split
    · rfl
    · rfl
  constructor
  · intro ran
    obtain ⟨_, passes, rest⟩ := ran
    exact ⟨checked.mp passes, continued ▸ rest⟩
  · intro ran
    exact ⟨(), checked.mpr ran.1, continued ▸ ran.2⟩

theorem rollbackRest_eq (network callId : String) (call : CallRow) (db : Database) :
    ∃ front, db.rollbackRest network callId call = front ++ [.deleteCall (network, callId)] ∧
      ∀ statement ∈ front, (∃ key amount, statement = .unearn key amount) ∨
        (∃ signature, statement = .deleteShares network signature) ∨
        ∃ key, statement = .deleteSettlement key := by
  unfold Database.rollbackRest
  split
  · refine ⟨(db.sharesOf network call.signature).map (fun share =>
      .unearn (network, share.recipientPubkey) share.amountLamports) ++
        [.deleteShares network call.signature, .deleteSettlement (network, call.signature)],
      by simp [clearBatch], ?_⟩
    intro statement member
    rcases List.mem_append.mp member with unearned | deleted
    · obtain ⟨share, -, rfl⟩ := List.mem_map.mp unearned
      exact .inl ⟨_, _, rfl⟩
    · simp only [List.mem_cons, List.not_mem_nil, or_false] at deleted
      cases deleted with
      | inl shares => exact .inr (.inl ⟨_, shares⟩)
      | inr settlement => exact .inr (.inr ⟨_, settlement⟩)
  · exact ⟨[], rfl, nofun⟩

theorem rollback_effect (ran : (rollback network callId).run undoStore db = .ok after) :
    ∃ call, db.calls.lookup (network, callId) = some call ∧
      (db.pools.lookup (network, call.endpointSlug)).isSome ∧
      after.pools = db.pools.modify (network, call.endpointSlug)
        (fun row => row.drain call.premiumLamports) ∧
      after.calls = db.calls.erase (network, callId) := by
  obtain ⟨call, found, ran⟩ := run_rollback_eq_ok.mp ran
  obtain ⟨pool, rest⟩ := run_found_eq_ok.mp ran
  obtain ⟨front, same, kinds⟩ := rollbackRest_eq network callId call db
  rw [same, foldlM_append_eq_ok] at rest
  obtain ⟨middle, first, last⟩ := rest
  obtain ⟨_, deleted, finished⟩ := foldlM_cons_eq_ok.mp last
  cases finished
  obtain ⟨-, rfl⟩ := perform_undo_eq_ok.mp deleted
  have kept : middle.pools = (db.undo (.drainPool (network, call.endpointSlug)
      call.premiumLamports)).pools ∧ middle.calls = db.calls := by
    refine foldlM_invariant (fun state => state.pools = (db.undo (.drainPool
      (network, call.endpointSlug) call.premiumLamports)).pools ∧ state.calls = db.calls)
      first ⟨rfl, rfl⟩ fun before statement after member holds performed => ?_
    obtain ⟨-, rfl⟩ := perform_undo_eq_ok.mp performed
    rcases kinds statement member with ⟨_, _, rfl⟩ | ⟨_, rfl⟩ | ⟨_, rfl⟩
    · exact holds
    · exact holds
    · exact holds
  exact ⟨call, found, pool, kept.1, congrArg (·.erase (network, callId)) kept.2⟩

end Effects

end PactNetwork.Indexer
