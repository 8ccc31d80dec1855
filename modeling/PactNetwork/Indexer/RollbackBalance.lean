import PactNetwork.Indexer.Duplicates
import PactNetwork.Indexer.Rollback

/-!
# Rollback and the pool balance

A rollback takes a call's premium back out of its pool, but not the refund and
the fee shares that ingestion had paid out of it.
-/

set_option autoImplicit false

namespace PactNetwork.Indexer

open RowLocks

/-! ## New batches -/

/-- A batch that passes the checks and has only new calls. -/
structure SettlementEventDto.New (dto : SettlementEventDto) (base : Database) : Prop where
  checked : dto.checkContract = .ok ()
  distinct : (dto.calls.map (·.callId)).Nodup
  absent : ∀ call ∈ dto.calls, base.calls.lookup (dto.batchNetwork, call.callId) = none

namespace SettlementEventDto.New

variable {dto : SettlementEventDto} {base : Database}

theorem noCollision {network : String} {calls : List WrapCallEventDto} {held : List Key}
    (distinct : (calls.map (·.callId)).Nodup)
    (absent : ∀ call ∈ calls, base.calls.lookup (network, call.callId) = none)
    (apart : ∀ call ∈ calls, (network, call.callId) ∉ held) :
    NoCollision network base held [] calls := by
  induction calls generalizing held with
  | nil => exact True.intro
  | cons call rest ih =>
      have quiet : base.land held [] = base := by
        simp [Database.land, pure, Except.pure, insertedKeys]
      obtain ⟨fresh, others⟩ := List.nodup_cons.mp distinct
      rw [noCollision_cons, List.headD_nil, quiet]
      refine ⟨absent call List.mem_cons_self, apart call List.mem_cons_self,
        ih others (fun other member => absent other (List.mem_cons_of_mem _ member)) ?_⟩
      intro other member held'
      rcases List.mem_append.mp held' with earlier | same
      · exact apart other (List.mem_cons_of_mem _ member) earlier
      · exact fresh (List.mem_map.mpr
          ⟨other, member, congrArg Prod.snd (List.mem_singleton.mp same)⟩)

theorem ingested (semantics : FailureSemantics) (new : dto.New base) :
    base.Admits (dto.log dto.batchNetwork dto.calls
        (base.sharesOf dto.batchNetwork dto.signature).length) ∧
      (ingest semantics dto base []).result = .ok ⟨dto.calls.length, dto.calls⟩ ∧
      (ingest semantics dto base []).database = base.applyAll (dto.log dto.batchNetwork dto.calls
        (base.sharesOf dto.batchNetwork dto.signature).length) := by
  have complete : Complete dto (ingest semantics dto base []) := complete_of_noCollision
    new.checked (noCollision new.distinct new.absent fun _ _ => List.not_mem_nil)
  obtain ⟨-, inserted, written⟩ := ingest_undisturbed complete.result
  have all := inserted.trans (newCalls_of_absent new.distinct new.absent)
  dsimp only at all
  rw [all] at written
  have answered := complete.result
  rw [all] at answered
  cases written with
  | inr logged => exact ⟨logged.1, answered, logged.2⟩
  | inl nothing =>
      have none : dto.calls = [] := nothing.1
      have log : dto.log dto.batchNetwork dto.calls
          (base.sharesOf dto.batchNetwork dto.signature).length = [] := by
        simp [SettlementEventDto.log, SettlementEventDto.targetWrites, insertWrites, none,
          SettlementEventDto.sortedAgentPubkeys, SettlementEventDto.sortedEndpointSlugs,
          SettlementEventDto.earliestTsByAgent]
      rw [log]
      exact ⟨rfl, answered, nothing.2⟩

end SettlementEventDto.New

/-! ## Rolling all calls back -/

section Balances

variable {network : String} {db after : Database}

theorem rollback_balance {call : WrapCallEventDto} {row : CallRow}
    (found : db.calls.lookup (network, call.callId) = some row)
    (ran : (rollback network call.callId).run undoStore db = .ok after) (key : Key) :
    after.poolColumn key .balance = db.poolColumn key .balance -
      if (network, row.endpointSlug) = key then row.premiumLamports else 0 := by
  obtain ⟨row', found', present, pools, -⟩ := rollback_effect ran
  cases found.symm.trans found'
  obtain ⟨pool, here⟩ := Option.isSome_iff_exists.mp present
  unfold Database.poolColumn
  rw [pools, Table.lookup_modify]
  by_cases same : key = (network, row.endpointSlug)
  · rw [if_pos same, if_pos same.symm, same, here]
    rfl
  · rw [if_neg same, if_neg (Ne.symm same), sub_zero]

theorem rollbackAll_balance {order : List WrapCallEventDto}
    (distinct : (order.map (·.callId)).Nodup)
    (rows : ∀ call ∈ order, db.calls.lookup (network, call.callId) = some call.row)
    (rolled : rollbackAll network (order.map (·.callId)) db = .ok after) (key : Key) :
    after.poolColumn key .balance = db.poolColumn key .balance -
      (order.map fun call =>
        if (network, call.endpointSlug) = key then call.premiumLamports else 0).sum := by
  induction order generalizing db with
  | nil =>
      cases rolled
      exact (sub_zero _).symm
  | cons call rest ih =>
      obtain ⟨middle, first, later⟩ := foldlM_cons_eq_ok.mp rolled
      obtain ⟨fresh, others⟩ := List.nodup_cons.mp distinct
      obtain ⟨-, -, -, -, calls⟩ := rollback_effect first
      have kept : ∀ other ∈ rest, middle.calls.lookup (network, other.callId) =
          some other.row := by
        intro other member
        have apart : (network, other.callId) ≠ (network, call.callId) := fun same =>
          fresh (List.mem_map.mpr ⟨other, member, congrArg Prod.snd same⟩)
        rw [calls, AList.lookup_erase_ne apart]
        exact rows other (List.mem_cons_of_mem _ member)
      rw [ih others kept later, rollback_balance (rows call List.mem_cons_self) first,
        List.map_cons, List.sum_cons]
      exact sub_sub _ _ _

end Balances

/-- What the calls of a slug were paid out of the pool: refunds and fee shares. -/
def SettlementEventDto.paidOut (dto : SettlementEventDto) (slug : String) : Int :=
  ((dto.calls.filter fun call => call.endpointSlug = slug).map fun call =>
    call.refundLamports + call.feesPaid).sum

theorem sum_map_filter {α : Type} (keep : α → Prop) [DecidablePred keep] (value : α → Int)
    (items : List α) : ((items.filter fun item => keep item).map value).sum =
      (items.map fun item => if keep item then value item else 0).sum := by
  induction items with
  | nil => rfl
  | cons item rest ih =>
      rw [List.map_cons, List.sum_cons, ← ih]
      by_cases kept : keep item
      · simp [kept]
      · simp [kept]

theorem sum_shortfall (network : String) (key : Key) (calls : List WrapCallEventDto) :
    (calls.map fun call =>
        if (network, call.endpointSlug) = key then call.column .balance else 0).sum -
      (calls.map fun call =>
        if (network, call.endpointSlug) = key then call.premiumLamports else 0).sum =
      -(calls.map fun call => if (network, call.endpointSlug) = key then
        call.refundLamports + call.feesPaid else 0).sum := by
  induction calls with
  | nil => rfl
  | cons call rest ih =>
      simp only [WrapCallEventDto.column, List.map_cons, List.sum_cons] at ih ⊢
      by_cases here : (network, call.endpointSlug) = key
      · simp only [if_pos here]
        omega
      · simp only [if_neg here]
        omega

theorem sum_paidOut (dto : SettlementEventDto) (network : String) (key : Key) :
    (dto.calls.map fun call => if (network, call.endpointSlug) = key then
        call.refundLamports + call.feesPaid else 0).sum =
      if network = key.1 then dto.paidOut key.2 else 0 := by
  by_cases same : network = key.1
  · have slugs : ∀ call : WrapCallEventDto,
        (network, call.endpointSlug) = key ↔ call.endpointSlug = key.2 := by
      intro call
      rw [Prod.ext_iff]
      exact and_iff_right same
    rw [if_pos same, SettlementEventDto.paidOut,
      sum_map_filter fun call : WrapCallEventDto => call.endpointSlug = key.2]
    simp only [slugs]
  · have apart : ∀ call : WrapCallEventDto, (network, call.endpointSlug) ≠ key :=
      fun call equal => same (congrArg Prod.fst equal)
    rw [if_neg same]
    simp only [if_neg (apart _), List.sum_map_zero]

theorem rolledBack_balance (semantics : FailureSemantics) {dto : SettlementEventDto}
    {base restored : Database} {order : List WrapCallEventDto} (new : dto.New base)
    (all : order.Perm dto.calls)
    (rolled : rollbackAll dto.batchNetwork (order.map (·.callId))
      (ingest semantics dto base []).database = .ok restored) (key : Key) :
    restored.poolColumn key .balance = base.poolColumn key .balance -
      if dto.batchNetwork = key.1 then dto.paidOut key.2 else 0 := by
  obtain ⟨admits, -, written⟩ := new.ingested semantics
  have complete := complete_of_log new.distinct new.absent
  have same := newCalls_of_absent new.distinct new.absent
  rw [← written] at complete
  have rows : ∀ call ∈ order, (ingest semantics dto base []).database.calls.lookup
      (dto.batchNetwork, call.callId) = some call.row := by
    intro call member
    exact complete.inserted call (by rw [same]; exact all.mem_iff.mp member)
  have distinct : (order.map (·.callId)).Nodup := (all.map _).nodup_iff.mpr new.distinct
  rw [rollbackAll_balance distinct rows rolled, complete.pools key .balance, same,
    (all.map _).sum_eq, add_sub_assoc, sum_shortfall, sum_paidOut]
  rfl

/-- Rolling a new batch back restores the pool balances exactly if no slug of it
was paid refunds and fee shares, in sum. -/
theorem rollback_restores_iff (semantics : FailureSemantics) (dto : SettlementEventDto)
    (base restored : Database) (order : List WrapCallEventDto) (new : dto.New base)
    (all : order.Perm dto.calls)
    (rolled : rollbackAll dto.batchNetwork (order.map (·.callId))
      (ingest semantics dto base []).database = .ok restored) :
    (∀ key, restored.poolColumn key .balance = base.poolColumn key .balance) ↔
      ∀ slug, dto.paidOut slug = 0 := by
  have left := rolledBack_balance semantics new all rolled
  constructor
  · intro same slug
    have here := (left (dto.batchNetwork, slug)).symm.trans (same _)
    rw [if_pos rfl] at here
    dsimp only at here
    omega
  · intro none key
    rw [left key, none, ite_self, sub_zero]

namespace RolledBack

def call (callId : String) (refundLamports : Int) (shares : List RecipientShareDto) :
    WrapCallEventDto :=
  { Delivered.call callId with refundLamports := refundLamports, shares := some shares }

def batch (refundLamports : Int) (shares : List RecipientShareDto) : SettlementEventDto :=
  { Delivered.batch [] with
    calls := [call "a" refundLamports shares, call "b" refundLamports shares] }

theorem batch_new (refundLamports : Int) (shares : List RecipientShareDto) :
    (batch refundLamports shares).New .empty where
  checked := by simp [SettlementEventDto.checkContract, SettlementEventDto.batchNetwork, batch, call,
    Delivered.batch, Delivered.call]
  distinct := by
    have ids : (batch refundLamports shares).calls.map (·.callId) = ["a", "b"] := rfl
    rw [ids]
    decide
  absent _ _ := rfl

def rolled (dto : SettlementEventDto) : Except RollbackError Database :=
  rollbackAll dto.batchNetwork (dto.calls.reverse.map (·.callId))
    (ingest .transaction dto .empty []).database

theorem rolled_ok (dto : SettlementEventDto) (accepted : (rolled dto).isOk = true) :
    ∃ restored, rolled dto = .ok restored := by
  cases ran : rolled dto with
  | error failure =>
      rw [ran] at accepted
      cases accepted
  | ok restored => exact ⟨restored, rfl⟩

end RolledBack

open RolledBack in
/-- Plain calls roll back exactly. -/
theorem rollback_restores_plain : ∃ restored, rolled (batch 0 []) = .ok restored ∧
    ∀ key, restored.poolColumn key .balance = Database.empty.poolColumn key .balance := by
  obtain ⟨restored, finished⟩ := rolled_ok (batch 0 []) (by decide +kernel)
  refine ⟨restored, finished, (rollback_restores_iff .transaction (batch 0 []) .empty restored
    (batch 0 []).calls.reverse (batch_new 0 []) (List.reverse_perm _) finished).mpr fun slug => ?_⟩
  by_cases same : slug = "helius"
  · subst same
    decide
  · have none : (batch 0 []).calls.filter (fun call => call.endpointSlug = slug) = [] := by
      simp [batch, call, Delivered.call, Ne.symm same]
    rw [SettlementEventDto.paidOut, none]
    rfl

open RolledBack in
/-- Two calls with a refund and a fee share each leave the pool short of both. -/
theorem rollback_not_restored : ¬∀ (semantics : FailureSemantics) (dto : SettlementEventDto)
    (base restored : Database) (order : List WrapCallEventDto), dto.New base →
    order.Perm dto.calls →
    rollbackAll dto.batchNetwork (order.map (·.callId))
      (ingest semantics dto base []).database = .ok restored →
    ∀ key, restored.poolColumn key .balance = base.poolColumn key .balance := by
  intro claim
  have short : ((rolled (batch 40 [⟨0, "treasury", 7⟩])).toOption.map fun restored =>
      restored.poolColumn ("solana-devnet", "helius") .balance) = some (-94) := by
    decide +kernel
  obtain ⟨restored, finished⟩ := rolled_ok (batch 40 [⟨0, "treasury", 7⟩]) (by decide +kernel)
  have same := claim .transaction (batch 40 [⟨0, "treasury", 7⟩]) .empty restored _
    (batch_new 40 _) (List.reverse_perm _) finished ("solana-devnet", "helius")
  rw [finished] at short
  have missing : restored.poolColumn ("solana-devnet", "helius") .balance = -94 :=
    Option.some.inj short
  rw [missing] at same
  exact absurd same (by decide)

end PactNetwork.Indexer
