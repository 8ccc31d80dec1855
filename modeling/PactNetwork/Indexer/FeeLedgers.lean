import PactNetwork.Indexer.Ledgers

/-!
# The fee ledgers

Pool fees, recipient earnings and settlement shares count the same amounts, as
long as no signature that has its shares brings further calls that carry some.
-/

set_option autoImplicit false

namespace PactNetwork.Indexer

def Database.poolFees (network : String) (db : Database) : Int :=
  db.pools.total fun key row => if key.1 = network then row.totalFeesPaidLamports else 0

def Database.earned (network : String) (db : Database) : Int :=
  db.earnings.total fun key row => if key.1 = network then row.lifetimeEarnedLamports else 0

def Database.shared (network : String) (db : Database) : Int :=
  (db.shares.map fun row => if row.network = network then row.amountLamports else 0).sum

def earnWeight (network : String) : Write → Int
  | .earn key _ amount _ => if key.1 = network then amount else 0
  | _ => 0

def shareWeight (network : String) : Write → Int
  | .insertShare row => if row.network = network then row.amountLamports else 0
  | _ => 0

theorem additive_poolFees (network : String) :
    Additive (Database.poolFees network) (poolWeight (·.1 = network) (·.feesPaid)) := by
  intro db write _
  cases write with
  | movePool key delta now =>
      simp only [Database.poolFees, Database.apply, Table.upsert, Table.total_insert, poolWeight]
      refine congrArg (_ + ·) ?_
      by_cases same : key.1 = network
      · cases db.pools.lookup key <;> simp [same, PoolRow.create, PoolRow.add]
      · cases db.pools.lookup key <;> simp [same]
  | _ => exact (add_zero _).symm

theorem additive_earned (network : String) :
    Additive (Database.earned network) (earnWeight network) := by
  intro db write _
  cases write with
  | earn key kind amount now =>
      simp only [Database.earned, Database.apply, Table.upsert, Table.total_insert, earnWeight]
      refine congrArg (_ + ·) ?_
      by_cases same : key.1 = network
      · cases db.earnings.lookup key <;> simp [same, EarningsRow.add]
      · cases db.earnings.lookup key <;> simp [same]
  | _ => exact (add_zero _).symm

theorem additive_shared (network : String) :
    Additive (Database.shared network) (shareWeight network) := by
  intro db write _
  cases write with
  | insertShare row =>
      simp only [Database.shared, Database.apply, List.map_append, List.sum_append, shareWeight]
      exact congrArg (_ + ·) (add_zero _)
  | _ => exact (add_zero _).symm

section Logs

variable {dto : SettlementEventDto} {batchNetwork : String} {inserted : List WrapCallEventDto}
  {existingShares : Nat} (network : String)

def carriedOn (network batchNetwork : String) (calls : List WrapCallEventDto) : Int :=
  (calls.map fun call => if batchNetwork = network then call.feesPaid else 0).sum

theorem carriedOn_eq (calls : List WrapCallEventDto) : carriedOn network batchNetwork calls =
    if batchNetwork = network then (calls.map (·.feesPaid)).sum else 0 := by
  unfold carriedOn
  by_cases same : batchNetwork = network
  · simp only [if_pos same]
  · simp only [if_neg same]
    exact List.sum_eq_zero fun value member => (List.mem_map.mp member).elim fun _ found =>
      found.2.symm

theorem weigh_shareWrites (weight : Write → Int) :
    weigh weight (shareWrites dto batchNetwork inserted existingShares) =
      if existingShares = 0 then
        ((aggregatedShares inserted).map fun share => weight (.insertShare
          ⟨batchNetwork, dto.signature, share.kind, share.pubkey, share.amountLamports⟩)).sum +
        ((aggregatedShares inserted).map fun share => weight (.earn (batchNetwork, share.pubkey)
          share.kind share.amountLamports dto.ts)).sum
      else 0 := by
  unfold shareWrites
  dsimp only
  by_cases first : existingShares = 0
  · rw [if_pos first]
    by_cases some : 0 < (aggregatedShares inserted).length
    · have sorted := (List.perm_insertionSort
        (fun first second : RecipientShareDto => first.pubkey ≤ second.pubkey)
        (aggregatedShares inserted)).map fun share =>
          weight (.earn (batchNetwork, share.pubkey) share.kind share.amountLamports dto.ts)
      have earned : weigh weight ((sortedRecipients (aggregatedShares inserted)).flatMap
          fun share => [.earn (batchNetwork, share.pubkey) share.kind share.amountLamports
            dto.ts]) = _ := (weigh_flatMap_single weight _ _).trans sorted.sum_eq
      rw [if_pos ⟨first, some⟩, weigh_append, weigh_map, earned]
    · have none : aggregatedShares inserted = [] := by
        rw [← List.length_eq_zero_iff]
        omega
      rw [if_neg fun both => some both.2, none]
      rfl
  · rw [if_neg fun both => first both.1, if_neg first]
    rfl

theorem sum_if (keep : Prop) [Decidable keep] (shares : List RecipientShareDto) :
    (shares.map fun share => if keep then share.amountLamports else 0).sum =
      if keep then (shares.map (·.amountLamports)).sum else 0 := by
  by_cases kept : keep
  · simp only [if_pos kept]
  · simp only [if_neg kept, List.sum_map_zero]

theorem weigh_earnWeight :
    weigh (earnWeight network) (dto.log batchNetwork inserted existingShares) =
      if existingShares = 0 then carriedOn network batchNetwork inserted else 0 := by
  rw [weigh_log ⟨fun _ _ => rfl, fun _ _ => rfl, fun _ _ => rfl⟩,
    weigh_insertWrites_zero fun _ _ => rfl, weigh_countWrites_zero fun _ _ => rfl,
    weigh_poolWrites_zero fun _ _ _ => rfl, weigh_shareWrites, zero_add, zero_add, add_zero,
    carriedOn_eq, ← sum_aggregatedShares]
  refine if_congr Iff.rfl ?_ rfl
  refine Eq.trans ?_ (sum_if (batchNetwork = network) (aggregatedShares inserted))
  simp only [earnWeight, List.sum_map_zero, zero_add]

theorem weigh_shareWeight :
    weigh (shareWeight network) (dto.log batchNetwork inserted existingShares) =
      if existingShares = 0 then carriedOn network batchNetwork inserted else 0 := by
  rw [weigh_log ⟨fun _ _ => rfl, fun _ _ => rfl, fun _ _ => rfl⟩,
    weigh_insertWrites_zero fun _ _ => rfl, weigh_countWrites_zero fun _ _ => rfl,
    weigh_poolWrites_zero fun _ _ _ => rfl, weigh_shareWrites, zero_add, zero_add, add_zero,
    carriedOn_eq, ← sum_aggregatedShares]
  refine if_congr Iff.rfl ?_ rfl
  refine Eq.trans ?_ (sum_if (batchNetwork = network) (aggregatedShares inserted))
  simp only [shareWeight, List.sum_map_zero, add_zero]

theorem weigh_feesWeight (subset : inserted ⊆ dto.calls) :
    weigh (poolWeight (·.1 = network) (·.feesPaid))
      (dto.log batchNetwork inserted existingShares) =
        carriedOn network batchNetwork inserted :=
  weigh_poolWeight (·.1 = network) (·.feesPaid) (·.feesPaid) (fun _ _ => rfl) rfl subset

end Logs

/-! ## Runs -/

/-- The database, and every call that an ingestion newly inserted. -/
structure Ledger where
  database : Database
  recorded : List (String × WrapCallEventDto)

def Ledger.carried (network : String) (ledger : Ledger) : Int :=
  (ledger.recorded.map fun call => if call.1 = network then call.2.feesPaid else 0).sum

def Ledger.Blank (ledger : Ledger) : Prop :=
  Indexer.Blank ledger.database ∧ ledger.recorded = []

def Ledger.Ingest (semantics : FailureSemantics) (dto : SettlementEventDto)
    (before after : Ledger) : Prop :=
  ∃ result, (ingest semantics dto before.database []).result = .ok result ∧
    after = ⟨(ingest semantics dto before.database []).database,
      before.recorded ++ result.insertedCalls.map fun call => (dto.batchNetwork, call)⟩

def SettlementEventDto.Timely (dto : SettlementEventDto) (db : Database) : Prop :=
  db.sharesOf dto.batchNetwork dto.signature = [] ∨
    ((db.newCalls dto.batchNetwork dto.calls).map (·.feesPaid)).sum = 0

def Ledger.Next (semantics : FailureSemantics) (before after : Ledger) : Prop :=
  ∃ dto, before.Ingest semantics dto after

def Ledger.NextTimely (semantics : FailureSemantics) (before after : Ledger) : Prop :=
  ∃ dto, dto.Timely before.database ∧ before.Ingest semantics dto after

def Ledger.Agree (ledger : Ledger) : Prop :=
  ∀ network, ledger.database.poolFees network = ledger.carried network ∧
    ledger.database.earned network = ledger.carried network ∧
    ledger.database.shared network = ledger.carried network

theorem Ledger.Blank.agree {ledger : Ledger} (blank : ledger.Blank) : ledger.Agree := by
  obtain ⟨empty, none⟩ := blank
  intro network
  rw [Database.poolFees, empty.pools, Database.earned, empty.earnings, Database.shared,
    empty.shares, Ledger.carried, none]
  exact ⟨rfl, rfl, rfl⟩

section Step

variable {semantics : FailureSemantics} {dto : SettlementEventDto} {before after : Ledger}

theorem Ledger.Ingest.moves (ingested : before.Ingest semantics dto after) (network : String) :
    let new := before.database.newCalls dto.batchNetwork dto.calls
    let gain := carriedOn network dto.batchNetwork new
    let recorded := if (before.database.sharesOf dto.batchNetwork dto.signature).length = 0
      then gain else 0
    after.carried network = before.carried network + gain ∧
      after.database.poolFees network = before.database.poolFees network + gain ∧
      after.database.earned network = before.database.earned network + recorded ∧
      after.database.shared network = before.database.shared network + recorded := by
  obtain ⟨result, accepted, rfl⟩ := ingested
  obtain ⟨-, new, written⟩ := ingest_undisturbed accepted
  have subset : result.insertedCalls ⊆ dto.calls := new ▸ newCalls_subset _ _ _
  intro newCalls gain recorded
  refine ⟨?_, ?_⟩
  · simp only [Ledger.carried, List.map_append, List.sum_append, List.map_map, new]
    rfl
  rcases written with ⟨nothing, same⟩ | ⟨admits, final⟩
  · have none : gain = 0 := by
      simp only [gain, newCalls, ← new, nothing]
      rfl
    simp only [recorded, none, same, ite_self, add_zero]
    trivial
  · simp only [final, (additive_poolFees network).applyAll admits,
      (additive_earned network).applyAll admits, (additive_shared network).applyAll admits,
      weigh_feesWeight network subset, weigh_earnWeight, weigh_shareWeight]
    simp only [gain, recorded, newCalls, new]
    trivial

theorem Ledger.Agree.ingest_iff (agree : before.Agree)
    (ingested : before.Ingest semantics dto after) :
    after.Agree ↔ dto.Timely before.database := by
  constructor
  · intro agrees
    obtain ⟨carried, -, earned, -⟩ := ingested.moves dto.batchNetwork
    obtain ⟨-, same, -⟩ := agrees dto.batchNetwork
    obtain ⟨-, began, -⟩ := agree dto.batchNetwork
    by_cases first : (before.database.sharesOf dto.batchNetwork dto.signature).length = 0
    · exact .inl (List.length_eq_zero_iff.mp first)
    · refine .inr ?_
      rw [if_neg first, add_zero] at earned
      rw [carriedOn_eq, if_pos rfl] at carried
      omega
  · intro timely network
    obtain ⟨carried, fees, earned, shared⟩ := ingested.moves network
    obtain ⟨feesAgree, earnedAgree, sharedAgree⟩ := agree network
    have recorded : (if (before.database.sharesOf dto.batchNetwork dto.signature).length = 0
        then carriedOn network dto.batchNetwork
          (before.database.newCalls dto.batchNetwork dto.calls) else 0) =
        carriedOn network dto.batchNetwork
          (before.database.newCalls dto.batchNetwork dto.calls) := by
      rcases timely with none | nothing
      · rw [if_pos (List.length_eq_zero_iff.mpr none)]
      · rw [carriedOn_eq, nothing, ite_self, ite_self]
    rw [recorded] at earned shared
    rw [carried, fees, earned, shared, feesAgree, earnedAgree, sharedAgree]
    exact ⟨rfl, rfl, rfl⟩

end Step

/-- In every run in which no signature that has its shares brings further calls
that carry some, pool fees, recipient earnings, settlement shares and the shares
carried by the inserted calls are equal on every network. -/
theorem fee_ledgers_agree (semantics : FailureSemantics) (ledger : Ledger)
    (reached : Reachable Ledger.Blank (Ledger.NextTimely semantics) ledger) (network : String) :
    ledger.database.poolFees network = ledger.carried network ∧
      ledger.database.earned network = ledger.carried network ∧
      ledger.database.shared network = ledger.carried network := by
  have agree := reached.invariant Ledger.Agree (fun _ blank => blank.agree)
    fun _ _ kept ⟨_, timely, ingested⟩ => (kept.ingest_iff ingested).mpr timely
  exact agree network

namespace Delivered

def first : Ledger :=
  ⟨(ingest .transaction (batch ["a", "b"]) .empty []).database,
    [("solana-devnet", call "a"), ("solana-devnet", call "b")]⟩

def late : Ledger :=
  ⟨(ingest .transaction (batch ["c"]) first.database []).database,
    first.recorded ++ [("solana-devnet", call "c")]⟩

theorem ingest_first : (⟨.empty, []⟩ : Ledger).Ingest .transaction (batch ["a", "b"]) first :=
  ⟨⟨2, [call "a", call "b"]⟩, by decide +kernel, rfl⟩

theorem ingest_late : first.Ingest .transaction (batch ["c"]) late :=
  ⟨⟨1, [call "c"]⟩, by decide +kernel, rfl⟩

end Delivered

theorem fee_ledgers_agree_first : Delivered.first.database.poolFees "solana-devnet" =
      Delivered.first.carried "solana-devnet" ∧
    Delivered.first.database.earned "solana-devnet" = Delivered.first.carried "solana-devnet" ∧
    Delivered.first.database.shared "solana-devnet" = Delivered.first.carried "solana-devnet" :=
  fee_ledgers_agree .transaction Delivered.first
    (.next (.start ⟨.empty, rfl⟩) ⟨_, .inl rfl, Delivered.ingest_first⟩) "solana-devnet"

/-- After the late call the pool has paid more fees than anyone earned. -/
theorem fee_ledgers_diverge : ∃ ledger,
    Reachable Ledger.Blank (Ledger.Next .transaction) ledger ∧
      ledger.carried "solana-devnet" = 30 ∧ ledger.database.poolFees "solana-devnet" = 30 ∧
      ledger.database.earned "solana-devnet" = 20 ∧
      ledger.database.shared "solana-devnet" = 20 := by
  refine ⟨Delivered.late, .next (.next (.start ⟨.empty, rfl⟩) ⟨_, Delivered.ingest_first⟩)
    ⟨_, Delivered.ingest_late⟩, ?_⟩
  decide +kernel

end PactNetwork.Indexer
