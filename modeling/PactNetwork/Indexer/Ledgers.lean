import PactNetwork.Indexer.Effects

/-!
# The indexer's aggregates

Agent counters and pool totals are the sums over the recorded calls, and the
fee ledgers agree as long as no signature comes back with further calls.
-/

set_option autoImplicit false

namespace PactNetwork.Indexer

/-! ## Measures of a database -/

def weigh (weight : Write → Int) (writes : List Write) : Int := (writes.map weight).sum

@[simp] theorem weigh_append (weight : Write → Int) (front back : List Write) :
    weigh weight (front ++ back) = weigh weight front + weigh weight back := by
  simp [weigh]

theorem weigh_eq_zero {weight : Write → Int} {writes : List Write}
    (light : ∀ write ∈ writes, weight write = 0) : weigh weight writes = 0 :=
  List.sum_eq_zero fun _ member => by
    obtain ⟨write, inside, rfl⟩ := List.mem_map.mp member
    exact light write inside

theorem weigh_map {α : Type} (weight : Write → Int) (write : α → Write) (items : List α) :
    weigh weight (items.map write) = (items.map fun item => weight (write item)).sum := by
  rw [weigh, List.map_map]
  rfl

theorem weigh_flatMap_single {α : Type} (weight : Write → Int) (write : α → Write)
    (items : List α) : weigh weight (items.flatMap fun item => [write item]) =
      (items.map fun item => weight (write item)).sum :=
  (congrArg (weigh weight) (List.flatMap_pure_eq_map write items)).trans
    (weigh_map weight write items)

def Additive (measure : Database → Int) (weight : Write → Int) : Prop :=
  ∀ db write, db.check write = .ok () → measure (db.apply write) = measure db + weight write

theorem Additive.applyAll {measure : Database → Int} {weight : Write → Int}
    (additive : Additive measure weight) {db : Database} {writes : List Write}
    (admits : db.Admits writes) :
    measure (db.applyAll writes) = measure db + weigh weight writes := by
  induction writes generalizing db with
  | nil => exact (add_zero _).symm
  | cons write rest ih =>
      obtain ⟨passes, later⟩ := admits_cons.mp admits
      calc measure (db.applyAll (write :: rest))
          = measure (db.apply write) + weigh weight rest := ih later
        _ = measure db + weigh weight (write :: rest) := by
            rw [additive db write passes, weigh, weigh, List.map_cons, List.sum_cons, add_assoc]

theorem weigh_flatMap_lookup {κ δ : Type} [DecidableEq κ] {weight : Write → Int} {keys : List κ}
    {table : Table κ δ} {body : κ → δ → List Write} (value : κ → δ → Int)
    (distinct : keys.Nodup) (covers : ∀ key ∈ table, key ∈ keys)
    (weighs : ∀ key delta, weigh weight (body key delta) = value key delta) :
    weigh weight (keys.flatMap fun key => (table.lookup key).elim [] (body key)) =
      table.total value := by
  rw [← Table.sum_worth value table distinct covers]
  clear distinct covers
  induction keys with
  | nil => rfl
  | cons key rest ih =>
      rw [List.flatMap_cons, weigh_append, ih, List.map_cons, List.sum_cons]
      cases table.lookup key with
      | none => rfl
      | some delta => exact congrArg (· + _) (weighs key delta)

inductive Flow where
  | premiums
  | refunds

inductive Counter where
  | calls
  | flow (flow : Flow)

def CallRow.flow (row : CallRow) : Flow → Int
  | .premiums => row.premiumLamports
  | .refunds => row.refundLamports

def CallRow.counter (row : CallRow) : Counter → Int
  | .calls => 1
  | .flow flow => row.flow flow

def AgentRow.counter (row : AgentRow) : Counter → Int
  | .calls => row.callCount
  | .flow .premiums => row.totalPremiumsLamports
  | .flow .refunds => row.totalRefundsLamports

def AgentDelta.counter (delta : AgentDelta) : Counter → Int
  | .calls => delta.callCount
  | .flow .premiums => delta.premium
  | .flow .refunds => delta.refund

inductive PoolColumn where
  | flow (flow : Flow)
  | fees
  | balance

def PoolRow.column (row : PoolRow) : PoolColumn → Int
  | .flow .premiums => row.totalPremiumsLamports
  | .flow .refunds => row.totalRefundsLamports
  | .fees => row.totalFeesPaidLamports
  | .balance => row.currentBalanceLamports

def PoolDelta.column (delta : PoolDelta) : PoolColumn → Int
  | .flow .premiums => delta.premium
  | .flow .refunds => delta.refund
  | .fees => delta.feesPaid
  | .balance => delta.balance

def WrapCallEventDto.feesPaid (call : WrapCallEventDto) : Int :=
  (call.recipientShares.map (·.amountLamports)).sum

def WrapCallEventDto.column (call : WrapCallEventDto) : PoolColumn → Int
  | .flow flow => call.row.flow flow
  | .fees => call.feesPaid
  | .balance => call.premiumLamports - call.refundLamports - call.feesPaid

def Database.agentCounter (pubkey : String) (counter : Counter) (db : Database) : Int :=
  (db.agents.lookup pubkey).elim 0 (·.counter counter)

def Database.poolColumn (key : Key) (column : PoolColumn) (db : Database) : Int :=
  (db.pools.lookup key).elim 0 (·.column column)

def Database.agentCalls (pubkey : String) (counter : Counter) (db : Database) : Int :=
  db.calls.total fun _ row => if row.agentPubkey = pubkey then row.counter counter else 0

def Database.endpointCalls (key : Key) (flow : Flow) (db : Database) : Int :=
  db.calls.total fun call row => if (call.1, row.endpointSlug) = key then row.flow flow else 0

def agentWeight (pubkey : String) (counter : Counter) : Write → Int
  | .countCalls other delta => if other = pubkey then delta.counter counter else 0
  | _ => 0

def poolWeight (keep : Key → Prop) [DecidablePred keep] (amount : PoolDelta → Int) : Write → Int
  | .movePool key delta _ => if keep key then amount delta else 0
  | _ => 0

def callWeight (value : Key → CallRow → Int) : Write → Int
  | .insertCall key row => value key row
  | _ => 0

theorem additive_agentCounter (pubkey : String) (counter : Counter) :
    Additive (Database.agentCounter pubkey counter) (agentWeight pubkey counter) := by
  intro db write passes
  cases write with
  | ensureAgent other createdAt =>
      simp only [Database.agentCounter, Database.apply, Table.lookup_ensure, agentWeight, add_zero]
      by_cases same : pubkey = other
      · subst same
        rw [if_pos rfl]
        cases db.agents.lookup pubkey with
        | none => cases counter with
          | calls => rfl
          | flow flow => cases flow <;> rfl
        | some row => rfl
      · rw [if_neg same]
  | countCalls other delta =>
      simp only [Database.agentCounter, Database.apply, Table.lookup_modify, agentWeight]
      by_cases same : pubkey = other
      · subst same
        rw [if_pos rfl, if_pos rfl]
        cases found : db.agents.lookup pubkey with
        | none => simp [Database.check, found] at passes
        | some row => cases counter with
          | calls => rfl
          | flow flow => cases flow <;> rfl
      · rw [if_neg same, if_neg (Ne.symm same), add_zero]
  | _ => exact (add_zero _).symm

theorem additive_poolColumn (key : Key) (column : PoolColumn) :
    Additive (Database.poolColumn key column) (poolWeight (· = key) (·.column column)) := by
  intro db write _
  cases write with
  | movePool other delta now =>
      simp only [Database.poolColumn, Database.apply, Table.lookup_upsert, poolWeight]
      by_cases same : key = other
      · subst same
        rw [if_pos rfl, if_pos rfl]
        cases db.pools.lookup key with
        | none => rcases column with (_ | _) | _ | _ <;> exact (zero_add _).symm
        | some row => rcases column with (_ | _) | _ | _ <;> rfl
      · rw [if_neg same, if_neg (Ne.symm same), add_zero]
  | _ => exact (add_zero _).symm

theorem additive_calls (value : Key → CallRow → Int) :
    Additive (fun db => db.calls.total value) (callWeight value) := by
  intro db write passes
  cases write with
  | insertCall key row =>
      simp only [Database.apply, Table.total_insert, lookup_of_check passes, Table.worth_none,
        sub_zero, callWeight]
  | _ => exact (add_zero _).symm

/-! ## Deltas -/

section Deltas

variable (inserted : List WrapCallEventDto)

theorem total_perAgent (pubkey : String) (counter : Counter) :
    (perAgent inserted).total
        (fun other delta => if other = pubkey then delta.counter counter else 0) =
      (inserted.map fun call =>
        if call.agentPubkey = pubkey then call.row.counter counter else 0).sum := by
  refine (Table.total_foldl _ _ (fun table call => ?_) inserted ∅).trans (zero_add _)
  rw [addToAgent, Table.total_insert]
  by_cases same : call.agentPubkey = pubkey
  · simp only [if_pos same]
    cases table.lookup call.agentPubkey with
    | none => cases counter with
      | calls => simp [AgentDelta.counter, CallRow.counter]
      | flow flow => cases flow <;>
          simp [AgentDelta.counter, CallRow.counter, CallRow.flow, WrapCallEventDto.row]
    | some delta => cases counter with
      | calls => simp [AgentDelta.counter, CallRow.counter, same]
      | flow flow => cases flow <;>
          simp [AgentDelta.counter, CallRow.counter, CallRow.flow, WrapCallEventDto.row, same]
  · cases table.lookup call.agentPubkey <;> simp [same]

theorem foldl_fees (shares : List RecipientShareDto) (fees : Int) :
    shares.foldl (fun fees share => fees + share.amountLamports) fees =
      fees + (shares.map (·.amountLamports)).sum := by
  induction shares generalizing fees with
  | nil => exact (add_zero _).symm
  | cons share rest ih =>
      rw [List.foldl_cons, ih, List.map_cons, List.sum_cons, add_assoc]

theorem total_perEndpoint (keep : String → Prop) [DecidablePred keep]
    (amount : PoolDelta → Int) (gain : WrapCallEventDto → Int)
    (linear : ∀ (slot : PoolDelta) (call : WrapCallEventDto),
      amount ⟨slot.premium + call.premiumLamports, slot.refund + call.refundLamports,
        slot.feesPaid + call.feesPaid⟩ = amount slot + gain call)
    (zero : amount ⟨0, 0, 0⟩ = 0) :
    (perEndpoint inserted).total (fun slug delta => if keep slug then amount delta else 0) =
      (inserted.map fun call => if keep call.endpointSlug then gain call else 0).sum := by
  refine (Table.total_foldl _ _ (fun table call => ?_) inserted ∅).trans (zero_add _)
  rw [addToEndpoint, Table.total_insert, foldl_fees]
  by_cases kept : keep call.endpointSlug
  · simp only [if_pos kept]
    refine congrArg (_ + ·) ((congrArg (· - _) (linear _ call)).trans ?_)
    cases table.lookup call.endpointSlug with
    | none => simp [zero]
    | some slot => simp [kept]
  · cases table.lookup call.endpointSlug <;> simp [kept]

theorem sum_aggregatedShares :
    ((aggregatedShares inserted).map (·.amountLamports)).sum =
      (inserted.map (·.feesPaid)).sum := by
  have each : ∀ (table : Table (Nat × String) Int) (share : RecipientShareDto),
      (addToRecipient table share).total (fun _ amount => amount) =
        table.total (fun _ amount => amount) + share.amountLamports := by
    intro table share
    rw [addToRecipient, Table.total_insert]
    cases table.lookup (share.kind, share.pubkey) <;> simp
  have filled := Table.total_foldl _ _ each (inserted.flatMap (·.recipientShares)) ∅
  rw [Table.total_empty, zero_add] at filled
  calc ((aggregatedShares inserted).map (·.amountLamports)).sum
      = ((inserted.flatMap (·.recipientShares)).foldl addToRecipient ∅).total
          (fun _ amount => amount) := by
        rw [aggregatedShares, Table.total, List.map_map]
        rfl
    _ = ((inserted.flatMap (·.recipientShares)).map (·.amountLamports)).sum := filled
    _ = (inserted.map (·.feesPaid)).sum := by
        clear filled
        induction inserted with
        | nil => rfl
        | cons call rest ih =>
            rw [List.flatMap_cons, List.map_append, List.sum_append, ih]
            rfl

theorem mem_earliestTsByAgent {dto : SettlementEventDto} {call : WrapCallEventDto}
    (member : call ∈ dto.calls) : call.agentPubkey ∈ dto.earliestTsByAgent := by
  refine (Table.mem_foldl (fun table entry => ?_) dto.calls ∅).mpr (.inl ⟨call, member, rfl⟩)
  unfold keepEarliest
  cases found : table.lookup entry.agentPubkey with
  | none => exact AList.mem_insert _
  | some prev =>
      have present : entry.agentPubkey ∈ table := AList.lookup_isSome.mp (by rw [found]; rfl)
      dsimp only
      split
      · exact AList.mem_insert _
      · exact ⟨.inr, fun either => either.elim (fun same => same ▸ present) id⟩

theorem sortedAgentPubkeys_covers {dto : SettlementEventDto} (subset : inserted ⊆ dto.calls) :
    dto.sortedAgentPubkeys.Nodup ∧
      ∀ pubkey ∈ perAgent inserted, pubkey ∈ dto.sortedAgentPubkeys := by
  refine ⟨(List.perm_insertionSort _ _).nodup_iff.mpr dto.earliestTsByAgent.keys_nodup,
    fun pubkey member => (List.perm_insertionSort _ _).mem_iff.mpr ?_⟩
  have added : ∀ (table : Table String AgentDelta) (call : WrapCallEventDto),
      pubkey ∈ addToAgent table call ↔ pubkey = call.agentPubkey ∨ pubkey ∈ table :=
    fun table call => AList.mem_insert table
  rcases (Table.mem_foldl added inserted ∅).mp member with ⟨call, inside, rfl⟩ | none
  · exact mem_earliestTsByAgent (subset inside)
  · exact (AList.notMem_empty _ none).elim

theorem sortedEndpointSlugs_covers {dto : SettlementEventDto} (subset : inserted ⊆ dto.calls) :
    dto.sortedEndpointSlugs.Nodup ∧
      ∀ slug ∈ perEndpoint inserted, slug ∈ dto.sortedEndpointSlugs := by
  refine ⟨(List.perm_insertionSort _ _).nodup_iff.mpr (List.nodup_dedup _),
    fun slug member => (List.perm_insertionSort _ _).mem_iff.mpr (List.mem_dedup.mpr ?_)⟩
  have added : ∀ (table : Table String PoolDelta) (call : WrapCallEventDto),
      slug ∈ addToEndpoint table call ↔ slug = call.endpointSlug ∨ slug ∈ table :=
    fun table call => AList.mem_insert table
  rcases (Table.mem_foldl added inserted ∅).mp member with ⟨call, inside, rfl⟩ | none
  · exact List.mem_map_of_mem (subset inside)
  · exact (AList.notMem_empty _ none).elim

end Deltas

/-! ## The weight of a log -/

section Logs

variable {weight : Write → Int} {dto : SettlementEventDto} {network : String}
  {inserted : List WrapCallEventDto} {existingShares : Nat}

structure Silent (weight : Write → Int) : Prop where
  agents : ∀ pubkey createdAt, weight (.ensureAgent pubkey createdAt) = 0
  endpoints : ∀ key now, weight (.ensureEndpoint key now) = 0
  settlements : ∀ key row, weight (.ensureSettlement key row) = 0

theorem weigh_log (silent : Silent weight) :
    weigh weight (dto.log network inserted existingShares) =
      weigh weight (insertWrites network inserted) + (weigh weight (countWrites dto inserted) +
        (weigh weight (shareWrites dto network inserted existingShares) +
          weigh weight (poolWrites dto network inserted))) := by
  have targets : weigh weight (dto.targetWrites network) = 0 := by
    refine weigh_eq_zero fun write member => ?_
    rcases mem_targetWrites member with ⟨_, _, rfl⟩ | ⟨_, _, rfl⟩
    · exact silent.agents _ _
    · exact silent.endpoints _ _
  have settlement : weigh weight (aggregateWrites dto network inserted existingShares) =
      weigh weight (countWrites dto inserted) +
        (weigh weight (shareWrites dto network inserted existingShares) +
          weigh weight (poolWrites dto network inserted)) := by
    rw [aggregateWrites, weigh, List.map_cons, List.sum_cons, silent.settlements, zero_add]
    exact (weigh_append _ _ _).trans (congrArg _ (weigh_append _ _ _))
  unfold SettlementEventDto.log
  rw [weigh_append, weigh_append, targets, zero_add]
  by_cases nothing : inserted = []
  · subst nothing
    have none : ∀ write ∈ (countWrites dto [] ++ (shareWrites dto network [] existingShares ++
        poolWrites dto network [])), weight write = 0 := by
      intro write member
      simp [countWrites, shareWrites, poolWrites, perAgent, perEndpoint, aggregatedShares] at member
    rw [if_pos rfl]
    refine congrArg _ ((weigh_eq_zero none).symm.trans ?_)
    rw [weigh_append, weigh_append]
  · rw [if_neg nothing, settlement]

theorem weigh_countWrites_zero (light : ∀ pubkey delta, weight (.countCalls pubkey delta) = 0) :
    weigh weight (countWrites dto inserted) = 0 := by
  refine weigh_eq_zero fun write member => ?_
  obtain ⟨_, -, _, rfl⟩ := mem_countWrites member
  exact light _ _

theorem weigh_poolWrites_zero (light : ∀ key delta now, weight (.movePool key delta now) = 0) :
    weigh weight (poolWrites dto network inserted) = 0 := by
  refine weigh_eq_zero fun write member => ?_
  obtain ⟨_, -, _, _, rfl⟩ := mem_poolWrites member
  exact light _ _ _

theorem weigh_insertWrites_zero (light : ∀ key row, weight (.insertCall key row) = 0) :
    weigh weight (insertWrites network inserted) = 0 := by
  refine weigh_eq_zero fun write member => ?_
  obtain ⟨_, _, rfl⟩ := mem_insertWrites member
  exact light _ _

theorem weigh_shareWrites_zero (shares : ∀ row, weight (.insertShare row) = 0)
    (earnings : ∀ key kind amount now, weight (.earn key kind amount now) = 0) :
    weigh weight (shareWrites dto network inserted existingShares) = 0 := by
  refine weigh_eq_zero fun write member => ?_
  rcases mem_shareWrites member with ⟨_, -, -, rfl⟩ | ⟨_, _, _, _, rfl⟩
  · exact shares _
  · exact earnings _ _ _ _

theorem weigh_callWeight (value : Key → CallRow → Int) :
    weigh (callWeight value) (dto.log network inserted existingShares) =
      (inserted.map fun call => value (network, call.callId) call.row).sum := by
  rw [weigh_log ⟨fun _ _ => rfl, fun _ _ => rfl, fun _ _ => rfl⟩,
    weigh_countWrites_zero fun _ _ => rfl,
    weigh_shareWrites_zero (fun _ => rfl) fun _ _ _ _ => rfl,
    weigh_poolWrites_zero fun _ _ _ => rfl, insertWrites, weigh_map, add_zero, add_zero, add_zero]
  rfl

theorem weigh_agentWeight (pubkey : String) (counter : Counter) (subset : inserted ⊆ dto.calls) :
    weigh (agentWeight pubkey counter) (dto.log network inserted existingShares) =
      (inserted.map fun call =>
        if call.agentPubkey = pubkey then call.row.counter counter else 0).sum := by
  obtain ⟨distinct, covers⟩ := sortedAgentPubkeys_covers inserted subset
  have counted : weigh (agentWeight pubkey counter) (countWrites dto inserted) = _ :=
    weigh_flatMap_lookup
      (fun other (delta : AgentDelta) => if other = pubkey then delta.counter counter else 0)
      distinct covers fun other delta => add_zero _
  rw [weigh_log ⟨fun _ _ => rfl, fun _ _ => rfl, fun _ _ => rfl⟩,
    weigh_insertWrites_zero fun _ _ => rfl,
    weigh_shareWrites_zero (fun _ => rfl) fun _ _ _ _ => rfl,
    weigh_poolWrites_zero fun _ _ _ => rfl, counted, total_perAgent, zero_add, add_zero, add_zero]

theorem weigh_poolWeight (keep : Key → Prop) [DecidablePred keep] (amount : PoolDelta → Int)
    (gain : WrapCallEventDto → Int)
    (linear : ∀ (slot : PoolDelta) (call : WrapCallEventDto),
      amount ⟨slot.premium + call.premiumLamports, slot.refund + call.refundLamports,
        slot.feesPaid + call.feesPaid⟩ = amount slot + gain call)
    (zero : amount ⟨0, 0, 0⟩ = 0) (subset : inserted ⊆ dto.calls) :
    weigh (poolWeight keep amount) (dto.log network inserted existingShares) =
      (inserted.map fun call => if keep (network, call.endpointSlug) then gain call else 0).sum := by
  obtain ⟨distinct, covers⟩ := sortedEndpointSlugs_covers inserted subset
  have moved : weigh (poolWeight keep amount) (poolWrites dto network inserted) = _ :=
    weigh_flatMap_lookup
      (fun slug (delta : PoolDelta) => if keep (network, slug) then amount delta else 0)
      distinct covers fun other delta => add_zero _
  rw [weigh_log ⟨fun _ _ => rfl, fun _ _ => rfl, fun _ _ => rfl⟩,
    weigh_insertWrites_zero fun _ _ => rfl,
    weigh_shareWrites_zero (fun _ => rfl) fun _ _ _ _ => rfl,
    weigh_countWrites_zero fun _ _ => rfl, moved,
    total_perEndpoint inserted (fun slug => keep (network, slug)) amount gain linear zero,
    zero_add, zero_add, zero_add]

theorem weigh_poolColumn (key : Key) (column : PoolColumn) (subset : inserted ⊆ dto.calls) :
    weigh (poolWeight (· = key) (·.column column)) (dto.log network inserted existingShares) =
      (inserted.map fun call =>
        if (network, call.endpointSlug) = key then call.column column else 0).sum := by
  refine weigh_poolWeight (· = key) (·.column column) (·.column column) ?_ ?_ subset
  · intro slot call
    rcases column with (_ | _) | _ | _
    · rfl
    · rfl
    · rfl
    · simp only [PoolDelta.column, PoolDelta.balance, WrapCallEventDto.column]
      omega
  · rcases column with (_ | _) | _ | _ <;> rfl

end Logs

/-! ## Aggregates over runs -/

/-- A database that has recorded nothing yet. Endpoints may be registered, and
agents may have registered webhooks. -/
structure Blank (db : Database) : Prop where
  agents : ∀ pubkey counter, db.agentCounter pubkey counter = 0
  calls : db.calls = ∅
  shares : db.shares = []
  pools : db.pools = ∅
  earnings : db.earnings = ∅

def Ingests (semantics : FailureSemantics) (before after : Database) : Prop :=
  ∃ dto result, (ingest semantics dto before []).result = .ok result ∧
    after = (ingest semantics dto before []).database

/-- The aggregates are the sums over the stored calls. -/
structure Aggregated (db : Database) : Prop where
  agents : ∀ pubkey counter, db.agentCounter pubkey counter = db.agentCalls pubkey counter
  pools : ∀ key flow, db.poolColumn key (.flow flow) = db.endpointCalls key flow

theorem Blank.aggregated {db : Database} (blank : Blank db) : Aggregated db where
  agents pubkey counter := by
    rw [blank.agents, Database.agentCalls, blank.calls]
    rfl
  pools key flow := by
    rw [Database.poolColumn, blank.pools, Database.endpointCalls, blank.calls]
    rfl

theorem Aggregated.ingest {semantics : FailureSemantics} {before after : Database}
    (aggregated : Aggregated before) (ingests : Ingests semantics before after) :
    Aggregated after := by
  obtain ⟨dto, result, accepted, rfl⟩ := ingests
  obtain ⟨-, new, ⟨-, same⟩ | ⟨admits, final⟩⟩ := ingest_undisturbed accepted
  · rw [same]
    exact aggregated
  · have subset : result.insertedCalls ⊆ dto.calls := new ▸ newCalls_subset _ _ _
    rw [final]
    constructor
    · intro pubkey counter
      rw [(additive_agentCounter pubkey counter).applyAll admits, weigh_agentWeight _ _ subset,
        aggregated.agents pubkey counter]
      refine Eq.symm (((additive_calls _).applyAll admits).trans ?_)
      rw [weigh_callWeight]
      rfl
    · intro key flow
      rw [(additive_poolColumn key (.flow flow)).applyAll admits, weigh_poolColumn _ _ subset,
        aggregated.pools key flow]
      refine Eq.symm (((additive_calls _).applyAll admits).trans ?_)
      rw [weigh_callWeight]
      rfl

/-- After any committed ingestions, whatever a failed statement does to its
transaction, the counters of every agent and the totals of every pool are the
count and the sums of the stored calls. -/
theorem aggregates_exact (semantics : FailureSemantics) (db : Database)
    (reached : Reachable Blank (Ingests semantics) db) :
    (∀ pubkey agent, db.agents.lookup pubkey = some agent →
      agent.callCount =
          db.calls.total (fun _ call => if call.agentPubkey = pubkey then 1 else 0) ∧
        agent.totalPremiumsLamports = db.calls.total (fun _ call =>
          if call.agentPubkey = pubkey then call.premiumLamports else 0) ∧
        agent.totalRefundsLamports = db.calls.total (fun _ call =>
          if call.agentPubkey = pubkey then call.refundLamports else 0)) ∧
    ∀ network slug pool, db.pools.lookup (network, slug) = some pool →
      pool.totalPremiumsLamports = db.calls.total (fun key call =>
          if (key.1, call.endpointSlug) = (network, slug) then call.premiumLamports else 0) ∧
        pool.totalRefundsLamports = db.calls.total (fun key call =>
          if (key.1, call.endpointSlug) = (network, slug) then call.refundLamports else 0) := by
  have aggregated := reached.invariant Aggregated (fun _ blank => blank.aggregated)
    fun _ _ kept ingests => kept.ingest ingests
  constructor
  · intro pubkey agent found
    have counted := aggregated.agents pubkey
    simp only [Database.agentCounter, found, Option.elim_some] at counted
    exact ⟨counted .calls, counted (.flow .premiums), counted (.flow .refunds)⟩
  · intro network slug pool found
    have moved := aggregated.pools (network, slug)
    simp only [Database.poolColumn, found, Option.elim_some] at moved
    exact ⟨moved .premiums, moved .refunds⟩

theorem Blank.empty : Blank .empty := ⟨fun _ _ => rfl, rfl, rfl, rfl, rfl⟩

namespace Delivered

def call (callId : String) : WrapCallEventDto where
  callId
  agentPubkey := "agent"
  endpointSlug := "helius"
  premiumLamports := 100
  refundLamports := 40
  latencyMs := 12
  outcome := .latencyBreach
  source := none
  verdictSource := none
  payee := none
  resource := none
  ts := 5
  settledAt := 7
  signature := "sig"
  shares := some [⟨0, "treasury", 7⟩, ⟨1, "affiliate", 3⟩]
  network := none

def batch (calls : List String) : SettlementEventDto where
  signature := "sig"
  batchSize := calls.length
  totalPremiumsLamports := 100 * calls.length
  totalRefundsLamports := 40 * calls.length
  ts := 9
  calls := calls.map call
  network := none

def once : Database := (ingest .statement (batch ["a", "b"]) .empty []).database

def again : Database := (ingest .statement (batch ["b", "c", "b"]) once []).database

theorem reached_once : Reachable Blank (Ingests .statement) once :=
  .next (.start .empty) ⟨batch ["a", "b"], ⟨2, [call "a", call "b"]⟩, by decide +kernel, rfl⟩

theorem reached_again : Reachable Blank (Ingests .statement) again :=
  .next reached_once ⟨batch ["b", "c", "b"], ⟨1, [call "c"]⟩, by decide +kernel, rfl⟩

end Delivered

theorem aggregates_exact_delivered : ∃ agent,
    Delivered.again.agents.lookup "agent" = some agent ∧ agent.callCount =
      Delivered.again.calls.total (fun _ call => if call.agentPubkey = "agent" then 1 else 0) := by
  have known : (Delivered.again.agents.lookup "agent").isSome := by decide +kernel
  obtain ⟨agent, found⟩ := Option.isSome_iff_exists.mp known
  exact ⟨agent, found,
    ((aggregates_exact .statement _ Delivered.reached_again).1 "agent" agent found).1⟩

end PactNetwork.Indexer
