import PactNetwork.Indexer.FeeLedgers

/-!
# Duplicates under PostgreSQL

A unique violation aborts the transaction it is caught in, so an ingestion
completes only if none of its calls collides, or if it has just that one call.
-/

set_option autoImplicit false

namespace PactNetwork.Indexer

/-! ## What is known to exist -/

theorem lookup_calls_apply {db : Database} {write : Write} {key : Key} :
    (db.apply write).calls.lookup key = none ↔
      db.calls.lookup key = none ∧ key ∉ insertedKeys [write] := by
  cases write with
  | insertCall other row =>
      simp only [Database.apply, insertedKeys, List.filterMap_cons, List.filterMap_nil,
        List.mem_singleton, AList.lookup_insert_eq_none]
      exact and_comm
  | _ => simp [Database.apply, insertedKeys]

theorem lookup_calls_applyAll {db : Database} {writes : List Write} {key : Key} :
    (db.applyAll writes).calls.lookup key = none ↔
      db.calls.lookup key = none ∧ key ∉ insertedKeys writes := by
  induction writes generalizing db with
  | nil => simp [insertedKeys]
  | cons write rest ih =>
      have split : insertedKeys (write :: rest) = insertedKeys [write] ++ insertedKeys rest :=
        List.filterMap_append (l := [write])
      rw [split, List.mem_append, not_or, ← and_assoc, ← lookup_calls_apply]
      exact ih

/-- The rows that foreign keys and updates of an ingestion refer to. -/
structure Known (dto : SettlementEventDto) (network : String) (db : Database) : Prop where
  agents : ∀ pubkey ∈ dto.sortedAgentPubkeys, (db.agents.lookup pubkey).isSome
  endpoints : ∀ slug ∈ dto.sortedEndpointSlugs, (db.endpoints.lookup (network, slug)).isSome

theorem agents_apply {db : Database} {pubkey : String} (write : Write)
    (known : (db.agents.lookup pubkey).isSome) :
    ((db.apply write).agents.lookup pubkey).isSome := by
  cases write with
  | ensureAgent other createdAt =>
      simp only [Database.apply, Table.lookup_ensure]
      split
      · rfl
      · exact known
  | countCalls other delta =>
      simp only [Database.apply, Table.lookup_modify]
      split
      · next same => rw [Option.isSome_map, ← same]; exact known
      · exact known
  | _ => exact known

theorem endpoints_apply {db : Database} {key : Key} (write : Write)
    (known : (db.endpoints.lookup key).isSome) :
    ((db.apply write).endpoints.lookup key).isSome := by
  cases write with
  | ensureEndpoint other now =>
      simp only [Database.apply, Table.lookup_ensure]
      split
      · rfl
      · exact known
  | _ => exact known

theorem settlements_apply {db : Database} {key : Key} (write : Write)
    (known : (db.settlements.lookup key).isSome) :
    ((db.apply write).settlements.lookup key).isSome := by
  cases write with
  | ensureSettlement other row =>
      simp only [Database.apply, Table.lookup_ensure]
      split
      · rfl
      · exact known
  | _ => exact known

theorem applyAll_preserves {property : Database → Prop}
    (preserved : ∀ db write, property db → property (db.apply write)) {db : Database}
    (holds : property db) (writes : List Write) : property (db.applyAll writes) := by
  induction writes generalizing db with
  | nil => exact holds
  | cons write rest ih => exact ih (preserved db write holds)

theorem applyAll_establishes (property : Database → Prop) {write : Write}
    (preserved : ∀ db write, property db → property (db.apply write))
    (established : ∀ db : Database, property (db.apply write)) {writes : List Write}
    (written : write ∈ writes) (db : Database) : property (db.applyAll writes) := by
  obtain ⟨front, back, rfl⟩ := List.append_of_mem written
  rw [Database.applyAll_append]
  exact applyAll_preserves preserved (established _) back

theorem Known.apply {dto : SettlementEventDto} {network : String} (db : Database) (write : Write)
    (known : Known dto network db) : Known dto network (db.apply write) where
  agents pubkey listed := agents_apply write (known.agents pubkey listed)
  endpoints slug listed := endpoints_apply write (known.endpoints slug listed)

theorem mem_sortedAgentPubkeys {dto : SettlementEventDto} {call : WrapCallEventDto}
    (member : call ∈ dto.calls) : call.agentPubkey ∈ dto.sortedAgentPubkeys :=
  (List.perm_insertionSort _ _).mem_iff.mpr (mem_earliestTsByAgent member)

theorem mem_sortedEndpointSlugs {dto : SettlementEventDto} {call : WrapCallEventDto}
    (member : call ∈ dto.calls) : call.endpointSlug ∈ dto.sortedEndpointSlugs :=
  (List.perm_insertionSort _ _).mem_iff.mpr (List.mem_dedup.mpr (List.mem_map_of_mem member))

theorem known_of_targets {dto : SettlementEventDto} {network : String} {writes : List Write}
    (prepared : dto.targetWrites network ⊆ writes) (db : Database) :
    Known dto network (db.applyAll writes) where
  agents pubkey listed := by
    refine applyAll_establishes (fun db => (db.agents.lookup pubkey).isSome)
      (fun db write => agents_apply write) (fun db => ?_) (prepared (List.mem_append_left _
        (List.mem_flatMap.mpr ⟨_, listed, List.mem_singleton.mpr rfl⟩))) db
    simp [Database.apply, Table.lookup_ensure]
  endpoints slug listed := by
    refine applyAll_establishes (fun db => (db.endpoints.lookup (network, slug)).isSome)
      (fun db write => endpoints_apply write) (fun db => ?_) (prepared (List.mem_append_right _
        (List.mem_flatMap.mpr ⟨_, listed, List.mem_singleton.mpr rfl⟩))) db
    simp [Database.apply, Table.lookup_ensure]

/-! ## Admitted logs -/

theorem admits_of_invariant {P : Database → Prop} {db : Database} {writes : List Write}
    (holds : P db)
    (each : ∀ write ∈ writes, ∀ before, P before →
      before.check write = .ok () ∧ P (before.apply write)) : db.Admits writes := by
  induction writes generalizing db with
  | nil => exact rfl
  | cons write rest ih =>
      obtain ⟨passes, kept⟩ := each write List.mem_cons_self db holds
      exact admits_cons.mpr ⟨passes, ih kept fun other member =>
        each other (List.mem_cons_of_mem _ member)⟩

section Logs

variable {dto : SettlementEventDto} {network : String} {db : Database}

theorem admits_targetWrites : db.Admits (dto.targetWrites network) := by
  refine admits_of_invariant (P := fun _ => True) trivial fun write member before _ =>
    ⟨?_, trivial⟩
  rcases mem_targetWrites member with ⟨_, _, rfl⟩ | ⟨_, _, rfl⟩
  · rfl
  · rfl

theorem check_insertCall_known {call : WrapCallEventDto} (known : Known dto network db)
    (member : call ∈ dto.calls) (absent : db.calls.lookup (network, call.callId) = none) :
    db.check (.insertCall (network, call.callId) call.row) = .ok () := by
  have agent := known.agents _ (mem_sortedAgentPubkeys member)
  have endpoint := known.endpoints _ (mem_sortedEndpointSlugs member)
  simp [Database.check, failIf, absent, WrapCallEventDto.row, agent, endpoint, bind, Except.bind]

theorem admits_insertWrites {calls : List WrapCallEventDto} (known : Known dto network db)
    (subset : calls ⊆ dto.calls) (distinct : (calls.map (·.callId)).Nodup)
    (absent : ∀ call ∈ calls, db.calls.lookup (network, call.callId) = none) :
    db.Admits (insertWrites network calls) := by
  induction calls generalizing db with
  | nil => exact rfl
  | cons call rest ih =>
      obtain ⟨fresh, others⟩ := List.nodup_cons.mp distinct
      refine admits_cons.mpr ⟨check_insertCall_known known (subset List.mem_cons_self)
        (absent call List.mem_cons_self), ih (known.apply db _)
          (List.subset_of_cons_subset subset) others fun other member => ?_⟩
      refine lookup_calls_apply.mpr ⟨absent other (List.mem_cons_of_mem _ member), ?_⟩
      intro same
      have equal : other.callId = call.callId :=
        congrArg Prod.snd (List.mem_singleton.mp same)
      exact fresh (List.mem_map.mpr ⟨other, member, equal⟩)

theorem admits_aggregateWrites {existingShares : Nat} {inserted : List WrapCallEventDto}
    (known : Known dto network db) :
    db.Admits (aggregateWrites dto network inserted existingShares) := by
  have settled : ((db.apply (.ensureSettlement (network, dto.signature)
      dto.settlementRow)).settlements.lookup (network, dto.signature)).isSome := by
    simp [Database.apply, Table.lookup_ensure]
  refine admits_cons.mpr ⟨rfl, admits_of_invariant
    (P := fun db => Known dto network db ∧
      (db.settlements.lookup (network, dto.signature)).isSome)
    ⟨known.apply db _, settled⟩ ?_⟩
  rintro write member before ⟨knows, settles⟩
  refine ⟨?_, knows.apply before write, settlements_apply write settles⟩
  rcases List.mem_append.mp member with counted | later
  · obtain ⟨pubkey, listed, delta, rfl⟩ := mem_countWrites counted
    simp [Database.check, knows.agents pubkey listed]
  rcases List.mem_append.mp later with shared | moved
  · rcases mem_shareWrites shared with ⟨row, sameNetwork, sameSig, rfl⟩ | ⟨_, _, _, _, rfl⟩
    · rw [Database.check, failIf_eq_ok, sameNetwork, sameSig, settles]
      decide
    · rfl
  · obtain ⟨slug, listed, delta, now, rfl⟩ := mem_poolWrites moved
    simp [Database.check, knows.endpoints slug listed]

end Logs

/-! ## Collisions -/

/-- No call is recorded when its insert comes, with what the other transactions
have committed by then, and none comes twice. -/
def NoCollision (network : String) :
    Database → List Key → List (List Write) → List WrapCallEventDto → Prop
  | _, _, _, [] => True
  | db, held, arrivals, call :: rest =>
      (db.land held (arrivals.headD [])).calls.lookup (network, call.callId) = none ∧
        (network, call.callId) ∉ held ∧
        NoCollision network (db.land held (arrivals.headD [])) (held ++ [(network, call.callId)])
          arrivals.tail rest

theorem noCollision_cons {network : String} {db : Database} {held : List Key}
    {arrivals : List (List Write)} {call : WrapCallEventDto} {rest : List WrapCallEventDto} :
    NoCollision network db held arrivals (call :: rest) ↔
      (db.land held (arrivals.headD [])).calls.lookup (network, call.callId) = none ∧
        (network, call.callId) ∉ held ∧
        NoCollision network (db.land held (arrivals.headD [])) (held ++ [(network, call.callId)])
          arrivals.tail rest := Iff.rfl

theorem lookup_land {db : Database} {held : List Key} {arrival : List Write} {key : Key}
    (holds : key ∈ held) : (db.land held arrival).calls.lookup key = none ↔
      db.calls.lookup key = none := by
  unfold Database.land
  split
  · exact Iff.rfl
  · next landed performed =>
      split
      · exact Iff.rfl
      · next free =>
          obtain ⟨-, rfl⟩ := admits_of_ok performed
          refine lookup_calls_applyAll.trans (and_iff_left fun inserted => free ?_)
          exact List.any_eq_true.mpr ⟨key, inserted, decide_eq_true holds⟩

theorem lookup_visible {session : Session} {key : Key} :
    session.visible.calls.lookup key = none ↔
      session.committed.calls.lookup key = none ∧ key ∉ insertedKeys session.log :=
  lookup_calls_applyAll

theorem insertedKeys_append (front back : List Write) :
    insertedKeys (front ++ back) = insertedKeys front ++ insertedKeys back :=
  List.filterMap_append

theorem insertedKeys_insertWrites (network : String) (inserted : List WrapCallEventDto) :
    insertedKeys (insertWrites network inserted) =
      inserted.map fun call => (network, call.callId) := by
  rw [insertedKeys, insertWrites, List.filterMap_map]
  exact congrFun List.filterMap_eq_map' inserted

theorem insertedKeys_eq_nil {writes : List Write}
    (none : ∀ write ∈ writes, insertedKeys [write] = []) : insertedKeys writes = [] := by
  induction writes with
  | nil => rfl
  | cons write rest ih =>
      exact (insertedKeys_append [write] rest).trans (by
        rw [none write List.mem_cons_self,
          ih fun other member => none other (List.mem_cons_of_mem _ member)]
        rfl)

theorem insertedKeys_targetWrites (dto : SettlementEventDto) (network : String) :
    insertedKeys (dto.targetWrites network) = [] := by
  refine insertedKeys_eq_nil fun write member => ?_
  rcases mem_targetWrites member with ⟨_, _, rfl⟩ | ⟨_, _, rfl⟩
  · rfl
  · rfl

section Runs

variable {dto : SettlementEventDto} {network : String} {before after : Session}
  {calls inserted : List WrapCallEventDto}

theorem NoCollision.distinct {db : Database} {held : List Key} {arrivals : List (List Write)}
    (clear : NoCollision network db held arrivals calls) :
    (calls.map (·.callId)).Nodup ∧ ∀ call ∈ calls, (network, call.callId) ∉ held := by
  induction calls generalizing db held arrivals with
  | nil => exact ⟨List.nodup_nil, fun _ member => absurd member List.not_mem_nil⟩
  | cons call rest ih =>
      obtain ⟨-, free, later⟩ := noCollision_cons.mp clear
      obtain ⟨distinct, apart⟩ := ih later
      constructor
      · refine List.nodup_cons.mpr ⟨fun again => ?_, distinct⟩
        obtain ⟨other, member, same⟩ := List.mem_map.mp again
        exact apart other member (by rw [same]; simp)
      · intro other member
        rcases List.mem_cons.mp member with rfl | inRest
        · exact free
        · exact fun holds => apart other inRest (List.mem_append_left _ holds)

/-- Without a collision every call is inserted, and at the end none of them is
among what the other transactions committed. -/
theorem insertCalls_of_noCollision {semantics : FailureSemantics}
    (live : before.aborted = false) (prepared : dto.targetWrites network ⊆ before.log)
    (subset : calls ⊆ dto.calls)
    (clear : NoCollision network before.committed (insertedKeys before.log) before.arrivals
      calls) :
    ∃ after, insertCalls semantics network calls before = (.ok calls, after) ∧
      after.log = before.log ++ insertWrites network calls ∧ after.aborted = false ∧
      (∀ key ∈ insertedKeys before.log, after.committed.calls.lookup key = none ↔
        before.committed.calls.lookup key = none) ∧
      ∀ call ∈ calls, after.committed.calls.lookup (network, call.callId) = none := by
  induction calls generalizing before with
  | nil =>
      exact ⟨before, rfl, (List.append_nil _).symm, live, fun _ _ => Iff.rfl,
        fun _ member => absurd member List.not_mem_nil⟩
  | cons call rest ih =>
      obtain ⟨absent, free, later⟩ := noCollision_cons.mp clear
      have passes : before.land.visible.check (.insertCall (network, call.callId) call.row) =
          .ok () := check_insertCall_known (known_of_targets prepared _)
            (subset List.mem_cons_self) (lookup_visible.mpr ⟨absent, free⟩)
      have tried : tryInsertCall semantics network call before =
          (.ok true, before.land.extend [.insertCall (network, call.callId) call.row]) := by
        rw [tryInsertCall_apply call live, passes]
      have keys : insertedKeys (before.land.extend
          [.insertCall (network, call.callId) call.row]).log =
            insertedKeys before.log ++ [(network, call.callId)] := insertedKeys_append _ _
      obtain ⟨after, ran, logged, alive, kept, apart⟩ := @ih
        (before.land.extend [.insertCall (network, call.callId) call.row]) live
        (List.subset_append_of_subset_left _ prepared) (List.subset_of_cons_subset subset)
        (by rw [keys]; exact later)
      rw [keys] at kept
      refine ⟨after, insertCalls_cons.mpr ⟨_, _, _, tried, ran, rfl⟩, ?_, alive, ?_, ?_⟩
      · rw [logged]
        exact List.append_assoc _ _ _
      · intro key holds
        exact (kept key (List.mem_append_left _ holds)).trans (lookup_land holds)
      · intro other member
        rcases List.mem_cons.mp member with rfl | inRest
        · exact (kept _ (by simp)).mpr absent
        · exact apart other inRest

theorem noCollision_of_insertCalls (live : before.aborted = false)
    (ran : insertCalls .transaction network calls before = (.ok inserted, after))
    (alive : after.aborted = false) :
    NoCollision network before.committed (insertedKeys before.log) before.arrivals calls := by
  induction calls generalizing before inserted with
  | nil => exact True.intro
  | cons call rest ih =>
      obtain ⟨isNew, middle, later, tried, rested, rfl⟩ := insertCalls_cons.mp ran
      rcases tryInsertCall_cases live tried with ⟨rfl, passes, rfl⟩ | ⟨rfl, present, rfl⟩
      · obtain ⟨absent, free⟩ := lookup_visible.mp (lookup_of_check passes)
        have clear := @ih (before.land.extend [.insertCall (network, call.callId) call.row]) later
          live rested
        rw [Session.extend, insertedKeys_append] at clear
        exact noCollision_cons.mpr ⟨absent, free, clear⟩
      · obtain ⟨-, -, rfl⟩ := insertCalls_aborted rfl rested
        cases alive

theorem single_of_aborted (live : before.aborted = false)
    (ran : insertCalls .transaction network calls before = (.ok [], after))
    (dead : after.aborted = true) : calls.length = 1 := by
  cases calls with
  | nil =>
      cases ran
      rw [live] at dead
      cases dead
  | cons call rest =>
      obtain ⟨isNew, middle, later, tried, rested, same⟩ := insertCalls_cons.mp ran
      rcases tryInsertCall_cases live tried with ⟨rfl, -, -⟩ | ⟨rfl, -, rfl⟩
      · cases same
      · obtain ⟨rfl, -, -⟩ := insertCalls_aborted rfl rested
        rfl

end Runs

/-! ## Complete ingestions -/

/-- The ingestion commits, and exactly the calls that the other transactions
have not recorded are inserted, with their aggregates. -/
structure Complete (dto : SettlementEventDto) (ingested : Ingested) : Prop where
  result : ingested.result =
    .ok ⟨(ingested.others.newCalls dto.batchNetwork dto.calls).length,
      ingested.others.newCalls dto.batchNetwork dto.calls⟩
  inserted : ∀ call ∈ ingested.others.newCalls dto.batchNetwork dto.calls,
    ingested.database.calls.lookup (dto.batchNetwork, call.callId) = some call.row
  untouched : ∀ key, key ∉ (ingested.others.newCalls dto.batchNetwork dto.calls).map
      (fun call => (dto.batchNetwork, call.callId)) →
    ingested.database.calls.lookup key = ingested.others.calls.lookup key
  agents : ∀ pubkey counter, ingested.database.agentCounter pubkey counter =
    ingested.others.agentCounter pubkey counter +
      ((ingested.others.newCalls dto.batchNetwork dto.calls).map fun call =>
        if call.agentPubkey = pubkey then call.row.counter counter else 0).sum
  pools : ∀ key column, ingested.database.poolColumn key column =
    ingested.others.poolColumn key column +
      ((ingested.others.newCalls dto.batchNetwork dto.calls).map fun call =>
        if (dto.batchNetwork, call.endpointSlug) = key then call.column column else 0).sum
  /-- The fee shares are gated by the signature. -/
  shares : ∀ network, ingested.database.shared network = ingested.others.shared network +
    if (ingested.others.sharesOf dto.batchNetwork dto.signature).length = 0 then
      carriedOn network dto.batchNetwork (ingested.others.newCalls dto.batchNetwork dto.calls)
    else 0
  earnings : ∀ network, ingested.database.earned network = ingested.others.earned network +
    if (ingested.others.sharesOf dto.batchNetwork dto.signature).length = 0 then
      carriedOn network dto.batchNetwork (ingested.others.newCalls dto.batchNetwork dto.calls)
    else 0

theorem newCalls_of_absent {db : Database} {network : String} {calls : List WrapCallEventDto}
    (distinct : (calls.map (·.callId)).Nodup)
    (absent : ∀ call ∈ calls, db.calls.lookup (network, call.callId) = none) :
    db.newCalls network calls = calls := by
  induction calls generalizing db with
  | nil => rfl
  | cons call rest ih =>
      obtain ⟨fresh, others⟩ := List.nodup_cons.mp distinct
      have tail := @ih (db.apply (.insertCall (network, call.callId) call.row)) others
        fun other member => lookup_calls_apply.mpr
          ⟨absent other (List.mem_cons_of_mem _ member), fun same => fresh (List.mem_map.mpr
            ⟨other, member, congrArg Prod.snd (List.mem_singleton.mp same)⟩)⟩
      rw [Database.newCalls, absent call List.mem_cons_self, tail]
      rfl

theorem lookup_calls_untouched {db : Database} {writes : List Write} {key : Key}
    (free : key ∉ insertedKeys writes) :
    (db.applyAll writes).calls.lookup key = db.calls.lookup key := by
  induction writes generalizing db with
  | nil => rfl
  | cons write rest ih =>
      rw [show insertedKeys (write :: rest) = insertedKeys [write] ++ insertedKeys rest from
        insertedKeys_append [write] rest, List.mem_append, not_or] at free
      refine (ih free.2).trans ?_
      cases write with
      | insertCall other row =>
          exact AList.lookup_insert_ne fun same => free.1 (List.mem_singleton.mpr same)
      | _ => rfl

theorem lookup_calls_written {db : Database} {writes : List Write} {key : Key} {row : CallRow}
    (written : .insertCall key row ∈ writes) (once : (insertedKeys writes).Nodup) :
    (db.applyAll writes).calls.lookup key = some row := by
  obtain ⟨front, back, rfl⟩ := List.append_of_mem written
  have free : key ∉ insertedKeys back := by
    rw [insertedKeys_append] at once
    exact (List.nodup_cons.mp (List.nodup_append.mp once).2.1).1
  rw [Database.applyAll_append]
  exact (lookup_calls_untouched free).trans (AList.lookup_insert _)

theorem insertedKeys_aggregateWrites (dto : SettlementEventDto) (network : String)
    (inserted : List WrapCallEventDto) (existingShares : Nat) :
    insertedKeys (aggregateWrites dto network inserted existingShares) = [] := by
  refine insertedKeys_eq_nil fun write member => ?_
  rcases List.mem_cons.mp member with rfl | later
  · rfl
  rcases List.mem_append.mp later with counted | later
  · obtain ⟨_, -, _, rfl⟩ := mem_countWrites counted
    rfl
  rcases List.mem_append.mp later with shared | moved
  · rcases mem_shareWrites shared with ⟨_, -, -, rfl⟩ | ⟨_, _, _, _, rfl⟩
    · rfl
    · rfl
  · obtain ⟨_, -, _, _, rfl⟩ := mem_poolWrites moved
    rfl

theorem complete_of_log {dto : SettlementEventDto} {others : Database}
    (distinct : (dto.calls.map (·.callId)).Nodup)
    (absent : ∀ call ∈ dto.calls, others.calls.lookup (dto.batchNetwork, call.callId) = none) :
    Complete dto ⟨.ok ⟨dto.calls.length, dto.calls⟩,
      others.applyAll (dto.log dto.batchNetwork dto.calls
        (others.sharesOf dto.batchNetwork dto.signature).length), others⟩ := by
  have keys : insertedKeys (dto.log dto.batchNetwork dto.calls
      (others.sharesOf dto.batchNetwork dto.signature).length) =
        dto.calls.map fun call => (dto.batchNetwork, call.callId) := by
    rw [SettlementEventDto.log, insertedKeys_append, insertedKeys_append,
      insertedKeys_targetWrites, insertedKeys_insertWrites, List.nil_append]
    split
    · exact List.append_nil _
    · rw [insertedKeys_aggregateWrites, List.append_nil]
  have admits : others.Admits (dto.log dto.batchNetwork dto.calls
      (others.sharesOf dto.batchNetwork dto.signature).length) := by
    refine admits_append.mpr ⟨admits_append.mpr ⟨admits_targetWrites, admits_insertWrites
      (known_of_targets (List.Subset.refl _) others) (List.Subset.refl _) distinct
        fun call member => ?_⟩, ?_⟩
    · exact lookup_calls_applyAll.mpr ⟨absent call member, by
        rw [insertedKeys_targetWrites]
        exact List.not_mem_nil⟩
    · split
      · exact rfl
      · exact admits_aggregateWrites
          (known_of_targets (List.subset_append_left _ _) others)
  have new : others.newCalls dto.batchNetwork dto.calls = dto.calls :=
    newCalls_of_absent distinct absent
  have all : dto.calls ⊆ dto.calls := List.Subset.refl _
  constructor
  · simp only [new]
  · intro call member
    rw [new] at member
    refine lookup_calls_written (List.mem_append_left _ (List.mem_append_right _
      (List.mem_map_of_mem member))) ?_
    rw [keys]
    have paired := distinct.map (f := Prod.mk dto.batchNetwork) fun _ _ same =>
      congrArg Prod.snd same
    rw [List.map_map] at paired
    exact paired
  · intro key free
    rw [new, ← keys] at free
    exact lookup_calls_untouched free
  · intro pubkey counter
    simp only [new, (additive_agentCounter pubkey counter).applyAll admits,
      weigh_agentWeight pubkey counter all]
  · intro key column
    simp only [new, (additive_poolColumn key column).applyAll admits,
      weigh_poolColumn key column all]
  · intro network
    simp only [new, (additive_shared network).applyAll admits, weigh_shareWeight]
  · intro network
    simp only [new, (additive_earned network).applyAll admits, weigh_earnWeight]

theorem shareRows_writes (dto : SettlementEventDto) (network : String)
    (inserted : List WrapCallEventDto) (db : Database) :
    (db.applyAll (dto.targetWrites network ++ insertWrites network inserted)).shares =
      db.shares := by
  rw [Database.applyAll_append, shares_applyAll, shares_applyAll, shareRows_targetWrites,
    shareRows_insertWrites, List.append_nil, List.append_nil]

section Ingestions

variable {semantics : FailureSemantics} {dto : SettlementEventDto} {db : Database}
  {arrivals : List (List Write)}

theorem ingest_of_ok {result : IngestResult} {after : Session}
    (checked : dto.checkContract = .ok ())
    (ran : ingestCalls semantics dto dto.batchNetwork ⟨db, [], false, arrivals⟩ =
      (.ok result, after)) :
    ingest semantics dto db arrivals =
      ⟨.ok result, if after.aborted then after.committed else after.visible, after.committed⟩ := by
  unfold ingest transaction
  rw [checked, ran]
  rfl

theorem ok_of_ingest {result : IngestResult}
    (accepted : (ingest semantics dto db arrivals).result = .ok result) :
    dto.checkContract = .ok () ∧ ∃ after,
      ingestCalls semantics dto dto.batchNetwork ⟨db, [], false, arrivals⟩ =
        (.ok result, after) := by
  unfold ingest transaction at accepted
  cases checked : dto.checkContract with
  | error error =>
      rw [checked] at accepted
      cases accepted
  | ok value =>
      rw [checked] at accepted
      refine ⟨rfl, ?_⟩
      cases ran : ingestCalls semantics dto dto.batchNetwork ⟨db, [], false, arrivals⟩ with
      | mk outcome session =>
          rw [ran] at accepted
          cases outcome with
          | error error => cases accepted
          | ok final =>
              cases accepted
              exact ⟨session, rfl⟩

theorem complete_of_noCollision (checked : dto.checkContract = .ok ())
    (clear : NoCollision dto.batchNetwork db [] arrivals dto.calls) :
    Complete dto (ingest semantics dto db arrivals) := by
  let prepared : Session :=
    (⟨db, [], false, arrivals⟩ : Session).extend (dto.targetWrites dto.batchNetwork)
  have keys : insertedKeys prepared.log = [] := insertedKeys_targetWrites dto _
  obtain ⟨middle, ran, logged, alive, -, apart⟩ := @insertCalls_of_noCollision dto _ prepared _
    semantics rfl (List.Subset.refl _) (List.Subset.refl _) (by rw [keys]; exact clear)
  have visible : middle.visible = middle.committed.applyAll
      (dto.targetWrites dto.batchNetwork ++ insertWrites dto.batchNetwork dto.calls) :=
    congrArg middle.committed.applyAll logged
  have existing : middle.visible.sharesOf dto.batchNetwork dto.signature =
      middle.committed.sharesOf dto.batchNetwork dto.signature := by
    rw [visible, Database.sharesOf, shareRows_writes, Database.sharesOf]
  have known : Known dto dto.batchNetwork middle.visible := by
    rw [visible]
    exact known_of_targets (List.subset_append_left _ _) _
  have complete := complete_of_log clear.distinct.1 apart
  by_cases nothing : dto.calls = []
  · have done := ingest_of_ok checked ((ingestCalls_eq_ok rfl).mpr
      ⟨admits_targetWrites, dto.calls, middle, ran, rfl, by rw [if_pos nothing]⟩)
    rw [done, alive, if_neg (by decide), visible]
    rw [SettlementEventDto.log, if_pos nothing, List.append_nil] at complete
    exact complete
  · have done := ingest_of_ok checked ((ingestCalls_eq_ok rfl).mpr
      ⟨admits_targetWrites, dto.calls, middle, ran, rfl, by
        rw [if_neg nothing]
        exact ⟨alive, admits_aggregateWrites known, rfl⟩⟩)
    rw [done, Session.extend_aborted, alive, if_neg (by decide), Session.visible_extend, existing,
      visible, Session.extend_committed, ← Database.applyAll_append]
    rw [SettlementEventDto.log, if_neg nothing] at complete
    exact complete

theorem complete_of_collision {call : WrapCallEventDto} (single : dto.calls = [call])
    (checked : dto.checkContract = .ok ())
    (collides : ¬NoCollision dto.batchNetwork db [] arrivals dto.calls) :
    Complete dto (ingest .transaction dto db arrivals) := by
  let prepared : Session :=
    (⟨db, [], false, arrivals⟩ : Session).extend (dto.targetWrites dto.batchNetwork)
  have keys : insertedKeys prepared.log = [] := insertedKeys_targetWrites dto _
  have recorded : (prepared.land.committed.calls.lookup (dto.batchNetwork, call.callId)).isSome := by
    refine Option.isSome_iff_ne_none.mpr fun absent => collides ?_
    rw [single]
    rw [Session.land, keys] at absent
    exact noCollision_cons.mpr ⟨absent, List.not_mem_nil, True.intro⟩
  have present : (prepared.land.visible.calls.lookup (dto.batchNetwork, call.callId)).isSome := by
    refine Option.isSome_iff_ne_none.mpr fun absent => ?_
    rw [(lookup_visible.mp absent).1] at recorded
    cases recorded
  have tried : tryInsertCall .transaction dto.batchNetwork call prepared =
      (.ok false, { prepared.land with aborted := true }) := by
    rw [tryInsertCall_apply call rfl, check_insertCall.mpr present]
    rfl
  have ran : insertCalls .transaction dto.batchNetwork dto.calls prepared =
      (.ok [], { prepared.land with aborted := true }) := by
    rw [single]
    exact insertCalls_cons.mpr ⟨_, _, _, tried, rfl, rfl⟩
  have finished : ingestCalls .transaction dto dto.batchNetwork ⟨db, [], false, arrivals⟩ =
      (.ok ⟨0, []⟩, { prepared.land with aborted := true }) :=
    (ingestCalls_eq_ok rfl).mpr ⟨admits_targetWrites, [], _, ran, rfl, by rw [if_pos rfl]⟩
  have none : prepared.land.committed.newCalls dto.batchNetwork dto.calls = [] := by
    rw [single, Database.newCalls, if_pos recorded]
    rfl
  rw [ingest_of_ok checked finished, if_pos rfl]
  constructor
  · simp only [none]
    rfl
  · intro other member
    rw [none] at member
    cases member
  · exact fun _ _ => rfl
  · intro pubkey counter
    simp only [none]
    exact (add_zero _).symm
  · intro key column
    simp only [none]
    exact (add_zero _).symm
  · intro network
    simp only [none, carriedOn, List.map_nil, List.sum_nil, ite_self, add_zero]
  · intro network
    simp only [none, carriedOn, List.map_nil, List.sum_nil, ite_self, add_zero]

end Ingestions

end PactNetwork.Indexer
