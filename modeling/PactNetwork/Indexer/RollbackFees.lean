import PactNetwork.Indexer.RollbackBalance

/-!
# Rollback and the fee records

The pool's row serializes the rollbacks of a batch, so exactly the last of them
takes the fee shares back.
-/

set_option autoImplicit false

namespace PactNetwork.Indexer

open RowLocks

/-! ## What a new batch leaves -/

/-- A new batch of one slug, whose signature no row has. -/
structure SettlementEventDto.Unseen (dto : SettlementEventDto) (base : Database) (slug : String) :
    Prop extends dto.New base where
  oneSlug : ∀ call ∈ dto.calls, call.endpointSlug = slug
  oneSignature : ∀ call ∈ dto.calls, call.signature = dto.signature
  noSettlement : base.settlements.lookup (dto.batchNetwork, dto.signature) = none
  noShares : base.sharesOf dto.batchNetwork dto.signature = []
  noCalls : ∀ key row, base.calls.lookup key = some row → key.1 = dto.batchNetwork →
    row.signature ≠ dto.signature

def Database.lifetime (key : Key) (db : Database) : Int :=
  (db.earnings.lookup key).elim 0 (·.lifetimeEarnedLamports)

def lifetimeWeight (key : Key) : Write → Int
  | .earn other _ amount _ => if other = key then amount else 0
  | _ => 0

theorem additive_lifetime (key : Key) : Additive (Database.lifetime key) (lifetimeWeight key) := by
  intro db write _
  cases write with
  | earn other kind amount now =>
      simp only [Database.lifetime, Database.apply, Table.lookup_upsert, lifetimeWeight]
      by_cases same : key = other
      · subst same
        rw [if_pos rfl, if_pos rfl]
        cases db.earnings.lookup key with
        | none => exact (zero_add _).symm
        | some row => rfl
      · rw [if_neg same, if_neg (Ne.symm same), add_zero]
  | _ => exact (add_zero _).symm

def sharesTo (key : Key) (shares : List ShareRow) : Int :=
  (shares.map fun share =>
    if (share.network, share.recipientPubkey) = key then share.amountLamports else 0).sum

structure Recorded (dto : SettlementEventDto) (base : Database) (slug : String) (db : Database) :
    Prop where
  calls : ∀ call ∈ dto.calls, db.calls.lookup (dto.batchNetwork, call.callId) = some call.row
  rows : ∀ key row, db.calls.lookup key = some row → key.1 = dto.batchNetwork →
    row.signature = dto.signature → ∃ call ∈ dto.calls, key = (dto.batchNetwork, call.callId)
  pool : dto.calls ≠ [] → (db.pools.lookup (dto.batchNetwork, slug)).isSome
  settlement : db.settlements.lookup (dto.batchNetwork, dto.signature) =
    if dto.calls = [] then none else some dto.settlementRow
  shares : dto.calls = [] → db.sharesOf dto.batchNetwork dto.signature = []
  payees : ∀ share ∈ db.sharesOf dto.batchNetwork dto.signature,
    (db.earnings.lookup (share.network, share.recipientPubkey)).isSome
  lifetime : ∀ key, db.lifetime key =
    base.lifetime key + sharesTo key (db.sharesOf dto.batchNetwork dto.signature)

section Ingested

variable {dto : SettlementEventDto} {base : Database} {slug : String}

def SettlementEventDto.shareRow (dto : SettlementEventDto) (share : RecipientShareDto) : ShareRow :=
  ⟨dto.batchNetwork, dto.signature, share.kind, share.pubkey, share.amountLamports⟩

theorem shareRows_append (front back : List Write) :
    shareRows (front ++ back) = shareRows front ++ shareRows back :=
  List.filterMap_append

theorem shareRows_shareWrites (dto : SettlementEventDto) (inserted : List WrapCallEventDto) :
    shareRows (shareWrites dto dto.batchNetwork inserted 0) =
      (aggregatedShares inserted).map dto.shareRow := by
  unfold shareWrites
  dsimp only
  by_cases some : 0 < (aggregatedShares inserted).length
  · rw [if_pos ⟨rfl, some⟩, shareRows_append]
    have earned : shareRows ((sortedRecipients (aggregatedShares inserted)).flatMap fun share =>
        [.earn (dto.batchNetwork, share.pubkey) share.kind share.amountLamports dto.ts]) = [] := by
      rw [shareRows, List.filterMap_eq_nil_iff]
      intro write member
      obtain ⟨_, -, same⟩ := List.mem_flatMap.mp member
      rw [List.mem_singleton.mp same]
    rw [earned, List.append_nil, shareRows, List.filterMap_map]
    exact congrFun List.filterMap_eq_map' _
  · rw [if_neg fun both => some both.2, List.length_eq_zero_iff.mp (Nat.eq_zero_of_not_pos some)]
    rfl

theorem shareRows_poolWrites (dto : SettlementEventDto) (inserted : List WrapCallEventDto) :
    shareRows (poolWrites dto dto.batchNetwork inserted) = [] := by
  rw [shareRows, List.filterMap_eq_nil_iff]
  intro write member
  obtain ⟨_, -, _, _, rfl⟩ := mem_poolWrites member
  rfl

theorem shareRows_log (dto : SettlementEventDto) :
    shareRows (dto.log dto.batchNetwork dto.calls 0) =
      (aggregatedShares dto.calls).map dto.shareRow := by
  rw [SettlementEventDto.log, shareRows_append, shareRows_append, shareRows_targetWrites,
    shareRows_insertWrites, List.nil_append, List.nil_append]
  by_cases nothing : dto.calls = []
  · rw [if_pos nothing, nothing]
    rfl
  · rw [if_neg nothing, aggregateWrites]
    have aggregated : shareRows (countWrites dto dto.calls ++
        (shareWrites dto dto.batchNetwork dto.calls 0 ++ poolWrites dto dto.batchNetwork dto.calls)) =
        (aggregatedShares dto.calls).map dto.shareRow := by
      rw [shareRows_append, shareRows_append, shareRows_countWrites, shareRows_shareWrites,
        shareRows_poolWrites, List.nil_append, List.append_nil]
    exact aggregated

theorem sharesOf_log (unseen : dto.Unseen base slug) :
    (base.applyAll (dto.log dto.batchNetwork dto.calls 0)).sharesOf dto.batchNetwork
      dto.signature = (aggregatedShares dto.calls).map dto.shareRow := by
  have none := unseen.noShares
  unfold Database.sharesOf at none ⊢
  rw [shares_applyAll, shareRows_log, List.filter_append, none, List.nil_append,
    List.filter_eq_self]
  intro row member
  obtain ⟨share, -, rfl⟩ := List.mem_map.mp member
  exact decide_eq_true ⟨rfl, rfl⟩

theorem weigh_lifetime (dto : SettlementEventDto) (key : Key) :
    weigh (lifetimeWeight key) (dto.log dto.batchNetwork dto.calls 0) =
      sharesTo key ((aggregatedShares dto.calls).map dto.shareRow) := by
  rw [weigh_log ⟨fun _ _ => rfl, fun _ _ => rfl, fun _ _ => rfl⟩,
    weigh_insertWrites_zero fun _ _ => rfl, weigh_countWrites_zero fun _ _ => rfl,
    weigh_poolWrites_zero fun _ _ _ => rfl, weigh_shareWrites, if_pos rfl, zero_add, zero_add,
    add_zero, sharesTo, List.map_map]
  simp only [lifetimeWeight, List.sum_map_zero, zero_add]
  rfl

theorem earnings_apply {db : Database} {key : Key} (write : Write)
    (known : (db.earnings.lookup key).isSome) :
    ((db.apply write).earnings.lookup key).isSome := by
  cases write with
  | earn other kind amount now =>
      simp only [Database.apply, Table.lookup_upsert]
      split
      · rfl
      · exact known
  | _ => exact known

theorem pools_apply {db : Database} {key : Key} (write : Write)
    (known : (db.pools.lookup key).isSome) : ((db.apply write).pools.lookup key).isSome := by
  cases write with
  | movePool other delta now =>
      simp only [Database.apply, Table.lookup_upsert]
      split
      · rfl
      · exact known
  | _ => exact known

theorem earn_mem_log {share : RecipientShareDto} (member : share ∈ aggregatedShares dto.calls) :
    .earn (dto.batchNetwork, share.pubkey) share.kind share.amountLamports dto.ts ∈
      dto.log dto.batchNetwork dto.calls 0 := by
  have some : dto.calls ≠ [] := by
    intro none
    rw [none] at member
    cases member
  have written : .earn (dto.batchNetwork, share.pubkey) share.kind share.amountLamports dto.ts ∈
      shareWrites dto dto.batchNetwork dto.calls 0 := by
    unfold shareWrites
    dsimp only
    rw [if_pos ⟨rfl, List.length_pos_of_mem member⟩]
    refine List.mem_append_right _ (List.mem_flatMap.mpr ⟨share, ?_, List.mem_singleton.mpr rfl⟩)
    exact (List.perm_insertionSort _ _).mem_iff.mpr member
  rw [SettlementEventDto.log, if_neg some, aggregateWrites]
  exact List.mem_append_right _ (List.mem_cons_of_mem _ (List.mem_append_right _
    (List.mem_append_left _ written)))

theorem movePool_mem_log {call : WrapCallEventDto} (member : call ∈ dto.calls) :
    ∃ delta, .movePool (dto.batchNetwork, call.endpointSlug) delta dto.ts ∈
      dto.log dto.batchNetwork dto.calls 0 := by
  have some : dto.calls ≠ [] := List.ne_nil_of_mem member
  have added : ∀ (table : Table String PoolDelta) (other : WrapCallEventDto),
      call.endpointSlug ∈ addToEndpoint table other ↔
        call.endpointSlug = other.endpointSlug ∨ call.endpointSlug ∈ table :=
    fun table other => AList.mem_insert table
  have known : call.endpointSlug ∈ perEndpoint dto.calls :=
    (Table.mem_foldl added dto.calls ∅).mpr (.inl ⟨call, member, rfl⟩)
  obtain ⟨delta, found⟩ := Option.isSome_iff_exists.mp (AList.lookup_isSome.mpr known)
  have written : .movePool (dto.batchNetwork, call.endpointSlug) delta dto.ts ∈
      poolWrites dto dto.batchNetwork dto.calls := by
    refine List.mem_flatMap.mpr ⟨_, mem_sortedEndpointSlugs member, ?_⟩
    rw [found]
    exact List.mem_singleton.mpr rfl
  refine ⟨delta, ?_⟩
  rw [SettlementEventDto.log, if_neg some, aggregateWrites]
  exact List.mem_append_right _ (List.mem_cons_of_mem _ (List.mem_append_right _
    (List.mem_append_right _ written)))

theorem settlement_log (unseen : dto.Unseen base slug) :
    (base.applyAll (dto.log dto.batchNetwork dto.calls 0)).settlements.lookup
        (dto.batchNetwork, dto.signature) =
      if dto.calls = [] then none else some dto.settlementRow := by
  have prepared : (base.applyAll (dto.targetWrites dto.batchNetwork ++
      insertWrites dto.batchNetwork dto.calls)).settlements = base.settlements := by
    have kept : ∀ (writes : List Write) (start : Database), (∀ write ∈ writes,
        (∃ pubkey createdAt, write = .ensureAgent pubkey createdAt) ∨
          (∃ key now, write = .ensureEndpoint key now) ∨ ∃ key row, write = .insertCall key row) →
        (start.applyAll writes).settlements = start.settlements := by
      intro writes
      induction writes with
      | nil => exact fun _ _ => rfl
      | cons write rest ih =>
          intro start kinds
          refine (ih _ fun other member => kinds other (List.mem_cons_of_mem _ member)).trans ?_
          rcases kinds write List.mem_cons_self with ⟨_, _, rfl⟩ | ⟨_, _, rfl⟩ | ⟨_, _, rfl⟩
          · rfl
          · rfl
          · rfl
    refine kept _ base fun write member => ?_
    rcases List.mem_append.mp member with target | insert
    · rcases mem_targetWrites target with agent | endpoint
      · exact .inl agent
      · exact .inr (.inl endpoint)
    · exact .inr (.inr (mem_insertWrites insert))
  have none := unseen.noSettlement
  rw [← prepared] at none
  rw [SettlementEventDto.log, Database.applyAll_append]
  by_cases nothing : dto.calls = []
  · rw [if_pos nothing, if_pos nothing]
    exact none
  · rw [if_neg nothing, if_neg nothing, aggregateWrites]
    have kept : ∀ (db : Database) (write : Write),
        db.settlements.lookup (dto.batchNetwork, dto.signature) = some dto.settlementRow →
        (db.apply write).settlements.lookup (dto.batchNetwork, dto.signature) =
          some dto.settlementRow := by
      intro db write known
      cases write with
      | ensureSettlement other row =>
          simp only [Database.apply, Table.lookup_ensure]
          split
          · next same => rw [← same, known]; rfl
          · exact known
      | _ => exact known
    have settled : ((base.applyAll (dto.targetWrites dto.batchNetwork ++
        insertWrites dto.batchNetwork dto.calls)).apply (.ensureSettlement
          (dto.batchNetwork, dto.signature) dto.settlementRow)).settlements.lookup
            (dto.batchNetwork, dto.signature) = some dto.settlementRow := by
      rw [Database.apply, Table.lookup_ensure, if_pos rfl, none]
      rfl
    exact applyAll_preserves kept settled _

theorem SettlementEventDto.Unseen.recorded (unseen : dto.Unseen base slug)
    (semantics : FailureSemantics) :
    Recorded dto base slug (ingest semantics dto base []).database := by
  obtain ⟨admits, -, written⟩ := unseen.toNew.ingested semantics
  have complete := complete_of_log unseen.distinct unseen.absent
  have same := newCalls_of_absent unseen.distinct unseen.absent
  rw [unseen.noShares, List.length_nil] at admits written complete
  rw [written]
  refine ⟨?_, ?_, ?_, settlement_log unseen, ?_, ?_, ?_⟩
  · intro call member
    exact complete.inserted call (by rw [same]; exact member)
  · intro key row found network signature
    by_contra outside
    have untouched := complete.untouched key (by
      rw [same]
      intro member
      obtain ⟨call, inside, equal⟩ := List.mem_map.mp member
      exact outside ⟨call, inside, equal.symm⟩)
    exact unseen.noCalls key row (untouched.symm.trans found) network signature
  · intro some
    obtain ⟨call, member⟩ := List.exists_mem_of_ne_nil _ some
    obtain ⟨delta, moved⟩ := movePool_mem_log member
    rw [unseen.oneSlug call member] at moved
    refine applyAll_establishes (fun db => (db.pools.lookup (dto.batchNetwork, slug)).isSome)
      (fun db write => pools_apply write) (fun db => ?_) moved base
    simp [Database.apply, Table.lookup_upsert]
  · intro none
    rw [sharesOf_log unseen, none]
    rfl
  · intro share member
    rw [sharesOf_log unseen] at member
    obtain ⟨origin, inside, rfl⟩ := List.mem_map.mp member
    refine applyAll_establishes
      (fun db => (db.earnings.lookup (dto.batchNetwork, origin.pubkey)).isSome)
      (fun db write => earnings_apply write) (fun db => ?_) (earn_mem_log inside) base
    simp [Database.apply, Table.lookup_upsert]
  · intro key
    rw [(additive_lifetime key).applyAll admits, weigh_lifetime, sharesOf_log unseen]

end Ingested

/-! ## Between the rollbacks -/

def Database.Remains (dto : SettlementEventDto) (db : Database) : Prop :=
  ∃ call ∈ dto.calls, (db.calls.lookup (dto.batchNetwork, call.callId)).isSome

/-- The batch's rows between rollbacks: fee records stay while a call remains. -/
structure Standing (dto : SettlementEventDto) (base : Database) (slug : String)
    (shares : List ShareRow) (db : Database) : Prop where
  calls : ∀ call ∈ dto.calls, ∀ row,
    db.calls.lookup (dto.batchNetwork, call.callId) = some row → row = call.row
  rows : ∀ key row, db.calls.lookup key = some row → key.1 = dto.batchNetwork →
    row.signature = dto.signature → ∃ call ∈ dto.calls, key = (dto.batchNetwork, call.callId)
  pool : dto.calls ≠ [] → (db.pools.lookup (dto.batchNetwork, slug)).isSome
  settlement : db.Remains dto →
    db.settlements.lookup (dto.batchNetwork, dto.signature) = some dto.settlementRow
  sharesKept : db.Remains dto → db.sharesOf dto.batchNetwork dto.signature = shares
  payees : db.Remains dto → ∀ share ∈ shares,
    (db.earnings.lookup (share.network, share.recipientPubkey)).isSome
  lifetime : db.Remains dto → ∀ key, db.lifetime key = base.lifetime key + sharesTo key shares
  noSettlement : ¬db.Remains dto →
    db.settlements.lookup (dto.batchNetwork, dto.signature) = none
  noShares : ¬db.Remains dto → db.sharesOf dto.batchNetwork dto.signature = []
  restored : ¬db.Remains dto → ∀ key, db.lifetime key = base.lifetime key

section Standing

variable {dto : SettlementEventDto} {base db : Database} {slug : String} {shares : List ShareRow}

theorem Recorded.standing (recorded : Recorded dto base slug db) :
    Standing dto base slug (db.sharesOf dto.batchNetwork dto.signature) db := by
  have some : db.Remains dto ↔ dto.calls ≠ [] := by
    constructor
    · intro remains
      obtain ⟨call, member, -⟩ := remains
      exact List.ne_nil_of_mem member
    · intro some
      obtain ⟨call, member⟩ := List.exists_mem_of_ne_nil _ some
      exact ⟨call, member, by rw [recorded.calls call member]; rfl⟩
  refine ⟨?_, recorded.rows, recorded.pool, ?_, fun _ => rfl, fun _ => recorded.payees,
    fun _ => recorded.lifetime, ?_, ?_, ?_⟩
  · intro call member row found
    exact Option.some.inj (found.symm.trans (recorded.calls call member))
  · intro remains
    rw [recorded.settlement, if_neg (some.mp remains)]
  · intro gone
    have none : dto.calls = [] := by_contra fun more => gone (some.mpr more)
    rw [recorded.settlement, if_pos none]
  · intro gone
    exact recorded.shares (by_contra fun more => gone (some.mpr more))
  · intro gone key
    have none : dto.calls = [] := by_contra fun more => gone (some.mpr more)
    rw [recorded.lifetime, recorded.shares none]
    exact add_zero _

/-! ## The last call -/

variable {network callId signature : String} {row : CallRow}

theorem mem_entries_filter {key : Key} {row : CallRow} :
    (⟨key, row⟩ : Sigma fun _ : Key => CallRow) ∈ db.calls.entries.filter
        (fun entry => entry.1.1 = network ∧ entry.2.signature = signature) ↔
      db.calls.lookup key = some row ∧ key.1 = network ∧ row.signature = signature := by
  rw [List.mem_filter, decide_eq_true_eq]
  exact and_congr_left fun _ => AList.mem_lookup_iff.symm

theorem only_of_callsInBatch (counted : db.callsInBatch network row.signature = 1)
    (found : db.calls.lookup (network, callId) = some row) {key : Key} {other : CallRow}
    (there : db.calls.lookup key = some other) (sameNetwork : key.1 = network)
    (sameSignature : other.signature = row.signature) : key = (network, callId) := by
  obtain ⟨entry, only⟩ := List.length_eq_one_iff.mp counted
  have own := mem_entries_filter.mpr ⟨found, rfl, rfl⟩
  have others := mem_entries_filter.mpr ⟨there, sameNetwork, sameSignature⟩
  rw [only, List.mem_singleton] at own others
  exact congrArg Sigma.fst (others.trans own.symm)

theorem other_of_callsInBatch (counted : db.callsInBatch network row.signature ≠ 1)
    (found : db.calls.lookup (network, callId) = some row) :
    ∃ key other, db.calls.lookup key = some other ∧ key.1 = network ∧
      other.signature = row.signature ∧ key ≠ (network, callId) := by
  by_contra none
  have own := mem_entries_filter.mpr ⟨found, rfl, rfl⟩
  have alone : ∀ entry ∈ db.calls.entries.filter (fun entry =>
      entry.1.1 = network ∧ entry.2.signature = row.signature),
        entry = ⟨(network, callId), row⟩ := by
    intro entry member
    obtain ⟨key, other⟩ := entry
    obtain ⟨there, sameNetwork, sameSignature⟩ := mem_entries_filter.mp member
    by_cases same : key = (network, callId)
    · subst same
      cases there.symm.trans found
      rfl
    · exact absurd ⟨key, other, there, sameNetwork, sameSignature, same⟩ none
  have nodup := (db.calls.nodupKeys.nodup).filter fun entry =>
    decide (entry.1.1 = network ∧ entry.2.signature = row.signature)
  have short := (nodup.subperm fun entry member =>
    List.mem_singleton.mpr (alone entry member)).length_le
  have long := List.length_pos_of_mem own
  exact counted (Nat.le_antisymm short long)

/-! ## One rollback -/

theorem unearn_all {batch : List ShareRow}
    (payees : ∀ share ∈ batch, (db.earnings.lookup (network, share.recipientPubkey)).isSome) :
    ∃ earnings, (batch.map fun share => Undo.unearn (network, share.recipientPubkey)
        share.amountLamports).foldlM undoStore.perform db = .ok { db with earnings := earnings } ∧
      ∀ key, ({ db with earnings := earnings } : Database).lifetime key = db.lifetime key -
        (batch.map fun share =>
          if (network, share.recipientPubkey) = key then share.amountLamports else 0).sum := by
  induction batch generalizing db with
  | nil => exact ⟨db.earnings, rfl, fun key => (sub_zero _).symm⟩
  | cons share rest ih =>
      have present := payees share List.mem_cons_self
      have first : undoStore.perform db (.unearn (network, share.recipientPubkey)
          share.amountLamports) = .ok (db.undo (.unearn (network, share.recipientPubkey)
            share.amountLamports)) := by
        refine perform_undo_eq_ok.mpr ⟨?_, rfl⟩
        rw [Database.checkUndo, failIf_eq_ok, present]
        decide
      have others : ∀ other ∈ rest, ((db.undo (.unearn (network, share.recipientPubkey)
          share.amountLamports)).earnings.lookup (network, other.recipientPubkey)).isSome := by
        intro other member
        simp only [Database.undo, Table.lookup_modify]
        split
        · rw [Option.isSome_map]; exact present
        · exact payees other (List.mem_cons_of_mem _ member)
      obtain ⟨earnings, finished, lifetimes⟩ := ih others
      refine ⟨earnings, foldlM_cons_eq_ok.mpr ⟨_, first, finished⟩, fun key => ?_⟩
      have moved : (db.undo (.unearn (network, share.recipientPubkey)
          share.amountLamports)).lifetime key = db.lifetime key -
            if (network, share.recipientPubkey) = key then share.amountLamports else 0 := by
        simp only [Database.lifetime, Database.undo, Table.lookup_modify]
        by_cases same : key = (network, share.recipientPubkey)
        · rw [if_pos same, if_pos same.symm, same]
          obtain ⟨row, found⟩ := Option.isSome_iff_exists.mp present
          rw [found]
          rfl
        · rw [if_neg same, if_neg (Ne.symm same), sub_zero]
      refine (lifetimes key).trans ?_
      rw [moved, List.map_cons, List.sum_cons]
      exact sub_sub _ _ _

theorem network_of_mem {share : ShareRow} (member : share ∈ db.sharesOf network signature) :
    share.network = network :=
  (of_decide_eq_true (List.mem_filter.mp member).2).1

theorem filter_deleted (rows : List ShareRow) :
    (rows.filter fun row => decide ¬(row.network = network ∧ row.settlementSig = signature)).filter
      (fun row => decide (row.network = network ∧ row.settlementSig = signature)) = [] := by
  rw [List.filter_eq_nil_iff]
  intro row member inside
  exact of_decide_eq_true (List.mem_filter.mp member).2 (of_decide_eq_true inside)

theorem clear_batch (db : Database) (found : (db.calls.lookup (network, callId)).isSome)
    (settled : (db.settlements.lookup (network, signature)).isSome)
    (payees : ∀ share ∈ db.sharesOf network signature,
      (db.earnings.lookup (share.network, share.recipientPubkey)).isSome) :
    ∃ earnings, (clearBatch network callId signature (db.sharesOf network signature)).foldlM
        undoStore.perform db = .ok { db with
          earnings := earnings
          shares := db.shares.filter fun row =>
            ¬(row.network = network ∧ row.settlementSig = signature)
          settlements := db.settlements.erase (network, signature)
          calls := db.calls.erase (network, callId) } ∧
      ∀ key, ({ db with earnings := earnings } : Database).lifetime key = db.lifetime key -
        sharesTo key (db.sharesOf network signature) := by
  have known : ∀ share ∈ db.sharesOf network signature,
      (db.earnings.lookup (network, share.recipientPubkey)).isSome := by
    intro share member
    have present := payees share member
    rwa [network_of_mem member] at present
  obtain ⟨earnings, unearned, lifetimes⟩ := unearn_all known
  have paid : ∀ key, ((db.sharesOf network signature).map fun share =>
      if (network, share.recipientPubkey) = key then share.amountLamports else 0).sum =
        sharesTo key (db.sharesOf network signature) := by
    intro key
    refine congrArg List.sum (List.map_congr_left fun share member => ?_)
    rw [network_of_mem member]
  refine ⟨earnings, foldlM_append_eq_ok.mpr ⟨_, unearned, ?_⟩, fun key => ?_⟩
  · refine foldlM_cons_eq_ok.mpr ⟨_, perform_undo_eq_ok.mpr ⟨rfl, rfl⟩, foldlM_cons_eq_ok.mpr
      ⟨_, perform_undo_eq_ok.mpr ⟨?_, rfl⟩, foldlM_cons_eq_ok.mpr
        ⟨_, perform_undo_eq_ok.mpr ⟨?_, rfl⟩, rfl⟩⟩⟩
    · simp only [Database.checkUndo, Database.undo, Database.sharesOf, settled, filter_deleted]
      rfl
    · simp only [Database.checkUndo, Database.undo, found]
      rfl
  · rw [lifetimes key, paid key]

theorem Standing.rollback (standing : Standing dto base slug shares db)
    (unseen : dto.Unseen base slug) {call : WrapCallEventDto} (member : call ∈ dto.calls)
    (found : db.calls.lookup (dto.batchNetwork, call.callId) = some call.row) :
    ∃ after, (rollback dto.batchNetwork call.callId).run undoStore db = .ok after ∧
      Standing dto base slug shares after := by
  have remains : db.Remains dto := ⟨call, member, by rw [found]; rfl⟩
  have signature : call.row.signature = dto.signature := unseen.oneSignature call member
  have pool := standing.pool (List.ne_nil_of_mem member)
  rw [← unseen.oneSlug call member] at pool
  have ran : ∀ after, (db.rollbackRest dto.batchNetwork call.callId call.row).foldlM
      undoStore.perform (db.undo (.drainPool (dto.batchNetwork, call.endpointSlug)
        call.premiumLamports)) = .ok after →
      (Indexer.rollback dto.batchNetwork call.callId).run undoStore db = .ok after :=
    fun after rest => run_rollback_eq_ok.mpr ⟨call.row, found, run_found_eq_ok.mpr ⟨pool, rest⟩⟩
  have drained : ((db.undo (.drainPool (dto.batchNetwork, call.endpointSlug)
      call.premiumLamports)).pools.lookup (dto.batchNetwork, slug)).isSome := by
    rw [unseen.oneSlug call member] at pool ⊢
    simp only [Database.undo, Table.lookup_modify, if_true, Option.isSome_map]
    exact pool
  have kept : ∀ key row, (db.calls.erase (dto.batchNetwork, call.callId)).lookup key = some row →
      key ≠ (dto.batchNetwork, call.callId) ∧ db.calls.lookup key = some row := by
    intro key row there
    have apart : key ≠ (dto.batchNetwork, call.callId) := by
      intro same
      rw [same, AList.lookup_erase] at there
      cases there
    exact ⟨apart, (AList.lookup_erase_ne apart).symm.trans there⟩
  by_cases counted : db.callsInBatch dto.batchNetwork call.row.signature = 1
  · have last : ∀ other ∈ dto.calls, (db.calls.erase (dto.batchNetwork, call.callId)).lookup
        (dto.batchNetwork, other.callId) = none := by
      intro other inside
      by_contra there
      obtain ⟨row, there⟩ := Option.ne_none_iff_exists'.mp there
      obtain ⟨apart, before⟩ := kept _ row there
      have sameRow := standing.calls other inside row before
      refine apart (only_of_callsInBatch counted found before rfl ?_)
      rw [sameRow, signature]
      exact unseen.oneSignature other inside
    have same : (db.undo (.drainPool (dto.batchNetwork, call.endpointSlug)
        call.premiumLamports)).sharesOf dto.batchNetwork dto.signature = shares :=
      standing.sharesKept remains
    have present : (db.calls.lookup (dto.batchNetwork, call.callId)).isSome := by
      rw [found]; rfl
    have settled : (db.settlements.lookup (dto.batchNetwork, dto.signature)).isSome := by
      rw [standing.settlement remains]; rfl
    obtain ⟨earnings, cleared, lifetimes⟩ := clear_batch
      (db.undo (.drainPool (dto.batchNetwork, call.endpointSlug) call.premiumLamports))
      present settled (by rw [same]; exact standing.payees remains)
    have rest : db.rollbackRest dto.batchNetwork call.callId call.row =
        clearBatch dto.batchNetwork call.callId dto.signature ((db.undo (.drainPool
          (dto.batchNetwork, call.endpointSlug) call.premiumLamports)).sharesOf dto.batchNetwork
            dto.signature) := by
      rw [Database.rollbackRest, if_pos counted, signature]
      rfl
    rw [← rest] at cleared
    refine ⟨_, ran _ cleared, ?_⟩
    · have gone : ∀ after : Database,
          after.calls = db.calls.erase (dto.batchNetwork, call.callId) → ¬after.Remains dto := by
        intro after calls remains
        obtain ⟨other, inside, there⟩ := remains
        rw [calls, last other inside] at there
        cases there
      refine ⟨?_, ?_, fun _ => drained, fun more => absurd more (gone _ rfl),
        fun more => absurd more (gone _ rfl), fun more => absurd more (gone _ rfl),
        fun more => absurd more (gone _ rfl), fun _ => AList.lookup_erase _ _,
        fun _ => filter_deleted _, fun _ key => ?_⟩
      · intro other inside row there
        exact standing.calls other inside row (kept _ row there).2
      · intro key row there
        exact standing.rows key row (kept key row there).2
      · have before : (db.undo (.drainPool (dto.batchNetwork, call.endpointSlug)
            call.premiumLamports)).lifetime key = base.lifetime key + sharesTo key shares :=
          standing.lifetime remains key
        refine (lifetimes key).trans ?_
        rw [same, before]
        exact add_sub_cancel_right _ _
  · have deleted : (db.rollbackRest dto.batchNetwork call.callId call.row).foldlM
        undoStore.perform (db.undo (.drainPool (dto.batchNetwork, call.endpointSlug)
          call.premiumLamports)) = .ok ((db.undo (.drainPool (dto.batchNetwork, call.endpointSlug)
            call.premiumLamports)).undo (.deleteCall (dto.batchNetwork, call.callId))) := by
      rw [Database.rollbackRest, if_neg counted]
      refine foldlM_cons_eq_ok.mpr ⟨_, perform_undo_eq_ok.mpr ⟨?_, rfl⟩, rfl⟩
      simp only [Database.checkUndo, Database.undo, found]
      rfl
    refine ⟨_, ran _ deleted, ?_⟩
    · obtain ⟨key, row, there, sameNetwork, sameSignature, apart⟩ :=
        other_of_callsInBatch counted found
      obtain ⟨other, inside, rfl⟩ := standing.rows key row there sameNetwork
        (sameSignature.trans signature)
      have more : ∀ after : Database,
          after.calls = db.calls.erase (dto.batchNetwork, call.callId) → after.Remains dto := by
        intro after calls
        refine ⟨other, inside, ?_⟩
        rw [calls, AList.lookup_erase_ne apart, there]
        rfl
      refine ⟨?_, ?_, fun _ => drained, fun _ => standing.settlement remains,
        fun _ => standing.sharesKept remains, fun _ => standing.payees remains,
        fun _ => standing.lifetime remains, fun gone => absurd (more _ rfl) gone,
        fun gone => absurd (more _ rfl) gone, fun gone => absurd (more _ rfl) gone⟩
      · intro other inside row there
        exact standing.calls other inside row (kept _ row there).2
      · intro key row there
        exact standing.rows key row (kept key row there).2

end Standing

/-! ## Rollbacks side by side -/

section Rollbacks

variable {dto : SettlementEventDto} {base : Database} {slug : String} {shares : List ShareRow}

def SettlementEventDto.rollbacks (dto : SettlementEventDto) (call : { call // call ∈ dto.calls }) :
    Script Database Undo RollbackError :=
  rollback dto.batchNetwork call.1.callId

def SettlementEventDto.Ready (dto : SettlementEventDto) (call : { call // call ∈ dto.calls })
    (db : Database) (script : Script Database Undo RollbackError) : Prop :=
  db.calls.lookup (dto.batchNetwork, call.1.callId) = some call.1.row ∧
    (script = dto.rollbacks call ∨
      script = rollbackFound dto.batchNetwork call.1.callId call.1.row)

theorem SettlementEventDto.Unseen.apart (unseen : dto.Unseen base slug)
    {call other : { call // call ∈ dto.calls }} (apart : call ≠ other) :
    (dto.batchNetwork, call.1.callId) ≠ (dto.batchNetwork, other.1.callId) := by
  intro same
  exact apart (Subtype.ext (List.inj_on_of_nodup_map unseen.distinct call.2 other.2
    (congrArg Prod.snd same)))

theorem Standing.rollbacks {db : Database} (standing : Standing dto base slug shares db)
    (unseen : dto.Unseen base slug) (call : { call // call ∈ dto.calls }) {after : Database}
    (ran : (dto.rollbacks call).run undoStore db = .ok after) :
    db.calls.lookup (dto.batchNetwork, call.1.callId) = some call.1.row ∧
      Standing dto base slug shares after ∧
      after.calls = db.calls.erase (dto.batchNetwork, call.1.callId) := by
  obtain ⟨row, found, -, -, calls⟩ := rollback_effect ran
  have same := standing.calls call.1 call.2 row found
  subst same
  obtain ⟨final, finished, stands⟩ := standing.rollback unseen call.2 found
  cases ran.symm.trans finished
  exact ⟨found, stands, calls⟩

theorem SettlementEventDto.Unseen.guarded (unseen : dto.Unseen base slug) :
    Guarded undoStore dto.rollbacks (.pool (dto.batchNetwork, slug))
      (Standing dto base slug shares) dto.Ready where
  query call db next _ ready := by
    obtain ⟨found, same | same⟩ := ready
    · unfold SettlementEventDto.rollbacks rollback at same
      cases same
      refine ⟨found, .inr ?_⟩
      dsimp only
      rw [found]
    · cases same
  first call db statement next ready := by
    obtain ⟨-, same | same⟩ := ready
    · cases same
    · cases same
      exact congrArg (fun slug => LockedRow.pool (dto.batchNetwork, slug))
        (unseen.oneSlug call.1 call.2)
  agrees call db script _ ready := by
    obtain ⟨found, rfl | rfl⟩ := ready
    · exact .same _
    · have same : (dto.rollbacks call).run undoStore db =
          (rollbackFound dto.batchNetwork call.1.callId call.1.row).run undoStore db := by
        rw [SettlementEventDto.rollbacks, rollback, Script.run, found]
      rw [same]
      exact .same _
  stable call other db after script apart standing ready ran := by
    obtain ⟨-, -, calls⟩ := standing.rollbacks unseen other ran
    refine ⟨?_, ready.2⟩
    rw [calls, AList.lookup_erase_ne (unseen.apart apart.symm)]
    exact ready.1
  kept call db after standing ran := (standing.rollbacks unseen call ran).2.1

/-- The calls whose rollback has committed are gone, and no rollback has failed. -/
def SettlementEventDto.Progress (dto : SettlementEventDto)
    (serial : Serial { call // call ∈ dto.calls } Database) : Prop :=
  ∀ call, (serial.status call = .pending ∧
      serial.state.calls.lookup (dto.batchNetwork, call.1.callId) = some call.1.row) ∨
    (serial.status call = .committed ∧
      serial.state.calls.lookup (dto.batchNetwork, call.1.callId) = none)

theorem SettlementEventDto.Progress.step {before after : Serial { call // call ∈ dto.calls } Database}
    (unseen : dto.Unseen base slug)
    (progress : Standing dto base slug shares before.state ∧ dto.Progress before)
    (moves : Serial.Step undoStore dto.rollbacks before after) :
    Standing dto base slug shares after.state ∧ dto.Progress after := by
  obtain ⟨standing, progress⟩ := progress
  cases moves with
  | @commit call final pending ran =>
      obtain ⟨-, stands, calls⟩ := standing.rollbacks unseen call ran
      refine ⟨stands, fun other => ?_⟩
      by_cases same : other = call
      · subst same
        refine .inr ⟨Function.update_self .., ?_⟩
        rw [calls, AList.lookup_erase]
      · have lookup := AList.lookup_erase_ne (s := before.state.calls) (unseen.apart same)
        simp only [Function.update_of_ne same, calls, lookup]
        exact progress other
  | @fail call error pending ran =>
      cases progress call with
      | inr gone =>
          rw [pending] at gone
          cases gone.1
      | inl there =>
          obtain ⟨final, finished, -⟩ := standing.rollback unseen call.2 there.2
          rw [SettlementEventDto.rollbacks, finished] at ran
          cases ran

/-- Rollbacks of all calls of a new batch, statement by statement in any order,
all succeed. Before the last of them commits one can always go on and the fee
records are there; after it they are gone and the earnings restored. -/
theorem rollbacks_clear_fees (semantics : FailureSemantics) (dto : SettlementEventDto)
    (base : Database) (slug : String) (unseen : dto.Unseen base slug)
    (system : System { call // call ∈ dto.calls } Database Undo RollbackError)
    (reached : Reachable
      (· = System.start (ingest semantics dto base []).database dto.rollbacks)
      (Step undoStore) system) :
    (∀ call error, system.jobs call ≠ .failed error) ∧
    ((∃ call, system.jobs call ≠ .committed) →
      (∃ after, Step undoStore system after) ∧
      system.committed.settlements.lookup (dto.batchNetwork, dto.signature) =
        some dto.settlementRow ∧
      system.committed.sharesOf dto.batchNetwork dto.signature =
        (ingest semantics dto base []).database.sharesOf dto.batchNetwork dto.signature) ∧
    ((∀ call, system.jobs call = .committed) →
      (∀ key, system.committed.lifetime key = base.lifetime key) ∧
      (∀ key row, system.committed.calls.lookup key = some row → key.1 = dto.batchNetwork →
        row.signature ≠ dto.signature) ∧
      system.committed.settlements.lookup (dto.batchNetwork, dto.signature) = none ∧
      system.committed.sharesOf dto.batchNetwork dto.signature = []) := by
  have recorded := unseen.recorded semantics
  obtain ⟨sound, serial⟩ := unseen.guarded.serializes recorded.standing
    (fun call => ⟨recorded.calls call.1 call.2, .inl rfl⟩) reached
  obtain ⟨standing, progress⟩ := serial.invariant
    (fun serial => Standing dto base slug _ serial.state ∧ dto.Progress serial)
    (fun first same => by
      subst same
      exact ⟨recorded.standing, fun call => .inl ⟨rfl, recorded.calls call.1 call.2⟩⟩)
    fun before after holds moves => SettlementEventDto.Progress.step unseen holds moves
  refine ⟨?_, ?_, ?_⟩
  · intro call error failed
    have status : system.serial.status call = .failed := congrArg Job.status failed
    cases progress call with
    | inl there => cases status.symm.trans there.1
    | inr gone => cases status.symm.trans gone.1
  · intro more
    obtain ⟨call, open_⟩ := more
    cases progress call with
    | inr gone =>
        have status : (system.jobs call).status = .committed := gone.1
        cases job : system.jobs call with
        | committed => exact absurd job open_
        | running script log =>
            rw [job] at status
            cases status
        | failed error =>
            rw [job] at status
            cases status
    | inl there =>
        have remains : system.committed.Remains dto := ⟨call.1, call.2, by
          have found : system.committed.calls.lookup (dto.batchNetwork, call.1.callId) =
            some call.1.row := there.2
          rw [found]
          rfl⟩
        have status : (system.jobs call).status = .pending := there.1
        cases job : system.jobs call with
        | running script log =>
            exact ⟨sound.progress job, standing.settlement remains, standing.sharesKept remains⟩
        | committed =>
            rw [job] at status
            cases status
        | failed error =>
            rw [job] at status
            cases status
  · intro all
    have gone : ¬system.committed.Remains dto := by
      intro remains
      obtain ⟨call, member, there⟩ := remains
      have status : system.serial.status ⟨call, member⟩ = .committed :=
        congrArg Job.status (all ⟨call, member⟩)
      cases progress ⟨call, member⟩ with
      | inl pending => cases status.symm.trans pending.1
      | inr gone =>
          have none : system.committed.calls.lookup (dto.batchNetwork, call.callId) = none :=
            gone.2
          rw [none] at there
          cases there
    refine ⟨standing.restored gone, ?_, standing.noSettlement gone, standing.noShares gone⟩
    intro key row found network signature
    obtain ⟨call, member, rfl⟩ := standing.rows key row found network signature
    have there : system.committed.calls.lookup (dto.batchNetwork, call.callId) = some row := found
    exact gone ⟨call, member, by rw [there]; rfl⟩

end Rollbacks

namespace RolledBack

def shared : SettlementEventDto := batch 40 [⟨0, "treasury", 7⟩]

theorem shared_unseen : shared.Unseen .empty "helius" where
  toNew := batch_new 40 _
  oneSlug call member := by
    simp only [shared, batch, List.mem_cons, List.not_mem_nil, or_false] at member
    cases member with
    | inl first => rw [first]; rfl
    | inr second => rw [second]; rfl
  oneSignature call member := by
    simp only [shared, batch, List.mem_cons, List.not_mem_nil, or_false] at member
    cases member with
    | inl first => rw [first]; rfl
    | inr second => rw [second]; rfl
  noSettlement := rfl
  noShares := rfl
  noCalls := nofun

def first : { call // call ∈ shared.calls } := ⟨call "a" 40 [⟨0, "treasury", 7⟩], List.mem_cons_self⟩

def second : { call // call ∈ shared.calls } :=
  ⟨call "b" 40 [⟨0, "treasury", 7⟩], List.mem_cons_of_mem _ List.mem_cons_self⟩

def started : System { call // call ∈ shared.calls } Database Undo RollbackError :=
  System.start (ingest .transaction shared .empty []).database shared.rollbacks

def schedule : List { call // call ∈ shared.calls } :=
  [first, second, second, second, second, second] ++ List.replicate 8 first

/-- The first waits for the pool's row. -/
example : started.play undoStore [first, second, second, first] = none := rfl

end RolledBack

open RolledBack in
theorem rollbacks_clear_fees_shared : ∃ finished,
    started.play undoStore schedule = some finished ∧
      finished.committed.sharesOf "solana-devnet" "sig" = [] ∧
      ∀ key, finished.committed.lifetime key = Database.empty.lifetime key := by
  have ends : ((started.play undoStore schedule).map fun finished =>
      decide (∀ call, (finished.jobs call).status = .committed)) = some true := by decide +kernel
  obtain ⟨finished, played, done⟩ := Option.map_eq_some_iff.mp ends
  have reached : Reachable (· = started) (Step undoStore) finished :=
    reachable_of_play (.start rfl) played
  have all : ∀ call, finished.jobs call = .committed := by
    intro call
    have status := of_decide_eq_true done call
    cases job : finished.jobs call with
    | committed => rfl
    | running script log =>
        rw [job] at status
        cases status
    | failed error =>
        rw [job] at status
        cases status
  obtain ⟨restored, -, -, none⟩ :=
    (rollbacks_clear_fees .transaction shared .empty "helius" shared_unseen finished reached).2.2 all
  exact ⟨finished, played, none, restored⟩

end PactNetwork.Indexer
