import PactNetwork.Indexer.Ingest

/-!
# What an ingestion writes

The log of a transaction that commits, statement by statement.
-/

set_option autoImplicit false

namespace PactNetwork.Indexer

/-! ## Logs -/

def Database.applyAll (db : Database) (writes : List Write) : Database :=
  writes.foldl Database.apply db

@[simp] theorem Database.applyAll_nil (db : Database) : db.applyAll [] = db := rfl

@[simp] theorem Database.applyAll_append (db : Database) (front back : List Write) :
    db.applyAll (front ++ back) = (db.applyAll front).applyAll back :=
  List.foldl_append

def Database.Admits (db : Database) (writes : List Write) : Prop :=
  writes.foldlM Database.perform db = .ok (db.applyAll writes)

theorem perform_eq_ok {db after : Database} {write : Write} :
    db.perform write = .ok after ↔ db.check write = .ok () ∧ after = db.apply write := by
  unfold Database.perform
  cases db.check write with
  | error error => exact ⟨nofun, nofun⟩
  | ok value => exact ⟨fun same => ⟨rfl, by cases same; rfl⟩, fun ⟨_, same⟩ => by rw [same]; rfl⟩

theorem admits_of_ok {db after : Database} {writes : List Write}
    (performed : writes.foldlM Database.perform db = .ok after) :
    db.Admits writes ∧ after = db.applyAll writes := by
  induction writes generalizing db with
  | nil =>
      cases performed
      exact ⟨rfl, rfl⟩
  | cons write rest ih =>
      obtain ⟨middle, first, later⟩ := foldlM_cons_eq_ok.mp performed
      obtain ⟨-, rfl⟩ := perform_eq_ok.mp first
      obtain ⟨admits, same⟩ := ih later
      exact ⟨foldlM_cons_eq_ok.mpr ⟨_, first, admits⟩, same⟩

@[simp] theorem admits_nil (db : Database) : db.Admits [] := rfl

theorem admits_cons {db : Database} {write : Write} {rest : List Write} :
    db.Admits (write :: rest) ↔ db.check write = .ok () ∧ (db.apply write).Admits rest := by
  constructor
  · intro admits
    obtain ⟨middle, first, later⟩ := foldlM_cons_eq_ok.mp admits
    obtain ⟨passes, rfl⟩ := perform_eq_ok.mp first
    exact ⟨passes, later⟩
  · rintro ⟨passes, later⟩
    exact foldlM_cons_eq_ok.mpr ⟨_, perform_eq_ok.mpr ⟨passes, rfl⟩, later⟩

theorem admits_append {db : Database} {front back : List Write} :
    db.Admits (front ++ back) ↔ db.Admits front ∧ (db.applyAll front).Admits back := by
  constructor
  · intro admits
    obtain ⟨middle, first, later⟩ := foldlM_append_eq_ok.mp admits
    obtain ⟨admitsFront, rfl⟩ := admits_of_ok first
    exact ⟨admitsFront, (admits_of_ok later).1⟩
  · rintro ⟨first, later⟩
    refine foldlM_append_eq_ok.mpr ⟨_, first, ?_⟩
    rw [Database.applyAll_append]
    exact later

/-! ## Statements -/

section Sessions

@[simp] theorem Session.extend_nil (session : Session) : session.extend [] = session := by
  simp [Session.extend]

@[simp] theorem Session.extend_extend (session : Session) (front back : List Write) :
    (session.extend front).extend back = session.extend (front ++ back) := by
  simp [Session.extend]

@[simp] theorem Session.extend_aborted (session : Session) (writes : List Write) :
    (session.extend writes).aborted = session.aborted := rfl

@[simp] theorem Session.extend_arrivals (session : Session) (writes : List Write) :
    (session.extend writes).arrivals = session.arrivals := rfl

@[simp] theorem Session.extend_committed (session : Session) (writes : List Write) :
    (session.extend writes).committed = session.committed := rfl

@[simp] theorem Session.visible_extend (session : Session) (writes : List Write) :
    (session.extend writes).visible = session.visible.applyAll writes :=
  List.foldl_append

@[simp] theorem Session.land_aborted (session : Session) :
    session.land.aborted = session.aborted := rfl

@[simp] theorem Session.land_log (session : Session) : session.land.log = session.log := rfl

/-- The program succeeds exactly if these writes are admitted, and appends them. -/
def Tx.Performs (program : Tx Unit) (before : Session) (writes : List Write) : Prop :=
  ∀ after, program before = (.ok (), after) ↔
    before.visible.Admits writes ∧ after = before.extend writes

variable {before after : Session} {writes later : List Write}

theorem Tx.Performs.pure : Tx.Performs (Pure.pure ()) before [] := by
  intro after
  rw [Tx.pure_apply, Prod.mk.injEq, Session.extend_nil]
  exact ⟨fun ⟨_, same⟩ => ⟨rfl, same.symm⟩, fun ⟨_, same⟩ => ⟨rfl, same.symm⟩⟩

theorem Tx.Performs.write (semantics : FailureSemantics) (live : before.aborted = false) :
    Tx.Performs (Tx.write semantics writes) before writes := by
  intro after
  unfold Tx.write
  rw [live, if_neg (by decide)]
  cases performed : writes.foldlM Database.perform before.visible with
  | error error =>
      refine ⟨nofun, fun ⟨admits, _⟩ => ?_⟩
      rw [Database.Admits, performed] at admits
      cases admits
  | ok final =>
      simp only [Prod.mk.injEq, true_and]
      exact ⟨fun same => ⟨(admits_of_ok performed).1, same.symm⟩, fun ⟨_, same⟩ => same.symm⟩

theorem Tx.Performs.bind {first second : Tx Unit} (performs : Tx.Performs first before writes)
    (continues : Tx.Performs second (before.extend writes) later) :
    Tx.Performs (first >>= fun _ => second) before (writes ++ later) := by
  intro after
  rw [Tx.bind_apply, admits_append]
  cases ran : first before with
  | mk result middle =>
      cases result with
      | error error =>
          refine ⟨nofun, fun ⟨⟨admits, _⟩, _⟩ => ?_⟩
          rw [(performs _).mpr ⟨admits, rfl⟩] at ran
          cases ran
      | ok value =>
          obtain ⟨admits, rfl⟩ := (performs middle).mp ran
          have next := continues after
          rw [Session.visible_extend, Session.extend_extend] at next
          exact ⟨fun done => ⟨⟨admits, (next.mp done).1⟩, (next.mp done).2⟩,
            fun ⟨⟨_, rest⟩, same⟩ => next.mpr ⟨rest, same⟩⟩

theorem Tx.Performs.forM {α : Type} {body : α → Tx Unit} {log : α → List Write}
    (items : List α) (live : before.aborted = false)
    (each : ∀ item ∈ items, ∀ session : Session, session.aborted = false →
      Tx.Performs (body item) session (log item)) :
    Tx.Performs (items.forM body) before (items.flatMap log) := by
  induction items generalizing before with
  | nil => exact .pure
  | cons item rest ih =>
      exact .bind (each item List.mem_cons_self before live)
        (ih live fun other member => each other (List.mem_cons_of_mem _ member))

theorem Tx.Performs.read {α : Type} {query : Database → α} {next : α → Tx Unit}
    (live : before.aborted = false)
    (continues : Tx.Performs (next (query before.visible)) before writes) :
    Tx.Performs (Tx.read query >>= next) before writes := by
  intro after
  rw [Tx.bind_apply, Tx.read, live, if_neg (by decide)]
  exact continues after

theorem Session.land_of_quiet (quiet : before.arrivals = []) : before.land = before := by
  obtain ⟨committed, log, aborted, arrivals⟩ := before
  subst quiet
  simp [Session.land, Database.land, pure, Except.pure, insertedKeys]

end Sessions

/-! ## Inserting -/

section Inserts

variable {semantics : FailureSemantics} {network : String}

/-- An unaborted run of the inserts: duplicates are passed over. -/
inductive Inserts (network : String) :
    Session → List WrapCallEventDto → List WrapCallEventDto → Session → Prop
  | nil {session : Session} : Inserts network session [] [] session
  | fresh {session after : Session} {call : WrapCallEventDto}
      {rest inserted : List WrapCallEventDto}
      (passes : session.land.visible.check (.insertCall (network, call.callId) call.row) = .ok ())
      (later : Inserts network
        (session.land.extend [.insertCall (network, call.callId) call.row]) rest inserted after) :
      Inserts network session (call :: rest) (call :: inserted) after
  | duplicate {session after : Session} {call : WrapCallEventDto}
      {rest inserted : List WrapCallEventDto}
      (present : (session.land.visible.calls.lookup (network, call.callId)).isSome)
      (later : Inserts network session.land rest inserted after) :
      Inserts network session (call :: rest) inserted after

theorem perform_insertCall (db : Database) (key : Key) (row : CallRow) :
    [Write.insertCall key row].foldlM Database.perform db =
      (db.check (.insertCall key row)).map fun _ => db.apply (.insertCall key row) := by
  rw [List.foldlM_cons, Database.perform]
  cases db.check (.insertCall key row) <;> rfl

theorem check_insertCall {db : Database} {key : Key} {row : CallRow} :
    db.check (.insertCall key row) = .error .uniqueViolation ↔ (db.calls.lookup key).isSome := by
  unfold Database.check failIf
  cases recorded : db.calls.lookup key with
  | some found => simp [recorded, bind, Except.bind]
  | none =>
      cases agent : db.agents.lookup row.agentPubkey <;>
        cases endpoint : db.endpoints.lookup (key.1, row.endpointSlug) <;>
          simp [recorded, agent, endpoint, bind, Except.bind]

theorem lookup_of_check {db : Database} {key : Key} {row : CallRow}
    (passes : db.check (.insertCall key row) = .ok ()) : db.calls.lookup key = none := by
  refine Option.not_isSome_iff_eq_none.mp fun present => ?_
  rw [check_insertCall.mpr present] at passes
  cases passes

theorem tryInsertCall_apply {before : Session} (call : WrapCallEventDto)
    (live : before.aborted = false) :
    tryInsertCall semantics network call before =
      match before.land.visible.check (.insertCall (network, call.callId) call.row) with
      | .ok _ => (.ok true, before.land.extend [.insertCall (network, call.callId) call.row])
      | .error error => (if error = .uniqueViolation then .ok false else .error error,
          { before.land with aborted := semantics = .transaction }) := by
  unfold tryInsertCall Tx.landing Tx.catching
  rw [Tx.bind_apply, Tx.write, Session.land_aborted, live, if_neg (by decide),
    perform_insertCall]
  cases before.land.visible.check (.insertCall (network, call.callId) call.row) <;> rfl

theorem tryInsertCall_aborted {before : Session} (call : WrapCallEventDto)
    (dead : before.aborted = true) :
    tryInsertCall semantics network call before = (.error .inFailedTransaction, before.land) := by
  unfold tryInsertCall Tx.landing Tx.catching
  rw [Tx.bind_apply, Tx.write, Session.land_aborted, dead, if_pos rfl]
  rfl

theorem insertCalls_cons {before after : Session} {call : WrapCallEventDto}
    {rest inserted : List WrapCallEventDto} :
    insertCalls semantics network (call :: rest) before = (.ok inserted, after) ↔
      ∃ isNew middle later, tryInsertCall semantics network call before = (.ok isNew, middle) ∧
        insertCalls semantics network rest middle = (.ok later, after) ∧
        inserted = if isNew then call :: later else later := by
  rw [insertCalls, Tx.bind_apply]
  cases tryInsertCall semantics network call before with
  | mk result middle =>
      cases result with
      | error error => exact ⟨nofun, nofun⟩
      | ok isNew =>
          simp only [Tx.bind_apply]
          cases ran : insertCalls semantics network rest middle with
          | mk rested final =>
              cases rested with
              | error error =>
                  refine ⟨nofun, ?_⟩
                  rintro ⟨_, _, _, same, again, _⟩
                  cases same
                  rw [ran] at again
                  cases again
              | ok later =>
                  simp only [Tx.pure_apply, Prod.mk.injEq, Except.ok.injEq]
                  constructor
                  · rintro ⟨rfl, rfl⟩
                    exact ⟨isNew, middle, later, ⟨rfl, rfl⟩, ran, rfl⟩
                  · rintro ⟨_, _, _, ⟨rfl, rfl⟩, again, rfl⟩
                    rw [ran] at again
                    cases again
                    exact ⟨rfl, rfl⟩

theorem insertCalls_aborted {before after : Session} {calls inserted : List WrapCallEventDto}
    (dead : before.aborted = true)
    (ran : insertCalls semantics network calls before = (.ok inserted, after)) :
    calls = [] ∧ inserted = [] ∧ after = before := by
  cases calls with
  | nil =>
      cases ran
      exact ⟨rfl, rfl, rfl⟩
  | cons call rest =>
      obtain ⟨_, _, _, tried, -, -⟩ := insertCalls_cons.mp ran
      rw [tryInsertCall_aborted call dead] at tried
      cases tried

theorem tryInsertCall_cases {before after : Session} {call : WrapCallEventDto} {isNew : Bool}
    (live : before.aborted = false)
    (ran : tryInsertCall semantics network call before = (.ok isNew, after)) :
    (isNew = true ∧
        before.land.visible.check (.insertCall (network, call.callId) call.row) = .ok () ∧
        after = before.land.extend [.insertCall (network, call.callId) call.row]) ∨
      (isNew = false ∧ (before.land.visible.calls.lookup (network, call.callId)).isSome ∧
        after = { before.land with aborted := semantics = .transaction }) := by
  rw [tryInsertCall_apply call live] at ran
  cases checked : before.land.visible.check (.insertCall (network, call.callId) call.row) with
  | ok value =>
      rw [checked] at ran
      cases ran
      exact .inl ⟨rfl, rfl, rfl⟩
  | error error =>
      rw [checked] at ran
      dsimp only at ran
      by_cases unique : error = .uniqueViolation
      · subst unique
        rw [if_pos rfl] at ran
        cases ran
        exact .inr ⟨rfl, check_insertCall.mp checked, rfl⟩
      · rw [if_neg unique] at ran
        cases ran

theorem Session.land_live {before : Session} (live : before.aborted = false) :
    { before.land with aborted := false } = before.land := by
  cases before
  cases live
  rfl

theorem insertCalls_inserts {before after : Session} {calls inserted : List WrapCallEventDto}
    (live : before.aborted = false)
    (ran : insertCalls semantics network calls before = (.ok inserted, after))
    (alive : after.aborted = false) : Inserts network before calls inserted after := by
  induction calls generalizing before inserted with
  | nil =>
      cases ran
      exact .nil
  | cons call rest ih =>
      obtain ⟨isNew, middle, later, tried, rested, rfl⟩ := insertCalls_cons.mp ran
      rcases tryInsertCall_cases live tried with ⟨rfl, passes, rfl⟩ | ⟨rfl, present, rfl⟩
      · exact .fresh passes (ih live rested)
      · cases semantics with
        | statement =>
            refine .duplicate present (ih live ?_)
            rw [← Session.land_live live]
            exact rested
        | transaction =>
            obtain ⟨-, -, rfl⟩ := insertCalls_aborted rfl rested
            cases alive

theorem Inserts.subset {before after : Session} {calls inserted : List WrapCallEventDto}
    (inserts : Inserts network before calls inserted after) : inserted ⊆ calls := by
  induction inserts with
  | nil => exact List.Subset.refl _
  | fresh _ _ ih => exact List.cons_subset_cons _ ih
  | duplicate _ _ ih => exact List.subset_cons_of_subset _ ih

end Inserts

/-! ## The log of an ingestion -/

def SettlementEventDto.targetWrites (dto : SettlementEventDto) (network : String) : List Write :=
  (dto.sortedAgentPubkeys.flatMap fun pubkey =>
    [.ensureAgent pubkey ((dto.earliestTsByAgent.lookup pubkey).getD 0)]) ++
  dto.sortedEndpointSlugs.flatMap fun slug => [.ensureEndpoint (network, slug) dto.ts]

def insertWrites (network : String) (inserted : List WrapCallEventDto) : List Write :=
  inserted.map fun call => .insertCall (network, call.callId) call.row

def countWrites (dto : SettlementEventDto) (inserted : List WrapCallEventDto) : List Write :=
  dto.sortedAgentPubkeys.flatMap fun pubkey =>
    ((perAgent inserted).lookup pubkey).elim [] fun delta => [.countCalls pubkey delta]

/-- The shares are recorded unless the signature already has some. -/
def shareWrites (dto : SettlementEventDto) (network : String)
    (inserted : List WrapCallEventDto) (existingShares : Nat) : List Write :=
  let shares := aggregatedShares inserted
  if existingShares = 0 ∧ 0 < shares.length then
    (shares.map fun share =>
      .insertShare ⟨network, dto.signature, share.kind, share.pubkey, share.amountLamports⟩) ++
    (sortedRecipients shares).flatMap fun share =>
      [.earn (network, share.pubkey) share.kind share.amountLamports dto.ts]
  else []

def poolWrites (dto : SettlementEventDto) (network : String)
    (inserted : List WrapCallEventDto) : List Write :=
  dto.sortedEndpointSlugs.flatMap fun slug =>
    ((perEndpoint inserted).lookup slug).elim [] fun delta =>
      [.movePool (network, slug) delta dto.ts]

def aggregateWrites (dto : SettlementEventDto) (network : String)
    (inserted : List WrapCallEventDto) (existingShares : Nat) : List Write :=
  .ensureSettlement (network, dto.signature) dto.settlementRow ::
    (countWrites dto inserted ++
      (shareWrites dto network inserted existingShares ++ poolWrites dto network inserted))

def shareRows (writes : List Write) : List ShareRow :=
  writes.filterMap fun
    | .insertShare row => some row
    | _ => none

theorem shares_applyAll (db : Database) (writes : List Write) :
    (db.applyAll writes).shares = db.shares ++ shareRows writes := by
  induction writes generalizing db with
  | nil => exact (List.append_nil _).symm
  | cons write rest ih =>
      refine (ih (db.apply write)).trans ?_
      cases write with
      | insertShare row => simp [Database.apply, shareRows]
      | _ => rfl

section Members

variable {dto : SettlementEventDto} {network : String} {inserted : List WrapCallEventDto}
  {existingShares : Nat} {write : Write}

theorem mem_targetWrites (member : write ∈ dto.targetWrites network) :
    (∃ pubkey createdAt, write = .ensureAgent pubkey createdAt) ∨
      ∃ key now, write = .ensureEndpoint key now := by
  rcases List.mem_append.mp member with agent | endpoint
  · obtain ⟨_, -, same⟩ := List.mem_flatMap.mp agent
    exact .inl ⟨_, _, List.mem_singleton.mp same⟩
  · obtain ⟨_, -, same⟩ := List.mem_flatMap.mp endpoint
    exact .inr ⟨_, _, List.mem_singleton.mp same⟩

theorem mem_insertWrites (member : write ∈ insertWrites network inserted) :
    ∃ key row, write = .insertCall key row := by
  obtain ⟨_, -, same⟩ := List.mem_map.mp member
  exact ⟨_, _, same.symm⟩

theorem mem_countWrites (member : write ∈ countWrites dto inserted) :
    ∃ pubkey ∈ dto.sortedAgentPubkeys, ∃ delta, write = .countCalls pubkey delta := by
  obtain ⟨pubkey, listed, counted⟩ := List.mem_flatMap.mp member
  cases found : (perAgent inserted).lookup pubkey with
  | none => simp [found] at counted
  | some delta =>
      rw [found] at counted
      exact ⟨_, listed, _, List.mem_singleton.mp counted⟩

theorem mem_shareWrites (member : write ∈ shareWrites dto network inserted existingShares) :
    (∃ row, row.network = network ∧ row.settlementSig = dto.signature ∧
        write = .insertShare row) ∨
      ∃ key kind amount now, write = .earn key kind amount now := by
  unfold shareWrites at member
  dsimp only at member
  split at member
  · rcases List.mem_append.mp member with shared | earned
    · obtain ⟨_, -, same⟩ := List.mem_map.mp shared
      exact .inl ⟨_, rfl, rfl, same.symm⟩
    · obtain ⟨_, -, same⟩ := List.mem_flatMap.mp earned
      exact .inr ⟨_, _, _, _, List.mem_singleton.mp same⟩
  · cases member

theorem mem_poolWrites (member : write ∈ poolWrites dto network inserted) :
    ∃ slug ∈ dto.sortedEndpointSlugs, ∃ delta now,
      write = .movePool (network, slug) delta now := by
  obtain ⟨slug, listed, moved⟩ := List.mem_flatMap.mp member
  cases found : (perEndpoint inserted).lookup slug with
  | none => simp [found] at moved
  | some delta =>
      rw [found] at moved
      exact ⟨_, listed, _, _, List.mem_singleton.mp moved⟩

end Members

theorem shareRows_countWrites (dto : SettlementEventDto) (inserted : List WrapCallEventDto) :
    shareRows (countWrites dto inserted) = [] := by
  rw [shareRows, List.filterMap_eq_nil_iff]
  intro write member
  obtain ⟨_, -, _, rfl⟩ := mem_countWrites member
  rfl

section Statements

variable {semantics : FailureSemantics} {dto : SettlementEventDto} {network : String}
  {inserted : List WrapCallEventDto} {before : Session}

theorem prepareTargets_performs (live : before.aborted = false) :
    Tx.Performs (prepareTargets semantics dto network) before (dto.targetWrites network) :=
  .bind (.forM _ live fun _ _ _ alive => .write semantics alive)
    (.forM _ live fun _ _ _ alive => .write semantics alive)

theorem countAgents_performs (live : before.aborted = false) :
    Tx.Performs (countAgents semantics dto inserted) before (countWrites dto inserted) := by
  refine .forM _ live fun pubkey _ session alive => ?_
  cases (perAgent inserted).lookup pubkey with
  | none => exact .pure
  | some delta => exact .write semantics alive

theorem movePools_performs (live : before.aborted = false) :
    Tx.Performs (movePools semantics dto network inserted) before
      (poolWrites dto network inserted) := by
  refine .forM _ live fun slug _ session alive => ?_
  cases (perEndpoint inserted).lookup slug with
  | none => exact .pure
  | some delta => exact .write semantics alive

theorem recordShares_performs (live : before.aborted = false) {existingShares : Nat}
    (existing : (before.visible.sharesOf network dto.signature).length = existingShares) :
    Tx.Performs (recordShares semantics dto network inserted) before
      (shareWrites dto network inserted existingShares) := by
  refine .read live ?_
  rw [existing]
  unfold shareWrites
  dsimp only
  split
  · exact .bind (.write semantics live)
      (.forM _ live fun _ _ _ alive => .write semantics alive)
  · exact .pure

theorem recordAggregates_performs (live : before.aborted = false) :
    Tx.Performs (recordAggregates semantics dto network inserted) before
      (aggregateWrites dto network inserted
        (before.visible.sharesOf network dto.signature).length) := by
  let settled := before.extend [.ensureSettlement (network, dto.signature) dto.settlementRow]
  have kept : ((settled.extend (countWrites dto inserted)).visible.sharesOf network
      dto.signature).length = (before.visible.sharesOf network dto.signature).length := by
    simp only [settled, Session.visible_extend, Database.sharesOf, shares_applyAll,
      shareRows_countWrites, List.append_nil]
    simp [shareRows]
  have counted : Tx.Performs (countAgents semantics dto inserted) settled
      (countWrites dto inserted) := countAgents_performs live
  have shared : Tx.Performs (recordShares semantics dto network inserted)
      (settled.extend (countWrites dto inserted))
      (shareWrites dto network inserted (before.visible.sharesOf network dto.signature).length) :=
    recordShares_performs (by exact live) kept
  exact (Tx.Performs.write semantics live).bind
    (counted.bind (shared.bind (movePools_performs live)))

/-! ## Ingestions that succeed -/

theorem Tx.bind_eq_ok {α β : Type} {program : Tx α} {next : α → Tx β} {result : β}
    {after : Session} :
    (program >>= next) before = (.ok result, after) ↔
      ∃ value middle, program before = (.ok value, middle) ∧
        next value middle = (.ok result, after) := by
  rw [Tx.bind_apply]
  cases program before with
  | mk outcome middle =>
      cases outcome with
      | error error => exact ⟨nofun, nofun⟩
      | ok value =>
          constructor
          · intro done
            exact ⟨value, middle, rfl, done⟩
          · rintro ⟨_, _, same, done⟩
            cases same
            exact done

/-- An ingestion that succeeds ends right after the inserts, or it inserted
something in a live session and all its aggregates were admitted. -/
theorem ingestCalls_eq_ok {result : IngestResult} {after : Session}
    (live : before.aborted = false) :
    ingestCalls semantics dto network before = (.ok result, after) ↔
      before.visible.Admits (dto.targetWrites network) ∧ ∃ inserted middle,
        insertCalls semantics network dto.calls (before.extend (dto.targetWrites network)) =
          (.ok inserted, middle) ∧
        result = ⟨inserted.length, inserted⟩ ∧
        if inserted = [] then after = middle
        else middle.aborted = false ∧
          middle.visible.Admits (aggregateWrites dto network inserted
            (middle.visible.sharesOf network dto.signature).length) ∧
          after = middle.extend (aggregateWrites dto network inserted
            (middle.visible.sharesOf network dto.signature).length) := by
  have prepared : ∀ middle, prepareTargets semantics dto network before = (.ok (), middle) ↔ _ :=
    prepareTargets_performs live
  rw [ingestCalls, Tx.bind_eq_ok]
  constructor
  · rintro ⟨⟨⟩, ready, targets, rest⟩
    obtain ⟨admitted, rfl⟩ := (prepared ready).mp targets
    obtain ⟨inserted, middle, ran, final⟩ := Tx.bind_eq_ok.mp rest
    refine ⟨admitted, inserted, middle, ran, ?_⟩
    cases inserted with
    | nil =>
        cases final
        exact ⟨rfl, rfl⟩
    | cons first others =>
        obtain ⟨⟨⟩, _, recorded, same⟩ := Tx.bind_eq_ok.mp final
        cases same
        have alive : middle.aborted = false := by
          cases dead : middle.aborted with
          | false => rfl
          | true =>
              obtain ⟨⟨⟩, _, wrote, -⟩ := Tx.bind_eq_ok.mp recorded
              rw [Tx.write, if_pos dead] at wrote
              cases wrote
        exact ⟨rfl, alive, (recordAggregates_performs alive _).mp recorded⟩
  · rintro ⟨admitted, inserted, middle, ran, rfl, final⟩
    refine ⟨(), _, (prepared _).mpr ⟨admitted, rfl⟩, Tx.bind_eq_ok.mpr ⟨inserted, middle, ran, ?_⟩⟩
    cases inserted with
    | nil =>
        cases final
        rfl
    | cons first others =>
        obtain ⟨alive, admits, rfl⟩ := final
        exact Tx.bind_eq_ok.mpr ⟨(), _, (recordAggregates_performs alive _).mpr ⟨admits, rfl⟩, rfl⟩

end Statements

/-! ## Undisturbed ingestions -/

def Database.newCalls (db : Database) (network : String) :
    List WrapCallEventDto → List WrapCallEventDto
  | [] => []
  | call :: rest =>
      if (db.calls.lookup (network, call.callId)).isSome then db.newCalls network rest
      else call :: (db.apply (.insertCall (network, call.callId) call.row)).newCalls network rest

theorem Inserts.undisturbed {network : String} {before after : Session}
    {calls inserted : List WrapCallEventDto}
    (inserts : Inserts network before calls inserted after) (quiet : before.arrivals = []) :
    before.visible.Admits (insertWrites network inserted) ∧
      after = before.extend (insertWrites network inserted) := by
  induction inserts with
  | nil => exact ⟨rfl, (Session.extend_nil _).symm⟩
  | @fresh session after call rest inserted passes later ih =>
      rw [Session.land_of_quiet quiet] at passes ih
      obtain ⟨admits, final⟩ := ih quiet
      rw [Session.visible_extend] at admits
      refine ⟨admits_cons.mpr ⟨passes, admits⟩, ?_⟩
      rw [final, Session.extend_extend]
      rfl
  | duplicate present later ih =>
      rw [Session.land_of_quiet quiet] at ih
      exact ih quiet

theorem insertCalls_undisturbed {semantics : FailureSemantics} {network : String}
    {before after : Session} {calls inserted : List WrapCallEventDto}
    (live : before.aborted = false) (quiet : before.arrivals = [])
    (ran : insertCalls semantics network calls before = (.ok inserted, after)) :
    inserted = before.visible.newCalls network calls ∧ after.committed = before.committed := by
  induction calls generalizing before inserted with
  | nil =>
      cases ran
      exact ⟨rfl, rfl⟩
  | cons call rest ih =>
      obtain ⟨isNew, middle, later, tried, rested, rfl⟩ := insertCalls_cons.mp ran
      rcases tryInsertCall_cases live tried with ⟨rfl, passes, rfl⟩ | ⟨rfl, present, rfl⟩
      · rw [Session.land_of_quiet quiet] at passes rested
        obtain ⟨same, kept⟩ := ih (by exact live) (by exact quiet) rested
        rw [Session.visible_extend] at same
        refine ⟨?_, kept⟩
        rw [Database.newCalls, lookup_of_check passes, same]
        rfl
      · rw [Session.land_of_quiet quiet] at present rested
        rw [Database.newCalls, if_pos present]
        cases semantics with
        | statement =>
            have followed := ih (by rfl) (by exact quiet) rested
            exact followed
        | transaction =>
            obtain ⟨rfl, rfl, rfl⟩ := insertCalls_aborted rfl rested
            exact ⟨rfl, rfl⟩

theorem newCalls_congr {db other : Database} (same : db.calls = other.calls) (network : String)
    (calls : List WrapCallEventDto) : db.newCalls network calls = other.newCalls network calls := by
  induction calls generalizing db other with
  | nil => rfl
  | cons call rest ih =>
      have added : (db.apply (.insertCall (network, call.callId) call.row)).calls =
          (other.apply (.insertCall (network, call.callId) call.row)).calls := by
        simp only [Database.apply, same]
      rw [Database.newCalls, Database.newCalls, same, ih same, ih added]

theorem newCalls_subset (db : Database) (network : String) (calls : List WrapCallEventDto) :
    db.newCalls network calls ⊆ calls := by
  induction calls generalizing db with
  | nil => exact List.Subset.refl _
  | cons call rest ih =>
      unfold Database.newCalls
      split
      · exact List.subset_cons_of_subset _ (ih db)
      · exact List.cons_subset_cons _ (ih _)

theorem calls_targetWrites (db : Database) (dto : SettlementEventDto) (network : String) :
    (db.applyAll (dto.targetWrites network)).calls = db.calls := by
  have kept : ∀ (writes : List Write) (start : Database),
      (∀ write ∈ writes, ∀ before : Database, (before.apply write).calls = before.calls) →
        (start.applyAll writes).calls = start.calls := by
    intro writes
    induction writes with
    | nil => exact fun _ _ => rfl
    | cons write rest ih =>
        intro start each
        exact (ih _ fun other member => each other (List.mem_cons_of_mem _ member)).trans
          (each write List.mem_cons_self start)
  refine kept _ db fun write member before => ?_
  rcases mem_targetWrites member with ⟨_, _, rfl⟩ | ⟨_, _, rfl⟩
  · rfl
  · rfl

def SettlementEventDto.log (dto : SettlementEventDto) (network : String)
    (inserted : List WrapCallEventDto) (existingShares : Nat) : List Write :=
  dto.targetWrites network ++ insertWrites network inserted ++
    if inserted = [] then [] else aggregateWrites dto network inserted existingShares

theorem shareRows_targetWrites (dto : SettlementEventDto) (network : String) :
    shareRows (dto.targetWrites network) = [] := by
  rw [shareRows, List.filterMap_eq_nil_iff]
  intro write member
  rcases mem_targetWrites member with ⟨_, _, rfl⟩ | ⟨_, _, rfl⟩
  · rfl
  · rfl

theorem shareRows_insertWrites (network : String) (inserted : List WrapCallEventDto) :
    shareRows (insertWrites network inserted) = [] := by
  rw [shareRows, List.filterMap_eq_nil_iff]
  intro write member
  obtain ⟨_, _, rfl⟩ := mem_insertWrites member
  rfl

theorem ingestCalls_undisturbed {semantics : FailureSemantics} {dto : SettlementEventDto}
    {network : String} {db : Database} {result : IngestResult} {after : Session}
    (ran : ingestCalls semantics dto network ⟨db, [], false, []⟩ = (.ok result, after)) :
    result.accepted = result.insertedCalls.length ∧
    result.insertedCalls = db.newCalls network dto.calls ∧
    ((result.insertedCalls = [] ∧ (if after.aborted then after.committed else after.visible) = db) ∨
      (db.Admits (dto.log network result.insertedCalls
          (db.sharesOf network dto.signature).length) ∧
        (if after.aborted then after.committed else after.visible) =
          db.applyAll (dto.log network result.insertedCalls
            (db.sharesOf network dto.signature).length))) := by
  obtain ⟨targets, inserted, middle, inserts, rfl, rest⟩ := (ingestCalls_eq_ok rfl).mp ran
  have start : (⟨db, [], false, []⟩ : Session).visible = db := rfl
  obtain ⟨new, committed⟩ := insertCalls_undisturbed rfl rfl inserts
  rw [Session.visible_extend, start] at new
  refine ⟨rfl, new.trans (newCalls_congr (calls_targetWrites db dto network) _ _), ?_⟩
  cases alive : middle.aborted with
  | true =>
      by_cases nothing : inserted = []
      · rw [if_pos nothing] at rest
        subst rest
        rw [alive, if_pos rfl]
        exact .inl ⟨nothing, committed⟩
      · rw [if_neg nothing, alive] at rest
        cases rest.1
  | false =>
      refine .inr ?_
      obtain ⟨admits, rfl⟩ := (insertCalls_inserts rfl inserts alive).undisturbed rfl
      rw [Session.visible_extend, start] at admits
      have existing : (((db.applyAll (dto.targetWrites network)).applyAll
          (insertWrites network inserted)).sharesOf network dto.signature) =
            db.sharesOf network dto.signature := by
        simp only [Database.sharesOf, shares_applyAll, shareRows_targetWrites,
          shareRows_insertWrites, List.append_nil]
      have written : db.Admits (dto.targetWrites network ++ insertWrites network inserted) :=
        admits_append.mpr ⟨targets, admits⟩
      unfold SettlementEventDto.log
      by_cases nothing : inserted = []
      · rw [if_pos nothing] at rest ⊢
        subst rest
        rw [List.append_nil, alive, if_neg (by decide), Session.visible_extend,
          Session.visible_extend, start, Database.applyAll_append]
        exact ⟨written, rfl⟩
      · rw [if_neg nothing] at rest ⊢
        obtain ⟨-, aggregated, rfl⟩ := rest
        rw [Session.visible_extend, Session.visible_extend, start, existing] at aggregated
        rw [Session.extend_aborted, alive, if_neg (by decide), Session.visible_extend,
          Session.visible_extend, Session.visible_extend, start, existing,
          Database.applyAll_append, Database.applyAll_append]
        refine ⟨admits_append.mpr ⟨written, ?_⟩, rfl⟩
        rw [Database.applyAll_append]
        exact aggregated

/-- An ingestion that succeeds while no other transaction commits reports the new
calls and writes their log, unless it was aborted and inserted nothing. -/
theorem ingest_undisturbed {semantics : FailureSemantics} {dto : SettlementEventDto}
    {db : Database} {result : IngestResult}
    (accepted : (ingest semantics dto db []).result = .ok result) :
    result.accepted = result.insertedCalls.length ∧
    result.insertedCalls = db.newCalls dto.batchNetwork dto.calls ∧
    ((result.insertedCalls = [] ∧ (ingest semantics dto db []).database = db) ∨
      (db.Admits (dto.log dto.batchNetwork result.insertedCalls
          (db.sharesOf dto.batchNetwork dto.signature).length) ∧
        (ingest semantics dto db []).database =
          db.applyAll (dto.log dto.batchNetwork result.insertedCalls
            (db.sharesOf dto.batchNetwork dto.signature).length))) := by
  unfold ingest at accepted ⊢
  cases checked : dto.checkContract with
  | error error =>
      rw [checked] at accepted
      cases accepted
  | ok value =>
      rw [checked] at accepted
      dsimp only at accepted ⊢
      unfold transaction at accepted ⊢
      cases ran : ingestCalls semantics dto dto.batchNetwork ⟨db, [], false, []⟩ with
      | mk outcome session =>
          cases outcome with
          | error error =>
              rw [ran] at accepted
              cases accepted
          | ok final =>
              rw [ran] at accepted
              cases accepted
              exact ingestCalls_undisturbed ran

end PactNetwork.Indexer
