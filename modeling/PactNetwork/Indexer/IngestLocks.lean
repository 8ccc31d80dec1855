import Mathlib.Data.Prod.Lex
import Mathlib.Data.String.Basic
import PactNetwork.Foundation.LockOrder
import PactNetwork.Indexer.Duplicates

/-!
# Concurrent ingestion

Ingestions as statements that interleave and lock the rows they write. Agents,
endpoints, earnings and pools are written in sorted order, calls under the lock
of the agent they name.
-/

set_option autoImplicit false

namespace PactNetwork.Indexer

open LockOrder

/-! ## The statements of an ingestion -/

section Statements

abbrev Statements (α : Type) := Program Database Write DbError α

def prepareTargetsStatements (dto : SettlementEventDto) (network : String) : Statements Unit := do
  dto.sortedAgentPubkeys.forM fun pubkey =>
    .statement [.ensureAgent pubkey ((dto.earliestTsByAgent.lookup pubkey).getD 0)]
  dto.sortedEndpointSlugs.forM fun slug =>
    .statement [.ensureEndpoint (network, slug) dto.ts]

def tryInsertCallStatements (network : String) (call : WrapCallEventDto) : Statements Bool :=
  .attempt (.insertCall (network, call.callId) call.row) fun
    | .ok () => .done true
    | .error error => if error = .uniqueViolation then .done false else .throws error

def insertCallsStatements (network : String) :
    List WrapCallEventDto → Statements (List WrapCallEventDto)
  | [] => pure []
  | call :: rest => do
      let inserted ← tryInsertCallStatements network call
      let later ← insertCallsStatements network rest
      return if inserted then call :: later else later

def countAgentsStatements (dto : SettlementEventDto) (inserted : List WrapCallEventDto) :
    Statements Unit :=
  dto.sortedAgentPubkeys.forM fun pubkey =>
    match (perAgent inserted).lookup pubkey with
    | none => pure ()
    | some delta => .statement [.countCalls pubkey delta]

def recordSharesStatements (dto : SettlementEventDto) (network : String)
    (inserted : List WrapCallEventDto) : Statements Unit := do
  let shares := aggregatedShares inserted
  let existingShares ← .read fun db => (db.sharesOf network dto.signature).length
  if existingShares = 0 ∧ 0 < shares.length then
    .statement (shares.map fun share =>
      .insertShare ⟨network, dto.signature, share.kind, share.pubkey, share.amountLamports⟩)
    (sortedRecipients shares).forM fun share =>
      .statement [.earn (network, share.pubkey) share.kind share.amountLamports dto.ts]
  else pure ()

def movePoolsStatements (dto : SettlementEventDto) (network : String)
    (inserted : List WrapCallEventDto) : Statements Unit :=
  dto.sortedEndpointSlugs.forM fun slug =>
    match (perEndpoint inserted).lookup slug with
    | none => pure ()
    | some delta => .statement [.movePool (network, slug) delta dto.ts]

def recordAggregatesStatements (dto : SettlementEventDto) (network : String)
    (inserted : List WrapCallEventDto) : Statements Unit := do
  .statement [.ensureSettlement (network, dto.signature) dto.settlementRow]
  countAgentsStatements dto inserted
  recordSharesStatements dto network inserted
  movePoolsStatements dto network inserted

/-- The callback of `prisma.$transaction`, statement by statement. -/
def ingestStatements (dto : SettlementEventDto) (network : String) : Statements IngestResult := do
  prepareTargetsStatements dto network
  let insertedCalls ← insertCallsStatements network dto.calls
  if insertedCalls.isEmpty then return ⟨0, []⟩
  else
    recordAggregatesStatements dto network insertedCalls
    return ⟨insertedCalls.length, insertedCalls⟩

end Statements

/-! ## The same transaction -/

/-- Statements in a session of their own, with what others commit before each caught one. -/
def runStatements {α : Type} (semantics : FailureSemantics) : Statements α → Tx α
  | .done result => pure result
  | .throws error => fun session => (.error error, session)
  | .query next => fun session =>
      if session.aborted then (.error .inFailedTransaction, session)
      else runStatements semantics (next session.visible) session
  | .write writes next => Tx.write semantics writes >>= fun _ => runStatements semantics next
  | .attempt change next => Tx.landing fun session =>
      let (answer, later) := Tx.write semantics [change] session
      runStatements semantics (next answer) later

section SameTransaction

variable {semantics : FailureSemantics} {α β : Type}

theorem Tx.bind_assoc {γ : Type} (program : Tx α) (next : α → Tx β) (last : β → Tx γ) :
    program >>= next >>= last = program >>= fun result => next result >>= last := by
  funext session
  rw [Tx.bind_apply, Tx.bind_apply, Tx.bind_apply]
  cases program session with
  | mk answer after =>
      cases answer with
      | error error => rfl
      | ok result => rfl

variable (semantics) in
theorem runStatements_query (next : Database → Statements α) (session : Session) :
    runStatements semantics (.query next) session =
      if session.aborted then (.error .inFailedTransaction, session)
      else runStatements semantics (next session.visible) session := rfl

theorem runStatements_bind (program : Statements α) (next : α → Statements β) :
    runStatements semantics (program >>= next) =
      runStatements semantics program >>= fun result => runStatements semantics (next result) := by
  induction program with
  | done result => rfl
  | throws error => rfl
  | query rest ih =>
      funext session
      have whole := runStatements_query semantics (fun state => rest state >>= next) session
      rw [Tx.bind_apply, runStatements_query]
      by_cases dead : session.aborted = true
      · rw [if_pos dead] at whole ⊢
        exact whole
      · rw [if_neg dead] at whole ⊢
        exact whole.trans (congrFun (ih session.visible) session)
  | write writes rest ih => exact (congrArg _ (funext fun _ => ih)).trans (Tx.bind_assoc ..).symm
  | attempt change rest ih =>
      funext session
      exact congrFun (ih (Tx.write semantics [change] session.land).1) _

theorem runStatements_statement (writes : List Write) :
    runStatements semantics (.statement writes) = Tx.write semantics writes := by
  funext session
  rw [Program.statement, runStatements, Tx.bind_apply]
  cases Tx.write semantics writes session with
  | mk answer after =>
      cases answer with
      | error error => rfl
      | ok result => rfl

theorem runStatements_read (query : Database → α) :
    runStatements semantics (.read query) = Tx.read query := rfl

theorem runStatements_forM {items : List β} {step : β → Statements Unit} {step' : β → Tx Unit}
    (steps : ∀ item, runStatements semantics (step item) = step' item) :
    runStatements semantics (items.forM step) = items.forM step' := by
  rw [List.forM_eq_forM, List.forM_eq_forM]
  induction items with
  | nil => rfl
  | cons item rest ih =>
      rw [List.forM_cons, List.forM_cons, runStatements_bind, steps item]
      exact congrArg _ (funext fun _ => ih)

theorem runStatements_prepareTargets (dto : SettlementEventDto) (network : String) :
    runStatements semantics (prepareTargetsStatements dto network) =
      prepareTargets semantics dto network := by
  rw [prepareTargetsStatements, runStatements_bind]
  exact congrArg₂ _ (runStatements_forM fun _ => runStatements_statement _)
    (funext fun _ => runStatements_forM fun _ => runStatements_statement _)

theorem runStatements_tryInsertCall (network : String) (call : WrapCallEventDto) :
    runStatements semantics (tryInsertCallStatements network call) =
      tryInsertCall semantics network call := by
  funext session
  rw [tryInsertCallStatements, runStatements, tryInsertCall]
  unfold Tx.landing Tx.catching
  rw [Tx.bind_apply]
  dsimp only
  cases Tx.write semantics [.insertCall (network, call.callId) call.row] session.land with
  | mk answer after =>
      cases answer with
      | ok result => rfl
      | error error =>
          dsimp only
          by_cases unique : error = .uniqueViolation
          · rw [if_pos unique, if_pos unique]
            rfl
          · rw [if_neg unique, if_neg unique]
            rfl

theorem runStatements_insertCalls (network : String) (calls : List WrapCallEventDto) :
    runStatements semantics (insertCallsStatements network calls) =
      insertCalls semantics network calls := by
  induction calls with
  | nil => rfl
  | cons call rest ih =>
      rw [insertCallsStatements, insertCalls, runStatements_bind, runStatements_tryInsertCall]
      refine congrArg _ (funext fun inserted => ?_)
      rw [runStatements_bind, ih]
      rfl

theorem runStatements_recordShares (dto : SettlementEventDto) (network : String)
    (inserted : List WrapCallEventDto) :
    runStatements semantics (recordSharesStatements dto network inserted) =
      recordShares semantics dto network inserted := by
  rw [recordSharesStatements, recordShares, runStatements_bind, runStatements_read]
  refine congrArg _ (funext fun existingShares => ?_)
  by_cases records : existingShares = 0 ∧ 0 < (aggregatedShares inserted).length
  · rw [if_pos records, if_pos records, runStatements_bind, runStatements_statement]
    exact congrArg _ (funext fun _ => runStatements_forM fun _ => runStatements_statement _)
  · rw [if_neg records, if_neg records]
    rfl

theorem runStatements_recordAggregates (dto : SettlementEventDto) (network : String)
    (inserted : List WrapCallEventDto) :
    runStatements semantics (recordAggregatesStatements dto network inserted) =
      recordAggregates semantics dto network inserted := by
  have counts : runStatements semantics (countAgentsStatements dto inserted) =
      countAgents semantics dto inserted := by
    refine runStatements_forM fun pubkey => ?_
    cases (perAgent inserted).lookup pubkey with
    | none => rfl
    | some delta => exact runStatements_statement _
  have moves : runStatements semantics (movePoolsStatements dto network inserted) =
      movePools semantics dto network inserted := by
    refine runStatements_forM fun slug => ?_
    cases (perEndpoint inserted).lookup slug with
    | none => rfl
    | some delta => exact runStatements_statement _
  rw [recordAggregatesStatements, recordAggregates, runStatements_bind, runStatements_statement]
  refine congrArg _ (funext fun _ => ?_)
  rw [runStatements_bind, counts]
  refine congrArg _ (funext fun _ => ?_)
  rw [runStatements_bind, runStatements_recordShares, moves]

theorem runStatements_ingest (dto : SettlementEventDto) (network : String) :
    runStatements semantics (ingestStatements dto network) =
      ingestCalls semantics dto network := by
  rw [ingestStatements, ingestCalls, runStatements_bind, runStatements_prepareTargets]
  refine congrArg _ (funext fun _ => ?_)
  rw [runStatements_bind, runStatements_insertCalls]
  refine congrArg _ (funext fun inserted => ?_)
  cases inserted with
  | nil => rfl
  | cons call rest =>
      change runStatements semantics (recordAggregatesStatements dto network (call :: rest) >>=
        fun _ => _) = _
      rw [runStatements_bind, runStatements_recordAggregates]
      rfl

end SameTransaction

/-! ## Rows -/

inductive WrittenRow where
  | agent (pubkey : String)
  | endpoint (key : Key)
  | call (key : Key)
  | settlement (key : Key)
  | share (network signature : String) (kind : Nat) (pubkey : String)
  | earnings (key : Key)
  | pool (key : Key)
  deriving DecidableEq

def Write.row : Write → WrittenRow
  | .ensureAgent pubkey _ | .countCalls pubkey _ => .agent pubkey
  | .ensureEndpoint key _ => .endpoint key
  | .insertCall key _ => .call key
  | .ensureSettlement key _ => .settlement key
  | .insertShare row => .share row.network row.settlementSig row.recipientKind row.recipientPubkey
  | .earn key _ _ _ => .earnings key
  | .movePool key _ _ => .pool key

def ingestEngine (semantics : FailureSemantics) : Engine Database Write DbError WrittenRow where
  check := Database.check
  apply := Database.apply
  row := Write.row
  aborts := match semantics with
    | .statement => none
    | .transaction => some .inFailedTransaction

/-! ## The order -/

namespace WrittenRow

def level : WrittenRow → Nat
  | .agent _ => 0
  | .endpoint _ => 1
  | .call _ => 2
  | .settlement _ => 3
  | .share _ _ _ _ => 4
  | .earnings _ => 5
  | .pool _ => 6

def key : WrittenRow → Key
  | .agent pubkey => ("", pubkey)
  | .endpoint key | .call key | .settlement key | .earnings key | .pool key => key
  | .share network signature _ _ => (network, signature)

def guard (agentOf : Key → String) : WrittenRow → Option WrittenRow
  | .call key => some (.agent (agentOf key))
  | .share network signature _ _ => some (.settlement (network, signature))
  | .agent _ | .endpoint _ | .settlement _ | .earnings _ | .pool _ => none

end WrittenRow

def ingestOrder (agentOf : Key → String) : Order WrittenRow (Nat ×ₗ (String ×ₗ String)) where
  guard := WrittenRow.guard agentOf
  rank row := toLex (row.level, toLex row.key)

section Ordered

variable {agentOf : Key → String} {held : Finset WrittenRow} {network : String}

def Under (agentOf : Key → String) (level : Nat) (held : Finset WrittenRow) : Prop :=
  ∀ row ∈ held, row.guard agentOf = none → row.level < level

theorem Under.mono {level higher : Nat} (under : Under agentOf level held) (le : level ≤ higher) :
    Under agentOf higher held :=
  fun row member free => (under row member free).trans_le le

theorem Under.union {level : Nat} {rows : List WrittenRow} (under : Under agentOf level held)
    (more : ∀ row ∈ rows, row.guard agentOf = none → row.level < level) :
    Under agentOf level (held ∪ rows.toFinset) := by
  intro row member free
  rcases Finset.mem_union.mp member with before | now
  · exact under row before free
  · exact more row (List.mem_toFinset.mp now) free

structure Named (agentOf : Key → String) (level : Nat) (rowOf : String → WrittenRow) : Prop where
  free : ∀ name, (rowOf name).guard agentOf = none
  level : ∀ name, (rowOf name).level = level
  key : ∃ first, ∀ name, (rowOf name).key = (first, name)

theorem Named.agent : Named agentOf 0 .agent := ⟨fun _ => rfl, fun _ => rfl, "", fun _ => rfl⟩

theorem Named.endpoint (network : String) :
    Named agentOf 1 fun slug => .endpoint (network, slug) :=
  ⟨fun _ => rfl, fun _ => rfl, network, fun _ => rfl⟩

theorem Named.settlement (network : String) :
    Named agentOf 3 fun signature => .settlement (network, signature) :=
  ⟨fun _ => rfl, fun _ => rfl, network, fun _ => rfl⟩

theorem Named.earnings (network : String) :
    Named agentOf 5 fun pubkey => .earnings (network, pubkey) :=
  ⟨fun _ => rfl, fun _ => rfl, network, fun _ => rfl⟩

theorem Named.pool (network : String) :
    Named agentOf 6 fun slug => .pool (network, slug) :=
  ⟨fun _ => rfl, fun _ => rfl, network, fun _ => rfl⟩

theorem Named.upto {level : Nat} {rowOf : String → WrittenRow}
    (named : Named agentOf level rowOf) {left right : String} (le : left ≤ right) :
    (ingestOrder agentOf).Upto (rowOf left) (rowOf right) := by
  obtain ⟨first, keys⟩ := named.key
  rcases le.lt_or_eq with before | same
  · refine .inr (Prod.Lex.toLex_lt_toLex.mpr (.inr ⟨?_, Prod.Lex.toLex_lt_toLex.mpr ?_⟩))
    · exact (named.level left).trans (named.level right).symm
    · rw [keys, keys]
      exact .inr ⟨rfl, before⟩
  · exact .inl (congrArg rowOf same)

theorem Named.takes {level : Nat} {rowOf : String → WrittenRow}
    (named : Named agentOf level rowOf) {names : List String} {rows : List WrittenRow}
    (sorted : names.Pairwise (· ≤ ·)) (among : rows.Sublist (names.map rowOf))
    (under : Under agentOf level held) : (ingestOrder agentOf).Takes held rows := by
  have name : ∀ row ∈ rows, ∃ name, rowOf name = row := by
    intro row member
    obtain ⟨name, -, same⟩ := List.mem_map.mp (among.subset member)
    exact ⟨name, same⟩
  refine Order.takes_of_sorted ?_ ?_ ?_
  · exact (sorted.map rowOf fun _ _ le => named.upto le).sublist among
  · intro row member
    obtain ⟨name, rfl⟩ := name row member
    exact named.free name
  · intro row member other inside free
    obtain ⟨name, rfl⟩ := name row member
    refine .inr (Prod.Lex.toLex_lt_toLex.mpr (.inl ?_))
    rw [named.level name]
    exact under other inside free

theorem rows_sublist {β : Type} (items : List β) {nameOf : β → String} {writes : β → List Write}
    {rowOf : String → WrittenRow}
    (one : ∀ item, ((writes item).map Write.row).Sublist [rowOf (nameOf item)]) :
    ((items.flatMap writes).map Write.row).Sublist ((items.map nameOf).map rowOf) := by
  induction items with
  | nil => exact List.Sublist.slnil
  | cons item rest ih =>
      rw [List.flatMap_cons, List.map_append]
      exact (one item).append ih

theorem Named.follows_forM {β : Type} {level : Nat} {rowOf : String → WrittenRow}
    (named : Named agentOf level rowOf) (items : List β) (nameOf : β → String)
    {step : β → Statements Unit} (writes : β → List Write)
    (steps : ∀ item, step item = Program.emit (writes item))
    (one : ∀ item, ((writes item).map Write.row).Sublist [rowOf (nameOf item)])
    (sorted : (items.map nameOf).Pairwise (· ≤ ·)) (under : Under agentOf level held) :
    (items.forM step).Follows (ingestOrder agentOf) Write.row held fun _ later =>
      Under agentOf (level + 1) later ∧ held ⊆ later ∧
        ∀ item ∈ items, ∀ write ∈ writes item, write.row ∈ later := by
  have among := rows_sublist items one
  rw [Program.forM_eq_emit writes fun item _ => steps item, Program.follows_emit]
  refine ⟨named.takes sorted among under, ?_, Finset.subset_union_left, ?_⟩
  · refine (under.mono level.le_succ).union fun row member _ => ?_
    obtain ⟨name, -, rfl⟩ := List.mem_map.mp (among.subset member)
    exact (named.level name).trans_lt level.lt_succ_self
  · intro item inside write member
    refine Finset.mem_union_right _ (List.mem_toFinset.mpr (List.mem_map_of_mem ?_))
    exact List.mem_flatMap.mpr ⟨item, inside, member⟩

/-! ## Ingestion keeps to the order -/

variable {dto : SettlementEventDto} {inserted : List WrapCallEventDto}

def HoldsAgents (dto : SettlementEventDto) (held : Finset WrittenRow) : Prop :=
  ∀ pubkey ∈ dto.sortedAgentPubkeys, .agent pubkey ∈ held

theorem sortedAgentPubkeys_sorted (dto : SettlementEventDto) :
    dto.sortedAgentPubkeys.Pairwise (· ≤ ·) :=
  List.pairwise_insertionSort _ _

theorem sortedEndpointSlugs_sorted (dto : SettlementEventDto) :
    dto.sortedEndpointSlugs.Pairwise (· ≤ ·) :=
  List.pairwise_insertionSort _ _

theorem sortedRecipients_sorted (shares : List RecipientShareDto) :
    ((sortedRecipients shares).map (·.pubkey)).Pairwise (· ≤ ·) :=
  (List.pairwise_insertionSort _ shares).map _ fun _ _ le => le

theorem follows_prepareTargets :
    (prepareTargetsStatements dto network).Follows (ingestOrder agentOf) Write.row ∅
      fun _ later => Under agentOf 2 later ∧ HoldsAgents dto later := by
  have nothing : Under agentOf 0 ∅ := fun row member => absurd member (Finset.notMem_empty _)
  have agents := Named.agent.follows_forM dto.sortedAgentPubkeys id
    (fun pubkey => [.ensureAgent pubkey ((dto.earliestTsByAgent.lookup pubkey).getD 0)])
    (fun _ => rfl) (fun _ => List.Sublist.refl _)
    (by rw [List.map_id]; exact sortedAgentPubkeys_sorted dto) nothing
  rw [prepareTargetsStatements, Program.follows_bind]
  refine agents.mono fun _ held phase => ?_
  obtain ⟨under, -, covers⟩ := phase
  have endpoints := (Named.endpoint network).follows_forM dto.sortedEndpointSlugs id
    (fun slug => [.ensureEndpoint (network, slug) dto.ts]) (fun _ => rfl)
    (fun _ => List.Sublist.refl _)
    (by rw [List.map_id]; exact sortedEndpointSlugs_sorted dto) under
  refine endpoints.mono fun _ later phase => ⟨phase.1, fun pubkey member => ?_⟩
  exact phase.2.1 (covers pubkey member _ List.mem_cons_self)

theorem follows_insertCalls {level : Nat} {calls : List WrapCallEventDto}
    (under : Under agentOf level held)
    (guarded : ∀ call ∈ calls, .agent (agentOf (network, call.callId)) ∈ held) :
    (insertCallsStatements network calls).Follows (ingestOrder agentOf) Write.row held
      fun _ later => Under agentOf level later ∧ held ⊆ later := by
  induction calls generalizing held with
  | nil => exact ⟨under, Finset.Subset.refl _⟩
  | cons call rest ih =>
      have larger : held ⊆ held ∪ [WrittenRow.call (network, call.callId)].toFinset :=
        Finset.subset_union_left
      have kept : Under agentOf level
          (held ∪ [WrittenRow.call (network, call.callId)].toFinset) := by
        refine under.union fun row member free => ?_
        rw [List.mem_singleton.mp member] at free
        cases free
      have later := ih kept fun other member =>
        larger (guarded other (List.mem_cons_of_mem _ member))
      have goes : ∀ inserted : Bool, (insertCallsStatements network rest >>= fun later =>
          pure (if inserted then call :: later else later)).Follows (ingestOrder agentOf)
          Write.row (held ∪ [WrittenRow.call (network, call.callId)].toFinset)
          fun _ later => Under agentOf level later ∧ held ⊆ later := by
        intro inserted
        rw [Program.follows_bind]
        exact later.mono fun _ _ both => ⟨both.1, larger.trans both.2⟩
      rw [insertCallsStatements, Program.follows_bind]
      refine ⟨Order.takes_of_guarded fun row member => ?_, fun answer => ?_⟩
      · rw [List.mem_singleton.mp member]
        exact ⟨_, guarded call List.mem_cons_self, rfl⟩
      · cases answer with
        | ok passes => exact goes true
        | error error =>
            dsimp only
            by_cases unique : error = .uniqueViolation
            · rw [if_pos unique]
              exact goes false
            · rw [if_neg unique]
              trivial

theorem follows_countAgents (covers : HoldsAgents dto held) :
    (countAgentsStatements dto inserted).Follows (ingestOrder agentOf) Write.row held
      fun _ later => later = held := by
  have holds : ∀ row ∈ (countWrites dto inserted).map Write.row, row ∈ held := by
    intro row member
    obtain ⟨write, inside, rfl⟩ := List.mem_map.mp member
    obtain ⟨pubkey, named, delta, -, rfl⟩ := mem_countWrites inside
    exact covers pubkey named
  have emits : countAgentsStatements dto inserted = .emit (countWrites dto inserted) := by
    refine Program.forM_eq_emit _ fun pubkey _ => ?_
    cases (perAgent inserted).lookup pubkey with
    | none => rfl
    | some delta => rfl
  rw [emits, Program.follows_emit]
  exact ⟨Order.takes_of_held holds,
    Finset.union_eq_left.mpr fun row member => holds row (List.mem_toFinset.mp member)⟩

theorem follows_recordShares (under : Under agentOf 5 held)
    (settled : .settlement (network, dto.signature) ∈ held) :
    (recordSharesStatements dto network inserted).Follows (ingestOrder agentOf) Write.row held
      fun _ later => Under agentOf 6 later := by
  rw [recordSharesStatements, Program.follows_bind]
  intro db
  dsimp only [Program.Follows]
  by_cases records : (db.sharesOf network dto.signature).length = 0 ∧
      0 < (aggregatedShares inserted).length
  · rw [if_pos records, Program.follows_bind]
    have guarded : ∀ row ∈ ((aggregatedShares inserted).map fun share => Write.insertShare
        ⟨network, dto.signature, share.kind, share.pubkey, share.amountLamports⟩).map Write.row,
        row.guard agentOf = some (.settlement (network, dto.signature)) := by
      intro row member
      rw [List.map_map] at member
      obtain ⟨share, -, rfl⟩ := List.mem_map.mp member
      rfl
    refine ⟨Order.takes_of_guarded fun row member => ⟨_, settled, guarded row member⟩, ?_⟩
    have kept := under.union fun row member free => by
      rw [guarded row member] at free
      cases free
    exact ((Named.earnings network).follows_forM (sortedRecipients _) (·.pubkey)
      (fun share => [.earn (network, share.pubkey) share.kind share.amountLamports dto.ts])
      (fun _ => rfl) (fun _ => List.Sublist.refl _) (sortedRecipients_sorted _) kept).mono
        fun _ _ phase => phase.1
  · rw [if_neg records]
    exact under.mono (by decide)

theorem follows_movePools (under : Under agentOf 6 held) :
    (movePoolsStatements dto network inserted).Follows (ingestOrder agentOf) Write.row held
      fun _ _ => True := by
  refine ((Named.pool network).follows_forM dto.sortedEndpointSlugs id
    (fun slug => ((perEndpoint inserted).lookup slug).elim [] fun delta =>
      [.movePool (network, slug) delta dto.ts]) (fun slug => ?_) (fun slug => ?_)
    (by rw [List.map_id]; exact sortedEndpointSlugs_sorted dto) under).mono fun _ _ _ => trivial
  · cases (perEndpoint inserted).lookup slug with
    | none => rfl
    | some delta => rfl
  · cases (perEndpoint inserted).lookup slug with
    | none => exact List.nil_sublist _
    | some delta => exact List.Sublist.refl _

theorem follows_recordAggregates (under : Under agentOf 3 held) (covers : HoldsAgents dto held) :
    (recordAggregatesStatements dto network inserted).Follows (ingestOrder agentOf) Write.row held
      fun _ _ => True := by
  have settles : (ingestOrder agentOf).Takes held
      [Write.row (.ensureSettlement (network, dto.signature) dto.settlementRow)] :=
    (Named.settlement network).takes (List.pairwise_singleton _ dto.signature)
      (List.Sublist.refl _) under
  have kept : Under agentOf 5
      (held ∪ [WrittenRow.settlement (network, dto.signature)].toFinset) := by
    refine (under.mono (by decide)).union fun row member _ => ?_
    rw [List.mem_singleton.mp member]
    exact Nat.lt_add_of_pos_right (by decide : 0 < 2)
  rw [recordAggregatesStatements, Program.follows_bind]
  refine ⟨settles, ?_⟩
  rw [Program.Follows, Program.follows_bind]
  refine (follows_countAgents fun pubkey named =>
    Finset.mem_union_left _ (covers pubkey named)).mono fun _ later same => ?_
  rw [same, Program.follows_bind]
  exact (follows_recordShares kept (Finset.mem_union_right _
    (List.mem_toFinset.mpr List.mem_cons_self))).mono fun _ _ under => follows_movePools under

def SettlementEventDto.Names (dto : SettlementEventDto) (agentOf : Key → String) : Prop :=
  ∀ call ∈ dto.calls, agentOf (dto.batchNetwork, call.callId) = call.agentPubkey

theorem SettlementEventDto.Names.follows (names : dto.Names agentOf) :
    (ingestStatements dto dto.batchNetwork).Follows (ingestOrder agentOf) Write.row ∅
      fun _ _ => True := by
  rw [ingestStatements, Program.follows_bind]
  refine follows_prepareTargets.mono fun _ held phase => ?_
  obtain ⟨under, covers⟩ := phase
  have guarded : ∀ call ∈ dto.calls, .agent (agentOf (dto.batchNetwork, call.callId)) ∈ held := by
    intro call member
    rw [names call member]
    exact covers _ (mem_sortedAgentPubkeys member)
  rw [Program.follows_bind]
  refine (follows_insertCalls (under.mono (by decide : 2 ≤ 3)) guarded).mono
    fun inserted later phase => ?_
  cases inserted with
  | nil => trivial
  | cons call rest =>
      exact (Program.follows_bind.mpr ((follows_recordAggregates phase.1 fun pubkey named =>
        phase.2 (covers pubkey named)).mono fun _ _ _ => trivial))

end Ordered

/-! ## No deadlock -/

section Concurrent

variable {ι : Type} [DecidableEq ι] {batches : ι → SettlementEventDto}

omit [DecidableEq ι] in
theorem exists_agentOf (names : ∀ i j, ∀ call ∈ (batches i).calls, ∀ other ∈ (batches j).calls,
      (batches i).batchNetwork = (batches j).batchNetwork → call.callId = other.callId →
      call.agentPubkey = other.agentPubkey) :
    ∃ agentOf, ∀ i, (batches i).Names agentOf := by
  classical
  refine ⟨fun key =>
    if known : ∃ call i, call ∈ (batches i).calls ∧
        ((batches i).batchNetwork, call.callId) = key
    then known.choose.agentPubkey else "", fun i call member => ?_⟩
  have known : ∃ other j, other ∈ (batches j).calls ∧
      ((batches j).batchNetwork, other.callId) = ((batches i).batchNetwork, call.callId) :=
    ⟨call, i, member, rfl⟩
  dsimp only
  rw [dif_pos known]
  obtain ⟨j, there, same⟩ := known.choose_spec
  exact names j i _ there _ member (congrArg Prod.fst same) (congrArg Prod.snd same)

def ingestsStart (batches : ι → SettlementEventDto) (db : Database) :
    System ι Database Write DbError WrittenRow IngestResult :=
  .start db fun i => ingestStatements (batches i) (batches i).batchNetwork

theorem ingests_never_deadlock (semantics : FailureSemantics) (batches : ι → SettlementEventDto)
    (db : Database)
    (names : ∀ i j, ∀ call ∈ (batches i).calls, ∀ other ∈ (batches j).calls,
      (batches i).batchNetwork = (batches j).batchNetwork → call.callId = other.callId →
      call.agentPubkey = other.agentPubkey)
    {system : System ι Database Write DbError WrittenRow IngestResult}
    (reached : Reachable (· = ingestsStart batches db) (Step (ingestEngine semantics)) system)
    (i : ι) : ¬Relation.TransGen (system.WaitsFor (ingestEngine semantics)) i i := by
  obtain ⟨agentOf, named⟩ := exists_agentOf names
  exact (ordered_of_follows (fun j => (named j).follows) reached).acyclic i

theorem ingests_progress [Finite ι] (semantics : FailureSemantics) (db : Database)
    (names : ∀ i j, ∀ call ∈ (batches i).calls, ∀ other ∈ (batches j).calls,
      (batches i).batchNetwork = (batches j).batchNetwork → call.callId = other.callId →
      call.agentPubkey = other.agentPubkey)
    {system : System ι Database Write DbError WrittenRow IngestResult}
    (reached : Reachable (· = ingestsStart batches db) (Step (ingestEngine semantics)) system)
    {i : ι} (runs : (system.jobs i).Runs) :
    ∃ j, (system.jobs j).Runs ∧ ∀ k, ¬system.WaitsFor (ingestEngine semantics) j k := by
  obtain ⟨agentOf, named⟩ := exists_agentOf names
  have ordered := ordered_of_follows (fun j => (named j).follows) reached
  exact ordered.exists_unblocked runs

def callOf (callId agentPubkey endpointSlug : String) : WrapCallEventDto :=
  ⟨callId, agentPubkey, endpointSlug, 10, 0, 20, .ok, none, none, none, none, 1, 2, "sig",
    some [⟨0, "treasury", 1⟩], some "solana-devnet"⟩

def mirroredBatches (first : Bool) : SettlementEventDto :=
  ⟨"sig", 2, 20, 0, 3,
    if first then [callOf "1" "a" "x", callOf "2" "b" "y"]
    else [callOf "2" "b" "y", callOf "1" "a" "x"], some "solana-devnet"⟩

/-- One of two ingestions waits for the other, which does not wait for it. -/
theorem ingests_never_deadlock_demo :
    ∃ system : System Bool Database Write DbError WrittenRow IngestResult,
      Reachable (· = ingestsStart mirroredBatches .empty) (Step (ingestEngine .transaction))
        system ∧
      system.WaitsFor (ingestEngine .transaction) false true ∧
      ¬Relation.TransGen (system.WaitsFor (ingestEngine .transaction)) false false := by
  have names : ∀ i j, ∀ call ∈ (mirroredBatches i).calls, ∀ other ∈ (mirroredBatches j).calls,
      (mirroredBatches i).batchNetwork = (mirroredBatches j).batchNetwork →
      call.callId = other.callId → call.agentPubkey = other.agentPubkey := by decide +kernel
  have wanted : ((ingestsStart mirroredBatches .empty).jobs true).wants
      (ingestEngine .transaction) = some (.agent "a") := by decide +kernel
  have begins : Reachable (· = ingestsStart mirroredBatches .empty)
      (Step (ingestEngine .transaction)) (ingestsStart mirroredBatches .empty) := .start rfl
  have locks : Step (ingestEngine .transaction) (ingestsStart mirroredBatches .empty) _ :=
    .lock rfl wanted fun _ _ => Finset.notMem_empty _
  exact ⟨_, begins.next locks, ⟨by decide, .agent "a", by decide +kernel, by decide +kernel⟩,
    ingests_never_deadlock .transaction mirroredBatches .empty names
      (begins.next locks) false⟩

end Concurrent

end PactNetwork.Indexer
