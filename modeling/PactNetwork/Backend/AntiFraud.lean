import Mathlib.Data.List.Perm.Subperm
import PactNetwork.Backend.ClaimLinks

/-!
# Anti-fraud gate

The flag check and the daily cap of `maybeCreateClaim`, and what becomes of them on
chain.
-/

set_option autoImplicit false

namespace PactNetwork.Backend.Claims

variable {canonicalHostname : String → Option String}

def State.Sends (canonicalHostname : String → Option String) (state : State) (event : Event)
    (record : CallRecord) : Prop :=
  (state.apply canonicalHostname event).txs = state.txs ++ [⟨record, .pending⟩]

/-- An account that an agent gets within the day from `start` on. -/
def Account.within (agentId : String) (start : Nat) (account : Account) : Bool :=
  account.record.agentId = agentId && start ≤ account.createdAt && account.createdAt < start + day

def State.claimsWithin (state : State) (agentId : String) (start : Nat) : Nat :=
  state.accounts.countP (Account.within agentId start)

/-- No transaction is sent for an agent with a pending flag, by an event that may occur,
and no agent has more than 1000 on-chain claims within a day. -/
def State.Screened (canonicalHostname : String → Option String) (clear : State → Event → Prop)
    (state : State) : Prop :=
  (∀ event record, clear state event → state.Sends canonicalHostname event record →
    state.pendingFlags record.agentId = 0) ∧
  ∀ agentId start, state.claimsWithin agentId start ≤ 1000

/-- A POST behind the flag check of the agent, with the transaction still to come. -/
def Phase.Checked (agentId : String) : Phase → Prop
  | .opening .counting post _ _ _ | .opening .claiming post _ _ _ => post.key.label = agentId
  | .settling .resolving (.post _ _) record | .settling .submitting (.post _ _) record =>
      record.agentId = agentId
  | .opening .flagging _ _ _ _ | .opening .freezing _ _ _ _ => False
  | .settling (.sent _) _ _ | .settling (.updating _) _ _ => False
  | .settling .resolving .submit _ | .settling .submitting .submit _ => False
  | .idle | .posting _ | .selecting _ _ _ | .accepted _ | .replied _ _ _ => False

def State.Counts (state : State) (record : CallRecord) : Prop :=
  ∃ row ∈ state.claims, row.callRecordId = record.id ∧ row.agentId = record.agentId ∧
    row.status ≠ .frozen ∧ state.now < row.createdAt + day

/-- What does not happen in a guarded run: a flag raised for an agent between the check of
a POST and its transaction; a claims-submit request that sends for an agent with a pending
flag, or settles a frozen row; a claim inserted after others have filled the day; a claim
that lands when the cap does not count it, or one of the day before it. -/
def State.Guarded (state : State) : Event → Prop
  | .flag agentId => ∀ request, ¬(state.requests request).Checked agentId
  | .run request _ =>
      (∀ record, state.requests request = .settling .submitting .submit record →
        state.pendingFlags record.agentId = 0) ∧
      (∀ refundAmount record, state.requests request = .settling (.updating refundAmount) .submit record →
        ∀ row ∈ state.claims, row.callRecordId = record.id → row.status ≠ .frozen) ∧
      ∀ post rec host callId, state.requests request = .opening .claiming post rec host callId →
        state.dailyCount post.key.label < 1000
  | .land tx _ _ => ∀ record, state.txs[tx]? = some ⟨record, .pending⟩ →
      state.Counts record ∧ ∀ account ∈ state.accounts, account.record.agentId = record.agentId →
        state.now < account.createdAt + day → state.Counts account.record
  | .tick _ | .resolve _ | .policy _ _ _ | .post _ _ _ | .submit _ _ _ _ | .reject _ | .stop _ => True

/-! ## The flag -/

theorem State.finish_not_checked {state : State} {clean : Bool} {record : CallRecord}
    {origin : Origin} {agentId : String} : ¬(state.finish clean record origin).Checked agentId := by
  cases origin with
  | post post claimId => exact fun checked => checked
  | submit => exact fun checked => checked

theorem State.Advances.checked {state : State} {outcome : Outcome} {phase next : Phase}
    {effect : Effect} {agentId : String}
    (advances : state.Advances canonicalHostname outcome phase effect next)
    (checked : next.Checked agentId) :
    phase.Checked agentId ∨ state.pendingFlags agentId = 0 := by
  cases advances with
  | still free => exact .inl checked
  | recorded more valid absent done =>
      split at checked
      · cases checked
      · cases checked
  | unflagged clean =>
      cases checked
      exact .inr clean
  | counted below => exact .inl checked
  | frozen allowed done => split at checked <;> cases checked
  | claimed refunded done goes =>
      rcases goes with ⟨-, rfl⟩ | ⟨-, rfl⟩ | ⟨-, agentPubkey, rfl⟩
      · cases checked
      · cases checked
      · exact .inl checked
  | @covered origin record =>
      cases origin with
      | post post claimId => exact .inl checked
      | submit => cases checked
  | sent done =>
      split at checked
      · cases checked
      · exact absurd checked finish_not_checked
  | updated done => exact absurd checked finish_not_checked
  | dropped honest unlanded fails => exact absurd checked finish_not_checked
  | finished | failed | skipped | repeated | unclaimed | flagged | capped | unrefunded | broken
  | selected | answered | waits | confirmed => cases checked

def State.Cleared (state : State) : Prop :=
  ∀ request agentId, (state.requests request).Checked agentId → state.pendingFlags agentId = 0

theorem State.Cleared.setPhase {state : State} (cleared : state.Cleared) (request : Nat)
    {phase : Phase} (checks : ∀ agentId, phase.Checked agentId → state.pendingFlags agentId = 0) :
    (state.setPhase request phase).Cleared := by
  intro other agentId checked
  by_cases same : other = request
  · rw [same, setPhase_self] at checked
    exact checks agentId checked
  · rw [setPhase_of_ne state same] at checked
    exact cleared other agentId checked

theorem State.Cleared.apply {state : State} (cleared : state.Cleared) {event : Event}
    (guarded : state.Guarded event) : (state.apply canonicalHostname event).Cleared := by
  cases event with
  | tick elapsed => exact cleared
  | policy agentPubkey host active => exact cleared
  | flag agentId =>
      intro request other checked
      have differ : other ≠ agentId := by
        rintro rfl
        exact guarded request checked
      change Function.update state.pendingFlags agentId _ other = 0
      rw [Function.update_of_ne differ]
      exact cleared request other checked
  | resolve agentId =>
      intro request other checked
      have clean : state.pendingFlags other = 0 := cleared request other checked
      change Function.update state.pendingFlags agentId _ other = 0
      by_cases same : other = agentId
      · rw [same, Function.update_self, ← same, clean]
      · rw [Function.update_of_ne same, clean]
  | post request key batch =>
      rcases state.post_cases canonicalHostname request key batch with same | ⟨-, same⟩
      · rwa [same]
      · rw [same]
        exact cleared.setPhase request fun _ checked => by cases checked
  | submit request agentId callId hostname =>
      rcases state.submit_cases canonicalHostname request agentId callId hostname with
        same | ⟨-, ⟨-, same⟩ | ⟨host, same⟩⟩
      · rwa [same]
      · rw [same]
        exact cleared.setPhase request fun _ checked => by cases checked
      · rw [same]
        exact cleared.setPhase request fun _ checked => by cases checked
  | run request outcome =>
      obtain ⟨effect, next, advances, ran⟩ :=
        state.run_advances canonicalHostname request outcome
      change (state.run canonicalHostname request outcome).Cleared
      rw [ran]
      have kept : (state.perform effect).Cleared := by
        intro other agentId checked
        rw [perform_requests] at checked
        rw [perform_pendingFlags]
        exact cleared other agentId checked
      refine kept.setPhase request fun agentId checked => ?_
      rw [perform_pendingFlags]
      rcases advances.checked checked with before | clean
      · exact cleared request agentId before
      · exact clean
  | land tx maxCoveragePerCall totalAvailable =>
      intro request agentId checked
      change (state.land tx maxCoveragePerCall totalAvailable).pendingFlags agentId = 0
      rw [State.land_pendingFlags]
      refine cleared request agentId ?_
      rw [← state.land_requests tx maxCoveragePerCall totalAvailable]
      exact checked
  | reject tx =>
      change (state.reject tx).Cleared
      rcases state.reject_cases tx with same | same
      · rwa [same]
      · rw [same]
        exact cleared
  | stop request => exact cleared.setPhase request fun _ checked => by cases checked

theorem State.land_txs_length (state : State) (tx : Nat) (maxCoveragePerCall totalAvailable : Int) :
    (state.land tx maxCoveragePerCall totalAvailable).txs.length = state.txs.length := by
  unfold land
  split
  · split
    · exact List.length_modify ..
    · exact List.length_modify ..
  · rfl
  · rfl
  · rfl

theorem State.Sends.exists {state : State} {event : Event} {record : CallRecord}
    (sends : state.Sends canonicalHostname event record) : ∃ request outcome origin,
      event = .run request outcome ∧ state.requests request = .settling .submitting origin record := by
  have longer : (state.apply canonicalHostname event).txs.length = state.txs.length + 1 := by
    rw [sends, List.length_append, List.length_singleton]
  have unchanged : (state.apply canonicalHostname event).txs.length = state.txs.length → False := by
    omega
  cases event with
  | tick elapsed => exact (unchanged rfl).elim
  | flag agentId => exact (unchanged rfl).elim
  | resolve agentId => exact (unchanged rfl).elim
  | policy agentPubkey host active => exact (unchanged rfl).elim
  | stop request => exact (unchanged rfl).elim
  | post request key batch =>
      rcases state.post_cases canonicalHostname request key batch with same | ⟨-, same⟩
      · exact (unchanged (by rw [same])).elim
      · exact (unchanged (by rw [same]; rfl)).elim
  | submit request agentId callId hostname =>
      rcases state.submit_cases canonicalHostname request agentId callId hostname with
        same | ⟨-, ⟨-, same⟩ | ⟨host, same⟩⟩
      · exact (unchanged (by rw [same])).elim
      · exact (unchanged (by rw [same]; rfl)).elim
      · exact (unchanged (by rw [same]; rfl)).elim
  | land tx maxCoveragePerCall totalAvailable =>
      exact (unchanged (state.land_txs_length tx _ _)).elim
  | reject tx =>
      refine (unchanged ?_).elim
      change (state.reject tx).txs.length = _
      rcases state.reject_cases tx with same | same
      · rw [same]
      · rw [same]
        exact List.length_modify ..
  | run request outcome =>
      obtain ⟨effect, next, advances, ran⟩ :=
        state.run_advances canonicalHostname request outcome
      have tail : (state.perform effect).txs = state.txs ++ [⟨record, .pending⟩] := by
        change (state.run canonicalHostname request outcome).txs = _ at sends
        rwa [ran] at sends
      have same : (state.perform effect).txs.length = state.txs.length + 1 := by
        rw [tail, List.length_append, List.length_singleton]
      cases effect with
      | send record' =>
          obtain ⟨origin, stands⟩ := advances.send
          have equal := List.append_cancel_left tail
          cases equal
          exact ⟨request, outcome, origin, rfl, stands⟩
      | none | addCall | addClaim | settle =>
          change state.txs.length = _ at same
          omega

/-! ## The cap -/

theorem countP_congr_getElem? {α : Type} {p : α → Bool} {items others : List α}
    (length : items.length = others.length) (same : ∀ (index : Nat) item other,
      items[index]? = some item → others[index]? = some other → p item = p other) :
    items.countP p = others.countP p := by
  have mapped : items.map p = others.map p := by
    refine List.ext_getElem (by simpa using length) fun index inside inside' => ?_
    rw [List.length_map] at inside inside'
    rw [List.getElem_map, List.getElem_map]
    exact same index _ _ (List.getElem?_eq_getElem inside) (List.getElem?_eq_getElem inside')
  have counted : ∀ list : List α, list.countP p = (list.map p).countP id := fun list => by
    rw [List.countP_map]
    rfl
  rw [counted items, counted others, mapped]

theorem ClaimRow.counts_settle {row : ClaimRow} (unfrozen : row.status ≠ .frozen)
    (refundAmount : Option Int) (agentId : String) (now : Nat) :
    (row.settle refundAmount).counts agentId now = row.counts agentId now := by
  have settled : (row.settle refundAmount).status ≠ .frozen := fun same => by cases same
  simp only [counts, settled, unfrozen, ne_eq, not_false_eq_true, decide_true, Bool.and_true]
  rfl

theorem State.dailyCount_settle {state : State} {origin : Origin} {callId : Nat}
    {refundAmount : Int} (agentId : String)
    (unfrozen : ∀ (id : Nat) old row, state.claims[id]? = some old →
      (state.settledClaims callId refundAmount origin)[id]? = some row → row ≠ old →
        old.status ≠ .frozen) :
    (state.perform (.settle origin callId refundAmount)).dailyCount agentId =
      state.dailyCount agentId := by
  refine countP_congr_getElem? (state.settledClaims_length callId refundAmount origin) ?_
  intro id row old found present
  change row.counts agentId state.now = old.counts agentId state.now
  obtain ⟨old', present', becomes⟩ := settledClaims_spec found
  cases present.symm.trans present'
  by_cases same : row = old
  · rw [same]
  have thawed := unfrozen id old row present found same
  rcases becomes with same' | ⟨post, -, rfl⟩ | ⟨-, -, rfl⟩
  · exact absurd same' same
  · exact ClaimRow.counts_settle thawed _ agentId state.now
  · exact ClaimRow.counts_settle thawed _ agentId state.now

def State.Capped (state : State) : Prop :=
  ∀ agentId, state.dailyCount agentId ≤ 1000

theorem State.Capped.run {state : State} (capped : state.Capped) (linked : state.Linked)
    {request : Nat} {outcome : Outcome} (guarded : state.Guarded (.run request outcome)) :
    (state.run canonicalHostname request outcome).Capped := by
  obtain ⟨-, thawed, below⟩ := guarded
  obtain ⟨effect, next, advances, ran⟩ :=
    state.run_advances canonicalHostname request outcome
  rw [ran]
  intro agentId
  change (state.perform effect).dailyCount agentId ≤ 1000
  cases effect with
  | none => exact capped agentId
  | addCall row => exact capped agentId
  | send record => exact capped agentId
  | addClaim row =>
      change (state.claims ++ [row]).countP (ClaimRow.counts agentId state.now) ≤ 1000
      rw [List.countP_append, List.countP_singleton]
      obtain ⟨step, post, rec, host, stands, agent, -, -, kind⟩ := advances.addClaim
      rcases kind with ⟨frozen, -⟩ | ⟨-, rfl, -⟩
      · have uncounted : row.counts agentId state.now = false := by simp [ClaimRow.counts, frozen]
        rw [uncounted]
        exact capped agentId
      · have room := below post rec host row.callRecordId stands
        by_cases mine : row.counts agentId state.now = true
        · have same : row.agentId = agentId := by
            simp only [ClaimRow.counts, Bool.and_eq_true, decide_eq_true_eq] at mine
            exact mine.1.1
          rw [← agent, same] at room
          rw [if_pos mine]
          exact room
        · rw [if_neg mine]
          exact capped agentId
  | settle origin callId refundAmount =>
      rw [dailyCount_settle agentId ?_]
      · exact capped agentId
      intro id old row present found differs
      obtain ⟨record, stands, rfl, -, -⟩ := advances.settle
      obtain ⟨old', present', becomes⟩ := settledClaims_spec found
      cases present.symm.trans present'
      rcases becomes with same | ⟨post, rfl, -⟩ | ⟨rfl, same, -⟩
      · exact absurd same differs
      · have fits := linked.fits request
        rw [stands] at fits
        obtain ⟨-, ⟨-, row', there, -, unfrozen⟩, -⟩ := fits
        cases present.symm.trans there
        exact unfrozen
      · exact thawed refundAmount record stands old (List.mem_of_getElem? present) same

theorem State.Capped.apply {state : State} (capped : state.Capped) (linked : state.Linked)
    {event : Event} (guarded : state.Guarded event) :
    (state.apply canonicalHostname event).Capped := by
  cases event with
  | tick elapsed =>
      intro agentId
      refine (List.countP_mono_left fun row _ counted => ?_).trans (capped agentId)
      simp only [ClaimRow.counts, Bool.and_eq_true, decide_eq_true_eq] at counted ⊢
      exact ⟨counted.1, (Nat.le_add_right _ _).trans_lt counted.2⟩
  | flag agentId => exact capped
  | resolve agentId => exact capped
  | policy agentPubkey host active => exact capped
  | stop request => exact capped
  | post request key batch =>
      rcases state.post_cases canonicalHostname request key batch with same | ⟨-, same⟩
      · rwa [same]
      · rw [same]
        exact capped
  | submit request agentId callId hostname =>
      rcases state.submit_cases canonicalHostname request agentId callId hostname with
        same | ⟨-, ⟨-, same⟩ | ⟨host, same⟩⟩
      · rwa [same]
      · rw [same]
        exact capped
      · rw [same]
        exact capped
  | run request outcome => exact capped.run linked guarded
  | land tx maxCoveragePerCall totalAvailable =>
      intro agentId
      change (state.land tx maxCoveragePerCall totalAvailable).dailyCount agentId ≤ 1000
      rw [dailyCount, land_claims, land_now]
      exact capped agentId
  | reject tx =>
      change (state.reject tx).Capped
      rcases state.reject_cases tx with same | same
      · rwa [same]
      · rw [same]
        exact capped

theorem Account.within_iff {agentId : String} {start : Nat} {account : Account} :
    account.within agentId start = true ↔ account.record.agentId = agentId ∧
      start ≤ account.createdAt ∧ account.createdAt < start + day := by
  simp [within, and_assoc]

theorem State.claimsWithin_le {state : State} {accounts : List Account} {agentId : String}
    {start : Nat} (nodup : (accounts.map fun account => account.record.id).Nodup)
    (counted : ∀ account ∈ accounts, account.within agentId start = true →
      state.Counts account.record) :
    accounts.countP (Account.within agentId start) ≤ state.dailyCount agentId := by
  rw [dailyCount, List.countP_eq_length_filter, List.countP_eq_length_filter,
    ← List.length_map (fun account : Account => account.record.id),
    ← List.length_map ClaimRow.callRecordId]
  have distinct : ((accounts.filter (Account.within agentId start)).map
      fun account => account.record.id).Nodup :=
    nodup.sublist (List.filter_sublist.map _)
  refine (distinct.subperm fun id member => ?_).length_le
  obtain ⟨account, present, rfl⟩ := List.mem_map.mp member
  obtain ⟨present, inside⟩ := List.mem_filter.mp present
  obtain ⟨row, there, same, agent, unfrozen, recent⟩ := counted account present inside
  refine List.mem_map.mpr ⟨row, List.mem_filter.mpr ⟨there, ?_⟩, same⟩
  rw [(Account.within_iff.mp inside).1] at agent
  simp [ClaimRow.counts, agent, unfrozen, recent]

theorem State.claimsWithin_land {state : State} (linked : state.Linked) (capped : state.Capped)
    (within : ∀ agentId start, state.claimsWithin agentId start ≤ 1000) {tx : Nat}
    {maxCoveragePerCall totalAvailable : Int}
    (guarded : state.Guarded (.land tx maxCoveragePerCall totalAvailable)) (agentId : String)
    (start : Nat) :
    (state.land tx maxCoveragePerCall totalAvailable).claimsWithin agentId start ≤ 1000 := by
  have nodup := (linked.land tx maxCoveragePerCall totalAvailable).accounts
  revert nodup
  unfold State.land
  split
  · rename_i record pending
    split
    · exact fun _ => within agentId start
    · intro nodup
      obtain ⟨mine, others⟩ := guarded record pending
      let added : Account := ⟨record,
        clampRefund record.paymentAmount maxCoveragePerCall totalAvailable, state.now⟩
      change (state.accounts ++ [added]).countP (Account.within agentId start) ≤ 1000
      cases inside : added.within agentId start with
      | false =>
          rw [List.countP_append, List.countP_singleton, inside]
          exact within agentId start
      | true =>
          obtain ⟨agent, begun, open_⟩ := Account.within_iff.mp inside
          refine (claimsWithin_le nodup fun account member held => ?_).trans (capped agentId)
          rcases List.mem_append.mp member with old | new
          · obtain ⟨same, since, -⟩ := Account.within_iff.mp held
            refine others account old (same.trans agent.symm) ?_
            change state.now < start + day at open_
            omega
          · rw [List.mem_singleton.mp new]
            exact mine
  · exact fun _ => within agentId start
  · exact fun _ => within agentId start
  · exact fun _ => within agentId start

theorem State.claimsWithin_apply {state : State} (linked : state.Linked) (capped : state.Capped)
    (within : ∀ agentId start, state.claimsWithin agentId start ≤ 1000) {event : Event}
    (guarded : state.Guarded event) (agentId : String) (start : Nat) :
    (state.apply canonicalHostname event).claimsWithin agentId start ≤ 1000 := by
  cases event with
  | tick elapsed => exact within agentId start
  | flag other => exact within agentId start
  | resolve other => exact within agentId start
  | policy agentPubkey host active => exact within agentId start
  | stop request => exact within agentId start
  | post request key batch =>
      rcases state.post_cases canonicalHostname request key batch with same | ⟨-, same⟩
      · rw [same]
        exact within agentId start
      · rw [same]
        exact within agentId start
  | submit request other callId hostname =>
      rcases state.submit_cases canonicalHostname request other callId hostname with
        same | ⟨-, ⟨-, same⟩ | ⟨host, same⟩⟩
      · rw [same]
        exact within agentId start
      · rw [same]
        exact within agentId start
      · rw [same]
        exact within agentId start
  | run request outcome =>
      obtain ⟨effect, next, -, ran⟩ :=
        state.run_advances canonicalHostname request outcome
      change (state.run canonicalHostname request outcome).claimsWithin agentId start ≤ 1000
      rw [ran]
      change (state.perform effect).claimsWithin agentId start ≤ 1000
      rw [claimsWithin, perform_accounts]
      exact within agentId start
  | land tx maxCoveragePerCall totalAvailable =>
      exact claimsWithin_land linked capped within guarded agentId start
  | reject tx =>
      change (state.reject tx).claimsWithin agentId start ≤ 1000
      rcases state.reject_cases tx with same | same
      · rw [same]
        exact within agentId start
      · rw [same]
        exact within agentId start

/-! ## Guarded runs -/

/-- In every guarded run the gate covers what is sent and what lands. -/
theorem screened {state : State}
    (reached : State.Reached canonicalHostname State.Guarded state) :
    state.Screened canonicalHostname State.Guarded := by
  have holds : state.Linked ∧ state.Cleared ∧ state.Capped ∧
      ∀ agentId start, state.claimsWithin agentId start ≤ 1000 := by
    refine reached.fires (fun state => state.Linked ∧ state.Cleared ∧ state.Capped ∧
      ∀ agentId start, state.claimsWithin agentId start ≤ 1000) ?_ ?_
    · intro first initial
      refine ⟨.start initial, ?_, ?_, ?_⟩
      · rw [State.Initial] at initial
        rw [initial]
        exact fun _ _ checked => checked.elim
      · rw [State.Initial] at initial
        rw [initial]
        exact fun _ => Nat.zero_le _
      · rw [State.Initial] at initial
        rw [initial]
        exact fun _ _ => Nat.zero_le _
    · rintro before event ⟨linked, cleared, capped, within⟩ guarded
      exact ⟨linked.apply event, cleared.apply guarded, capped.apply linked guarded,
        fun agentId start => State.claimsWithin_apply linked capped within guarded agentId start⟩
  obtain ⟨-, cleared, -, within⟩ := holds
  refine ⟨fun event record guarded sends => ?_, within⟩
  obtain ⟨request, outcome, origin, rfl, stands⟩ := sends.exists
  cases origin with
  | post post claimId =>
      refine cleared request record.agentId ?_
      rw [stands]
      exact rfl
  | submit => exact guarded.1 record stands

namespace Demo

def paid : List Event :=
  [.policy "pubkey" "api.example.com" true] ++ ingest ++
    [.run 0 .ok, .run 0 .ok, .land 0 1000000 5000000, .run 0 .ok, .run 0 .ok, .run 0 .ok]

example : (replay paid).claims.map ClaimRow.status = [.settled] := by decide +kernel

def calm : Phase → Bool
  | .settling .submitting .submit _ | .settling (.updating _) .submit _
  | .opening .claiming _ _ _ _ => false
  | _ => true

theorem guarded_of_calm {state : State} {request : Nat} (outcome : Outcome)
    (calms : calm (state.requests request) = true) : state.Guarded (.run request outcome) := by
  refine ⟨fun record stands => ?_, fun refundAmount record stands => ?_,
    fun post rec host callId stands => ?_⟩
  · rw [stands] at calms
    cases calms
  · rw [stands] at calms
    cases calms
  · rw [stands] at calms
    cases calms

theorem guarded_of_claiming {state : State} {request : Nat} {outcome : Outcome} {post : Post}
    {rec : RecordInput} {host : String} {callId : Nat}
    (stands : state.requests request = .opening .claiming post rec host callId)
    (below : state.dailyCount post.key.label < 1000) : state.Guarded (.run request outcome) := by
  refine ⟨fun record other => ?_, fun refundAmount record other => ?_, ?_⟩
  · cases stands.symm.trans other
  · cases stands.symm.trans other
  · intro post rec host callId other
    cases stands.symm.trans other
    exact below

theorem guarded_of_land {state : State} {tx : Nat} {maxCoveragePerCall totalAvailable : Int}
    {record : CallRecord} (sent : state.txs[tx]? = some ⟨record, .pending⟩)
    (first : state.accounts = []) (counts : state.Counts record) :
    state.Guarded (.land tx maxCoveragePerCall totalAvailable) := by
  intro other pending
  cases sent.symm.trans pending
  refine ⟨counts, fun account member => ?_⟩
  rw [first] at member
  cases member

theorem paid_guarded : Allows (State.apply some) State.Guarded start paid :=
  ⟨trivial, trivial, guarded_of_calm _ (by decide +kernel), guarded_of_calm _ (by decide +kernel),
    guarded_of_calm _ (by decide +kernel),
    @guarded_of_claiming _ _ _ ⟨key, [failure], []⟩ failure "api.example.com" 0 (by decide +kernel)
      (by decide +kernel),
    guarded_of_calm _ (by decide +kernel), guarded_of_calm _ (by decide +kernel),
    @guarded_of_land _ _ _ _ record (by decide +kernel) (by decide +kernel)
      ⟨claim, by decide +kernel, rfl, rfl, by decide, by decide +kernel⟩,
    guarded_of_calm _ (by decide +kernel), guarded_of_calm _ (by decide +kernel),
    guarded_of_calm _ (by decide +kernel), trivial⟩

theorem screened_paid : State.Screened some State.Guarded (replay paid) :=
  screened (Reachable.replay _ (.start rfl) paid_guarded)

def flagged : State :=
  replay (ingest ++ [.run 0 .ok, .run 0 .ok, .policy "pubkey" "api.example.com" true, .flag "agent",
    .submit 1 "agent" 0 "api.example.com", .run 1 .ok, .run 1 .ok])

theorem screened_fails : ¬∀ state, State.Reached some (fun _ _ => True) state →
    state.Screened some fun _ _ => True := by
  intro holds
  have reached : State.Reached some (fun _ _ => True) flagged :=
    Reachable.replay _ (.start rfl) (allows_all _ _)
  have sends : flagged.Sends some (.run 1 .ok) ⟨0, "agent", "pubkey", "api.example.com", 500000, 120,
      503, .serverError, 1700000000000000⟩ := by
    change State.txs _ = _
    decide +kernel
  have unflagged := (holds flagged reached).1 (.run 1 .ok) _ trivial sends
  have pending : flagged.pendingFlags "agent" = 1 := by decide +kernel
  rw [pending] at unflagged
  cases unflagged

end Demo

end PactNetwork.Backend.Claims
