import PactNetwork.Backend.ClaimSteps

/-!
# Links between requests, rows and the chain

Rows, transactions and accounts stay what they are, a claim belongs to its record,
and no record has two.
-/

set_option autoImplicit false

namespace PactNetwork.Backend.Claims

variable {canonicalHostname : String → Option String}

/-! ## Growth -/

def ClaimRow.Becomes (before after : ClaimRow) : Prop :=
  after = before ∨ ∃ refundAmount, after = before.settle refundAmount

theorem ClaimRow.Becomes.record {before after : ClaimRow} (becomes : before.Becomes after) :
    after.callRecordId = before.callRecordId := by
  rcases becomes with rfl | ⟨refundAmount, rfl⟩
  · rfl
  · rfl

theorem ClaimRow.Becomes.unfrozen {before after : ClaimRow} (becomes : before.Becomes after)
    (unfrozen : before.status ≠ .frozen) : after.status ≠ .frozen := by
  rcases becomes with rfl | ⟨refundAmount, rfl⟩
  · exact unfrozen
  · exact fun same => by cases same

structure State.Extends (before after : State) : Prop where
  calls : ∀ (id : Nat) call, before.calls[id]? = some call → after.calls[id]? = some call
  claims : ∀ (id : Nat) row, before.claims[id]? = some row →
    ∃ later, after.claims[id]? = some later ∧ row.Becomes later
  txs : ∀ (id : Nat) tx, before.txs[id]? = some tx →
    ∃ later, after.txs[id]? = some later ∧ later.record = tx.record ∧
      (tx.status ≠ .pending → later = tx)
  accounts : ∀ account ∈ before.accounts, account ∈ after.accounts

theorem State.Extends.of_tables {before after : State} (calls : after.calls = before.calls)
    (claims : after.claims = before.claims) (txs : after.txs = before.txs)
    (accounts : after.accounts = before.accounts) : before.Extends after := by
  constructor
  · intro id call found
    rwa [calls]
  · intro id row found
    rw [claims]
    exact ⟨row, found, .inl rfl⟩
  · intro id tx found
    rw [txs]
    exact ⟨tx, found, rfl, fun _ => rfl⟩
  · intro account member
    rwa [accounts]

theorem State.Extends.refl (state : State) : state.Extends state :=
  .of_tables rfl rfl rfl rfl

theorem getElem?_append_of_some {α : Type} {items more : List α} {id : Nat} {item : α}
    (found : items[id]? = some item) : (items ++ more)[id]? = some item := by
  obtain ⟨inside, -⟩ := List.getElem?_eq_some_iff.mp found
  rw [List.getElem?_append_left inside, found]

theorem State.settledClaims_spec {state : State} {callId : Nat} {refundAmount : Int}
    {origin : Origin} {id : Nat} {row : ClaimRow}
    (found : (state.settledClaims callId refundAmount origin)[id]? = some row) :
    ∃ old, state.claims[id]? = some old ∧ (row = old ∨
      (∃ post, origin = .post post id ∧ row = old.settle (some refundAmount)) ∨
        origin = .submit ∧ old.callRecordId = callId ∧ row = old.settle none) := by
  cases origin with
  | post post claimId =>
      rw [settledClaims, List.getElem?_modify] at found
      cases present : state.claims[id]? with
      | none => simp [present] at found
      | some old =>
          refine ⟨old, rfl, ?_⟩
          rw [present] at found
          by_cases here : claimId = id
          · subst here
            simp only [if_true, Option.map_eq_map, Option.map_some, Option.some.injEq] at found
            exact .inr (.inl ⟨post, rfl, found.symm⟩)
          · simp only [if_neg here, Option.map_eq_map, Option.map_some, Option.some.injEq] at found
            exact .inl found.symm
  | submit =>
      rw [settledClaims, List.getElem?_map] at found
      cases present : state.claims[id]? with
      | none => simp [present] at found
      | some old =>
          refine ⟨old, rfl, ?_⟩
          rw [present, Option.map_some, Option.some.injEq] at found
          by_cases same : old.callRecordId = callId
          · rw [if_pos same] at found
            exact .inr (.inr ⟨rfl, same, found.symm⟩)
          · rw [if_neg same] at found
            exact .inl found.symm

theorem State.settledClaims_length (state : State) (callId : Nat) (refundAmount : Int)
    (origin : Origin) :
    (state.settledClaims callId refundAmount origin).length = state.claims.length := by
  cases origin with
  | post post claimId => exact List.length_modify ..
  | submit => exact List.length_map ..

theorem State.extends_perform (state : State) (effect : Effect) :
    state.Extends (state.perform effect) := by
  cases effect with
  | none => exact .of_tables rfl rfl rfl rfl
  | addCall row =>
      exact { State.Extends.refl state with
        calls := fun _ _ found => getElem?_append_of_some found }
  | addClaim row =>
      exact { State.Extends.refl state with
        claims := fun _ row found => ⟨row, getElem?_append_of_some found, .inl rfl⟩ }
  | send record =>
      exact { State.Extends.refl state with
        txs := fun _ tx found => ⟨tx, getElem?_append_of_some found, rfl, fun _ => rfl⟩ }
  | settle origin callId refundAmount =>
      refine { State.Extends.refl state with
        claims := fun id row found => ?_ }
      obtain ⟨inside, -⟩ := List.getElem?_eq_some_iff.mp found
      rw [← state.settledClaims_length callId refundAmount origin] at inside
      refine ⟨_, List.getElem?_eq_getElem inside, ?_⟩
      obtain ⟨old, present, becomes⟩ := settledClaims_spec (List.getElem?_eq_getElem inside)
      cases found.symm.trans present
      rcases becomes with same | ⟨post, -, same⟩ | ⟨-, -, same⟩
      · exact .inl same
      · exact .inr ⟨_, same⟩
      · exact .inr ⟨_, same⟩

theorem State.Extends.setPhase {before after : State} (extended : before.Extends after)
    (request : Nat) (phase : Phase) : before.Extends (after.setPhase request phase) :=
  ⟨extended.calls, extended.claims, extended.txs, extended.accounts⟩

theorem State.extends_decide {state : State} {tx : Nat} {sent : CallRecord} {status : TxStatus}
    {accounts : List Account} (pending : state.txs[tx]? = some ⟨sent, .pending⟩)
    (kept : ∀ account ∈ state.accounts, account ∈ accounts) :
    state.Extends { state with txs := state.txs.modify tx (Tx.decide status), accounts } := by
  refine ⟨fun _ _ found => found, fun _ row found => ⟨row, found, .inl rfl⟩, ?_, kept⟩
  intro id other found
  by_cases here : tx = id
  · subst here
    cases pending.symm.trans found
    refine ⟨⟨sent, status⟩, ?_, rfl, fun decided => absurd rfl decided⟩
    simp [pending, Tx.decide]
  · refine ⟨other, ?_, rfl, fun _ => rfl⟩
    rw [← found]
    exact List.getElem?_modify_ne _ _ here

theorem State.extends_land (state : State) (tx : Nat) (maxCoveragePerCall totalAvailable : Int) :
    state.Extends (state.land tx maxCoveragePerCall totalAvailable) := by
  unfold land
  split
  · rename_i record pending
    split
    · exact extends_decide pending fun _ member => member
    · exact extends_decide pending fun _ member => List.mem_append_left _ member
  · exact .of_tables rfl rfl rfl rfl
  · exact .of_tables rfl rfl rfl rfl
  · exact .of_tables rfl rfl rfl rfl

theorem State.extends_reject (state : State) (tx : Nat) : state.Extends (state.reject tx) := by
  unfold reject
  split
  · rename_i record pending
    exact extends_decide pending fun _ member => member
  · exact .of_tables rfl rfl rfl rfl
  · exact .of_tables rfl rfl rfl rfl
  · exact .of_tables rfl rfl rfl rfl

/-! ## What requests hold on to -/

def State.Describes (state : State) (record : CallRecord) : Prop :=
  ∃ call, state.calls[record.id]? = some call ∧ call.agentId = record.agentId ∧
    call.classification = record.classification ∧ call.paymentAmount.getD 0 = record.paymentAmount

def State.FitsOrigin (state : State) (record : CallRecord) : Origin → Prop
  | .post post claimId => post.key.label = record.agentId ∧ ∃ row, state.claims[claimId]? = some row ∧
      row.callRecordId = record.id ∧ row.status ≠ .frozen
  | .submit => True

def State.FitsStage (state : State) (record : CallRecord) : Stage → Prop
  | .resolving | .submitting => True
  | .sent tx => ∃ status, state.txs[tx]? = some ⟨record, status⟩
  | .updating refundAmount => ∃ account ∈ state.accounts, account.record.id = record.id ∧
      account.refundAmount = refundAmount

def State.Fits (state : State) : Phase → Prop
  | .opening _ post rec host callId => ∃ time, state.calls[callId]? = some (callRow post.key rec host time)
  | .settling stage origin record =>
      state.Describes record ∧ state.FitsOrigin record origin ∧ state.FitsStage record stage
  | .idle | .posting _ | .selecting _ _ _ | .accepted _ | .replied _ _ _ => True

theorem State.Extends.describes {before after : State} (extended : before.Extends after)
    {record : CallRecord} (describes : before.Describes record) : after.Describes record := by
  obtain ⟨call, found, same⟩ := describes
  exact ⟨call, extended.calls record.id call found, same⟩

theorem State.Extends.fits {before after : State} (extended : before.Extends after) {phase : Phase}
    (fits : before.Fits phase) : after.Fits phase := by
  cases phase with
  | opening step post rec host callId =>
      obtain ⟨time, found⟩ := fits
      exact ⟨time, extended.calls callId _ found⟩
  | settling stage origin record =>
      obtain ⟨describes, origins, stages⟩ := fits
      refine ⟨extended.describes describes, ?_, ?_⟩
      · cases origin with
        | post post claimId =>
            obtain ⟨owner, row, found, same, unfrozen⟩ := origins
            obtain ⟨later, there, becomes⟩ := extended.claims claimId row found
            exact ⟨owner, later, there, becomes.record.trans same, becomes.unfrozen unfrozen⟩
        | submit => exact trivial
      · cases stage with
        | resolving => exact trivial
        | submitting => exact trivial
        | sent tx =>
            obtain ⟨status, found⟩ := stages
            obtain ⟨⟨record', status'⟩, there, same, -⟩ := extended.txs tx _ found
            cases same
            exact ⟨status', there⟩
        | updating refundAmount =>
            obtain ⟨account, member, same⟩ := stages
            exact ⟨account, extended.accounts account member, same⟩
  | idle | posting | selecting | accepted | replied => exact trivial

theorem State.fits_finish {state other : State} (clean : Bool) (record : CallRecord)
    (origin : Origin) : other.Fits (state.finish clean record origin) := by
  cases origin with
  | post post claimId => exact trivial
  | submit => exact trivial

theorem State.Advances.fits {state : State} {outcome : Outcome} {phase next : Phase}
    {effect : Effect} (advances : state.Advances canonicalHostname outcome phase effect next)
    (fits : state.Fits phase) : (state.perform effect).Fits next := by
  cases advances with
  | still free => exact fits
  | recorded more valid absent done =>
      split
      · exact ⟨state.now, List.getElem?_concat_length⟩
      · exact trivial
  | flagged flag => exact fits
  | unflagged clean => exact fits
  | counted below => exact fits
  | frozen allowed done => split <;> exact trivial
  | claimed refunded done goes =>
      rcases goes with ⟨-, rfl⟩ | ⟨-, rfl⟩ | ⟨-, agentPubkey, rfl⟩
      · exact trivial
      · exact trivial
      · obtain ⟨time, found⟩ := fits
        exact ⟨⟨_, found, rfl, rfl, rfl⟩, ⟨rfl, _, List.getElem?_concat_length, rfl,
          fun same => by cases same⟩, trivial⟩
  | selected found => exact ⟨⟨_, found, rfl, rfl, rfl⟩, trivial, trivial⟩
  | covered => exact ⟨fits.1, fits.2.1, trivial⟩
  | @sent _ origin record done =>
      split
      · have kept := (state.extends_perform (.send record)).fits fits
        exact ⟨kept.1, kept.2.1, .pending, List.getElem?_concat_length⟩
      · exact fits_finish false _ _
  | waits => exact fits
  | confirmed landed found same => exact ⟨fits.1, fits.2.1, _, found, same, rfl⟩
  | updated done => exact fits_finish _ _ _
  | dropped honest unlanded fails => exact fits_finish _ _ _
  | finished | failed | skipped | repeated | unclaimed | capped | unrefunded | broken | answered =>
      exact trivial

/-! ## The invariant -/

/-- A claim row belongs to a call record, and as long as it is simulated its refund is
the estimate. -/
def State.Backed (state : State) (row : ClaimRow) : Prop :=
  ∃ call, state.calls[row.callRecordId]? = some call ∧ row.agentId = call.agentId ∧
    row.triggerType = call.classification ∧ (row.status = .simulated →
      refundPct call.classification = some row.refundPct ∧
        row.refundAmount = estimateRefund (call.paymentAmount.getD 0) row.refundPct)

def Phase.Opens (callId : Nat) : Phase → Prop
  | .opening _ _ _ _ callId' => callId' = callId
  | .idle | .posting _ | .selecting _ _ _ | .settling _ _ _ | .accepted _ | .replied _ _ _ => False

structure State.Linked (state : State) : Prop where
  fits : ∀ request, state.Fits (state.requests request)
  backed : ∀ (id : Nat) row, state.claims[id]? = some row → state.Backed row
  fresh : ∀ request callId, (state.requests request).Opens callId →
    ∀ (id : Nat) row, state.claims[id]? = some row → row.callRecordId ≠ callId
  alone : ∀ first second callId, (state.requests first).Opens callId →
    (state.requests second).Opens callId → first = second
  unique : ∀ (first second : Nat) row row', state.claims[first]? = some row →
    state.claims[second]? = some row' → row.callRecordId = row'.callRecordId → first = second
  accounts : (state.accounts.map fun account => account.record.id).Nodup

theorem State.Backed.extends {before after : State} {row : ClaimRow} (backed : before.Backed row)
    (extended : before.Extends after) : after.Backed row := by
  obtain ⟨call, found, same⟩ := backed
  exact ⟨call, extended.calls _ call found, same⟩

theorem State.Backed.settle {state : State} {row : ClaimRow} (backed : state.Backed row)
    (refundAmount : Option Int) : state.Backed (row.settle refundAmount) := by
  obtain ⟨call, found, agent, trigger, -⟩ := backed
  exact ⟨call, found, agent, trigger, fun same => by cases same⟩

theorem State.perform_claims {state : State} {effect : Effect} {id : Nat} {row : ClaimRow}
    (found : (state.perform effect).claims[id]? = some row) :
    (∃ old, state.claims[id]? = some old ∧ old.Becomes row) ∨
      effect = .addClaim row ∧ id = state.claims.length := by
  cases effect with
  | none => exact .inl ⟨row, found, .inl rfl⟩
  | addCall added => exact .inl ⟨row, found, .inl rfl⟩
  | send record => exact .inl ⟨row, found, .inl rfl⟩
  | addClaim added =>
      rcases Nat.lt_or_ge id state.claims.length with inside | outside
      · refine .inl ⟨row, ?_, .inl rfl⟩
        rw [← found]
        exact (List.getElem?_append_left inside).symm
      · replace found := (List.getElem?_append_right outside).symm.trans found
        obtain ⟨inside, same⟩ := List.getElem?_eq_some_iff.mp found
        rw [List.getElem_singleton] at same
        subst same
        rw [List.length_singleton] at inside
        exact .inr ⟨rfl, by omega⟩
  | settle origin callId refundAmount =>
      obtain ⟨old, present, becomes⟩ := settledClaims_spec found
      refine .inl ⟨old, present, ?_⟩
      rcases becomes with rfl | ⟨post, -, rfl⟩ | ⟨-, -, rfl⟩
      · exact .inl rfl
      · exact .inr ⟨_, rfl⟩
      · exact .inr ⟨_, rfl⟩

theorem State.Backed.becomes {before after : State} {row later : ClaimRow}
    (backed : before.Backed row) (extended : before.Extends after) (becomes : row.Becomes later) :
    after.Backed later := by
  rcases becomes with rfl | ⟨refundAmount, rfl⟩
  · exact backed.extends extended
  · exact (backed.extends extended).settle refundAmount

theorem Phase.Opens.exists {phase : Phase} {callId : Nat} (opens : phase.Opens callId) :
    ∃ step post rec host, phase = .opening step post rec host callId := by
  cases phase with
  | opening step post rec host callId' =>
      cases opens
      exact ⟨step, post, rec, host, rfl⟩
  | idle | posting | selecting | settling | accepted | replied => cases opens

namespace State.Linked

variable {state : State}

theorem inside (linked : state.Linked) {request callId : Nat}
    (opens : (state.requests request).Opens callId) : callId < state.calls.length := by
  obtain ⟨step, post, rec, host, same⟩ := opens.exists
  have fits := linked.fits request
  rw [same] at fits
  obtain ⟨time, found⟩ := fits
  exact (List.getElem?_eq_some_iff.mp found).1

theorem keep {after : State} (linked : state.Linked) (extended : state.Extends after)
    (claims : after.claims = state.claims) (requests : after.requests = state.requests)
    (accounts : (after.accounts.map fun account => account.record.id).Nodup) : after.Linked := by
  refine ⟨?_, ?_, ?_, ?_, ?_, accounts⟩
  · intro request
    rw [requests]
    exact extended.fits (linked.fits request)
  · intro id row found
    rw [claims] at found
    exact (linked.backed id row found).extends extended
  · rw [requests, claims]
    exact linked.fresh
  · rw [requests]
    exact linked.alone
  · rw [claims]
    exact linked.unique

theorem setPhase (linked : state.Linked) (request : Nat) {phase : Phase} (fits : state.Fits phase)
    (elsewhere : ∀ callId, ¬phase.Opens callId) : (state.setPhase request phase).Linked := by
  have opens : ∀ other callId, ((state.setPhase request phase).requests other).Opens callId →
      (state.requests other).Opens callId := by
    intro other callId opens
    by_cases same : other = request
    · rw [same, setPhase_self] at opens
      exact absurd opens (elsewhere callId)
    · rwa [setPhase_of_ne state same] at opens
  refine ⟨?_, linked.backed, ?_, ?_, linked.unique, linked.accounts⟩
  · intro other
    by_cases same : other = request
    · rw [same, setPhase_self]
      exact fits
    · rw [setPhase_of_ne state same]
      exact linked.fits other
  · intro other callId opened
    exact linked.fresh other callId (opens other callId opened)
  · intro first second callId one two
    exact linked.alone first second callId (opens first callId one) (opens second callId two)

theorem run (linked : state.Linked) (request : Nat) (outcome : Outcome) :
    (state.run canonicalHostname request outcome).Linked := by
  obtain ⟨effect, next, advances, ran⟩ :=
    state.run_advances canonicalHostname request outcome
  rw [ran]
  have extended := state.extends_perform effect
  -- A request at a claim was there before, or has just written the record.
  have opened : ∀ other callId,
      (((state.perform effect).setPhase request next).requests other).Opens callId →
        (state.requests other).Opens callId ∨ other = request ∧ callId = state.calls.length ∧
          ∃ row, effect = .addCall row := by
    intro other callId opens
    by_cases same : other = request
    · subst same
      rw [setPhase_self] at opens
      obtain ⟨step, post, rec, host, rfl⟩ := opens.exists
      rcases advances.opening with ⟨before, stood, -⟩ | ⟨last, added⟩
      · rw [stood]
        exact .inl rfl
      · exact .inr ⟨rfl, last, _, added⟩
    · rw [setPhase_of_ne _ same, perform_requests] at opens
      exact .inl opens
  -- A new claim is of the record that the request is at.
  have wrote : ∀ row, effect = .addClaim row →
      (state.requests request).Opens row.callRecordId ∧ state.Backed row ∧
        ∀ callId, ¬next.Opens callId := by
    rintro row rfl
    obtain ⟨step, post, rec, host, stood, agent, trigger, -, kind⟩ := advances.addClaim
    have fits := linked.fits request
    rw [stood] at fits
    obtain ⟨time, found⟩ := fits
    refine ⟨by rw [stood]; exact rfl, ⟨_, found, agent, trigger, fun simulated => ?_⟩, ?_⟩
    · rcases kind with ⟨frozen, -⟩ | ⟨-, -, refunded, estimate⟩
      · rw [frozen] at simulated
        cases simulated
      · exact ⟨refunded, estimate⟩
    · intro callId opens
      obtain ⟨step', post', rec', host', rfl⟩ := opens.exists
      rcases advances.opening with ⟨-, -, none⟩ | ⟨-, added⟩
      · cases none
      · cases added
  refine ⟨?_, ?_, ?_, ?_, ?_, ?_⟩
  · intro other
    by_cases same : other = request
    · subst same
      rw [setPhase_self]
      exact advances.fits (linked.fits other)
    · rw [setPhase_of_ne _ same, perform_requests]
      exact extended.fits (linked.fits other)
  · intro id row found
    rcases perform_claims found with ⟨old, present, becomes⟩ | ⟨added, -⟩
    · exact (linked.backed id old present).becomes (extended.setPhase request next) becomes
    · exact (wrote row added).2.1.extends (extended.setPhase request next)
  · intro other callId opens id row found
    rcases opened other callId opens with before | ⟨rfl, last, record, added⟩
    · rcases perform_claims found with ⟨old, present, becomes⟩ | ⟨written, -⟩
      · rw [becomes.record]
        exact linked.fresh other callId before id old present
      · rintro rfl
        obtain ⟨mine, -, leaves⟩ := wrote row written
        have same := linked.alone other request row.callRecordId before mine
        subst same
        rw [setPhase_self] at opens
        exact leaves row.callRecordId opens
    · subst added
      obtain ⟨call, present, -⟩ := linked.backed id row found
      rw [last]
      exact (List.getElem?_eq_some_iff.mp present).1.ne
  · intro first second callId one two
    rcases opened first callId one with before | ⟨rfl, last, -⟩
    · rcases opened second callId two with before' | ⟨rfl, last, -⟩
      · exact linked.alone first second callId before before'
      · exact absurd (last ▸ linked.inside before) (Nat.lt_irrefl _)
    · rcases opened second callId two with before' | ⟨rfl, -, -⟩
      · exact absurd (last ▸ linked.inside before') (Nat.lt_irrefl _)
      · rfl
  · intro first second row row' found found' same
    rcases perform_claims found with ⟨old, present, becomes⟩ | ⟨added, last⟩
    · rcases perform_claims found' with ⟨old', present', becomes'⟩ | ⟨added, -⟩
      · refine linked.unique first second old old' present present' ?_
        rw [← becomes.record, ← becomes'.record, same]
      · refine absurd ?_ (linked.fresh request row'.callRecordId (wrote row' added).1 first old present)
        rw [← becomes.record, same]
    · rcases perform_claims found' with ⟨old', present', becomes'⟩ | ⟨-, last'⟩
      · refine absurd ?_ (linked.fresh request row.callRecordId (wrote row added).1 second old' present')
        rw [← becomes'.record, same]
      · rw [last, last']
  · change ((state.perform effect).accounts.map fun account => account.record.id).Nodup
    rw [perform_accounts]
    exact linked.accounts

theorem land (linked : state.Linked) (tx : Nat) (maxCoveragePerCall totalAvailable : Int) :
    (state.land tx maxCoveragePerCall totalAvailable).Linked := by
  have extended := state.extends_land tx maxCoveragePerCall totalAvailable
  revert extended
  unfold State.land
  split
  · rename_i record pending
    split
    · exact fun extended => linked.keep extended rfl rfl linked.accounts
    · rename_i absent
      intro extended
      refine linked.keep extended rfl rfl ?_
      rw [List.map_append, List.map_singleton, List.nodup_append]
      refine ⟨linked.accounts, List.nodup_singleton _, ?_⟩
      intro id member other same
      rw [List.mem_singleton.mp same]
      rintro rfl
      obtain ⟨account, present, same⟩ := List.mem_map.mp member
      exact absent (.inl (List.any_eq_true.mpr ⟨account, present, decide_eq_true same⟩))
  · exact fun _ => linked
  · exact fun _ => linked
  · exact fun _ => linked

theorem reject (linked : state.Linked) (tx : Nat) : (state.reject tx).Linked := by
  have extended := state.extends_reject tx
  rcases state.reject_cases tx with same | same
  · rwa [same]
  · rw [same] at extended ⊢
    exact linked.keep extended rfl rfl linked.accounts

theorem apply (linked : state.Linked) (event : Event) :
    (state.apply canonicalHostname event).Linked := by
  cases event with
  | tick elapsed => exact linked.keep (.of_tables rfl rfl rfl rfl) rfl rfl linked.accounts
  | flag agentId => exact linked.keep (.of_tables rfl rfl rfl rfl) rfl rfl linked.accounts
  | resolve agentId => exact linked.keep (.of_tables rfl rfl rfl rfl) rfl rfl linked.accounts
  | policy agentPubkey host active =>
      exact linked.keep (.of_tables rfl rfl rfl rfl) rfl rfl linked.accounts
  | post request key batch =>
      rcases state.post_cases canonicalHostname request key batch with same | ⟨-, same⟩
      · rwa [same]
      · rw [same]
        exact linked.setPhase request trivial fun _ opens => opens
  | submit request agentId callId hostname =>
      rcases state.submit_cases canonicalHostname request agentId callId hostname with
        same | ⟨-, ⟨-, same⟩ | ⟨host, same⟩⟩
      · rwa [same]
      · rw [same]
        exact linked.setPhase request trivial fun _ opens => opens
      · rw [same]
        exact linked.setPhase request trivial fun _ opens => opens
  | run request outcome => exact linked.run request outcome
  | land tx maxCoveragePerCall totalAvailable => exact linked.land tx _ _
  | reject tx => exact linked.reject tx
  | stop request => exact linked.setPhase request trivial fun _ opens => opens

theorem start (initial : state.Initial) : state.Linked := by
  rw [State.Initial] at initial
  rw [initial]
  refine ⟨fun _ => trivial, ?_, fun _ _ opens => opens.elim, fun _ _ _ opens => opens.elim, ?_,
    List.nodup_nil⟩
  · intro id row found
    cases found
  · intro first second row row' found
    cases found

end State.Linked

end PactNetwork.Backend.Claims
