import PactNetwork.Backend.ClaimLinks

/-!
# Settled claims

Claim rows against the `Claim` accounts on chain: whether a settled row has the refund
that was paid, and whether a paid claim has a settled row.
-/

set_option autoImplicit false

namespace PactNetwork.Backend.Claims

variable {canonicalHostname : String → Option String}

def State.Settled (state : State) (callId : Nat) : Prop :=
  ∃ row ∈ state.claims, row.callRecordId = callId ∧ row.status = .settled

/-- Settled rows have the refund that was paid; after a claims-submit request without a
failed call for a record whose claim is on chain, the record's row is settled. -/
def State.Agrees (state : State) : Prop :=
  (∀ row ∈ state.claims, row.status = .settled → ∃ account ∈ state.accounts,
    account.record.id = row.callRecordId ∧ row.refundAmount = account.refundAmount) ∧
  ∀ request callId, state.requests request = .replied callId true true →
    state.Settled callId ∧ ∀ row ∈ state.claims, row.callRecordId = callId → row.status = .settled

def State.Landed (state : State) (callId : Nat) : Phase → Prop
  | .settling (.sent tx) _ record => record.id = callId ∧ state.txs[tx]? = some ⟨record, .landed⟩
  | .settling (.updating _) _ record => record.id = callId
  | .settling .resolving _ _ | .settling .submitting _ _ => False
  | .idle | .posting _ | .opening _ _ _ _ _ | .selecting _ _ _ | .accepted _ | .replied _ _ _ => False

/-- No request of the record is between the transaction and the UPDATE, but one. -/
def State.NoneLanded (state : State) (callId request : Nat) : Prop :=
  ∀ other, other ≠ request → ¬state.Landed callId (state.requests other)

/-- What is so at every event of a prompt run: a transaction lands while its request waits
for it; no call fails and no process stops between that and the UPDATE; claims-submit
settles rows that exist, are not frozen and have the refund that was paid as their estimate;
and it answers when no other request for the record is between transaction and UPDATE. -/
def State.Prompt (canonicalHostname : String → Option String) (state : State) : Event → Prop
  | .land tx _ _ => ∀ record, state.txs[tx]? = some ⟨record, .pending⟩ →
      ∃ request origin, state.requests request = .settling (.sent tx) origin record
  | .stop request => ∀ callId, ¬state.Landed callId (state.requests request)
  | .submit request _ callId hostname => canonicalHostname hostname = none →
      state.NoneLanded callId request
  | .run request outcome =>
      (∀ callId, state.Landed callId (state.requests request) → outcome = .ok ∨ outcome = .lost ∧
        ∃ refundAmount origin record,
          state.requests request = .settling (.updating refundAmount) origin record) ∧
      (∀ refundAmount record,
        state.requests request = .settling (.updating refundAmount) .submit record →
          (∃ row ∈ state.claims, row.callRecordId = record.id) ∧
          (∀ row ∈ state.claims, row.callRecordId = record.id → row.status ≠ .frozen) ∧
          ∀ pct, refundPct record.classification = some pct →
            estimateRefund record.paymentAmount pct = refundAmount) ∧
      ((state.requests request).isFree = false → ∀ callId clean existed,
        (state.run canonicalHostname request outcome).requests request =
          .replied callId clean existed → state.NoneLanded callId request)
  | .tick _ | .flag _ | .resolve _ | .policy _ _ _ | .post _ _ _ | .reject _ => True

/-! ## What is kept -/

theorem ClaimRow.Becomes.settled {before after : ClaimRow} (becomes : before.Becomes after)
    (settled : before.status = .settled) : after.status = .settled := by
  rcases becomes with rfl | ⟨refundAmount, rfl⟩
  · exact settled
  · rfl

section Extends

variable {before after : State}

theorem State.Extends.settled (extended : before.Extends after) {callId : Nat}
    (settled : before.Settled callId) : after.Settled callId := by
  obtain ⟨row, member, same, done⟩ := settled
  obtain ⟨id, found⟩ := List.mem_iff_getElem?.mp member
  obtain ⟨later, there, becomes⟩ := extended.claims id row found
  exact ⟨later, List.mem_of_getElem? there, becomes.record.trans same, becomes.settled done⟩

theorem State.Extends.landed (extended : before.Extends after) {callId : Nat} {phase : Phase}
    (landed : before.Landed callId phase) : after.Landed callId phase := by
  cases phase with
  | settling stage origin record =>
      cases stage with
      | sent tx =>
          obtain ⟨same, found⟩ := landed
          obtain ⟨later, there, -, decided⟩ := extended.txs tx _ found
          rw [decided fun pending => by cases pending] at there
          exact ⟨same, there⟩
      | updating refundAmount => exact landed
      | resolving => exact landed
      | submitting => exact landed
  | idle | posting | opening | selecting | accepted | replied => exact landed

end Extends

theorem State.onChain_iff {state : State} {callId : Nat} :
    state.onChain callId = true ↔ ∃ account ∈ state.accounts, account.record.id = callId := by
  simp [onChain]

theorem State.Landed.not_free {state : State} {callId : Nat} {phase : Phase}
    (landed : state.Landed callId phase) : phase.isFree = false := by
  cases phase with
  | idle => cases landed
  | accepted post => cases landed
  | replied callId' clean existed => cases landed
  | posting | opening | selecting | settling => rfl

/-- Paid claims are settled or about to be, settled rows have the refund that was paid, and
answers found what they say. -/
structure State.Reconciled (state : State) : Prop where
  linked : state.Linked
  refunds : ∀ row ∈ state.claims, row.status = .settled → ∃ account ∈ state.accounts,
    account.record.id = row.callRecordId ∧ row.refundAmount = account.refundAmount
  paid : ∀ account ∈ state.accounts, state.Settled account.record.id ∨
    ∃ request, state.Landed account.record.id (state.requests request)
  answers : ∀ request callId, state.requests request = .replied callId true true →
    state.Settled callId

theorem State.Reconciled.agrees {state : State} (reconciled : state.Reconciled) : state.Agrees := by
  refine ⟨reconciled.refunds, fun request callId answered => ?_⟩
  have settled := reconciled.answers request callId answered
  refine ⟨settled, fun row member same => ?_⟩
  obtain ⟨row', member', same', done⟩ := settled
  obtain ⟨id, found⟩ := List.mem_iff_getElem?.mp member
  obtain ⟨id', found'⟩ := List.mem_iff_getElem?.mp member'
  have equal := reconciled.linked.unique id id' row row' found found' (same.trans same'.symm)
  subst equal
  cases found.symm.trans found'
  exact done

theorem State.Reconciled.keep {state after : State} (reconciled : state.Reconciled)
    (linked : after.Linked) (extended : state.Extends after) (claims : after.claims = state.claims)
    (accounts : after.accounts = state.accounts) (requests : after.requests = state.requests) :
    after.Reconciled := by
  refine ⟨linked, ?_, ?_, ?_⟩
  · rw [claims, accounts]
    exact reconciled.refunds
  · intro account member
    rw [accounts] at member
    rcases reconciled.paid account member with settled | ⟨request, landed⟩
    · exact .inl (extended.settled settled)
    · refine .inr ⟨request, ?_⟩
      rw [requests]
      exact extended.landed landed
  · intro request callId answered
    rw [requests] at answered
    exact extended.settled (reconciled.answers request callId answered)

theorem State.Reconciled.setPhase {state : State} (reconciled : state.Reconciled) {request : Nat}
    {phase : Phase} (linked : (state.setPhase request phase).Linked)
    (calm : ∀ callId, ¬state.Landed callId (state.requests request))
    (answers : ∀ callId, phase = .replied callId true true → state.Settled callId) :
    (state.setPhase request phase).Reconciled := by
  refine ⟨linked, reconciled.refunds, ?_, ?_⟩
  · intro account member
    rcases reconciled.paid account member with settled | ⟨other, landed⟩
    · exact .inl settled
    · refine .inr ⟨other, ?_⟩
      have differ : other ≠ request := by
        rintro rfl
        exact calm _ landed
      rw [setPhase_of_ne state differ]
      exact landed
  · intro other callId answered
    by_cases same : other = request
    · rw [same, setPhase_self] at answered
      exact answers callId answered
    · rw [setPhase_of_ne state same] at answered
      exact reconciled.answers other callId answered

/-! ## The steps -/

section Run

variable {state : State} {outcome : Outcome}

theorem State.settled_perform {origin : Origin} {record : CallRecord} {refundAmount : Int}
    (fits : state.FitsOrigin record origin)
    (present : origin = .submit → ∃ row ∈ state.claims, row.callRecordId = record.id) :
    (state.perform (.settle origin record.id refundAmount)).Settled record.id := by
  cases origin with
  | post post claimId =>
      obtain ⟨-, row, found, same, -⟩ := fits
      refine ⟨row.settle (some refundAmount), ?_, same, rfl⟩
      refine List.mem_iff_getElem?.mpr ⟨claimId, ?_⟩
      change (state.claims.modify claimId _)[claimId]? = _
      simp [found]
  | submit =>
      obtain ⟨row, member, same⟩ := present rfl
      refine ⟨row.settle none, List.mem_map.mpr ⟨row, member, ?_⟩, same, rfl⟩
      rw [if_pos same]

theorem State.not_landed {callId : Nat} {stage : Stage} {origin : Origin} {record : CallRecord}
    (kept : outcome = .ok ∨ outcome = .lost ∧ ∃ refundAmount origin' record',
      Phase.settling stage origin record = .settling (.updating refundAmount) origin' record')
    (unlanded : ∀ tx, outcome = .ok → stage = .sent tx → state.Unlanded tx ∨
      ∀ account ∈ state.accounts, account.record.id ≠ record.id)
    (fails : ∀ refundAmount, stage = .updating refundAmount → outcome = .failed)
    (paid : ∃ account ∈ state.accounts, account.record.id = callId) :
    ¬state.Landed callId (.settling stage origin record) := by
  intro landed
  cases stage with
  | resolving => exact landed
  | submitting => exact landed
  | sent tx =>
      obtain ⟨same, found⟩ := landed
      rcases kept with ok | ⟨-, refundAmount, origin', record', other⟩
      · rcases unlanded tx ok rfl with missing | absent
        · exact missing record found
        · obtain ⟨account, member, id⟩ := paid
          exact absent account member (id.trans same.symm)
      · cases other
  | updating refundAmount =>
      have failed := fails refundAmount rfl
      rcases kept with ok | ⟨lost, -⟩
      · cases ok.symm.trans failed
      · cases lost.symm.trans failed

theorem State.Advances.landed {phase next : Phase} {effect : Effect} {callId : Nat}
    (advances : state.Advances canonicalHostname outcome phase effect next)
    (landed : state.Landed callId phase) (fits : state.Fits phase)
    (kept : outcome = .ok ∨ outcome = .lost ∧ ∃ refundAmount origin record,
      phase = .settling (.updating refundAmount) origin record)
    (present : ∀ refundAmount record, phase = .settling (.updating refundAmount) .submit record →
      ∃ row ∈ state.claims, row.callRecordId = record.id)
    (paid : ∃ account ∈ state.accounts, account.record.id = callId) :
    (state.perform effect).Settled callId ∨ (state.perform effect).Landed callId next := by
  cases advances with
  | waits => exact .inr landed
  | confirmed sent found same => exact .inr landed.1
  | @updated outcome refundAmount origin record done =>
      left
      rw [← show record.id = callId from landed]
      refine settled_perform fits.2.1 fun submitted => ?_
      subst submitted
      exact present refundAmount record rfl
  | dropped honest unlanded fails =>
      exact absurd landed (not_landed kept unlanded fails paid)
  | still free => exact absurd landed.not_free (by rw [free]; decide)
  | selected => cases landed
  | finished | failed | skipped | repeated | recorded | unclaimed | flagged | unflagged | frozen
  | counted | capped | unrefunded | claimed | broken | answered | covered | sent => cases landed

theorem State.Reconciled.refunds_perform (reconciled : state.Reconciled) {request : Nat}
    {effect : Effect} {next : Phase}
    (advances : state.Advances canonicalHostname outcome (state.requests request) effect next)
    (estimates : ∀ refundAmount record,
      state.requests request = .settling (.updating refundAmount) .submit record →
        (∀ row ∈ state.claims, row.callRecordId = record.id → row.status ≠ .frozen) ∧
        ∀ pct, refundPct record.classification = some pct →
          estimateRefund record.paymentAmount pct = refundAmount) :
    ∀ row ∈ (state.perform effect).claims, row.status = .settled → ∃ account ∈ state.accounts,
      account.record.id = row.callRecordId ∧ row.refundAmount = account.refundAmount := by
  cases effect with
  | none => exact reconciled.refunds
  | addCall row => exact reconciled.refunds
  | send record => exact reconciled.refunds
  | addClaim added =>
      intro row member settled
      rcases List.mem_append.mp member with old | new
      · exact reconciled.refunds row old settled
      · rw [List.mem_singleton.mp new] at settled
        obtain ⟨step, post, rec, host, -, -, -, -, kind⟩ := advances.addClaim
        rcases kind with ⟨frozen, -⟩ | ⟨simulated, -⟩
        · cases frozen.symm.trans settled
        · cases simulated.symm.trans settled
  | settle origin callId refundAmount =>
      intro row member settled
      obtain ⟨record, stands, rfl, -, -⟩ := advances.settle
      have fits := reconciled.linked.fits request
      rw [stands] at fits
      obtain ⟨⟨call, described, -, trigger, payment⟩, origins, account, held, same, paid⟩ := fits
      obtain ⟨id, found⟩ := List.mem_iff_getElem?.mp member
      obtain ⟨old, present, becomes⟩ := settledClaims_spec found
      have old_mem := List.mem_of_getElem? present
      rcases becomes with rfl | ⟨post, rfl, rfl⟩ | ⟨rfl, ours, rfl⟩
      · exact reconciled.refunds row old_mem settled
      · obtain ⟨-, row', there, mine, -⟩ := origins
        cases present.symm.trans there
        exact ⟨account, held, same.trans mine.symm, paid.symm⟩
      · obtain ⟨unfrozen, estimate⟩ := estimates refundAmount record stands
        cases before : old.status with
        | settled => exact reconciled.refunds old old_mem before
        | frozen => exact absurd before (unfrozen old old_mem ours)
        | simulated =>
            obtain ⟨call', described', -, -, simulated⟩ := reconciled.linked.backed id old present
            rw [ours] at described'
            cases described.symm.trans described'
            obtain ⟨refunded, written⟩ := simulated before
            rw [trigger] at refunded
            rw [payment, estimate old.refundPct refunded] at written
            exact ⟨account, held, same.trans ours.symm, written.trans paid.symm⟩

theorem State.Reconciled.answered (reconciled : state.Reconciled) {request : Nat} {effect : Effect}
    {next : Phase} {callId : Nat}
    (advances : state.Advances canonicalHostname outcome (state.requests request) effect next)
    (kept : ∀ callId, state.Landed callId (state.requests request) → outcome = .ok ∨
      outcome = .lost ∧ ∃ refundAmount origin record,
        state.requests request = .settling (.updating refundAmount) origin record)
    (present : ∀ refundAmount record,
      state.requests request = .settling (.updating refundAmount) .submit record →
        ∃ row ∈ state.claims, row.callRecordId = record.id)
    (alone : (state.requests request).isFree = false → ∀ callId clean existed,
      next = .replied callId clean existed → state.NoneLanded callId request)
    (answers : next = .replied callId true true) : (state.perform effect).Settled callId := by
  have settled : (state.requests request).isFree = false → state.onChain callId = true →
      ¬state.Landed callId (state.requests request) → state.Settled callId := by
    intro busy existed elsewhere
    obtain ⟨account, member, same⟩ := onChain_iff.mp existed
    rcases reconciled.paid account member with settled | ⟨other, landed⟩
    · rwa [same] at settled
    · rw [same] at landed
      have differ : other ≠ request := by
        rintro rfl
        exact elsewhere landed
      exact absurd landed (alone busy callId true true answers other differ)
  have extended := state.extends_perform effect
  have fits := reconciled.linked.fits request
  generalize stands : state.requests request = phase at advances fits
  rw [stands] at settled kept present
  cases advances with
  | still free =>
      rw [answers] at stands
      exact reconciled.answers request callId stands
  | answered =>
      injection answers with same clean existed
      rw [same] at existed
      exact settled rfl existed fun landed => landed
  | @updated outcome refundAmount origin record done =>
      cases origin with
      | post post claimId => cases answers
      | submit =>
          injection answers with same
          rw [← same]
          exact settled_perform fits.2.1 fun _ => present refundAmount record rfl
  | @dropped _ clean stage origin record honest unlanded fails =>
      cases origin with
      | post post claimId => cases answers
      | submit =>
          injection answers with same clean existed
          rw [same] at existed
          refine settled rfl existed fun landed => ?_
          exact not_landed (kept _ landed) unlanded fails (onChain_iff.mp existed) landed
  | recorded | frozen => split at answers <;> cases answers
  | claimed refunded done goes =>
      rcases goes with ⟨-, rfl⟩ | ⟨-, rfl⟩ | ⟨-, agentPubkey, rfl⟩ <;> cases answers
  | @sent _ origin record done =>
      split at answers
      · cases answers
      · cases origin with
        | post post claimId => cases answers
        | submit => cases answers
  | finished | failed | skipped | repeated | unclaimed | flagged | unflagged | counted | capped
  | unrefunded | broken | selected | covered | waits | confirmed => cases answers

theorem State.Reconciled.run (reconciled : state.Reconciled) {request : Nat}
    (prompt : state.Prompt canonicalHostname (.run request outcome)) :
    (state.run canonicalHostname request outcome).Reconciled := by
  obtain ⟨kept, estimates, alone⟩ := prompt
  have linked : (state.run canonicalHostname request outcome).Linked :=
    reconciled.linked.run request outcome
  obtain ⟨effect, next, advances, ran⟩ :=
    state.run_advances canonicalHostname request outcome
  have becomes : (state.run canonicalHostname request outcome).requests request = next := by
    rw [ran, setPhase_self]
  rw [becomes] at alone
  rw [ran] at linked ⊢
  have extended := state.extends_perform effect
  have present := fun refundAmount record stands => (estimates refundAmount record stands).1
  refine ⟨linked, ?_, ?_, ?_⟩
  · change ∀ row ∈ (state.perform effect).claims, _ → ∃ account ∈ (state.perform effect).accounts, _
    rw [perform_accounts]
    exact reconciled.refunds_perform advances fun refundAmount record stands =>
      (estimates refundAmount record stands).2
  · intro account member
    change account ∈ (state.perform effect).accounts at member
    rw [perform_accounts] at member
    rcases reconciled.paid account member with settled | ⟨other, landed⟩
    · exact .inl (extended.settled settled)
    by_cases same : other = request
    · subst same
      rcases advances.landed landed (reconciled.linked.fits other) (kept _ landed) present
        ⟨account, member, rfl⟩ with settled | moved
      · exact .inl settled
      · exact .inr ⟨other, by rwa [setPhase_self]⟩
    · refine .inr ⟨other, ?_⟩
      rw [setPhase_of_ne _ same, perform_requests]
      exact extended.landed landed
  · intro other callId answered
    by_cases same : other = request
    · subst same
      rw [setPhase_self] at answered
      exact reconciled.answered advances kept present alone answered
    · rw [setPhase_of_ne _ same, perform_requests] at answered
      exact extended.settled (reconciled.answers other callId answered)

end Run

theorem State.Reconciled.land {state : State} (reconciled : state.Reconciled) {tx : Nat}
    {maxCoveragePerCall totalAvailable : Int}
    (prompt : state.Prompt canonicalHostname (.land tx maxCoveragePerCall totalAvailable)) :
    (state.land tx maxCoveragePerCall totalAvailable).Reconciled := by
  have linked := reconciled.linked.land tx maxCoveragePerCall totalAvailable
  have extended := state.extends_land tx maxCoveragePerCall totalAvailable
  have requests := state.land_requests tx maxCoveragePerCall totalAvailable
  revert linked extended requests
  unfold State.land
  split
  · rename_i record pending
    split
    · exact fun linked extended requests => reconciled.keep linked extended rfl rfl rfl
    intro linked extended requests
    refine ⟨linked, ?_, ?_, ?_⟩
    · intro row member settled
      obtain ⟨account, held, same⟩ := reconciled.refunds row member settled
      exact ⟨account, List.mem_append_left _ held, same⟩
    · intro account member
      rcases List.mem_append.mp member with old | new
      · rcases reconciled.paid account old with settled | ⟨request, landed⟩
        · exact .inl (extended.settled settled)
        · exact .inr ⟨request, extended.landed landed⟩
      · obtain ⟨request, origin, stands⟩ := prompt record pending
        refine .inr ⟨request, ?_⟩
        rw [List.mem_singleton.mp new]
        change State.Landed _ record.id (state.requests request)
        rw [stands]
        refine ⟨rfl, ?_⟩
        change (state.txs.modify tx (Tx.decide .landed))[tx]? = _
        simp [pending, Tx.decide]
    · intro request callId answered
      exact extended.settled (reconciled.answers request callId answered)
  · exact fun _ _ _ => reconciled
  · exact fun _ _ _ => reconciled
  · exact fun _ _ _ => reconciled

theorem State.Reconciled.apply {state : State} (reconciled : state.Reconciled) {event : Event}
    (prompt : state.Prompt canonicalHostname event) :
    (state.apply canonicalHostname event).Reconciled := by
  have linked : (state.apply canonicalHostname event).Linked := reconciled.linked.apply event
  have free : ∀ request callId, (state.requests request).isFree = true →
      ¬state.Landed callId (state.requests request) := by
    intro request callId idle landed
    rw [landed.not_free] at idle
    cases idle
  cases event with
  | tick elapsed => exact reconciled.keep linked (.of_tables rfl rfl rfl rfl) rfl rfl rfl
  | flag agentId => exact reconciled.keep linked (.of_tables rfl rfl rfl rfl) rfl rfl rfl
  | resolve agentId => exact reconciled.keep linked (.of_tables rfl rfl rfl rfl) rfl rfl rfl
  | policy agentPubkey host active =>
      exact reconciled.keep linked (.of_tables rfl rfl rfl rfl) rfl rfl rfl
  | stop request => exact reconciled.setPhase linked prompt fun _ same => by cases same
  | post request key batch =>
      rcases state.post_cases canonicalHostname request key batch with same | ⟨idle, same⟩
      · rwa [same]
      · rw [same] at linked ⊢
        exact reconciled.setPhase linked (free request · idle) fun _ other => by cases other
  | submit request agentId callId hostname =>
      rcases state.submit_cases canonicalHostname request agentId callId hostname with
        same | ⟨idle, ⟨invalid, same⟩ | ⟨host, same⟩⟩
      · rwa [same]
      · rw [same] at linked ⊢
        refine reconciled.setPhase linked (free request · idle) fun callId' answers => ?_
        injection answers with same clean existed
        rw [same] at existed prompt
        obtain ⟨account, member, same⟩ := onChain_iff.mp existed
        rcases reconciled.paid account member with settled | ⟨other, landed⟩
        · rwa [same] at settled
        · rw [same] at landed
          have differ : other ≠ request := by
            rintro rfl
            exact free other callId' idle landed
          exact absurd landed (prompt invalid other differ)
      · rw [same] at linked ⊢
        exact reconciled.setPhase linked (free request · idle) fun _ other => by cases other
  | run request outcome => exact reconciled.run prompt
  | land tx maxCoveragePerCall totalAvailable => exact reconciled.land prompt
  | reject tx =>
      change (state.reject tx).Reconciled
      change (state.reject tx).Linked at linked
      have extended := state.extends_reject tx
      rcases state.reject_cases tx with same | same
      · rwa [same]
      · rw [same] at linked extended ⊢
        exact reconciled.keep linked extended rfl rfl rfl

namespace Demo

def submitted : List Event :=
  ingest ++ [.run 0 .ok, .run 0 .ok, .policy "pubkey" "api.example.com" true,
    .submit 0 "agent" 0 "api.example.com", .run 0 .ok, .run 0 .ok, .run 0 .ok]

def confirmed : List Event := submitted ++ [.land 0 1000000 5000000, .run 0 .ok]

def settled : List Event := confirmed ++ [.run 0 .ok]

example : (replay settled).requests 0 = .replied 0 true true := by decide +kernel

def updates : Phase → Bool
  | .settling (.updating _) .submit _ => true
  | _ => false

def answers : Phase → Bool
  | .replied _ _ _ => true
  | _ => false

theorem prompt_run {state : State} (calm : updates (state.requests 0) = false)
    (silent : answers ((state.run some 0 .ok).requests 0) = false) :
    state.Prompt some (.run 0 .ok) := by
  refine ⟨fun _ _ => .inl rfl, fun refundAmount record stands => ?_,
    fun _ callId clean existed answered => ?_⟩
  · rw [stands] at calm
    cases calm
  · rw [answered] at silent
    cases silent

theorem prompt_land {state : State} {sent : CallRecord} {maxCoveragePerCall totalAvailable : Int}
    (pending : state.txs[0]? = some ⟨sent, .pending⟩)
    (waits : state.requests 0 = .settling (.sent 0) .submit sent) :
    state.Prompt some (.land 0 maxCoveragePerCall totalAvailable) := by
  intro record found
  cases pending.symm.trans found
  exact ⟨0, .submit, waits⟩

theorem untouched (events : List Event) (only : ∀ event ∈ events, event.request = none ∨
    event.request = some 0) {other : Nat} (differ : other ≠ 0) :
    (replay events).requests other = .idle := by
  have kept : ∀ state : State, (events.foldl (State.apply some) state).requests other =
      state.requests other := by
    induction events with
    | nil => exact fun _ => rfl
    | cons event events ih =>
        intro state
        have first : event.request ≠ some other := by
          rcases only event List.mem_cons_self with none | zero
          · rw [none]
            exact fun same => by cases same
          · rw [zero]
            exact fun same => differ (Option.some.inj same).symm
        refine (ih (fun event member => only event (List.mem_cons_of_mem _ member)) _).trans ?_
        exact state.apply_requests first
  exact kept start

def resubmitted : CallRecord := { record with createdAt := 1700000000000000 }

theorem prompt_update :
    (replay confirmed).Prompt some (.run 0 .ok) := by
  have stands : (replay confirmed).requests 0 =
      .settling (.updating 500000) .submit resubmitted := by decide +kernel
  have rows : (replay confirmed).claims = [claim] := by
    decide +kernel
  refine ⟨fun _ _ => .inl rfl, fun refundAmount record other => ?_, fun _ callId _ _ _ => ?_⟩
  · cases stands.symm.trans other
    rw [rows]
    refine ⟨⟨claim, List.mem_cons_self, rfl⟩, fun row member _ => ?_, fun pct same => ?_⟩
    · rw [List.mem_singleton.mp member]
      decide
    · cases same
      decide
  · intro other differ landed
    rw [untouched _ (by decide) differ] at landed
    exact landed

theorem confirmed_prompt : Allows (State.apply some) (State.Prompt some) start confirmed :=
  ⟨trivial, prompt_run (by decide +kernel) (by decide +kernel),
    prompt_run (by decide +kernel) (by decide +kernel),
    prompt_run (by decide +kernel) (by decide +kernel),
    prompt_run (by decide +kernel) (by decide +kernel),
    prompt_run (by decide +kernel) (by decide +kernel),
    prompt_run (by decide +kernel) (by decide +kernel), trivial,
    (fun invalid => by cases invalid),
    prompt_run (by decide +kernel) (by decide +kernel),
    prompt_run (by decide +kernel) (by decide +kernel),
    prompt_run (by decide +kernel) (by decide +kernel),
    @prompt_land _ resubmitted _ _ (by decide +kernel) (by decide +kernel),
    prompt_run (by decide +kernel) (by decide +kernel), trivial⟩

/-- The response is lost, and the retry is refused. -/
example : (replay (submitted ++ [.land 0 1000000 5000000, .run 0 .lost,
    .submit 0 "agent" 0 "api.example.com", .run 0 .ok, .run 0 .ok, .run 0 .ok,
    .land 1 1000000 5000000, .run 0 .ok])).requests 0 = .replied 0 true true ∧
    (replay (submitted ++ [.land 0 1000000 5000000, .run 0 .lost,
    .submit 0 "agent" 0 "api.example.com", .run 0 .ok, .run 0 .ok, .run 0 .ok,
    .land 1 1000000 5000000, .run 0 .ok])).claims = [claim] := by decide +kernel

def clamped : State := replay (submitted ++ [.land 0 300000 5000000, .run 0 .ok, .run 0 .ok])

end Demo

end PactNetwork.Backend.Claims
