import PactNetwork.Backend.Records

/-!
# Steps of the requests

What a statement of a request can do, and what every step keeps: the rows, claims
and transactions that requests hold on to.
-/

set_option autoImplicit false

namespace PactNetwork.Backend.Claims

variable {canonicalHostname : String → Option String}

def State.Unlanded (state : State) (tx : Nat) : Prop :=
  ∀ record, state.txs[tx]? ≠ some ⟨record, .landed⟩

/-- A transition of a request: its effect, and where it stands afterwards. -/
inductive State.Advances (canonicalHostname : String → Option String) (state : State) :
    Outcome → Phase → Effect → Phase → Prop
  | still {outcome : Outcome} {phase : Phase} (free : phase.isFree = true) :
      Advances canonicalHostname state outcome phase .none phase
  | finished {post : Post} (done : post.rest = []) :
      Advances canonicalHostname state .ok (.posting post) .none (.accepted post)
  | failed {outcome : Outcome} {post : Post} (fails : outcome ≠ .ok) :
      Advances canonicalHostname state outcome (.posting post) .none .idle
  | skipped {outcome : Outcome} {post : Post} {rec : RecordInput} {rest : List RecordInput}
      (more : post.rest = rec :: rest) (invalid : canonicalHostname rec.hostname = none) :
      Advances canonicalHostname state outcome (.posting post) .none (.posting { post with rest })
  | repeated {post : Post} {rec : RecordInput} {rest : List RecordInput} {host : String}
      (more : post.rest = rec :: rest) (valid : canonicalHostname rec.hostname = some host)
      (present : state.duplicate post.key rec = true) :
      Advances canonicalHostname state .ok (.posting post) .none (.posting { post with rest })
  | recorded {outcome : Outcome} {post : Post} {rec : RecordInput} {rest : List RecordInput}
      {host : String} (more : post.rest = rec :: rest)
      (valid : canonicalHostname rec.hostname = some host)
      (absent : state.duplicate post.key rec = false) (done : outcome ≠ .failed) :
      Advances canonicalHostname state outcome (.posting post)
        (.addCall (callRow post.key rec host state.now))
        (if outcome = .ok then .opening .flagging { post with rest } rec host state.calls.length
          else .idle)
  | unclaimed {outcome : Outcome} {post : Post} {rec : RecordInput} {host : String} {callId : Nat}
      (free : rec.classification = .success ∨ rec.paid = false) :
      Advances canonicalHostname state outcome (.opening .flagging post rec host callId) .none
        (.posting post)
  | flagged {post : Post} {rec : RecordInput} {host : String} {callId : Nat}
      (flag : 0 < state.pendingFlags post.key.label) :
      Advances canonicalHostname state .ok (.opening .flagging post rec host callId) .none
        (.opening .freezing post rec host callId)
  | unflagged {post : Post} {rec : RecordInput} {host : String} {callId : Nat}
      (clean : state.pendingFlags post.key.label = 0) :
      Advances canonicalHostname state .ok (.opening .flagging post rec host callId) .none
        (.opening .counting post rec host callId)
  | frozen {outcome : Outcome} {post : Post} {rec : RecordInput} {host : String} {callId : Nat}
      (allowed : rec.classification ∈ triggerTypeCheck) (done : outcome ≠ .failed) :
      Advances canonicalHostname state outcome (.opening .freezing post rec host callId)
        (.addClaim ⟨callId, post.key.label, rec.classification, rec.paymentAmount.getD 0, 0, 0,
          .frozen, state.now⟩)
        (if outcome = .ok then .posting post else .idle)
  | counted {post : Post} {rec : RecordInput} {host : String} {callId : Nat}
      (below : state.dailyCount post.key.label < 1000) :
      Advances canonicalHostname state .ok (.opening .counting post rec host callId) .none
        (.opening .claiming post rec host callId)
  | capped {post : Post} {rec : RecordInput} {host : String} {callId : Nat}
      (above : 1000 ≤ state.dailyCount post.key.label) :
      Advances canonicalHostname state .ok (.opening .counting post rec host callId) .none
        (.posting post)
  | unrefunded {outcome : Outcome} {post : Post} {rec : RecordInput} {host : String} {callId : Nat}
      (none : refundPct rec.classification = none) :
      Advances canonicalHostname state outcome (.opening .claiming post rec host callId) .none
        (.posting post)
  | claimed {outcome : Outcome} {post : Post} {rec : RecordInput} {host : String} {callId : Nat}
      {pct : Int} {next : Phase} (refunded : refundPct rec.classification = some pct)
      (done : outcome ≠ .failed)
      (goes : outcome ≠ .ok ∧ next = .idle ∨ outcome = .ok ∧ next = .posting post ∨
        outcome = .ok ∧ ∃ agentPubkey, next = .settling .resolving (.post post state.claims.length)
          ⟨callId, post.key.label, agentPubkey, host, rec.paymentAmount.getD 0, rec.latencyMs,
            rec.statusCode, rec.classification, rec.timestamp⟩) :
      Advances canonicalHostname state outcome (.opening .claiming post rec host callId)
        (.addClaim ⟨callId, post.key.label, rec.classification,
          clampCallCost (rec.paymentAmount.getD 0), pct,
          estimateRefund (rec.paymentAmount.getD 0) pct, .simulated, state.now⟩) next
  | broken {outcome : Outcome} {step : Opening} {post : Post} {rec : RecordInput} {host : String}
      {callId : Nat} (fails : outcome ≠ .ok ∧ (outcome = .lost → step = .flagging ∨ step = .counting) ∨
        step = .freezing ∧ rec.classification ∉ triggerTypeCheck)
      (due : step = .flagging → rec.classification ≠ .success ∧ rec.paid = true) :
      Advances canonicalHostname state outcome (.opening step post rec host callId) .none .idle
  | selected {agentId : String} {callId : Nat} {host : String} {row : CallRow}
      {agentPubkey : String} (found : state.calls[callId]? = some row) :
      Advances canonicalHostname state .ok (.selecting agentId callId host) .none
        (.settling .resolving .submit ⟨callId, row.agentId, agentPubkey, row.apiProvider,
          row.paymentAmount.getD 0, row.latencyMs, row.statusCode, row.classification,
          row.createdAt⟩)
  | answered {outcome : Outcome} {agentId : String} {callId : Nat} {host : String} :
      Advances canonicalHostname state outcome (.selecting agentId callId host) .none
        (.replied callId (outcome = .ok) (state.onChain callId))
  | covered {origin : Origin} {record : CallRecord} :
      Advances canonicalHostname state .ok (.settling .resolving origin record) .none
        (.settling .submitting origin record)
  | sent {outcome : Outcome} {origin : Origin} {record : CallRecord} (done : outcome ≠ .failed) :
      Advances canonicalHostname state outcome (.settling .submitting origin record) (.send record)
        (if outcome = .ok then .settling (.sent state.txs.length) origin record
          else state.finish false record origin)
  | waits {tx : Nat} {origin : Origin} {record : CallRecord} :
      Advances canonicalHostname state .ok (.settling (.sent tx) origin record) .none
        (.settling (.sent tx) origin record)
  | confirmed {tx : Nat} {origin : Origin} {record sent : CallRecord} {account : Account}
      (landed : state.txs[tx]? = some ⟨sent, .landed⟩) (found : account ∈ state.accounts)
      (same : account.record.id = record.id) :
      Advances canonicalHostname state .ok (.settling (.sent tx) origin record) .none
        (.settling (.updating account.refundAmount) origin record)
  | updated {outcome : Outcome} {refundAmount : Int} {origin : Origin} {record : CallRecord}
      (done : outcome ≠ .failed) :
      Advances canonicalHostname state outcome (.settling (.updating refundAmount) origin record)
        (.settle origin record.id refundAmount) (state.finish (outcome = .ok) record origin)
  | dropped {outcome : Outcome} {clean : Bool} {stage : Stage} {origin : Origin}
      {record : CallRecord} (honest : clean = true → outcome = .ok)
      (unlanded : ∀ tx, outcome = .ok → stage = .sent tx → state.Unlanded tx ∨
        ∀ account ∈ state.accounts, account.record.id ≠ record.id)
      (fails : ∀ refundAmount, stage = .updating refundAmount → outcome = .failed) :
      Advances canonicalHostname state outcome (.settling stage origin record) .none
        (state.finish clean record origin)

@[simp] theorem Outcome.effect_failed (effect : Effect) : Outcome.failed.effect effect = .none := rfl

theorem Outcome.effect_of_ne {outcome : Outcome} (done : outcome ≠ .failed) (effect : Effect) :
    outcome.effect effect = effect := by
  simp [Outcome.effect, done]

namespace State

variable {state : State} {outcome : Outcome}

theorem post_advances (post : Post) :
    state.Advances canonicalHostname outcome (.posting post)
      (state.post canonicalHostname outcome post).1
      (state.post canonicalHostname outcome post).2 := by
  unfold State.post
  cases more : post.rest with
  | nil =>
      by_cases ok : outcome = .ok
      · subst ok
        exact .finished more
      · simp only [ok, if_false]
        exact .failed ok
  | cons rec rest =>
      dsimp only
      cases valid : canonicalHostname rec.hostname with
      | none => exact .skipped more valid
      | some host =>
          dsimp only
          cases present : state.duplicate post.key rec with
          | true =>
              by_cases ok : outcome = .ok
              · subst ok
                exact .repeated more valid present
              · simp only [if_true, ok, if_false]
                exact .failed ok
          | false =>
              simp only [Bool.false_eq_true, if_false]
              by_cases failed : outcome = .failed
              · subst failed
                exact .failed (by decide)
              · rw [Outcome.effect_of_ne failed]
                exact .recorded more valid present failed

theorem openClaim_advances (step : Opening) (post : Post) (rec : RecordInput) (host : String)
    (callId : Nat) : state.Advances canonicalHostname outcome (.opening step post rec host callId)
      (state.openClaim outcome post rec host callId step).1
      (state.openClaim outcome post rec host callId step).2 := by
  cases step with
  | flagging =>
      unfold State.openClaim
      by_cases free : rec.classification = .success ∨ rec.paid = false
      · rw [if_pos free]
        exact .unclaimed free
      rw [if_neg free]
      obtain ⟨failure, unpaid⟩ := not_or.mp free
      by_cases ok : outcome = .ok
      · subst ok
        by_cases flag : 0 < state.pendingFlags post.key.label
        · simp only [if_true, if_pos flag]
          exact .flagged flag
        · simp only [if_true, if_neg flag]
          exact .unflagged (Nat.eq_zero_of_not_pos flag)
      · simp only [ok, if_false]
        exact .broken (.inl ⟨ok, fun _ => .inl rfl⟩) fun _ => ⟨failure, eq_true_of_ne_false unpaid⟩
  | freezing =>
      unfold State.openClaim
      by_cases allowed : rec.classification ∈ triggerTypeCheck
      · rw [if_pos allowed]
        by_cases failed : outcome = .failed
        · subst failed
          exact .broken (.inl ⟨by decide, fun lost => by cases lost⟩) fun same => by cases same
        · rw [Outcome.effect_of_ne failed]
          exact .frozen allowed failed
      · rw [if_neg allowed]
        exact .broken (.inr ⟨rfl, allowed⟩) fun same => by cases same
  | counting =>
      unfold State.openClaim
      by_cases ok : outcome = .ok
      · subst ok
        by_cases above : 1000 ≤ state.dailyCount post.key.label
        · simp only [if_true, if_pos above]
          exact .capped above
        · simp only [if_true, if_neg above]
          exact .counted (Nat.lt_of_not_ge above)
      · simp only [ok, if_false]
        exact .broken (.inl ⟨ok, fun _ => .inr rfl⟩) fun same => by cases same
  | claiming =>
      unfold State.openClaim
      cases refunded : refundPct rec.classification with
      | none => exact .unrefunded refunded
      | some pct =>
          cases outcome with
          | failed =>
              exact .broken (.inl ⟨by decide, fun lost => by cases lost⟩) fun same => by cases same
          | lost => exact .claimed refunded (by decide) (.inl ⟨by decide, rfl⟩)
          | ok =>
              refine .claimed refunded (by decide) (.inr ?_)
              cases bound : post.key.agentPubkey with
              | none => exact .inl ⟨rfl, rfl⟩
              | some agentPubkey =>
                  by_cases blank : agentPubkey = ""
                  · simp only [if_true, if_pos blank]
                    exact .inl ⟨trivial, trivial⟩
                  · simp only [if_true, if_neg blank]
                    exact .inr ⟨trivial, agentPubkey, rfl⟩

theorem select_advances (agentId : String) (callId : Nat) (host : String) :
    state.Advances canonicalHostname outcome (.selecting agentId callId host) .none
      (state.select outcome agentId callId host) := by
  unfold State.select
  by_cases ok : outcome = .ok
  · subst ok
    rw [if_pos rfl]
    split
    · exact .answered
    · rename_i row found
      split
      · exact .answered
      split
      · exact .answered
      split
      · exact .answered
      split
      · exact .answered
      · exact .selected found
  · have answered : state.Advances canonicalHostname outcome (.selecting agentId callId host) .none
        (.replied callId (outcome = .ok) (state.onChain callId)) := .answered
    simpa only [ok, if_false, decide_false] using answered

theorem settle_advances (stage : Stage) (origin : Origin) (record : CallRecord) :
    state.Advances canonicalHostname outcome (.settling stage origin record)
      (state.settle outcome origin record stage).1
      (state.settle outcome origin record stage).2 := by
  cases stage with
  | resolving =>
      simp only [State.settle]
      by_cases covered : outcome = .ok ∧ state.active record.agentPubkey record.apiProvider = true
      · rw [if_pos covered]
        obtain ⟨rfl, -⟩ := covered
        exact .covered
      · rw [if_neg covered]
        exact .dropped of_decide_eq_true (fun _ _ same => by cases same) fun _ same => by cases same
  | submitting =>
      simp only [State.settle]
      by_cases valid : (triggerTypeMap record.classification).isSome ∧ 0 ≤ record.paymentAmount
      · rw [if_pos valid]
        by_cases failed : outcome = .failed
        · subst failed
          exact .dropped (fun same => by cases same) (fun _ _ same => by cases same)
            fun _ same => by cases same
        · rw [Outcome.effect_of_ne failed]
          exact .sent failed
      · rw [if_neg valid]
        exact .dropped of_decide_eq_true (fun _ _ same => by cases same) fun _ same => by cases same
  | sent tx =>
      simp only [State.settle]
      by_cases ok : outcome = .ok
      · subst ok
        rw [if_pos rfl]
        split
        · exact .waits
        · rename_i sent landed
          split
          · rename_i account found
            have same := List.find?_some found
            exact .confirmed landed (List.mem_of_find?_eq_some found) (of_decide_eq_true same)
          · rename_i absent
            refine .dropped (fun _ => rfl) (fun _ _ _ => .inr fun account member => ?_)
              fun _ same => by cases same
            simpa using List.find?_eq_none.mp absent account member
        · rename_i sent refused
          refine .dropped (fun _ => rfl) (fun tx' _ same => .inl fun record landed => ?_)
            fun _ same => by cases same
          cases same
          rw [refused] at landed
          cases landed
        · rename_i absent
          refine .dropped (fun _ => rfl) (fun tx' _ same => .inl fun record landed => ?_)
            fun _ same => by cases same
          cases same
          rw [absent] at landed
          cases landed
      · rw [if_neg ok]
        exact .dropped (fun same => by cases same) (fun _ good => absurd good ok)
          fun _ same => by cases same
  | updating refundAmount =>
      simp only [State.settle]
      by_cases failed : outcome = .failed
      · subst failed
        exact .dropped of_decide_eq_true (fun _ _ same => by cases same) fun _ _ => rfl
      · rw [Outcome.effect_of_ne failed]
        exact .updated failed

theorem advance_advances (phase : Phase) :
    state.Advances canonicalHostname outcome phase
      (state.advance canonicalHostname outcome phase).1
      (state.advance canonicalHostname outcome phase).2 := by
  cases phase with
  | idle => exact .still rfl
  | accepted post => exact .still rfl
  | replied callId clean existed => exact .still rfl
  | posting post => exact post_advances post
  | opening step post rec host callId => exact openClaim_advances step post rec host callId
  | selecting agentId callId host => exact select_advances agentId callId host
  | settling stage origin record => exact settle_advances stage origin record

end State

theorem State.run_advances (canonicalHostname : String → Option String) (state : State)
    (request : Nat) (outcome : Outcome) :
    ∃ effect next, state.Advances canonicalHostname outcome (state.requests request) effect next ∧
      state.run canonicalHostname request outcome = (state.perform effect).setPhase request next :=
  ⟨_, _, advance_advances (state.requests request), rfl⟩

@[simp] theorem State.perform_requests (state : State) (effect : Effect) :
    (state.perform effect).requests = state.requests := by
  cases effect <;> rfl

@[simp] theorem State.perform_accounts (state : State) (effect : Effect) :
    (state.perform effect).accounts = state.accounts := by
  cases effect <;> rfl

@[simp] theorem State.perform_now (state : State) (effect : Effect) :
    (state.perform effect).now = state.now := by
  cases effect <;> rfl

@[simp] theorem State.perform_pendingFlags (state : State) (effect : Effect) :
    (state.perform effect).pendingFlags = state.pendingFlags := by
  cases effect <;> rfl

/-! ## Events of the surroundings -/

section Surroundings

variable (state : State) (tx : Nat) (maxCoveragePerCall totalAvailable : Int)

@[simp] theorem State.land_requests :
    (state.land tx maxCoveragePerCall totalAvailable).requests = state.requests := by
  unfold land
  split
  · split
    · rfl
    · rfl
  · rfl
  · rfl
  · rfl

@[simp] theorem State.land_claims :
    (state.land tx maxCoveragePerCall totalAvailable).claims = state.claims := by
  unfold land
  split
  · split
    · rfl
    · rfl
  · rfl
  · rfl
  · rfl

@[simp] theorem State.land_calls :
    (state.land tx maxCoveragePerCall totalAvailable).calls = state.calls := by
  unfold land
  split
  · split
    · rfl
    · rfl
  · rfl
  · rfl
  · rfl

@[simp] theorem State.land_pendingFlags :
    (state.land tx maxCoveragePerCall totalAvailable).pendingFlags = state.pendingFlags := by
  unfold land
  split
  · split
    · rfl
    · rfl
  · rfl
  · rfl
  · rfl

@[simp] theorem State.land_now :
    (state.land tx maxCoveragePerCall totalAvailable).now = state.now := by
  unfold land
  split
  · split
    · rfl
    · rfl
  · rfl
  · rfl
  · rfl

theorem State.reject_cases : state.reject tx = state ∨
    state.reject tx = { state with txs := state.txs.modify tx (Tx.decide .refused) } := by
  unfold reject
  split
  · exact .inr rfl
  · exact .inl rfl
  · exact .inl rfl
  · exact .inl rfl

variable (canonicalHostname : String → Option String) (request : Nat)

theorem State.post_cases (key : ApiKey) (batch : List RecordInput) :
    state.apply canonicalHostname (.post request key batch) = state ∨
      (state.requests request).isFree = true ∧
        state.apply canonicalHostname (.post request key batch) =
          state.setPhase request (.posting ⟨key, batch, batch⟩) := by
  simp only [apply]
  split
  · rename_i admitted
    exact .inr ⟨(Bool.and_eq_true_iff.mp admitted).1, rfl⟩
  · exact .inl rfl

theorem State.submit_cases (agentId : String) (callId : Nat) (hostname : String) :
    state.apply canonicalHostname (.submit request agentId callId hostname) = state ∨
      (state.requests request).isFree = true ∧
        (canonicalHostname hostname = none ∧
          state.apply canonicalHostname (.submit request agentId callId hostname) =
            state.setPhase request (.replied callId true (state.onChain callId)) ∨
        ∃ host, state.apply canonicalHostname (.submit request agentId callId hostname) =
          state.setPhase request (.selecting agentId callId host)) := by
  simp only [apply]
  split
  · rename_i free
    refine .inr ⟨free, ?_⟩
    split
    · rename_i invalid
      exact .inl ⟨invalid, rfl⟩
    · exact .inr ⟨_, rfl⟩
  · exact .inl rfl

end Surroundings

def Event.request : Event → Option Nat
  | .post request _ _ | .submit request _ _ _ | .run request _ | .stop request => some request
  | .tick _ | .flag _ | .resolve _ | .policy _ _ _ | .land _ _ _ | .reject _ => none

theorem State.apply_requests {state : State} {event : Event} {other : Nat} (differ : event.request ≠ some other) :
    (state.apply canonicalHostname event).requests other = state.requests other := by
  have distinct : ∀ {request : Nat}, some request ≠ some other → other ≠ request := by
    rintro request unequal rfl
    exact unequal rfl
  cases event with
  | tick elapsed => rfl
  | flag agentId => rfl
  | resolve agentId => rfl
  | policy agentPubkey host active => rfl
  | stop request => exact state.setPhase_of_ne (distinct differ) _
  | post request key batch =>
      rcases state.post_cases canonicalHostname request key batch with same | ⟨-, same⟩
      · rw [same]
      · rw [same, state.setPhase_of_ne (distinct differ)]
  | submit request agentId callId hostname =>
      rcases state.submit_cases canonicalHostname request agentId callId hostname with
        same | ⟨-, ⟨-, same⟩ | ⟨host, same⟩⟩
      · rw [same]
      · rw [same, state.setPhase_of_ne (distinct differ)]
      · rw [same, state.setPhase_of_ne (distinct differ)]
  | run request outcome =>
      exact (State.setPhase_of_ne _ (distinct differ) _).trans (by rw [perform_requests])
  | land tx maxCoveragePerCall totalAvailable => exact congrFun (state.land_requests tx _ _) other
  | reject tx =>
      change (state.reject tx).requests other = _
      rcases state.reject_cases tx with same | same
      · rw [same]
      · rw [same]

/-! ## What a step can have been -/

namespace State.Advances

variable {state : State} {outcome : Outcome} {phase next : Phase}

theorem of_finish {clean : Bool} {record : CallRecord} {origin : Origin} {step : Opening}
    {post : Post} {rec : RecordInput} {host : String} {callId : Nat}
    (same : state.finish clean record origin = .opening step post rec host callId) : False := by
  cases origin with
  | post post claimId => cases same
  | submit => cases same

theorem addCall {row : CallRow}
    (advances : state.Advances canonicalHostname outcome phase (.addCall row) next) :
    ∃ post rec rest host, phase = .posting post ∧ post.rest = rec :: rest ∧
      canonicalHostname rec.hostname = some host ∧ state.duplicate post.key rec = false ∧
        row = callRow post.key rec host state.now ∧ outcome ≠ .failed ∧
          next = if outcome = .ok then
            .opening .flagging { post with rest } rec host state.calls.length else .idle := by
  cases advances with
  | recorded more valid absent done =>
      exact ⟨_, _, _, _, rfl, more, valid, absent, rfl, done, rfl⟩

theorem addClaim {row : ClaimRow}
    (advances : state.Advances canonicalHostname outcome phase (.addClaim row) next) :
    ∃ step post rec host, phase = .opening step post rec host row.callRecordId ∧
      row.agentId = post.key.label ∧ row.triggerType = rec.classification ∧
        row.createdAt = state.now ∧ (row.status = .frozen ∧ step = .freezing ∨
          row.status = .simulated ∧ step = .claiming ∧
            refundPct rec.classification = some row.refundPct ∧
              row.refundAmount = estimateRefund (rec.paymentAmount.getD 0) row.refundPct) := by
  cases advances with
  | frozen allowed done => exact ⟨_, _, _, _, rfl, rfl, rfl, rfl, .inl ⟨rfl, rfl⟩⟩
  | claimed refunded done goes => exact ⟨_, _, _, _, rfl, rfl, rfl, rfl, .inr ⟨rfl, rfl, refunded, rfl⟩⟩

theorem send {record : CallRecord}
    (advances : state.Advances canonicalHostname outcome phase (.send record) next) :
    ∃ origin, phase = .settling .submitting origin record := by
  cases advances with
  | sent done => exact ⟨_, rfl⟩

theorem settle {origin : Origin} {callId : Nat} {refundAmount : Int}
    (advances : state.Advances canonicalHostname outcome phase
      (.settle origin callId refundAmount) next) :
    ∃ record, phase = .settling (.updating refundAmount) origin record ∧ callId = record.id ∧
      outcome ≠ .failed ∧ next = state.finish (outcome = .ok) record origin := by
  cases advances with
  | updated done => exact ⟨_, rfl, rfl, done, rfl⟩

theorem opening {effect : Effect} {step : Opening} {post : Post} {rec : RecordInput} {host : String}
    {callId : Nat} (advances : state.Advances canonicalHostname outcome phase effect
      (.opening step post rec host callId)) :
    (∃ before, phase = .opening before post rec host callId ∧ effect = .none) ∨
      callId = state.calls.length ∧ effect = .addCall (callRow post.key rec host state.now) := by
  generalize target : Phase.opening step post rec host callId = next at advances
  cases advances with
  | recorded more valid absent done =>
      split at target
      · cases target
        exact .inr ⟨rfl, rfl⟩
      · cases target
  | flagged flag =>
      cases target
      exact .inl ⟨_, rfl, rfl⟩
  | unflagged clean =>
      cases target
      exact .inl ⟨_, rfl, rfl⟩
  | counted below =>
      cases target
      exact .inl ⟨_, rfl, rfl⟩
  | still free =>
      subst target
      cases free
  | frozen allowed done => split at target <;> cases target
  | claimed refunded done goes =>
      rcases goes with ⟨-, rfl⟩ | ⟨-, rfl⟩ | ⟨-, agentPubkey, rfl⟩ <;> cases target
  | sent done =>
      split at target
      · cases target
      · exact (of_finish target.symm).elim
  | updated done => exact (of_finish target.symm).elim
  | dropped honest unlanded fails => exact (of_finish target.symm).elim
  | finished | failed | skipped | repeated | unclaimed | capped | unrefunded | broken | selected
  | answered | covered | waits | confirmed => cases target

end State.Advances

end PactNetwork.Backend.Claims
