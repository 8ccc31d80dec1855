import PactNetwork.Backend.ClaimLinks

/-!
# Ingest of records

A batch that is posted until it is accepted: the row of each of its records, and the
claim of each record that is to have one.
-/

set_option autoImplicit false

namespace PactNetwork.Backend.Claims

variable {canonicalHostname : String → Option String}

def claimable (classification : Classification) (paymentAmount : Option Int) : Bool :=
  (refundPct classification).isSome && paymentAmount.any fun amount => 0 < amount

def RecordInput.Claimable (rec : RecordInput) : Prop :=
  claimable rec.classification rec.paymentAmount = true

def CallRow.Claimable (row : CallRow) : Prop :=
  claimable row.classification row.paymentAmount = true

def CallRow.keyed (agentPubkey : String) (rec : RecordInput) (row : CallRow) : Bool :=
  row.agentPubkey = some agentPubkey && row.timestamp = rec.timestamp && row.endpoint = rec.endpoint

def State.claimCount (state : State) (callId : Nat) : Nat :=
  state.claims.countP fun row => row.callRecordId = callId

/-- Each record of an accepted batch has one row, and one claim if it is to have one and
its agent is below the daily cap throughout. -/
def State.Complete (canonicalHostname : String → Option String) (below : Prop) (agentId : String)
    (state : State) : Prop :=
  ∀ request post agentPubkey, state.requests request = .accepted post → post.key.label = agentId →
    post.key.agentPubkey = some agentPubkey → ∀ rec ∈ post.batch,
      canonicalHostname rec.hostname ≠ none →
        state.calls.countP (CallRow.keyed agentPubkey rec) = 1 ∧
          (rec.Claimable → below → ∀ (callId : Nat) row, state.calls[callId]? = some row →
            row.keyed agentPubkey rec = true → state.claimCount callId = 1)

def Phase.Owes (agentId : String) (phase : Phase) (step : Opening) : Prop :=
  ∃ post rec host callId, phase = .opening step post rec host callId ∧ post.key.label = agentId ∧
    post.key.agentPubkey ≠ none ∧ rec.Claimable

/-- What is so at every event of a whole run, for the records of an agent that are to have
a claim: no statement fails, and no process stops, between the row of the record and that
of the claim; and a record that is skipped was recorded by the same agent, with a claim that
is to be and is not still being made. -/
def State.Whole (canonicalHostname : String → Option String) (agentId : String) (state : State) :
    Event → Prop
  | .run request outcome =>
      (∀ step, (state.requests request).Owes agentId step → outcome = .ok ∨
        outcome = .lost ∧ (step = .freezing ∨ step = .claiming)) ∧
      ∀ post agentPubkey rec rest, state.requests request = .posting post →
        post.key.label = agentId → post.key.agentPubkey = some agentPubkey →
          post.rest = rec :: rest → canonicalHostname rec.hostname ≠ none → rec.Claimable →
            (outcome = .lost → state.duplicate post.key rec = true) ∧
            ∀ (callId : Nat) row, state.calls[callId]? = some row →
              row.keyed agentPubkey rec = true → row.agentId = agentId ∧ row.Claimable ∧
                ∀ other, ¬(state.requests other).Opens callId
  | .stop request => ∀ step, ¬(state.requests request).Owes agentId step
  | .tick _ | .flag _ | .resolve _ | .policy _ _ _ | .post _ _ _ | .submit _ _ _ _ | .land _ _ _
  | .reject _ => True

/-! ## What is kept -/

section Kept

variable (canonicalHostname) (below : Prop) (agentId : String) (state : State)

def State.Claimed (callId : Nat) : Prop :=
  ∃ (id : Nat) (row : ClaimRow), state.claims[id]? = some row ∧ row.callRecordId = callId

def State.Through (agentPubkey : String) (rec : RecordInput) : Prop :=
  ∃ (callId : Nat) (row : CallRow), state.calls[callId]? = some row ∧
    row.keyed agentPubkey rec = true ∧ (rec.Claimable → below → state.Claimed callId)

def State.Passed (post : Post) (remaining : List RecordInput) : Prop :=
  post.key.label = agentId → ∀ agentPubkey, post.key.agentPubkey = some agentPubkey →
    ∃ front, post.batch = front ++ remaining ∧ ∀ rec ∈ front,
      canonicalHostname rec.hostname ≠ none → state.Through below agentPubkey rec

def State.Progress : Phase → Prop
  | .posting post => state.Passed canonicalHostname below agentId post post.rest
  | .opening _ post rec _ _ => state.Passed canonicalHostname below agentId post (rec :: post.rest)
  | .settling _ (.post post _) _ => state.Passed canonicalHostname below agentId post post.rest
  | .accepted post => state.Passed canonicalHostname below agentId post []
  | .settling _ .submit _ | .idle | .selecting _ _ _ | .replied _ _ _ => True

structure State.Kept : Prop where
  linked : state.Linked
  keys : ∀ (first second : Nat) row row' agentPubkey, state.calls[first]? = some row →
    state.calls[second]? = some row' → row.agentPubkey = some agentPubkey →
      row'.agentPubkey = some agentPubkey → row.timestamp = row'.timestamp →
        row.endpoint = row'.endpoint → first = second
  claimed : below → ∀ (callId : Nat) row, state.calls[callId]? = some row →
    row.agentId = agentId → row.agentPubkey ≠ none → row.Claimable →
      state.Claimed callId ∨ ∃ request, (state.requests request).Opens callId
  progress : ∀ request, state.Progress canonicalHostname below agentId (state.requests request)

end Kept

section Extends

variable {before after : State} {below : Prop} {agentId : String}

theorem State.Extends.claimed (extended : before.Extends after) {callId : Nat}
    (claimed : before.Claimed callId) : after.Claimed callId := by
  obtain ⟨id, row, found, same⟩ := claimed
  obtain ⟨later, there, becomes⟩ := extended.claims id row found
  exact ⟨id, later, there, becomes.record.trans same⟩

theorem State.Extends.passed (extended : before.Extends after) {post : Post}
    {remaining : List RecordInput}
    (passed : before.Passed canonicalHostname below agentId post remaining) :
    after.Passed canonicalHostname below agentId post remaining := by
  intro ours agentPubkey bound
  obtain ⟨front, split, through⟩ := passed ours agentPubkey bound
  refine ⟨front, split, fun rec member valid => ?_⟩
  obtain ⟨callId, row, found, keyed, claims⟩ := through rec member valid
  exact ⟨callId, row, extended.calls callId row found, keyed,
    fun due stays => extended.claimed (claims due stays)⟩

theorem State.Extends.progress (extended : before.Extends after) {phase : Phase}
    (progress : before.Progress canonicalHostname below agentId phase) :
    after.Progress canonicalHostname below agentId phase := by
  cases phase with
  | posting post => exact extended.passed progress
  | opening step post rec host callId => exact extended.passed progress
  | accepted post => exact extended.passed progress
  | settling stage origin record =>
      cases origin with
      | post post claimId => exact extended.passed progress
      | submit => exact trivial
  | idle | selecting | replied => exact trivial

end Extends

theorem State.Passed.next {state : State} {below : Prop} {agentId : String} {post : Post}
    {rec : RecordInput} {rest : List RecordInput}
    (passed : state.Passed canonicalHostname below agentId post (rec :: rest))
    (through : post.key.label = agentId → ∀ agentPubkey, post.key.agentPubkey = some agentPubkey →
      canonicalHostname rec.hostname ≠ none → state.Through below agentPubkey rec) :
    state.Passed canonicalHostname below agentId post rest := by
  intro ours agentPubkey bound
  obtain ⟨front, split, before⟩ := passed ours agentPubkey bound
  refine ⟨front ++ [rec], by rw [split, List.append_assoc, List.singleton_append], ?_⟩
  intro other member valid
  rcases List.mem_append.mp member with old | new
  · exact before other old valid
  · rw [List.mem_singleton.mp new] at valid ⊢
    exact through ours agentPubkey bound valid

theorem State.duplicate_iff {state : State} {key : ApiKey} {rec : RecordInput} :
    state.duplicate key rec = true ↔ ∃ agentPubkey, key.agentPubkey = some agentPubkey ∧
      ∃ (callId : Nat) (row : CallRow), state.calls[callId]? = some row ∧
        row.keyed agentPubkey rec = true := by
  unfold duplicate
  cases bound : key.agentPubkey with
  | none => simp
  | some agentPubkey =>
      simp only [Option.isSome_some, Bool.true_and, List.any_eq_true]
      constructor
      · rintro ⟨row, member, keyed⟩
        obtain ⟨callId, found⟩ := List.mem_iff_getElem?.mp member
        exact ⟨agentPubkey, rfl, callId, row, found, keyed⟩
      · rintro ⟨agentPubkey', same, callId, row, found, keyed⟩
        cases same
        exact ⟨row, List.mem_of_getElem? found, keyed⟩

theorem CallRow.keyed_callRow {key : ApiKey} {agentPubkey : String}
    (bound : key.agentPubkey = some agentPubkey) (rec : RecordInput) (host : String) (now : Nat) :
    (callRow key rec host now).keyed agentPubkey rec = true := by
  simp [CallRow.keyed, callRow, bound]

theorem RecordInput.Claimable.spec {rec : RecordInput} (due : rec.Claimable) :
    refundPct rec.classification ≠ none ∧ rec.classification ≠ .success ∧ rec.paid = true ∧
      rec.classification ∈ triggerTypeCheck := by
  obtain ⟨refunded, paid⟩ := Bool.and_eq_true_iff.mp due
  refine ⟨Option.isSome_iff_ne_none.mp refunded, ?_, paid, ?_⟩
  · intro success
    rw [success] at refunded
    cases refunded
  · cases kind : rec.classification with
    | success =>
        rw [kind] at refunded
        cases refunded
    | clientError =>
        rw [kind] at refunded
        cases refunded
    | timeout | serverError | schemaMismatch | latencySla => decide

/-! ## The steps -/

section Run

variable {state : State} {outcome : Outcome} {below : Prop} {agentId : String}

theorem State.claimed_addClaim (state : State) (row : ClaimRow) :
    (state.perform (.addClaim row)).Claimed row.callRecordId :=
  ⟨state.claims.length, row, List.getElem?_concat_length, rfl⟩

theorem State.Advances.owed {step : Opening} {post : Post} {rec : RecordInput} {host : String}
    {callId : Nat} {effect : Effect} {next : Phase}
    (advances : state.Advances canonicalHostname outcome (.opening step post rec host callId) effect
      next) (due : rec.Claimable)
    (kept : outcome = .ok ∨ outcome = .lost ∧ (step = .freezing ∨ step = .claiming))
    (capped : state.dailyCount post.key.label < 1000) :
    (state.perform effect).Claimed callId ∨ next.Opens callId := by
  obtain ⟨refunded, failure, paid, allowed⟩ := due.spec
  cases advances with
  | still free => cases free
  | unclaimed free =>
      rcases free with success | unpaid
      · exact absurd success failure
      · cases paid.symm.trans unpaid
  | flagged flag => exact .inr rfl
  | unflagged clean => exact .inr rfl
  | counted room => exact .inr rfl
  | capped above => exact absurd capped above.not_gt
  | frozen fits done => exact .inl (state.claimed_addClaim _)
  | unrefunded none => exact absurd none refunded
  | claimed pct done goes => exact .inl (state.claimed_addClaim _)
  | broken fails ready =>
      rcases fails with ⟨failed, lost⟩ | ⟨-, rejected⟩
      · rcases kept with ok | ⟨lose, stage⟩
        · exact absurd ok failed
        · rcases lost lose with rfl | rfl
          · rcases stage with same | same <;> cases same
          · rcases stage with same | same <;> cases same
      · exact absurd allowed rejected

theorem State.Advances.progress (kept : state.Kept canonicalHostname below agentId)
    {request : Nat} {effect : Effect} {next : Phase}
    (advances : state.Advances canonicalHostname outcome (state.requests request) effect next)
    (whole : state.Whole canonicalHostname agentId (.run request outcome))
    (capped : below → state.dailyCount agentId < 1000) :
    (state.perform effect).Progress canonicalHostname below agentId next := by
  obtain ⟨steady, skips⟩ := whole
  have extended := state.extends_perform effect
  have progress := kept.progress request
  have fits := kept.linked.fits request
  generalize stands : state.requests request = phase at advances progress fits
  rw [stands] at skips steady
  -- The record that a request leaves is through.
  have leaves : ∀ {step : Opening} {post : Post} {rec : RecordInput} {host : String} {callId : Nat},
      phase = .opening step post rec host callId → (∀ callId, ¬next.Opens callId) →
        (state.perform effect).Passed canonicalHostname below agentId post post.rest := by
    rintro step post rec host callId rfl closes
    refine (extended.passed progress).next fun ours agentPubkey bound valid => ?_
    obtain ⟨time, found⟩ := fits
    refine ⟨callId, _, extended.calls callId _ found, CallRow.keyed_callRow bound rec host time,
      fun due stays => ?_⟩
    have room := capped stays
    rw [← ours] at room
    have still := steady step ⟨post, rec, host, callId, rfl, ours, by rw [bound]; simp, due⟩
    rcases advances.owed due still room with claimed | opens
    · exact claimed
    · exact absurd opens (closes callId)
  have finish : ∀ {clean : Bool} {stage : Stage} {origin : Origin} {record : CallRecord},
      phase = .settling stage origin record → (state.perform effect).Progress canonicalHostname below
        agentId (state.finish clean record origin) := by
    rintro clean stage origin record rfl
    cases origin with
    | post post claimId => exact extended.passed progress
    | submit => exact trivial
  cases advances with
  | still free => exact progress
  | @finished post done =>
      change state.Passed canonicalHostname below agentId post []
      rw [← done]
      exact progress
  | failed fails => exact trivial
  | @skipped _ post rec rest more invalid =>
      change state.Passed canonicalHostname below agentId post post.rest at progress
      rw [more] at progress
      exact progress.next fun _ _ _ valid => absurd invalid valid
  | @repeated post rec rest host more valid present =>
      change state.Passed canonicalHostname below agentId post post.rest at progress
      rw [more] at progress
      refine progress.next fun ours agentPubkey bound named => ?_
      obtain ⟨agentPubkey', bound', callId, row, found, keyed⟩ := duplicate_iff.mp present
      cases bound.symm.trans bound'
      refine ⟨callId, row, found, keyed, fun due stays => ?_⟩
      obtain ⟨agent, owes, quiet⟩ :=
        (skips post agentPubkey rec rest rfl ours bound more named due).2 callId row found keyed
      have mine : row.agentPubkey ≠ none := by
        simp only [CallRow.keyed, Bool.and_eq_true, decide_eq_true_eq] at keyed
        rw [keyed.1.1]
        exact fun same => by cases same
      rcases kept.claimed stays callId row found agent mine owes with claimed | ⟨other, opens⟩
      · exact claimed
      · exact absurd opens (quiet other)
  | @recorded _ post rec rest host more valid absent done =>
      by_cases ok : outcome = .ok
      · rw [if_pos ok]
        change state.Passed canonicalHostname below agentId post post.rest at progress
        rw [more] at progress
        exact extended.passed progress
      · rw [if_neg ok]
        exact trivial
  | unclaimed free => exact leaves rfl fun _ opens => opens
  | flagged flag => exact progress
  | unflagged clean => exact progress
  | counted room => exact progress
  | capped above => exact leaves rfl fun _ opens => opens
  | frozen fits done =>
      by_cases ok : outcome = .ok
      · rw [if_pos ok] at leaves ⊢
        exact leaves rfl fun _ opens => opens
      · rw [if_neg ok]
        exact trivial
  | unrefunded none => exact leaves rfl fun _ opens => opens
  | claimed pct done goes =>
      rcases goes with ⟨-, rfl⟩ | ⟨-, rfl⟩ | ⟨-, agentPubkey, rfl⟩
      · exact trivial
      · exact leaves rfl fun _ opens => opens
      · exact leaves rfl fun _ opens => opens
  | broken fails ready => exact trivial
  | selected found => exact trivial
  | answered => exact trivial
  | @covered origin record =>
      cases origin with
      | post post claimId => exact progress
      | submit => exact trivial
  | @sent _ origin record done =>
      by_cases ok : outcome = .ok
      · rw [if_pos ok]
        cases origin with
        | post post claimId => exact extended.passed progress
        | submit => exact trivial
      · rw [if_neg ok]
        exact finish rfl
  | waits => exact progress
  | @confirmed tx origin record sent account landed found same =>
      cases origin with
      | post post claimId => exact progress
      | submit => exact trivial
  | updated done => exact finish rfl
  | dropped honest unlanded fails => exact finish rfl

theorem State.perform_calls {effect : Effect} {callId : Nat} {row : CallRow}
    (found : (state.perform effect).calls[callId]? = some row) :
    state.calls[callId]? = some row ∨ effect = .addCall row ∧ callId = state.calls.length := by
  cases effect with
  | none => exact .inl found
  | addClaim added => exact .inl found
  | send record => exact .inl found
  | settle origin other refundAmount => exact .inl found
  | addCall added =>
      rcases Nat.lt_or_ge callId state.calls.length with inside | outside
      · left
        rw [← found]
        exact (List.getElem?_append_left inside).symm
      · replace found := (List.getElem?_append_right outside).symm.trans found
        obtain ⟨inside, same⟩ := List.getElem?_eq_some_iff.mp found
        rw [List.getElem_singleton] at same
        subst same
        rw [List.length_singleton] at inside
        exact .inr ⟨rfl, by omega⟩

theorem State.Kept.run (kept : state.Kept canonicalHostname below agentId) {request : Nat}
    (whole : state.Whole canonicalHostname agentId (.run request outcome))
    (capped : below → state.dailyCount agentId < 1000) :
    (state.run canonicalHostname request outcome).Kept canonicalHostname below agentId := by
  have linked : (state.run canonicalHostname request outcome).Linked :=
    kept.linked.run request outcome
  obtain ⟨effect, next, advances, ran⟩ :=
    state.run_advances canonicalHostname request outcome
  have progress := advances.progress kept whole capped
  rw [ran] at linked ⊢
  have extended := state.extends_perform effect
  -- A new row is under a key that no row had.
  have fresh : ∀ (callId : Nat) row row' agentPubkey, effect = .addCall row' →
      state.calls[callId]? = some row → row.agentPubkey = some agentPubkey →
        row'.agentPubkey = some agentPubkey → row.timestamp = row'.timestamp →
          row.endpoint ≠ row'.endpoint := by
    rintro callId row row' agentPubkey rfl found one other time path
    obtain ⟨post, rec, rest, host, -, -, -, absent, rfl, -⟩ := advances.addCall
    have present : state.duplicate post.key rec = true :=
      duplicate_iff.mpr ⟨agentPubkey, other, callId, row, found, by
        simp only [CallRow.keyed, Bool.and_eq_true, decide_eq_true_eq]
        exact ⟨⟨one, time⟩, path⟩⟩
    cases absent.symm.trans present
  refine ⟨linked, ?_, ?_, ?_⟩
  · intro first second row row' agentPubkey found found' one other time path
    rcases perform_calls found with old | ⟨added, last⟩
    · rcases perform_calls found' with old' | ⟨added, -⟩
      · exact kept.keys first second row row' agentPubkey old old' one other time path
      · exact absurd path (fresh first row row' agentPubkey added old one other time)
    · rcases perform_calls found' with old' | ⟨-, last'⟩
      · exact absurd path.symm (fresh second row' row agentPubkey added old' other one time.symm)
      · rw [last, last']
  · intro stays callId row found agent bound due
    rcases perform_calls found with old | ⟨added, last⟩
    · rcases kept.claimed stays callId row old agent bound due with claimed | ⟨other, opens⟩
      · exact .inl (extended.claimed claimed)
      by_cases same : other = request
      · subst same
        obtain ⟨step, post, rec, host, stands⟩ := opens.exists
        have fits := kept.linked.fits other
        rw [stands] at fits advances
        obtain ⟨time, there⟩ := fits
        cases old.symm.trans there
        have room := capped stays
        rw [← show post.key.label = agentId from agent] at room
        have steady := whole.1 step ⟨post, rec, host, callId, stands, agent, bound, due⟩
        rcases advances.owed due steady room with claimed | open_
        · exact .inl claimed
        · exact .inr ⟨other, by rwa [setPhase_self]⟩
      · refine .inr ⟨other, ?_⟩
        rw [setPhase_of_ne _ same, perform_requests]
        exact opens
    · subst added
      obtain ⟨post, rec, rest, host, stands, more, valid, absent, rfl, done, rfl⟩ := advances.addCall
      cases key : post.key.agentPubkey with
      | none => exact absurd key bound
      | some agentPubkey =>
          have named : canonicalHostname rec.hostname ≠ none := by
            rw [valid]
            exact fun same => by cases same
          have kept' := (whole.2 post agentPubkey rec rest stands agent key more named due).1
          by_cases ok : outcome = .ok
          · refine .inr ⟨request, ?_⟩
            rw [setPhase_self, if_pos ok]
            exact last.symm
          · have lost : outcome = .lost := by
              cases outcome with
              | ok => exact absurd rfl ok
              | failed => exact absurd rfl done
              | lost => rfl
            cases absent.symm.trans (kept' lost)
  · intro other
    by_cases same : other = request
    · subst same
      rw [setPhase_self]
      exact progress
    · rw [setPhase_of_ne _ same, perform_requests]
      exact extended.progress (kept.progress other)

end Run

section Runs

variable {state : State} {below : Prop} {agentId : String}

theorem State.Kept.keep {after : State} (kept : state.Kept canonicalHostname below agentId)
    (linked : after.Linked) (extended : state.Extends after) (calls : after.calls = state.calls)
    (requests : after.requests = state.requests) :
    after.Kept canonicalHostname below agentId := by
  refine ⟨linked, ?_, ?_, ?_⟩
  · rw [calls]
    exact kept.keys
  · intro stays callId row found agent bound due
    rw [calls] at found
    rw [requests]
    rcases kept.claimed stays callId row found agent bound due with claimed | opens
    · exact .inl (extended.claimed claimed)
    · exact .inr opens
  · intro request
    rw [requests]
    exact extended.progress (kept.progress request)

theorem State.Kept.setPhase (kept : state.Kept canonicalHostname below agentId) {request : Nat}
    {phase : Phase} (linked : (state.setPhase request phase).Linked)
    (owes : ∀ step, ¬(state.requests request).Owes agentId step)
    (progress : state.Progress canonicalHostname below agentId phase) :
    (state.setPhase request phase).Kept canonicalHostname below agentId := by
  refine ⟨linked, kept.keys, ?_, ?_⟩
  · intro stays callId row found agent bound due
    rcases kept.claimed stays callId row found agent bound due with claimed | ⟨other, opens⟩
    · exact .inl claimed
    refine .inr ⟨other, ?_⟩
    have differ : other ≠ request := by
      rintro rfl
      obtain ⟨step, post, rec, host, stands⟩ := opens.exists
      have fits := kept.linked.fits other
      rw [stands] at fits
      obtain ⟨time, there⟩ := fits
      change state.calls[callId]? = some row at found
      cases found.symm.trans there
      exact owes step ⟨post, rec, host, callId, stands, agent, bound, due⟩
    rw [setPhase_of_ne state differ]
    exact opens
  · intro other
    by_cases same : other = request
    · rw [same, setPhase_self]
      exact progress
    · rw [setPhase_of_ne state same]
      exact kept.progress other

theorem State.Kept.apply (kept : state.Kept canonicalHostname below agentId) {event : Event}
    (whole : state.Whole canonicalHostname agentId event)
    (capped : below → state.dailyCount agentId < 1000) :
    (state.apply canonicalHostname event).Kept canonicalHostname below agentId := by
  have linked : (state.apply canonicalHostname event).Linked := kept.linked.apply event
  have free : ∀ request step, (state.requests request).isFree = true →
      ¬(state.requests request).Owes agentId step := by
    rintro request step idle ⟨post, rec, host, callId, stands, -⟩
    rw [stands] at idle
    cases idle
  cases event with
  | tick elapsed => exact kept.keep linked (.of_tables rfl rfl rfl rfl) rfl rfl
  | flag other => exact kept.keep linked (.of_tables rfl rfl rfl rfl) rfl rfl
  | resolve other => exact kept.keep linked (.of_tables rfl rfl rfl rfl) rfl rfl
  | policy agentPubkey host active => exact kept.keep linked (.of_tables rfl rfl rfl rfl) rfl rfl
  | stop request => exact kept.setPhase linked whole trivial
  | post request key batch =>
      rcases state.post_cases canonicalHostname request key batch with same | ⟨idle, same⟩
      · rwa [same]
      · rw [same] at linked ⊢
        refine kept.setPhase linked (free request · idle) fun _ _ _ => ?_
        exact ⟨[], rfl, fun _ member => by cases member⟩
  | submit request other callId hostname =>
      rcases state.submit_cases canonicalHostname request other callId hostname with
        same | ⟨idle, ⟨-, same⟩ | ⟨host, same⟩⟩
      · rwa [same]
      · rw [same] at linked ⊢
        exact kept.setPhase linked (free request · idle) trivial
      · rw [same] at linked ⊢
        exact kept.setPhase linked (free request · idle) trivial
  | run request outcome => exact kept.run whole capped
  | land tx maxCoveragePerCall totalAvailable =>
      exact kept.keep linked (state.extends_land tx _ _) (state.land_calls tx _ _)
        (state.land_requests tx _ _)
  | reject tx =>
      change (state.reject tx).Kept canonicalHostname below agentId
      change (state.reject tx).Linked at linked
      have extended := state.extends_reject tx
      rcases state.reject_cases tx with same | same
      · rwa [same]
      · rw [same] at linked extended ⊢
        exact kept.keep linked extended rfl rfl

theorem State.Kept.start {first : State} (initial : first.Initial) :
    first.Kept canonicalHostname below agentId := by
  have linked := State.Linked.start initial
  rw [State.Initial] at initial
  rw [initial] at linked ⊢
  refine ⟨linked, ?_, ?_, fun _ => trivial⟩
  · intro first second row row' agentPubkey found
    cases found
  · intro stays callId row found
    cases found

theorem countP_eq_one {α : Type} {items : List α} {p : α → Bool} {index : Nat} {item : α}
    (found : items[index]? = some item) (holds : p item = true)
    (alone : ∀ (other : Nat) item', items[other]? = some item' → p item' = true → other = index) :
    items.countP p = 1 := by
  obtain ⟨inside, rfl⟩ := List.getElem?_eq_some_iff.mp found
  have front : (items.take index).countP p = 0 := by
    refine List.countP_eq_zero.mpr fun item' member held => ?_
    obtain ⟨other, there⟩ := List.mem_iff_getElem?.mp member
    rw [List.getElem?_take] at there
    split at there
    · rename_i less
      exact less.ne (alone other item' there held)
    · cases there
  have back : (items.drop (index + 1)).countP p = 0 := by
    refine List.countP_eq_zero.mpr fun item' member held => ?_
    obtain ⟨other, there⟩ := List.mem_iff_getElem?.mp member
    rw [List.getElem?_drop] at there
    have same := alone _ item' there held
    omega
  have parts : items.take index ++ items[index] :: items.drop (index + 1) = items := by
    rw [List.getElem_cons_drop, List.take_append_drop]
  rw [← parts, List.countP_append, List.countP_cons, front, back, if_pos holds]

theorem State.Kept.complete (kept : state.Kept canonicalHostname below agentId) :
    state.Complete canonicalHostname below agentId := by
  intro request post agentPubkey accepted ours bound rec member valid
  have progress := kept.progress request
  rw [accepted] at progress
  obtain ⟨front, split, through⟩ := progress ours agentPubkey bound
  rw [List.append_nil] at split
  rw [split] at member
  obtain ⟨callId, row, found, keyed, claims⟩ := through rec member valid
  have alone : ∀ (other : Nat) row', state.calls[other]? = some row' →
      row'.keyed agentPubkey rec = true → other = callId := by
    intro other row' found' keyed'
    simp only [CallRow.keyed, Bool.and_eq_true, decide_eq_true_eq] at keyed keyed'
    exact kept.keys other callId row' row agentPubkey found' found keyed'.1.1 keyed.1.1
      (keyed'.1.2.trans keyed.1.2.symm) (keyed'.2.trans keyed.2.symm)
  refine ⟨countP_eq_one found keyed alone, fun due stays other row' found' keyed' => ?_⟩
  rw [alone other row' found' keyed']
  obtain ⟨id, claim, there, same⟩ := claims due stays
  refine countP_eq_one there (decide_eq_true same) fun id' claim' there' same' => ?_
  exact kept.linked.unique id' id claim' claim there' there
    ((of_decide_eq_true same').trans same.symm)

end Runs

/-- In every whole run, an accepted batch is complete. -/
theorem records_complete {state : State} {below : Prop} {agentId : String}
    (reached : State.Reached canonicalHostname (fun before event =>
      before.Whole canonicalHostname agentId event ∧ (below → before.dailyCount agentId < 1000)) state) :
    state.Complete canonicalHostname below agentId := by
  have kept : state.Kept canonicalHostname below agentId :=
    reached.fires (State.Kept canonicalHostname below agentId) (fun _ initial => .start initial)
      fun _ _ kept allowed => kept.apply allowed.1 allowed.2
  exact kept.complete

namespace Demo

def retried : List Event :=
  [.post 0 key [failure], .run 0 .failed] ++ ingest ++ [.run 0 .ok, .run 0 .ok]

example : (replay retried).calls.length = 1 ∧ (replay retried).claimCount 0 = 1 := by decide +kernel

def expects : Phase → Bool
  | .posting post => post.rest ≠ []
  | _ => false

theorem whole_ok {state : State}
    (quiet : expects (state.requests 0) = false ∨ state.calls = []) :
    state.Whole some "agent" (.run 0 .ok) := by
  refine ⟨fun _ _ => .inl rfl, fun post agentPubkey rec rest stands _ _ more _ _ => ?_⟩
  refine ⟨fun lost => (by cases lost), fun callId row found => ?_⟩
  rcases quiet with idle | none
  · rw [stands] at idle
    simp [expects, more] at idle
  · rw [none] at found
    cases found

theorem whole_failed {state : State} (posts : expects (state.requests 0) = true)
    (none : state.calls = []) : state.Whole some "agent" (.run 0 .failed) := by
  refine ⟨fun step owes => ?_, fun post agentPubkey rec rest stands _ _ more _ _ => ?_⟩
  · obtain ⟨post, rec, host, callId, stands, -⟩ := owes
    rw [stands] at posts
    cases posts
  · refine ⟨fun lost => (by cases lost), fun callId row found => ?_⟩
    rw [none] at found
    cases found

theorem retried_whole : Allows (State.apply some) (fun before event =>
    before.Whole some "agent" event ∧ (True → before.dailyCount "agent" < 1000)) start retried :=
  ⟨⟨trivial, fun _ => by decide +kernel⟩,
    ⟨whole_failed (by decide +kernel) (by decide +kernel), fun _ => by decide +kernel⟩,
    ⟨trivial, fun _ => by decide +kernel⟩,
    ⟨whole_ok (.inr (by decide +kernel)), fun _ => by decide +kernel⟩,
    ⟨whole_ok (.inl (by decide +kernel)), fun _ => by decide +kernel⟩,
    ⟨whole_ok (.inl (by decide +kernel)), fun _ => by decide +kernel⟩,
    ⟨whole_ok (.inl (by decide +kernel)), fun _ => by decide +kernel⟩,
    ⟨whole_ok (.inl (by decide +kernel)), fun _ => by decide +kernel⟩,
    ⟨whole_ok (.inl (by decide +kernel)), fun _ => by decide +kernel⟩, trivial⟩

theorem records_complete_retried : State.Complete some True "agent" (replay retried) :=
  records_complete (Reachable.replay _ (.start rfl) retried_whole)

def orphaned : List Event :=
  [.post 0 key [failure], .run 0 .ok, .run 0 .failed, .post 0 key [failure], .run 0 .ok, .run 0 .ok]

theorem records_complete_fails : ¬∀ state, State.Reached some (fun before _ =>
    True → before.dailyCount "agent" < 1000) state → state.Complete some True "agent" := by
  intro holds
  have allowed : Allows (State.apply some) (fun before _ => True → before.dailyCount "agent" < 1000)
      start orphaned :=
    ⟨fun _ => by decide +kernel, fun _ => by decide +kernel, fun _ => by decide +kernel,
      fun _ => by decide +kernel, fun _ => by decide +kernel, fun _ => by decide +kernel, trivial⟩
  have accepted : (replay orphaned).requests 0 = .accepted ⟨key, [failure], []⟩ := by decide +kernel
  have row : (replay orphaned).calls[0]? =
      some (callRow key failure "api.example.com" 1700000000000000) := by decide +kernel
  have reached : State.Reached some (fun before _ => True → before.dailyCount "agent" < 1000)
      (replay orphaned) := Reachable.replay _ (.start rfl) allowed
  have complete := holds _ reached 0 _ "pubkey" accepted rfl rfl failure List.mem_cons_self
    (fun same => by cases same)
  have claims := complete.2 rfl trivial 0 _ row (by decide +kernel)
  have none : (replay orphaned).claimCount 0 = 0 := by decide +kernel
  rw [none] at claims
  cases claims

end Demo

end PactNetwork.Backend.Claims
