import PactNetwork.Evm.HourlyCap

/-!
# Unregistered slugs

A slug that was never registered reads back as a configuration of zeros. The
settler does not ask whether the slug is registered; only the hooks that count
a call do, and those run once the premium is in.
-/

set_option autoImplicit false

namespace PactNetwork.Evm

/-! ## What nobody registered -/

namespace PactRegistry

/-- The slugs that are not registered in the end were not before, and read as before. -/
def Spares (before after : PactRegistry) : Prop :=
  ∀ slug, after.registered slug = false →
    before.registered slug = false ∧ after.endpoints slug = before.endpoints slug

def Blank (registry : PactRegistry) : Prop :=
  ∀ slug, registry.registered slug = false → registry.endpoints slug = .zero

section Spares

variable {registry result middle : PactRegistry} {sender : Address} {timestamp : UInt64}
  {target : Slug} {config : EndpointConfig}

theorem Spares.refl (registry : PactRegistry) : registry.Spares registry :=
  fun _ absent => ⟨absent, rfl⟩

theorem Spares.trans (first : registry.Spares middle) (second : middle.Spares result) :
    registry.Spares result := by
  intro slug absent
  obtain ⟨before, same⟩ := second slug absent
  obtain ⟨start, earlier⟩ := first slug before
  exact ⟨start, same.trans earlier⟩

theorem Spares.blank (spares : registry.Spares result) (blank : registry.Blank) :
    result.Blank := by
  intro slug absent
  obtain ⟨before, same⟩ := spares slug absent
  exact same.trans (blank slug before)

theorem spares_setEndpoint (present : ¬registry.registered target = false) :
    registry.Spares (registry.setEndpoint target config) := by
  intro slug absent
  have other : slug ≠ target := by
    rintro rfl
    exact present absent
  exact ⟨absent, Function.update_of_ne other _ _⟩

theorem spares_registerEndpoint {pricing : Pricing} {present : Bool} {count : UInt8}
    {recipients : FeeRecipients}
    (accepted : registry.registerEndpoint sender timestamp target pricing present count
      recipients = .ok result) : registry.Spares result := by
  simp only [registerEndpoint, onlyAuthority, validateSlug, bind_eq_ok, failIf_eq_ok, exists_const,
    Prod.exists, Except.ok.injEq] at accepted
  obtain ⟨-, -, _, _, -, entries, _, -, -, rfl⟩ := accepted
  intro slug absent
  change Function.update registry.registered target true slug = false at absent
  have other : slug ≠ target := by
    rintro rfl
    rw [Function.update_self] at absent
    cases absent
  rw [Function.update_of_ne other] at absent
  exact ⟨absent, Function.update_of_ne other _ _⟩

theorem spares_updateEndpointConfig {pricing : Pricing}
    (accepted : registry.updateEndpointConfig sender timestamp target pricing = .ok result) :
    registry.Spares result := by
  simp only [updateEndpointConfig, onlyAuthority, bind_eq_ok, failIf_eq_ok, exists_const,
    Except.ok.injEq] at accepted
  obtain ⟨-, present, rfl⟩ := accepted
  exact spares_setEndpoint present

theorem spares_updateFeeRecipients {recipients : FeeRecipients} {count : UInt8}
    (accepted : registry.updateFeeRecipients sender timestamp target recipients count =
      .ok result) : registry.Spares result := by
  simp only [updateFeeRecipients, onlyAuthority, bind_eq_ok, failIf_eq_ok, exists_const,
    Prod.exists, Except.ok.injEq] at accepted
  obtain ⟨-, present, entries, _, -, rfl⟩ := accepted
  exact spares_setEndpoint present

theorem spares_pauseEndpoint {paused : Bool}
    (accepted : registry.pauseEndpoint sender target paused = .ok result) :
    registry.Spares result := by
  simp only [pauseEndpoint, onlyAuthority, bind_eq_ok, failIf_eq_ok, exists_const,
    Except.ok.injEq] at accepted
  obtain ⟨-, present, rfl⟩ := accepted
  exact spares_setEndpoint present

theorem spares_pauseProtocol {paused : Bool}
    (accepted : registry.pauseProtocol sender paused = .ok result) : registry.Spares result := by
  simp only [pauseProtocol, onlyAuthority, bind_eq_ok, failIf_eq_ok, exists_const,
    Except.ok.injEq] at accepted
  obtain ⟨-, rfl⟩ := accepted
  exact fun _ absent => ⟨absent, rfl⟩

theorem spares_recordCallAndCapAccrual {premium intendedRefund payable : UInt64} {breach : Bool}
    (recorded : registry.recordCallAndCapAccrual sender timestamp target premium breach
      intendedRefund = .ok (result, payable)) : registry.Spares result := by
  simp only [recordCallAndCapAccrual, bind_eq_ok, failIf_eq_ok, exists_const, Except.ok.injEq,
    Prod.mk.injEq] at recorded
  obtain ⟨_, -, present, _, -, _, -, _, -, _, -, _, -, rfl, -⟩ := recorded
  exact spares_setEndpoint present

theorem spares_recordRefundPaid {actualRefund : UInt64}
    (recorded : registry.recordRefundPaid sender target actualRefund = .ok result) :
    registry.Spares result := by
  simp only [recordRefundPaid, bind_eq_ok, failIf_eq_ok, exists_const, Except.ok.injEq]
    at recorded
  obtain ⟨_, -, present, _, -, rfl⟩ := recorded
  exact spares_setEndpoint present

end Spares

end PactRegistry

section Runs

variable {τ : Type} {usdc : Erc20 τ} {deployment : Deployment}

theorem PactSettler.settleEvent_spares {before after : World τ} {timestamp : UInt64}
    {event : SettlementEvent} {receipt : Receipt}
    (settled : settleEvent usdc deployment before timestamp event = .ok (after, receipt)) :
    before.registry.Spares after.registry := by
  have present : ∀ token, usdc.transferFrom before.token deployment.settler event.agent
      deployment.pool event.premium.toNat = some token →
        ¬before.registry.registered event.endpointSlug = false := by
    intro token pulled
    simp only [settleEvent, markSettled, pulled, bind_eq_ok] at settled
    obtain ⟨config, -, finished⟩ := settled
    have registered := registered_of_settleSuccess finished
    exact fun absent => Bool.false_ne_true (absent.symm.trans registered)
  obtain ⟨-, ⟨-, rfl, -⟩ | ⟨token, outcome, pulled, effect⟩⟩ := settleEvent_spec settled
  · exact .refl _
  · obtain ⟨stored, saved, -⟩ := effect.registry
    rw [saved]
    exact PactRegistry.spares_setEndpoint (present token pulled)

theorem settleLoop_spares {timestamp : UInt64} {events : List SettlementEvent}
    {before after : World τ × List Receipt}
    (loop : events.foldlM (PactSettler.settleStep usdc deployment timestamp) before =
      .ok after) : before.1.registry.Spares after.1.registry := by
  refine foldlM_invariant (fun state => before.1.registry.Spares state.1.registry) loop
    (.refl _) ?_
  intro earlier event later _ spares stepped
  simp only [PactSettler.settleStep, bind_eq_ok, Prod.exists, Except.ok.injEq] at stepped
  obtain ⟨world, receipt, settled, rfl⟩ := stepped
  exact spares.trans (PactSettler.settleEvent_spares settled)

theorem execute_spares {before after : World τ} {sender : Address} {timestamp : UInt64}
    {call : Call} {receipts : List Receipt}
    (executed : execute usdc deployment before sender timestamp call = .ok (after, receipts)) :
    before.registry.Spares after.registry := by
  cases call with
  | settleBatch events =>
      simp only [execute, PactSettler.settleBatch, bind_eq_ok] at executed
      obtain ⟨-, -, -, -, -, -, loop⟩ := executed
      exact settleLoop_spares loop
  | registerEndpoint slug pricing present count recipients =>
      obtain ⟨registry, called, same⟩ := (map_eq_ok _ _ _).mp executed
      cases same
      exact PactRegistry.spares_registerEndpoint called
  | updateEndpointConfig slug pricing =>
      obtain ⟨registry, called, same⟩ := (map_eq_ok _ _ _).mp executed
      cases same
      exact PactRegistry.spares_updateEndpointConfig called
  | updateFeeRecipients slug recipients count =>
      obtain ⟨registry, called, same⟩ := (map_eq_ok _ _ _).mp executed
      cases same
      exact PactRegistry.spares_updateFeeRecipients called
  | pauseEndpoint slug paused =>
      obtain ⟨registry, called, same⟩ := (map_eq_ok _ _ _).mp executed
      cases same
      exact PactRegistry.spares_pauseEndpoint called
  | pauseProtocol paused =>
      obtain ⟨registry, called, same⟩ := (map_eq_ok _ _ _).mp executed
      cases same
      exact PactRegistry.spares_pauseProtocol called
  | recordCallAndCapAccrual slug premium breach intendedRefund =>
      obtain ⟨⟨registry, payable⟩, called, same⟩ := (map_eq_ok _ _ _).mp executed
      cases same
      exact PactRegistry.spares_recordCallAndCapAccrual called
  | recordRefundPaid slug actualRefund =>
      obtain ⟨registry, called, same⟩ := (map_eq_ok _ _ _).mp executed
      cases same
      exact PactRegistry.spares_recordRefundPaid called
  | topUp slug amount =>
      obtain ⟨world, called, same⟩ := (map_eq_ok _ _ _).mp executed
      cases same
      obtain ⟨-, -, token, state, -, rfl, -⟩ := PactPool.topUp_spec called
      exact .refl _
  | creditPremium slug amount =>
      obtain ⟨world, called, same⟩ := (map_eq_ok _ _ _).mp executed
      cases same
      obtain ⟨state, rfl, -⟩ := PactPool.creditPremium_spec called
      exact .refl _
  | debitForFees slug amount =>
      obtain ⟨world, called, same⟩ := (map_eq_ok _ _ _).mp executed
      cases same
      obtain ⟨-, state, rfl, -⟩ := PactPool.debitForFees_spec called
      exact .refl _
  | debitForRefund slug amount =>
      obtain ⟨world, called, same⟩ := (map_eq_ok _ _ _).mp executed
      cases same
      obtain ⟨-, state, rfl, -⟩ := PactPool.debitForRefund_spec called
      exact .refl _
  | payout target amount =>
      obtain ⟨world, called, same⟩ := (map_eq_ok _ _ _).mp executed
      cases same
      obtain ⟨-, token, -, rfl⟩ := PactPool.payout_spec called
      exact .refl _
  | transfer | transferFrom | approve =>
      obtain ⟨world, called, same⟩ := (map_eq_ok _ _ _).mp executed
      cases same
      simp only [World.tokenCall, bind_eq_ok, Except.ok.injEq] at called
      obtain ⟨token, -, rfl⟩ := called
      exact .refl _

theorem blank_of_reachable {history : History τ}
    (reached : Reachable (Deployed usdc deployment) (Transaction usdc deployment) history) :
    history.world.registry.Blank := by
  refine reached.invariant (fun history => history.world.registry.Blank) ?_ ?_
  · intro first deployed slug _
    obtain ⟨authority, vault, cap, template, count, constructed⟩ := deployed.constructed
    simp only [PactRegistry.construct, bind_eq_ok, Except.ok.injEq] at constructed
    obtain ⟨-, -, built⟩ := constructed
    rw [← built]
  · intro before after blank moves
    cases moves with
    | accepted sender timestamp call receipts _ _ executed _ =>
        exact (execute_spares executed).blank blank
    | reverted sender timestamp call error _ unchanged => rwa [unchanged]

end Runs

/-! ## Turns -/

section Turns

variable {τ : Type} {usdc : Erc20 τ} {deployment : Deployment}

/-- Something about each event of an accepted batch: the event, the worlds its turn begins
and ends with, and its receipt. -/
def EachTurn (usdc : Erc20 τ) (deployment : Deployment) (before : World τ) (timestamp : UInt64)
    (events : List SettlementEvent)
    (claim : SettlementEvent → World τ → World τ → Receipt → Prop) : Prop :=
  ∀ index (inside : index < events.length), ∃ earlier later : World τ × List Receipt,
    (events.take index).foldlM (PactSettler.settleStep usdc deployment timestamp) (before, []) =
      .ok earlier ∧
    PactSettler.settleStep usdc deployment timestamp earlier events[index] = .ok later ∧
    ∃ receipt, later.2 = earlier.2 ++ [receipt] ∧ claim events[index] earlier.1 later.1 receipt

theorem settleBatch_loop {before after : World τ} {sender : Address} {timestamp : UInt64}
    {events : List SettlementEvent} {receipts : List Receipt}
    (accepted : PactSettler.settleBatch usdc deployment before sender timestamp events =
      .ok (after, receipts)) :
    events.foldlM (PactSettler.settleStep usdc deployment timestamp) (before, []) =
      .ok (after, receipts) := by
  simp only [PactSettler.settleBatch, bind_eq_ok] at accepted
  obtain ⟨-, -, -, -, -, -, loop⟩ := accepted
  exact loop

/-- The batch is accepted turn by turn; what every turn keeps holds from the start of the
batch to the turn. -/
theorem eachTurn_of_settleBatch {before after : World τ} {sender : Address} {timestamp : UInt64}
    {events : List SettlementEvent} {receipts : List Receipt}
    (accepted : PactSettler.settleBatch usdc deployment before sender timestamp events =
      .ok (after, receipts))
    (kept : World τ → Prop) (start : kept before)
    (keeps : ∀ {event earlier later receipt}, kept earlier →
      PactSettler.settleEvent usdc deployment earlier timestamp event = .ok (later, receipt) →
        kept later)
    {claim : SettlementEvent → World τ → World τ → Receipt → Prop}
    (each : ∀ {event earlier later receipt}, kept earlier →
      PactSettler.settleEvent usdc deployment earlier timestamp event = .ok (later, receipt) →
        claim event earlier later receipt) :
    EachTurn usdc deployment before timestamp events claim := by
  intro index inside
  obtain ⟨earlier, later, front, stepped, -⟩ :=
    foldlM_split (settleBatch_loop accepted) index inside
  have sofar : kept earlier.1 := by
    refine foldlM_invariant (fun state => kept state.1) front start ?_
    intro first event next _ holds moved
    simp only [PactSettler.settleStep, bind_eq_ok, Prod.exists, Except.ok.injEq] at moved
    obtain ⟨world, receipt, settled, rfl⟩ := moved
    exact keeps holds settled
  refine ⟨earlier, later, front, stepped, ?_⟩
  simp only [PactSettler.settleStep, bind_eq_ok, Prod.exists, Except.ok.injEq] at stepped
  obtain ⟨world, receipt, settled, rfl⟩ := stepped
  exact ⟨receipt, rfl, each sofar settled⟩

/-- An event of an unregistered slug gets past every guard, and its premium cannot be
pulled. -/
structure SlipsBy (usdc : Erc20 τ) (deployment : Deployment) (world : World τ)
    (timestamp : UInt64) (event : SettlementEvent) : Prop where
  dated : event.timestamp ≤ timestamp
  premium : ProtocolInvariants.minPremium ≤ event.premium
  fresh : world.settler.settledCallIds event.callId = false
  hint : event.feeRecipientCountHint = 0
  unpaid : usdc.transferFrom world.token deployment.settler event.agent deployment.pool
    event.premium.toNat = none

section Event

variable {world after : World τ} {timestamp : UInt64} {event : SettlementEvent}
  {receipt : Receipt}

/-- Such an event ends as `delegateFailed` with its call id used up, or it stops the batch. -/
theorem settleEvent_unregistered (blank : world.registry.Blank)
    (absent : world.registry.registered event.endpointSlug = false) :
    PactSettler.settleEvent usdc deployment world timestamp event = .ok (after, receipt) ↔
      SlipsBy usdc deployment world timestamp event ∧
        after = PactSettler.markSettled world event.callId ∧
        receipt = ⟨event.log 0 .delegateFailed, [], 0⟩ := by
  have zeros := blank event.endpointSlug absent
  constructor
  · intro settled
    obtain ⟨checked, ⟨unpaid, rfl, rfl⟩ | ⟨token, outcome, pulled, effect⟩⟩ :=
      PactSettler.settleEvent_spec settled
    · simp only [PactSettler.checkEvent, bind_eq_ok, failIf_eq_ok, exists_const, zeros] at checked
      obtain ⟨dated, premium, -, fresh, -, hint, -⟩ := checked
      exact ⟨⟨UInt64.not_lt.mp dated, UInt64.not_lt.mp premium, by simpa using fresh,
        (not_not.mp hint).symm, unpaid⟩, rfl, rfl⟩
    · simp only [PactSettler.settleEvent, PactSettler.markSettled, pulled, bind_eq_ok] at settled
      obtain ⟨config, -, finished⟩ := settled
      have registered := PactSettler.registered_of_settleSuccess finished
      exact absurd (absent.symm.trans registered) Bool.false_ne_true
  · rintro ⟨slips, rfl, rfl⟩
    have checked : PactSettler.checkEvent world timestamp event =
        .ok (world.registry.endpoints event.endpointSlug) := by
      simp only [PactSettler.checkEvent, bind_eq_ok, failIf_eq_ok, exists_const, zeros]
      exact ⟨UInt64.not_lt.mpr slips.dated, UInt64.not_lt.mpr slips.premium,
        by rw [slips.hint]; decide, by simpa using slips.fresh, by decide,
        not_not.mpr slips.hint.symm, trivial⟩
    rw [PactSettler.settleEvent, checked, ok_bind]
    simp only [PactSettler.markSettled, slips.unpaid]

end Event

/-- What stops the loop at an event, for an unregistered slug said by its fields. -/
def Stops (usdc : Erc20 τ) (deployment : Deployment) (timestamp : UInt64) (world : World τ)
    (event : SettlementEvent) : Prop :=
  (world.registry.registered event.endpointSlug = false →
      ¬SlipsBy usdc deployment world timestamp event) ∧
    (world.registry.registered event.endpointSlug = true →
      ∃ error, PactSettler.settleEvent usdc deployment world timestamp event = .error error)

theorem settleStep_fails_iff {timestamp : UInt64} {state : World τ × List Receipt}
    {event : SettlementEvent} (blank : state.1.registry.Blank) :
    (∃ error, PactSettler.settleStep usdc deployment timestamp state event = .error error) ↔
      Stops usdc deployment timestamp state.1 event := by
  have same : (∃ error, PactSettler.settleStep usdc deployment timestamp state event =
        .error error) ↔
      ∃ error, PactSettler.settleEvent usdc deployment state.1 timestamp event = .error error := by
    unfold PactSettler.settleStep
    cases settled : PactSettler.settleEvent usdc deployment state.1 timestamp event with
    | error failure => exact ⟨fun _ => ⟨failure, rfl⟩, fun _ => ⟨failure, rfl⟩⟩
    | ok result =>
        constructor
        · rintro ⟨error, failed⟩
          cases failed
        · rintro ⟨error, failed⟩
          cases failed
  rw [same]
  unfold Stops
  cases known : state.1.registry.registered event.endpointSlug with
  | true =>
      exact ⟨fun failed => ⟨fun absent => (Bool.false_ne_true absent.symm).elim, fun _ => failed⟩,
        fun stops => stops.2 rfl⟩
  | false =>
      constructor
      · rintro ⟨error, failed⟩
        refine ⟨fun _ slips => ?_, fun present => by cases present⟩
        have settled := (settleEvent_unregistered blank known).mpr ⟨slips, rfl, rfl⟩
        cases failed.symm.trans settled
      · rintro ⟨stops, -⟩
        cases settled : PactSettler.settleEvent usdc deployment state.1 timestamp event with
        | error failure => exact ⟨failure, rfl⟩
        | ok result =>
            obtain ⟨world, receipt⟩ := result
            exact absurd ((settleEvent_unregistered blank known).mp settled).1 (stops rfl)

/-- In every reachable state: a batch reverts exactly where the settler may not send it, the
protocol is paused, it is too long, or an event stops it; and an accepted batch takes each
event of an unregistered slug for a failed delegation, using up its call id. -/
theorem unregistered_reverts {history : History τ} (sender : Address) (timestamp : UInt64)
    (events : List SettlementEvent)
    (reached : Reachable (Deployed usdc deployment) (Transaction usdc deployment) history) :
    ((∃ error, PactSettler.settleBatch usdc deployment history.world sender timestamp events =
        .error error) ↔
      history.world.settler.settlerRole sender = false ∨
        history.world.registry.protocolPaused = true ∨
        ProtocolInvariants.maxBatchSize < events.length ∨
        ∃ index, ∃ inside : index < events.length, ∃ earlier,
          (events.take index).foldlM (PactSettler.settleStep usdc deployment timestamp)
            (history.world, []) = .ok earlier ∧
          Stops usdc deployment timestamp earlier.1 events[index]) ∧
    ∀ after receipts, PactSettler.settleBatch usdc deployment history.world sender timestamp
        events = .ok (after, receipts) →
      EachTurn usdc deployment history.world timestamp events fun event earlier later receipt =>
        earlier.registry.registered event.endpointSlug = false →
          SlipsBy usdc deployment earlier timestamp event ∧
            later = PactSettler.markSettled earlier event.callId ∧
            receipt = ⟨event.log 0 .delegateFailed, [], 0⟩ := by
  have blank := blank_of_reachable reached
  constructor
  · have loop : (∃ error, events.foldlM (PactSettler.settleStep usdc deployment timestamp)
          (history.world, []) = .error error) ↔
        ∃ index, ∃ inside : index < events.length, ∃ earlier,
          (events.take index).foldlM (PactSettler.settleStep usdc deployment timestamp)
            (history.world, []) = .ok earlier ∧
          Stops usdc deployment timestamp earlier.1 events[index] := by
      rw [foldlM_fails_iff]
      refine exists_congr fun index => exists_congr fun inside => exists_congr fun earlier =>
        and_congr_right fun front => settleStep_fails_iff ?_
      exact (settleLoop_spares front).blank blank
    rw [← loop]
    unfold PactSettler.settleBatch onlyRole
    by_cases role : history.world.settler.settlerRole sender = false
    · rw [failIf_of role]
      exact ⟨fun _ => .inl role, fun _ => ⟨_, rfl⟩⟩
    · rw [failIf_of_not role, ok_bind]
      by_cases paused : history.world.registry.protocolPaused = true
      · rw [failIf_of paused]
        exact ⟨fun _ => .inr (.inl paused), fun _ => ⟨_, rfl⟩⟩
      · rw [failIf_of_not paused, ok_bind]
        by_cases long : events.length > ProtocolInvariants.maxBatchSize
        · rw [failIf_of long]
          exact ⟨fun _ => .inr (.inr (.inl long)), fun _ => ⟨_, rfl⟩⟩
        · rw [failIf_of_not long, ok_bind]
          exact ⟨fun failed => .inr (.inr (.inr failed)), fun refused =>
            ((refused.resolve_left role).resolve_left paused).resolve_left long⟩
  · intro after receipts accepted
    refine eachTurn_of_settleBatch accepted (fun world => world.registry.Blank) blank
      (fun before settled => (PactSettler.settleEvent_spares settled).blank before) ?_
    intro event earlier later receipt before settled absent
    exact (settleEvent_unregistered before absent).mp settled

end Turns

/-- Right after deployment a batch of one event whose hint is not zero reverts. -/
theorem unregistered_reverts_hinted : ∃ error, PactSettler.settleBatch standard Demo.deployment
    Demo.start.world Demo.operator 80 [Demo.event 1 900] = .error error := by
  have started : Reachable (Deployed standard Demo.deployment)
      (Transaction standard Demo.deployment) Demo.start := .start Demo.deployed_start
  refine (unregistered_reverts Demo.operator 80 [Demo.event 1 900] started).1.mpr
    (.inr (.inr (.inr ⟨0, Nat.zero_lt_one, (Demo.start.world, []), rfl, ?_, ?_⟩)))
  · intro _ slips
    exact absurd (slips.hint : (1 : UInt8) = 0) (by decide)
  · intro registered
    exact absurd (registered : false = true) Bool.false_ne_true

/-- Right after deployment a batch of one event with no hint and no approval is accepted and
uses up the event's call id, though no slug is registered. -/
theorem unregistered_settles :
    Reachable (Deployed standard Demo.deployment) (Transaction standard Demo.deployment)
        Demo.start ∧
      Demo.start.world.registry.registered Demo.slug = false ∧
      Demo.start.world.settler.settledCallIds (Demo.named 16 1) = false ∧
      ∃ after receipts, PactSettler.settleBatch standard Demo.deployment Demo.start.world
          Demo.operator 80 [{ Demo.event 1 900 with
            feeRecipientCountHint := 0
            agent := Demo.treasury }] = .ok (after, receipts) ∧
        after.settler.settledCallIds (Demo.named 16 1) = true := by
  have played : ((PactSettler.settleBatch standard Demo.deployment Demo.start.world
      Demo.operator 80 [{ Demo.event 1 900 with
        feeRecipientCountHint := 0
        agent := Demo.treasury }]).toOption.map fun final =>
          final.1.settler.settledCallIds (Demo.named 16 1)) = some true := by
    decide +kernel
  obtain ⟨⟨after, receipts⟩, accepted, marked⟩ := Option.map_eq_some_iff.mp played
  exact ⟨.start Demo.deployed_start, rfl, rfl, after, receipts, toOption_eq_some.mp accepted,
    marked⟩

end PactNetwork.Evm
