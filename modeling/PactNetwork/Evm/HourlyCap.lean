import PactNetwork.Evm.CallIds
import PactNetwork.Settlement.Exposure

/-!
# The hourly cap of the EVM contracts

Only the settler may use the hooks that count calls, so every transaction
settles calls of an endpoint, registers it, or changes its settings and leaves
its window.
-/

set_option autoImplicit false

namespace PactNetwork.Evm

open Settlement

/-! ## Runs by the clock -/

section Runs

variable {τ : Type} (usdc : Erc20 τ) (deployment : Deployment)

def World.Clocked : Int × World τ → List (List Receipt × Int × World τ) → Prop :=
  Journal (fun first => World.Fresh usdc deployment first.2) fun before receipts after =>
    before.1 ≤ after.1 ∧ Turn usdc deployment after.1 before.2 receipts after.2

def PactRegistry.countersOf (registry : PactRegistry) (slug : Slug) :
    Option Settlement.Endpoint :=
  if registry.registered slug then some (registry.endpoints slug).counters else none

def refundsTo (slug : Slug) (receipts : List Receipt) : Nat :=
  tally (fun receipt => receipt.log.actualRefund.toNat) (fun receipt => receipt.log.slug = slug)
    receipts

/-- An endpoint after every step of a run and the refunds of the step, latest first. -/
def exposure (slug : Slug) (log : List (List Receipt × Int × World τ)) : List Reading :=
  readings Prod.fst (fun state => state.2.registry.countersOf slug) (refundsTo slug) log

end Runs

/-! ## The registry -/

namespace PactRegistry

section Meters

variable {registry result : PactRegistry} {sender : Address} {timestamp : UInt64}
  {slug target : Slug} {config : EndpointConfig} {now : Int}

theorem countersOf_setEndpoint_self (present : registry.registered slug = true) :
    (registry.setEndpoint slug config).countersOf slug = some config.counters := by
  have same : (registry.setEndpoint slug config).registered slug = true := present
  rw [countersOf, if_pos same, endpoints_setEndpoint]

theorem countersOf_setEndpoint_of_ne (different : slug ≠ target) :
    (registry.setEndpoint target config).countersOf slug = registry.countersOf slug := by
  have other : (registry.setEndpoint target config).endpoints slug = registry.endpoints slug :=
    Function.update_of_ne different _ _
  rw [countersOf, countersOf, other]
  rfl

theorem meters_setEndpoint (present : ¬registry.registered target = false)
    (start : config.currentPeriodStart = (registry.endpoints target).currentPeriodStart)
    (refunds : config.currentPeriodRefunds = (registry.endpoints target).currentPeriodRefunds) :
    Meters now (registry.countersOf slug) 0
      ((registry.setEndpoint target config).countersOf slug) := by
  by_cases here : slug = target
  · subst here
    have registered : registry.registered slug = true := by simpa using present
    rw [countersOf_setEndpoint_self registered, countersOf, if_pos registered]
    refine .configured ?_ ?_
    · exact congrArg (fun start : UInt64 => (start.toNat : Int)) start
    · exact congrArg UInt64.toNat refunds
  · rw [countersOf_setEndpoint_of_ne here]
    exact .refl _ now

theorem registerEndpoint_meters {pricing : Pricing} {present : Bool} {count : UInt8}
    {recipients : FeeRecipients} (time : (timestamp.toNat : Int) = now)
    (accepted : registry.registerEndpoint sender timestamp target pricing present count
      recipients = .ok result) :
    result.settlerRole = registry.settlerRole ∧
      Meters now (registry.countersOf slug) 0 (result.countersOf slug) := by
  simp only [registerEndpoint, onlyAuthority, validateSlug, bind_eq_ok, failIf_eq_ok, exists_const,
    Prod.exists, Except.ok.injEq] at accepted
  obtain ⟨-, -, _, _, -, entries, _, -, absent, rfl⟩ := accepted
  refine ⟨rfl, ?_⟩
  by_cases here : slug = target
  · subst here
    rw [countersOf, if_neg absent, countersOf, if_pos (Function.update_self _ _ _)]
    refine .registered ?_ ?_
    · rw [← time, endpoints_setEndpoint]
      rfl
    · rw [endpoints_setEndpoint]
      rfl
  · simp only [countersOf, setEndpoint, Function.update_of_ne here]
    exact .refl _ now

theorem updateEndpointConfig_meters {pricing : Pricing}
    (accepted : registry.updateEndpointConfig sender timestamp target pricing = .ok result) :
    result.settlerRole = registry.settlerRole ∧
      Meters now (registry.countersOf slug) 0 (result.countersOf slug) := by
  simp only [updateEndpointConfig, onlyAuthority, bind_eq_ok, failIf_eq_ok, exists_const,
    Except.ok.injEq] at accepted
  obtain ⟨-, present, rfl⟩ := accepted
  exact ⟨rfl, meters_setEndpoint present rfl rfl⟩

theorem updateFeeRecipients_meters {recipients : FeeRecipients} {count : UInt8}
    (accepted : registry.updateFeeRecipients sender timestamp target recipients count =
      .ok result) :
    result.settlerRole = registry.settlerRole ∧
      Meters now (registry.countersOf slug) 0 (result.countersOf slug) := by
  simp only [updateFeeRecipients, onlyAuthority, bind_eq_ok, failIf_eq_ok, exists_const,
    Prod.exists, Except.ok.injEq] at accepted
  obtain ⟨-, present, entries, _, -, rfl⟩ := accepted
  exact ⟨rfl, meters_setEndpoint present rfl rfl⟩

theorem pauseEndpoint_meters {paused : Bool}
    (accepted : registry.pauseEndpoint sender target paused = .ok result) :
    result.settlerRole = registry.settlerRole ∧
      Meters now (registry.countersOf slug) 0 (result.countersOf slug) := by
  simp only [pauseEndpoint, onlyAuthority, bind_eq_ok, failIf_eq_ok, exists_const,
    Except.ok.injEq] at accepted
  obtain ⟨-, present, rfl⟩ := accepted
  exact ⟨rfl, meters_setEndpoint present rfl rfl⟩

theorem pauseProtocol_meters {paused : Bool}
    (accepted : registry.pauseProtocol sender paused = .ok result) :
    result.settlerRole = registry.settlerRole ∧
      Meters now (registry.countersOf slug) 0 (result.countersOf slug) := by
  simp only [pauseProtocol, onlyAuthority, bind_eq_ok, failIf_eq_ok, exists_const,
    Except.ok.injEq] at accepted
  obtain ⟨-, rfl⟩ := accepted
  exact ⟨rfl, .refl _ now⟩

end Meters

end PactRegistry

/-! ## Batches -/

section Batch

variable {τ : Type} {usdc : Erc20 τ} {deployment : Deployment} {before after : World τ}
  {sender : Address} {timestamp : UInt64} {event : SettlementEvent} {receipt : Receipt}
  {receipts : List Receipt} {slug : Slug}

theorem refundsTo_append (front back : List Receipt) :
    refundsTo slug (front ++ back) = refundsTo slug front + refundsTo slug back :=
  tally_append _ _ front back

theorem refundsTo_singleton : refundsTo slug [receipt] =
    if receipt.log.slug = slug then receipt.log.actualRefund.toNat else 0 := by
  rw [refundsTo, tally_cons, tally_nil, Nat.add_zero]

theorem PactSettler.registered_of_settleSuccess {config : EndpointConfig}
    (finished : settleSuccess usdc deployment before timestamp event config =
      .ok (after, receipt)) : before.registry.registered event.endpointSlug = true := by
  simp only [settleSuccess, bind_eq_ok, Prod.exists] at finished
  obtain ⟨credited, credit, registry, payable, record, -⟩ := finished
  obtain ⟨state, rfl, -⟩ := PactPool.creditPremium_spec credit
  simp only [PactRegistry.recordCallAndCapAccrual, bind_eq_ok, failIf_eq_ok,
    exists_const] at record
  obtain ⟨-, -, present, -⟩ := record
  simpa using present

theorem PactSettler.settleEvent_settles
    (settled : settleEvent usdc deployment before timestamp event = .ok (after, receipt)) :
    after.registry.settlerRole = before.registry.settlerRole ∧
      Settles timestamp.toNat (before.registry.countersOf slug) (refundsTo slug [receipt])
        (after.registry.countersOf slug) := by
  have present : ∀ token, usdc.transferFrom before.token deployment.settler event.agent
      deployment.pool event.premium.toNat = some token →
        before.registry.registered event.endpointSlug = true := by
    intro token pulled
    simp only [settleEvent, markSettled, pulled, bind_eq_ok] at settled
    obtain ⟨config, -, finished⟩ := settled
    have registered := registered_of_settleSuccess finished
    exact registered
  obtain ⟨-, ⟨-, rfl, rfl⟩ | ⟨token, outcome, pulled, effect⟩⟩ := settleEvent_spec settled
  · have none_ : refundsTo slug [⟨event.log 0 .delegateFailed, [], 0⟩] = 0 := by
      rw [refundsTo_singleton]
      exact ite_self 0
    rw [none_]
    exact ⟨rfl, .refl _ _⟩
  · obtain ⟨stored, registry, -, counters⟩ := effect.registry
    have slugEq : receipt.log.slug = event.endpointSlug := by
      rw [effect.log]
      rfl
    rw [registry, refundsTo_singleton, slugEq]
    refine ⟨rfl, ?_⟩
    by_cases here : event.endpointSlug = slug
    · subst here
      rw [if_pos rfl, PactRegistry.countersOf_setEndpoint_self (present token pulled),
        PactRegistry.countersOf, if_pos (present token pulled), counters, effect.refund,
        effect.outcome_eq]
      exact .accrued (settle_accrues _ _ _ _)
    · rw [if_neg here, PactRegistry.countersOf_setEndpoint_of_ne (Ne.symm here)]
      exact .refl _ _

theorem PactSettler.settleBatch_settles {events : List SettlementEvent}
    (settled : settleBatch usdc deployment before sender timestamp events =
      .ok (after, receipts)) :
    after.registry.settlerRole = before.registry.settlerRole ∧
      Settles timestamp.toNat (before.registry.countersOf slug) (refundsTo slug receipts)
        (after.registry.countersOf slug) := by
  simp only [settleBatch, bind_eq_ok] at settled
  obtain ⟨_, -, _, -, _, -, folded⟩ := settled
  refine foldlM_invariant (fun state : World τ × List Receipt =>
    state.1.registry.settlerRole = before.registry.settlerRole ∧
      Settles timestamp.toNat (before.registry.countersOf slug) (refundsTo slug state.2)
        (state.1.registry.countersOf slug)) folded ⟨rfl, .refl _ _⟩ ?_
  rintro middle event later - ⟨role, sofar⟩ stepped
  simp only [settleStep, bind_eq_ok, Prod.exists, Except.ok.injEq] at stepped
  obtain ⟨world, receipt, one, rfl⟩ := stepped
  obtain ⟨role', settles⟩ := settleEvent_settles one
  rw [refundsTo_append]
  exact ⟨role'.trans role, sofar.trans settles⟩

end Batch

/-! ## Transactions -/

def Reserved {τ : Type} (deployment : Deployment) (world : World τ) : Prop :=
  ∀ account, world.registry.settlerRole account = true → account = deployment.settler

section Transactions

variable {τ : Type} {usdc : Erc20 τ} {deployment : Deployment} {before after : World τ}
  {sender : Address} {timestamp : UInt64} {receipts : List Receipt} {slug : Slug} {now : Int}

theorem registry_meters {call : Call} (reserved : Reserved deployment before)
    (notSettler : sender ≠ deployment.settler) (time : (timestamp.toNat : Int) = now)
    (registry : call.ofRegistry = true)
    (executed : execute usdc deployment before sender timestamp call = .ok (after, receipts)) :
    after.registry.settlerRole = before.registry.settlerRole ∧
      Meters now (before.registry.countersOf slug) 0 (after.registry.countersOf slug) := by
  have hook : before.registry.settlerRole sender = false := by
    cases held : before.registry.settlerRole sender with
    | false => rfl
    | true => exact (notSettler (reserved sender held)).elim
  cases call with
  | registerEndpoint =>
      obtain ⟨registry, called, same⟩ := (map_eq_ok _ _ _).mp executed
      cases same
      exact PactRegistry.registerEndpoint_meters time called
  | updateEndpointConfig =>
      obtain ⟨registry, called, same⟩ := (map_eq_ok _ _ _).mp executed
      cases same
      exact PactRegistry.updateEndpointConfig_meters called
  | updateFeeRecipients =>
      obtain ⟨registry, called, same⟩ := (map_eq_ok _ _ _).mp executed
      cases same
      exact PactRegistry.updateFeeRecipients_meters called
  | pauseEndpoint =>
      obtain ⟨registry, called, same⟩ := (map_eq_ok _ _ _).mp executed
      cases same
      exact PactRegistry.pauseEndpoint_meters called
  | pauseProtocol =>
      obtain ⟨registry, called, same⟩ := (map_eq_ok _ _ _).mp executed
      cases same
      exact PactRegistry.pauseProtocol_meters called
  | recordCallAndCapAccrual | recordRefundPaid =>
      obtain ⟨registry, called, same⟩ := (map_eq_ok _ _ _).mp executed
      simp [PactRegistry.recordCallAndCapAccrual, PactRegistry.recordRefundPaid, onlyRole,
        hook] at called
  | _ => cases registry

theorem execute_meters {call : Call} (reserved : Reserved deployment before)
    (notSettler : sender ≠ deployment.settler) (time : (timestamp.toNat : Int) = now)
    (executed : execute usdc deployment before sender timestamp call = .ok (after, receipts)) :
    after.registry.settlerRole = before.registry.settlerRole ∧
      Meters now (before.registry.countersOf slug) (refundsTo slug receipts)
        (after.registry.countersOf slug) := by
  rcases execute_frame executed with ⟨events, rfl⟩ | ⟨rfl, -, registry | kept⟩
  · obtain ⟨role, settles⟩ := PactSettler.settleBatch_settles executed
    rw [time] at settles
    exact ⟨role, .settled settles⟩
  · exact registry_meters reserved notSettler time registry executed
  · rw [kept]
    exact ⟨rfl, .refl _ now⟩

theorem Turn.meters (slug : Slug) (reserved : Reserved deployment before)
    (turn : Turn usdc deployment now before receipts after) :
    after.registry.settlerRole = before.registry.settlerRole ∧
      Meters now (before.registry.countersOf slug) (refundsTo slug receipts)
        (after.registry.countersOf slug) := by
  cases turn with
  | accepted sender timestamp time call notPool notSettler executed =>
      exact execute_meters reserved notSettler time executed
  | reverted => exact ⟨rfl, .refl _ now⟩

theorem World.Clocked.capped {state : Int × World τ} {log : List (List Receipt × Int × World τ)}
    (clocked : World.Clocked usdc deployment state log) (slug : Slug) :
    Capped (exposure slug log) := by
  refine capped_of_journal (fun state => Reserved deployment state.2) clocked ?_ ?_ ?_
  · intro first fresh
    obtain ⟨authority, treasuryVault, maxTotalFeeBps, recipients, count, constructed⟩ :=
      Deployed.constructed fresh
    simp only [PactRegistry.construct, bind_eq_ok, Except.ok.injEq] at constructed
    obtain ⟨_, -, registry⟩ := constructed
    rw [Reserved, ← registry]
    exact ⟨fun account held => of_decide_eq_true held, rfl⟩
  · rintro before receipts after reserved ⟨-, turn⟩ account held
    rw [(Turn.meters slug reserved turn).1] at held
    exact reserved account held
  · rintro before receipts after reserved ⟨later, turn⟩
    exact ⟨later, (Turn.meters slug reserved turn).2⟩

/-- Execute a transaction at its time, unless the clock is past it or one of
the contracts is named as its sender. -/
def World.tick (usdc : Erc20 τ) (deployment : Deployment)
    (state : (Int × World τ) × List (List Receipt × Int × World τ))
    (transaction : Address × UInt64 × Call) :
    (Int × World τ) × List (List Receipt × Int × World τ) :=
  let (sender, timestamp, call) := transaction
  if state.1.1 ≤ timestamp.toNat ∧ sender ≠ deployment.pool ∧ sender ≠ deployment.settler then
    let (receipts, world) :=
      match execute usdc deployment state.1.2 sender timestamp call with
      | .ok (world, receipts) => (receipts, world)
      | .error _ => ([], state.1.2)
    ((timestamp.toNat, world), (receipts, timestamp.toNat, world) :: state.2)
  else state

theorem World.clocked_of_tick {state : (Int × World τ) × List (List Receipt × Int × World τ)}
    (clocked : World.Clocked usdc deployment state.1 state.2)
    (transactions : List (Address × UInt64 × Call)) :
    World.Clocked usdc deployment (transactions.foldl (tick usdc deployment) state).1
      (transactions.foldl (tick usdc deployment) state).2 := by
  induction transactions generalizing state with
  | nil => exact clocked
  | cons transaction rest ih =>
      refine ih ?_
      unfold tick
      dsimp only
      split
      case isTrue allowed =>
        obtain ⟨later, notPool, notSettler⟩ := allowed
        split
        case h_1 executed =>
          exact .next clocked ⟨later, .accepted _ _ rfl _ notPool notSettler executed⟩
        case h_2 failed => exact .next clocked ⟨later, .reverted _ _ rfl _ failed⟩
      case isFalse => exact clocked

end Transactions

end PactNetwork.Evm
