import PactNetwork.Evm.CallIds

/-!
# Who can change what on the EVM

The authority sets the rules, the operators settle, and nobody else changes the contracts'
storage or lowers the pool's tokens. What is registered or settled stays so.
-/

set_option autoImplicit false

namespace PactNetwork.Evm

/-! ## The registry -/

/-- The configurations have the same meters; their pricing, cap, pause and recipients may
differ. -/
def EndpointConfig.SameMeters (left right : EndpointConfig) : Prop :=
  left.counters = { right.counters with cap := left.counters.cap }

theorem EndpointConfig.SameMeters.refl (config : EndpointConfig) : config.SameMeters config := rfl

theorem EndpointConfig.SameTerms.refl (config : EndpointConfig) : config.SameTerms config := rfl

namespace PactRegistry

def Fixed (before after : PactRegistry) : Prop :=
  after = { before with
    protocolPaused := after.protocolPaused
    endpoints := after.endpoints
    registered := after.registered }

theorem Fixed.trans {first second third : PactRegistry} (left : Fixed first second)
    (right : Fixed second third) : Fixed first third := by
  unfold Fixed at left right ⊢
  rw [right, left]

structure Ruled (sender : Address) (before after : PactRegistry) : Prop where
  authorized : sender = before.authority
  fixed : Fixed before after
  stays : ∀ slug, before.registered slug = true → after.registered slug = true
  meters : ∀ slug, before.registered slug = true →
    (after.endpoints slug).SameMeters (before.endpoints slug)

structure Metered (before after : PactRegistry) : Prop where
  fixed : Fixed before after
  registered : after.registered = before.registered
  paused : after.protocolPaused = before.protocolPaused
  terms : ∀ slug, (after.endpoints slug).SameTerms (before.endpoints slug)

section Calls

variable {registry result : PactRegistry} {sender : Address} {timestamp : UInt64} {target : Slug}

theorem kept_setEndpoint {config : EndpointConfig} {slug : Slug} (other : slug ≠ target) :
    (registry.setEndpoint target config).endpoints slug = registry.endpoints slug :=
  Function.update_of_ne other _ _

theorem sameMeters_setEndpoint {config : EndpointConfig}
    (same : config.SameMeters (registry.endpoints target)) (slug : Slug) :
    ((registry.setEndpoint target config).endpoints slug).SameMeters
      (registry.endpoints slug) := by
  by_cases here : slug = target
  · subst here
    rw [endpoints_setEndpoint]
    exact same
  · rw [kept_setEndpoint here]
    exact .refl _

theorem Ruled.of_setEndpoint {config : EndpointConfig} (authorized : ¬sender ≠ registry.authority)
    (same : config.SameMeters (registry.endpoints target)) :
    Ruled sender registry (registry.setEndpoint target config) where
  authorized := not_ne_iff.mp authorized
  fixed := rfl
  stays _ known := known
  meters slug _ := sameMeters_setEndpoint same slug

theorem registerEndpoint_ruled {pricing : Pricing} {present : Bool} {count : UInt8}
    {recipients : FeeRecipients}
    (accepted : registry.registerEndpoint sender timestamp target pricing present count
      recipients = .ok result) : Ruled sender registry result := by
  simp only [registerEndpoint, onlyAuthority, validateSlug, bind_eq_ok, failIf_eq_ok, exists_const,
    Prod.exists, Except.ok.injEq] at accepted
  obtain ⟨authorized, -, _, _, -, entries, _, -, absent, rfl⟩ := accepted
  have other : ∀ slug, registry.registered slug = true → slug ≠ target := by
    rintro slug known rfl
    exact absent known
  refine ⟨not_ne_iff.mp authorized, rfl, fun slug known => ?_, fun slug known => ?_⟩
  · exact (Function.update_of_ne (other slug known) _ _).trans known
  · exact (kept_setEndpoint (other slug known)).symm ▸ .refl _

theorem updateEndpointConfig_ruled {pricing : Pricing}
    (accepted : registry.updateEndpointConfig sender timestamp target pricing = .ok result) :
    Ruled sender registry result := by
  simp only [updateEndpointConfig, onlyAuthority, bind_eq_ok, failIf_eq_ok, exists_const,
    Except.ok.injEq] at accepted
  obtain ⟨authorized, -, rfl⟩ := accepted
  exact .of_setEndpoint authorized rfl

theorem updateFeeRecipients_ruled {recipients : FeeRecipients} {count : UInt8}
    (accepted : registry.updateFeeRecipients sender timestamp target recipients count =
      .ok result) : Ruled sender registry result := by
  simp only [updateFeeRecipients, onlyAuthority, bind_eq_ok, failIf_eq_ok, exists_const,
    Prod.exists, Except.ok.injEq] at accepted
  obtain ⟨authorized, -, entries, _, -, rfl⟩ := accepted
  exact .of_setEndpoint authorized rfl

theorem pauseEndpoint_ruled {paused : Bool}
    (accepted : registry.pauseEndpoint sender target paused = .ok result) :
    Ruled sender registry result := by
  simp only [pauseEndpoint, onlyAuthority, bind_eq_ok, failIf_eq_ok, exists_const,
    Except.ok.injEq] at accepted
  obtain ⟨authorized, -, rfl⟩ := accepted
  exact .of_setEndpoint authorized rfl

theorem pauseProtocol_ruled {paused : Bool}
    (accepted : registry.pauseProtocol sender paused = .ok result) :
    Ruled sender registry result := by
  simp only [pauseProtocol, onlyAuthority, bind_eq_ok, failIf_eq_ok, exists_const,
    Except.ok.injEq] at accepted
  obtain ⟨authorized, rfl⟩ := accepted
  exact ⟨not_ne_iff.mp authorized, rfl, fun _ known => known, fun _ _ => .refl _⟩

end Calls

theorem Metered.refl (registry : PactRegistry) : Metered registry registry :=
  ⟨rfl, rfl, rfl, fun _ => .refl _⟩

theorem Metered.trans {first second third : PactRegistry} (left : Metered first second)
    (right : Metered second third) : Metered first third where
  fixed := left.fixed.trans right.fixed
  registered := right.registered.trans left.registered
  paused := right.paused.trans left.paused
  terms slug := (right.terms slug).trans (left.terms slug)

end PactRegistry

/-! ## The pools -/

structure PoolState.Deposited (before after : PoolState) : Prop where
  premiums : after.totalPremiums = before.totalPremiums
  refunds : after.totalRefunds = before.totalRefunds
  balance : after.currentBalance.toNat + before.totalDeposits.toNat =
    before.currentBalance.toNat + after.totalDeposits.toNat
  deposits : before.totalDeposits.toNat ≤ after.totalDeposits.toNat

theorem PoolState.Deposited.refl (state : PoolState) : state.Deposited state :=
  ⟨rfl, rfl, rfl, Nat.le_refl _⟩

theorem PoolState.Deposited.of_ledger {before after : PoolState} {amount : UInt64}
    (ledger : after.ledger = { before.ledger with
      balance := before.ledger.balance + amount.toNat
      deposits := before.ledger.deposits + amount.toNat }) : before.Deposited after := by
  have premiums := congrArg Settlement.Pool.premiums ledger
  have refunds := congrArg Settlement.Pool.refunds ledger
  have balance := congrArg Settlement.Pool.balance ledger
  have deposits := congrArg Settlement.Pool.deposits ledger
  simp only [PoolState.ledger] at premiums refunds balance deposits
  refine ⟨UInt64.toNat_inj.mp premiums, UInt64.toNat_inj.mp refunds, ?_, ?_⟩
  · omega
  · omega

/-! ## Settlement -/

/-- What settling does outside the ledgers it moves. -/
structure Operated {τ : Type} (before after : World τ) : Prop where
  registry : PactRegistry.Metered before.registry after.registry
  poolRole : after.pool.settlerRole = before.pool.settlerRole
  deposits : ∀ slug, (after.pool.pools slug).totalDeposits = (before.pool.pools slug).totalDeposits
  settlerRole : after.settler.settlerRole = before.settler.settlerRole

section Settlement

variable {τ : Type} {usdc : Erc20 τ} {deployment : Deployment} {before after : World τ}
  {first second third : World τ} {timestamp : UInt64} {sender : Address}

theorem Operated.refl (world : World τ) : Operated world world :=
  ⟨.refl _, rfl, fun _ => rfl, rfl⟩

theorem Operated.trans (left : Operated first second) (right : Operated second third) :
    Operated first third where
  registry := left.registry.trans right.registry
  poolRole := right.poolRole.trans left.poolRole
  deposits slug := (right.deposits slug).trans (left.deposits slug)
  settlerRole := right.settlerRole.trans left.settlerRole

theorem settleEvent_operated {event : SettlementEvent} {receipt : Receipt}
    (settled : PactSettler.settleEvent usdc deployment before timestamp event =
      .ok (after, receipt)) : Operated before after := by
  obtain ⟨-, ended⟩ := PactSettler.settleEvent_spec settled
  cases ended with
  | inl failed =>
      obtain ⟨-, rfl, -⟩ := failed
      exact ⟨.refl _, rfl, fun _ => rfl, rfl⟩
  | inr done =>
      obtain ⟨token, outcome, -, effect⟩ := done
      obtain ⟨state, pool, ledger⟩ := effect.pool
      obtain ⟨stored, registry, terms, -⟩ := effect.registry
      refine ⟨?registry, ?poolRole, fun slug => ?deposits, ?settlerRole⟩
      case registry =>
        rw [registry]
        refine ⟨rfl, rfl, rfl, fun slug => ?_⟩
        by_cases here : slug = event.endpointSlug
        · subst here
          rw [PactRegistry.endpoints_setEndpoint]
          exact terms
        · exact (PactRegistry.kept_setEndpoint here).symm ▸ .refl _
      case poolRole =>
        rw [pool]
        rfl
      case deposits =>
        rw [pool]
        by_cases here : slug = event.endpointSlug
        · subst here
          rw [PactPool.pools_setPool]
          obtain ⟨paid, -⟩ := Settlement.settle_pool
            (before.pool.pools event.endpointSlug).ledger
            (before.registry.endpoints event.endpointSlug).counters timestamp.toNat
            (event.call receipt.fees)
          have deposits := congrArg Settlement.Pool.deposits ledger
          rw [effect.outcome_eq] at deposits
          exact UInt64.toNat_inj.mp (deposits.trans (congrArg Settlement.Pool.deposits paid))
        · have kept : (before.pool.setPool event.endpointSlug state).pools slug =
              before.pool.pools slug := Function.update_of_ne here _ _
          rw [kept]
      case settlerRole =>
        rw [effect.settler]
        rfl

theorem settleBatch_operated {events : List SettlementEvent} {receipts : List Receipt}
    (settled : PactSettler.settleBatch usdc deployment before sender timestamp events =
      .ok (after, receipts)) :
    before.settler.settlerRole sender = true ∧ Operated before after := by
  simp only [PactSettler.settleBatch, bind_eq_ok, onlyRole, failIf_eq_ok, exists_const] at settled
  obtain ⟨role, -, -, folded⟩ := settled
  refine ⟨by simpa using role, ?_⟩
  refine foldlM_invariant (fun state : World τ × List Receipt => Operated before state.1)
    folded (.refl _) ?_
  intro earlier event later _ sofar stepped
  simp only [PactSettler.settleStep, bind_eq_ok, Prod.exists, Except.ok.injEq] at stepped
  obtain ⟨world, receipt, one, rfl⟩ := stepped
  exact sofar.trans (settleEvent_operated one)

end Settlement

/-! ## Any call -/

section Confined

variable {τ : Type} (usdc : Erc20 τ) (deployment : Deployment)

/-- What a call by `sender` may change. -/
structure Confined (sender : Address) (before after : World τ) (receipts : List Receipt) :
    Prop where
  fixed : PactRegistry.Fixed before.registry after.registry
  roles : after.pool.settlerRole = before.pool.settlerRole ∧
    after.settler.settlerRole = before.settler.settlerRole
  registered : ∀ slug, before.registry.registered slug = true →
    after.registry.registered slug = true
  settled : ∀ callId, Marked before callId → Marked after callId
  /-- Without the authority no rule changes and nothing is deposited. -/
  ruled : sender ≠ before.registry.authority →
    PactRegistry.Metered before.registry after.registry ∧
      ∀ slug, (after.pool.pools slug).totalDeposits = (before.pool.pools slug).totalDeposits
  /-- Without an operator nothing is settled, and no pool pays. -/
  idle : before.settler.settlerRole sender = false →
    receipts = [] ∧ after.settler = before.settler ∧
      (∀ slug, before.registry.registered slug = true →
        (after.registry.endpoints slug).SameMeters (before.registry.endpoints slug)) ∧
      (∀ slug, (before.pool.pools slug).Deposited (after.pool.pools slug)) ∧
      usdc.balanceOf before.token deployment.pool ≤ usdc.balanceOf after.token deployment.pool
  /-- Anyone else moves tokens at most. -/
  outside : sender ≠ before.registry.authority → before.settler.settlerRole sender = false →
    after.registry = before.registry ∧ after.pool = before.pool

variable {usdc deployment} {sender : Address} {before after : World τ} {receipts : List Receipt}

theorem Confined.of_registry {result : PactRegistry}
    (ruled : PactRegistry.Ruled sender before.registry result) :
    Confined usdc deployment sender before (before.setRegistry result) [] where
  fixed := ruled.fixed
  roles := ⟨rfl, rfl⟩
  registered := ruled.stays
  settled _ marked := marked
  ruled other := absurd ruled.authorized other
  idle _ := ⟨rfl, rfl, ruled.meters, fun _ => .refl _, Nat.le_refl _⟩
  outside other := absurd ruled.authorized other

theorem Confined.of_token {token : τ}
    (kept : usdc.balanceOf before.token deployment.pool ≤ usdc.balanceOf token deployment.pool) :
    Confined usdc deployment sender before { before with token } [] where
  fixed := rfl
  roles := ⟨rfl, rfl⟩
  registered _ known := known
  settled _ marked := marked
  ruled _ := ⟨.refl _, fun _ => rfl⟩
  idle _ := ⟨rfl, rfl, fun _ _ => .refl _, fun _ => .refl _, kept⟩
  outside _ _ := ⟨rfl, rfl⟩

theorem Confined.execute {history : History τ} {timestamp : UInt64} {call : Call}
    (sound : Sound usdc deployment history)
    (hooks : history.world.registry.settlerRole sender = false)
    (notPool : sender ≠ deployment.pool) (notSettler : sender ≠ deployment.settler)
    (executed : Evm.execute usdc deployment history.world sender timestamp call =
      .ok (after, receipts)) :
    Confined usdc deployment sender history.world after receipts := by
  have hook := sound.onlySettler notSettler
  have payer : deployment.pool ≠ sender := Ne.symm notPool
  cases call with
  | settleBatch events =>
      obtain ⟨role, operated⟩ := settleBatch_operated executed
      refine ⟨operated.registry.fixed, ⟨operated.poolRole, operated.settlerRole⟩, ?_, ?_, ?_, ?_,
        ?_⟩
      · rw [operated.registry.registered]
        exact fun _ known => known
      · exact (PactSettler.settleBatch_marks executed).keeps
      · exact fun _ => ⟨operated.registry, operated.deposits⟩
      · intro idle
        rw [role] at idle
        cases idle
      · intro _ idle
        rw [role] at idle
        cases idle
  | registerEndpoint slug pricing present count recipients =>
      obtain ⟨registry, called, same⟩ := (map_eq_ok _ _ _).mp executed
      cases same
      exact .of_registry (PactRegistry.registerEndpoint_ruled called)
  | updateEndpointConfig slug pricing =>
      obtain ⟨registry, called, same⟩ := (map_eq_ok _ _ _).mp executed
      cases same
      exact .of_registry (PactRegistry.updateEndpointConfig_ruled called)
  | updateFeeRecipients slug recipients count =>
      obtain ⟨registry, called, same⟩ := (map_eq_ok _ _ _).mp executed
      cases same
      exact .of_registry (PactRegistry.updateFeeRecipients_ruled called)
  | pauseEndpoint slug paused =>
      obtain ⟨registry, called, same⟩ := (map_eq_ok _ _ _).mp executed
      cases same
      exact .of_registry (PactRegistry.pauseEndpoint_ruled called)
  | pauseProtocol paused =>
      obtain ⟨registry, called, same⟩ := (map_eq_ok _ _ _).mp executed
      cases same
      exact .of_registry (PactRegistry.pauseProtocol_ruled called)
  | recordCallAndCapAccrual slug premium breach intended | recordRefundPaid slug refund =>
      obtain ⟨registry, called, same⟩ := (map_eq_ok _ _ _).mp executed
      simp [PactRegistry.recordCallAndCapAccrual, PactRegistry.recordRefundPaid, onlyRole,
        hooks] at called
  | topUp slug amount =>
      obtain ⟨world, added, same⟩ := (map_eq_ok _ _ _).mp executed
      cases same
      obtain ⟨authorized, -, token, state, moved, rfl, ledger⟩ := PactPool.topUp_spec added
      have received := Erc20.balance_transferFrom moved deployment.pool
      rw [if_neg payer, if_pos rfl] at received
      refine ⟨rfl, ⟨rfl, rfl⟩, fun _ known => known, fun _ marked => marked,
        fun other => absurd authorized other, fun _ => ⟨rfl, rfl, fun _ _ => .refl _,
          fun other => ?_, by dsimp only; omega⟩, fun other => absurd authorized other⟩
      by_cases here : other = slug
      · subst here
        rw [PactPool.pools_setPool]
        exact .of_ledger ledger
      · have kept : (history.world.pool.setPool slug state).pools other =
            history.world.pool.pools other := Function.update_of_ne here _ _
        rw [kept]
        exact .refl _
  | creditPremium slug amount | debitForFees slug amount | debitForRefund slug amount
  | payout target amount =>
      obtain ⟨world, called, same⟩ := (map_eq_ok _ _ _).mp executed
      simp [PactPool.creditPremium, PactPool.debitForFees, PactPool.debitForRefund,
        PactPool.payout, onlyRole, hook] at called
  | transfer target amount =>
      obtain ⟨world, called, same⟩ := (map_eq_ok _ _ _).mp executed
      cases same
      simp only [World.tokenCall, bind_eq_ok, okOr_eq_ok, Except.ok.injEq] at called
      obtain ⟨token, moved, rfl⟩ := called
      have balance := Erc20.balance_transfer moved deployment.pool
      rw [if_neg payer] at balance
      exact .of_token (by omega)
  | transferFrom source target amount =>
      obtain ⟨world, called, same⟩ := (map_eq_ok _ _ _).mp executed
      cases same
      simp only [World.tokenCall, bind_eq_ok, okOr_eq_ok, Except.ok.injEq] at called
      obtain ⟨token, moved, rfl⟩ := called
      have balance := Erc20.balance_transferFrom moved deployment.pool
      have allowed := (Erc20.covered_of_transferFrom moved).1
      refine .of_token ?_
      by_cases mine : deployment.pool = source
      · rw [← mine, sound.noAllowance] at allowed
        split at balance <;> omega
      · rw [if_neg mine] at balance
        omega
  | approve spender amount =>
      obtain ⟨world, called, same⟩ := (map_eq_ok _ _ _).mp executed
      cases same
      simp only [World.tokenCall, bind_eq_ok, okOr_eq_ok, Except.ok.injEq] at called
      obtain ⟨token, approved, rfl⟩ := called
      exact .of_token (by rw [usdc.balanceOf_approve _ _ _ _ _ approved])

end Confined

/-! ## Runs -/

section Runs

variable {τ : Type} {usdc : Erc20 τ} {deployment : Deployment} {history later : History τ}

/-- The settler alone holds the roles of the pool and of the registry. -/
structure Held (usdc : Erc20 τ) (deployment : Deployment) (history : History τ) : Prop where
  sound : Sound usdc deployment history
  registry : ∀ account, history.world.registry.settlerRole account = true →
    account = deployment.settler

theorem Held.confined {sender : Address} {timestamp : UInt64} {call : Call} {after : World τ}
    {receipts : List Receipt} (held : Held usdc deployment history)
    (notPool : sender ≠ deployment.pool) (notSettler : sender ≠ deployment.settler)
    (executed : Evm.execute usdc deployment history.world sender timestamp call =
      .ok (after, receipts)) :
    Confined usdc deployment sender history.world after receipts := by
  refine .execute held.sound ?_ notPool notSettler executed
  cases role : history.world.registry.settlerRole sender with
  | false => rfl
  | true => exact absurd (held.registry sender role) notSettler

theorem Held.deployed (deployed : Deployed usdc deployment history) :
    Held usdc deployment history where
  sound := .deployed deployed
  registry account role := by
    obtain ⟨_, _, _, _, _, constructed⟩ := deployed.constructed
    simp only [PactRegistry.construct, bind_eq_ok, Except.ok.injEq] at constructed
    obtain ⟨_, -, same⟩ := constructed
    rw [← same] at role
    exact of_decide_eq_true role

theorem Held.transaction (held : Held usdc deployment history)
    (moves : Transaction usdc deployment history later) : Held usdc deployment later := by
  refine ⟨held.sound.transaction moves, ?_⟩
  cases moves with
  | accepted sender timestamp call receipts notPool notSettler executed fees =>
      rw [(held.confined notPool notSettler executed).fixed]
      exact held.registry
  | reverted sender timestamp call error failed unchanged =>
      rw [unchanged]
      exact held.registry

theorem held_of_reachable
    (reached : Reachable (Deployed usdc deployment) (Transaction usdc deployment) history) :
    Held usdc deployment history :=
  reached.invariant (Held usdc deployment) (fun _ deployed => .deployed deployed)
    fun _ _ held moves => held.transaction moves

structure Lasting (before after : World τ) : Prop where
  fixed : PactRegistry.Fixed before.registry after.registry
  roles : after.pool.settlerRole = before.pool.settlerRole ∧
    after.settler.settlerRole = before.settler.settlerRole
  registered : ∀ slug, before.registry.registered slug = true →
    after.registry.registered slug = true
  settled : ∀ callId, Marked before callId → Marked after callId

theorem Lasting.refl (world : World τ) : Lasting world world :=
  ⟨rfl, ⟨rfl, rfl⟩, fun _ known => known, fun _ marked => marked⟩

theorem Lasting.trans {first second third : World τ} (left : Lasting first second)
    (right : Lasting second third) : Lasting first third where
  fixed := left.fixed.trans right.fixed
  roles := ⟨right.roles.1.trans left.roles.1, right.roles.2.trans left.roles.2⟩
  registered slug known := right.registered slug (left.registered slug known)
  settled callId marked := right.settled callId (left.settled callId marked)

theorem Held.lasting (held : Held usdc deployment history)
    (moves : Transaction usdc deployment history later) :
    Lasting history.world later.world := by
  cases moves with
  | accepted sender timestamp call receipts notPool notSettler executed fees =>
      have confined := held.confined notPool notSettler executed
      exact ⟨confined.fixed, confined.roles, confined.registered, confined.settled⟩
  | reverted sender timestamp call error failed unchanged =>
      rw [unchanged]
      exact .refl _

variable (usdc deployment) in
/-- A transaction of somebody who is neither the authority nor an operator. -/
def Outsiders (before after : History τ) : Prop :=
  ∃ sender timestamp call, sender ≠ before.world.registry.authority ∧
    before.world.settler.settlerRole sender = false ∧
    sender ≠ deployment.pool ∧ sender ≠ deployment.settler ∧
    ((∃ error, Evm.execute usdc deployment before.world sender timestamp call = .error error ∧
        after = before) ∨
      ∃ receipts, Evm.execute usdc deployment before.world sender timestamp call =
          .ok (after.world, receipts) ∧
        ∀ slug, after.fees slug = before.fees slug + feesOf receipts slug)

/-- The storage of the contracts is as it was, and the pool has no fewer tokens. -/
structure Untouched (usdc : Erc20 τ) (deployment : Deployment) (before after : World τ) : Prop where
  registry : after.registry = before.registry
  pool : after.pool = before.pool
  settler : after.settler = before.settler
  tokens : usdc.balanceOf before.token deployment.pool ≤ usdc.balanceOf after.token deployment.pool

theorem Held.untouched (held : Held usdc deployment history)
    (moves : Outsiders usdc deployment history later) :
    Held usdc deployment later ∧ Untouched usdc deployment history.world later.world := by
  obtain ⟨sender, timestamp, call, other, idle, notPool, notSettler, ended⟩ := moves
  cases ended with
  | inl failed =>
      obtain ⟨-, -, rfl⟩ := failed
      exact ⟨held, rfl, rfl, rfl, Nat.le_refl _⟩
  | inr accepted =>
      obtain ⟨receipts, executed, fees⟩ := accepted
      have confined := held.confined notPool notSettler executed
      obtain ⟨registry, pool⟩ := confined.outside other idle
      obtain ⟨-, settler, -, -, tokens⟩ := confined.idle idle
      exact ⟨held.transaction (.accepted sender timestamp call receipts notPool notSettler
        executed fees), registry, pool, settler, tokens⟩

end Runs

end PactNetwork.Evm
