import Mathlib.Algebra.Order.BigOperators.Group.Finset
import PactNetwork.Evm.Refinement
import PactNetwork.Foundation.Transition

/-!
# EVM solvency

Runs of the three contracts and of the token, with the fees debited from each
slug's ledger kept as history. The pool's token balance covers all ledgers
together, and each ledger is balanced.
-/

set_option autoImplicit false

namespace PactNetwork.Evm

open scoped BigOperators

/-! ## Runs -/

/-- Every external call, the settler's hooks and the token's functions included. -/
inductive Call where
  | registerEndpoint (slug : Slug) (pricing : PactRegistry.Pricing) (feeRecipientsPresent : Bool)
      (feeRecipientCount : UInt8) (feeRecipients : FeeRecipients)
  | updateEndpointConfig (slug : Slug) (pricing : PactRegistry.Pricing)
  | updateFeeRecipients (slug : Slug) (recipients : FeeRecipients) (count : UInt8)
  | pauseEndpoint (slug : Slug) (paused : Bool)
  | pauseProtocol (paused : Bool)
  | recordCallAndCapAccrual (slug : Slug) (premium : UInt64) (breach : Bool)
      (intendedRefund : UInt64)
  | recordRefundPaid (slug : Slug) (actualRefund : UInt64)
  | topUp (slug : Slug) (amount : UInt64)
  | creditPremium (slug : Slug) (amount : UInt64)
  | debitForFees (slug : Slug) (amount : UInt64)
  | debitForRefund (slug : Slug) (amount : UInt64)
  | payout (target : Address) (amount : UInt64)
  | settleBatch (events : List SettlementEvent)
  | transfer (target : Address) (amount : Nat)
  | transferFrom (source target : Address) (amount : Nat)
  | approve (spender : Address) (amount : Nat)

section Runs

variable {τ : Type} (usdc : Erc20 τ) (deployment : Deployment)

def World.setRegistry (world : World τ) (registry : PactRegistry) : World τ :=
  { world with registry }

def World.tokenCall (world : World τ) (outcome : Option τ) : Except EvmError (World τ) := do
  let token ← okOr outcome .tokenOperationFailed
  .ok { world with token }

/-- Execute a call; only `settleBatch` yields receipts. -/
def execute (world : World τ) (sender : Address) (timestamp : UInt64) :
    Call → Except EvmError (World τ × List Receipt)
  | .registerEndpoint slug pricing present count recipients =>
      (world.registry.registerEndpoint sender timestamp slug pricing present count
        recipients).map fun registry => (world.setRegistry registry, [])
  | .updateEndpointConfig slug pricing =>
      (world.registry.updateEndpointConfig sender timestamp slug pricing).map
        fun registry => (world.setRegistry registry, [])
  | .updateFeeRecipients slug recipients count =>
      (world.registry.updateFeeRecipients sender timestamp slug recipients count).map
        fun registry => (world.setRegistry registry, [])
  | .pauseEndpoint slug paused =>
      (world.registry.pauseEndpoint sender slug paused).map
        fun registry => (world.setRegistry registry, [])
  | .pauseProtocol paused =>
      (world.registry.pauseProtocol sender paused).map
        fun registry => (world.setRegistry registry, [])
  | .recordCallAndCapAccrual slug premium breach intendedRefund =>
      (world.registry.recordCallAndCapAccrual sender timestamp slug premium breach
        intendedRefund).map fun recorded => (world.setRegistry recorded.1, [])
  | .recordRefundPaid slug actualRefund =>
      (world.registry.recordRefundPaid sender slug actualRefund).map
        fun registry => (world.setRegistry registry, [])
  | .topUp slug amount =>
      (PactPool.topUp usdc deployment world sender timestamp slug amount).map (·, [])
  | .creditPremium slug amount => (PactPool.creditPremium world sender slug amount).map (·, [])
  | .debitForFees slug amount => (PactPool.debitForFees world sender slug amount).map (·, [])
  | .debitForRefund slug amount => (PactPool.debitForRefund world sender slug amount).map (·, [])
  | .payout target amount => (PactPool.payout usdc deployment world sender target amount).map (·, [])
  | .settleBatch events => PactSettler.settleBatch usdc deployment world sender timestamp events
  | .transfer target amount =>
      (world.tokenCall (usdc.transfer world.token sender target amount)).map (·, [])
  | .transferFrom source target amount =>
      (world.tokenCall (usdc.transferFrom world.token sender source target amount)).map (·, [])
  | .approve spender amount =>
      (world.tokenCall (usdc.approve world.token sender spender amount)).map (·, [])

/-- A world and the fees debited from each slug's ledger so far. -/
structure History (τ : Type) where
  world : World τ
  fees : Slug → Nat

def feesOf (receipts : List Receipt) (slug : Slug) : Nat :=
  ((receipts.filter fun receipt => receipt.log.slug = slug).map
    fun receipt => receipt.feesDebited.toNat).sum

/-- A freshly deployed system whose settler alone holds both settler roles. The
pool is a new address: it has approved nobody. -/
structure Deployed (history : History τ) : Prop where
  constructed : ∃ authority treasuryVault maxTotalFeeBps defaultRecipients defaultCount,
    PactRegistry.construct authority treasuryVault maxTotalFeeBps defaultRecipients defaultCount
      (fun account => account = deployment.settler) = .ok history.world.registry
  pool : history.world.pool = ⟨fun _ => .zero, fun account => account = deployment.settler⟩
  unsettled : ∀ callId, history.world.settler.settledCallIds callId = false
  noAllowance : ∀ spender, usdc.allowance history.world.token deployment.pool spender = 0
  fees : ∀ slug, history.fees slug = 0

/-- One transaction. The pool and the settler are contracts: they send only
what their own code sends. A call that reverts changes nothing. -/
inductive Transaction (before after : History τ) : Prop
  | accepted (sender : Address) (timestamp : UInt64) (call : Call) (receipts : List Receipt)
      (notPool : sender ≠ deployment.pool) (notSettler : sender ≠ deployment.settler)
      (executed : execute usdc deployment before.world sender timestamp call =
        .ok (after.world, receipts))
      (fees : ∀ slug, after.fees slug = before.fees slug + feesOf receipts slug)
  | reverted (sender : Address) (timestamp : UInt64) (call : Call) (error : EvmError)
      (failed : execute usdc deployment before.world sender timestamp call = .error error)
      (unchanged : after = before)

end Runs

/-! ## The invariant -/

/-- The roles are as deployed, nobody may spend the pool's tokens, the tokens
cover every set of ledgers at once, and each ledger is balanced. -/
structure Sound {τ : Type} (usdc : Erc20 τ) (deployment : Deployment) (history : History τ) :
    Prop where
  poolRole : ∀ account, history.world.pool.settlerRole account = true →
    account = deployment.settler
  noAllowance : ∀ spender, usdc.allowance history.world.token deployment.pool spender = 0
  solvent : ∀ slugs : Finset Slug,
    ∑ slug ∈ slugs, (history.world.pool.pools slug).ledger.balance ≤
      usdc.balanceOf history.world.token deployment.pool
  balanced : ∀ slug, (history.world.pool.pools slug).ledger.Balanced (history.fees slug)

section Sums

variable {α : Type} [DecidableEq α]

/-- A bound on every partial sum survives a change of one term, when the change
is matched by what flows in and out of the bound. -/
theorem sum_update_le {term term' : α → Nat} (changed : α) (inflow outflow : Nat)
    {bound bound' : Nat}
    (within : ∀ items : Finset α, ∑ item ∈ items, term item ≤ bound)
    (others : ∀ item, item ≠ changed → term' item = term item)
    (moved : term' changed + outflow = term changed + inflow)
    (funded : bound + inflow ≤ bound' + outflow) (items : Finset α) :
    ∑ item ∈ items, term' item ≤ bound' := by
  -- It is enough to bound the sum over a set that has the changed term in it.
  have larger : ∑ item ∈ items, term' item ≤
      term' changed + ∑ item ∈ items.erase changed, term' item := by
    by_cases member : changed ∈ items
    · exact (Finset.add_sum_erase items term' member).ge
    · rw [Finset.erase_eq_of_notMem member]
      exact Nat.le_add_left _ _
  have same : ∑ item ∈ items.erase changed, term' item =
      ∑ item ∈ items.erase changed, term item :=
    Finset.sum_congr rfl fun item member => others item (Finset.ne_of_mem_erase member)
  have bounded := within (insert changed (items.erase changed))
  rw [Finset.sum_insert (Finset.notMem_erase changed items)] at bounded
  omega

end Sums

section Preservation

variable {τ : Type} {usdc : Erc20 τ} {deployment : Deployment}

theorem payAll_effect {token after : τ} {payouts : List (Address × UInt64)}
    (paid : payAll usdc deployment token payouts = some after) :
    usdc.allowance after = usdc.allowance token ∧
      usdc.balanceOf token deployment.pool ≤
        usdc.balanceOf after deployment.pool + (amounts payouts).sum := by
  induction payouts generalizing token with
  | nil =>
      cases paid
      exact ⟨rfl, Nat.le_refl _⟩
  | cons payout rest ih =>
      obtain ⟨middle, moved, moves⟩ := Option.bind_eq_some_iff.mp paid
      obtain ⟨allowance, bound⟩ := ih moves
      have balance := Erc20.balance_transfer moved deployment.pool
      refine ⟨allowance.trans (usdc.allowance_transfer _ _ _ _ _ moved), ?_⟩
      simp only [amounts, List.map_cons, List.sum_cons, ↓reduceIte] at bound balance ⊢
      omega

theorem Settled.tokens {before after : World τ} {timestamp : UInt64} {event : SettlementEvent}
    {config : EndpointConfig} {receipt : Receipt} {outcome : Settlement.Outcome}
    (settled : Settled usdc deployment before after timestamp event config receipt outcome) :
    usdc.allowance after.token = usdc.allowance before.token ∧
      usdc.balanceOf before.token deployment.pool ≤
        usdc.balanceOf after.token deployment.pool + (amounts receipt.fees).sum +
          outcome.refund := by
  obtain ⟨middle, paid, refunded⟩ := settled.token
  obtain ⟨allowance, bound⟩ := payAll_effect paid
  rcases refunded with ⟨none_, same⟩ | moved
  · rw [same]
    exact ⟨allowance, by omega⟩
  · have balance := Erc20.balance_transfer moved deployment.pool
    rw [settled.refund] at balance
    refine ⟨(usdc.allowance_transfer _ _ _ _ _ moved).trans allowance, ?_⟩
    simp only [↓reduceIte] at balance
    omega

theorem feesOf_append (front back : List Receipt) (slug : Slug) :
    feesOf (front ++ back) slug = feesOf front slug + feesOf back slug := by
  simp [feesOf]

theorem feesOf_singleton (receipt : Receipt) (slug : Slug) :
    feesOf [receipt] slug = if receipt.log.slug = slug then receipt.feesDebited.toNat else 0 := by
  by_cases same : receipt.log.slug = slug <;> simp [feesOf, same]

theorem Sound.settleEvent {world after : World τ} {fees : Slug → Nat} {timestamp : UInt64}
    {event : SettlementEvent} {receipt : Receipt}
    (sound : Sound usdc deployment ⟨world, fees⟩)
    (settled : PactSettler.settleEvent usdc deployment world timestamp event =
      .ok (after, receipt)) :
    Sound usdc deployment ⟨after, fun slug => fees slug + feesOf [receipt] slug⟩ := by
  obtain ⟨checked, ⟨-, rfl, rfl⟩ | ⟨token, outcome, pulled, effect⟩⟩ :=
    PactSettler.settleEvent_spec settled
  · have free : ∀ slug, feesOf [⟨event.log 0 .delegateFailed, [], 0⟩] slug = 0 := by
      intro slug
      rw [feesOf_singleton]
      split <;> rfl
    exact { sound with
      balanced := fun slug => by
        have unchanged := sound.balanced slug
        rwa [← Nat.add_zero (History.fees _ slug), ← free slug] at unchanged }
  · obtain ⟨state, poolEq, ledgerEq⟩ := effect.pool
    have positive : 0 < event.premium.toNat := by
      simp only [PactSettler.checkEvent, bind_eq_ok, failIf_eq_ok, exists_const] at checked
      obtain ⟨-, enough, -⟩ := checked
      rw [UInt64.lt_iff_toNat_lt] at enough
      exact Nat.lt_of_lt_of_le (by decide) (Nat.le_of_not_lt enough)
    -- The pool has approved nobody, so it is not the one who paid.
    have payer : deployment.pool ≠ event.agent := by
      intro same
      have allowed := (Erc20.covered_of_transferFrom pulled).1
      rw [← same, sound.noAllowance] at allowed
      omega
    have slugEq : receipt.log.slug = event.endpointSlug := by
      rw [effect.log]
      rfl
    obtain ⟨allowance, spent⟩ := effect.tokens
    have received := Erc20.balance_transferFrom pulled deployment.pool
    rw [if_neg payer, if_pos rfl] at received
    have changed : (after.pool.pools event.endpointSlug).ledger = outcome.pool := by
      rw [poolEq, PactPool.pools_setPool, ledgerEq]
    have others : ∀ slug, slug ≠ event.endpointSlug →
        after.pool.pools slug = world.pool.pools slug := by
      intro slug different
      rw [poolEq]
      exact Function.update_of_ne different _ _
    have moved := Settlement.settle_balance (world.pool.pools event.endpointSlug).ledger
      (world.registry.endpoints event.endpointSlug).counters timestamp.toNat
      (event.call receipt.fees) effect.covered
    refine ⟨?_, ?_, ?_, ?_⟩
    · rw [poolEq]
      exact sound.poolRole
    · intro spender
      rw [allowance, usdc.allowance_transferFrom _ _ _ _ _ _ pulled,
        spendAllowance_of_ne fun same => payer same.1]
      exact sound.noAllowance spender
    · refine sum_update_le event.endpointSlug event.premium.toNat
        ((amounts receipt.fees).sum + outcome.refund) sound.solvent ?_ ?_ ?_
      · intro slug different
        rw [others slug different]
      · rw [changed, effect.outcome_eq]
        exact moved
      · dsimp only at spent ⊢
        omega
    · intro slug
      dsimp only
      rw [feesOf_singleton, slugEq, effect.debited]
      by_cases same : event.endpointSlug = slug
      · subst same
        rw [changed, if_pos rfl, effect.outcome_eq]
        exact Settlement.settle_balanced (sound.balanced _) effect.covered
      · rw [others slug (Ne.symm same), if_neg same]
        exact sound.balanced slug

theorem Sound.settleBatch {world after : World τ} {fees : Slug → Nat} {sender : Address}
    {timestamp : UInt64} {events : List SettlementEvent} {receipts : List Receipt}
    (sound : Sound usdc deployment ⟨world, fees⟩)
    (settled : PactSettler.settleBatch usdc deployment world sender timestamp events =
      .ok (after, receipts)) :
    Sound usdc deployment ⟨after, fun slug => fees slug + feesOf receipts slug⟩ := by
  simp only [PactSettler.settleBatch, bind_eq_ok] at settled
  obtain ⟨_, -, _, -, _, -, folded⟩ := settled
  refine foldlM_invariant
    (fun state : World τ × List Receipt =>
      Sound usdc deployment ⟨state.1, fun slug => fees slug + feesOf state.2 slug⟩)
    folded sound ?_
  intro before event later _ kept stepped
  simp only [PactSettler.settleStep, bind_eq_ok, Prod.exists, Except.ok.injEq] at stepped
  obtain ⟨world', receipt, one, rfl⟩ := stepped
  have next := kept.settleEvent one
  simp only [Nat.add_assoc] at next
  simpa only [feesOf_append] using next

/-- A transaction that leaves the pool's storage alone keeps the invariant if
it neither lowers the pool's token balance nor approves from it. -/
theorem Sound.of_token {history : History τ} {after : World τ}
    (sound : Sound usdc deployment history) (pool : after.pool = history.world.pool)
    (allowance : ∀ spender, usdc.allowance after.token deployment.pool spender = 0)
    (balance : usdc.balanceOf history.world.token deployment.pool ≤
      usdc.balanceOf after.token deployment.pool) :
    Sound usdc deployment ⟨after, history.fees⟩ where
  poolRole := by rw [pool]; exact sound.poolRole
  noAllowance := allowance
  solvent slugs := by rw [pool]; exact (sound.solvent slugs).trans balance
  balanced slug := by rw [pool]; exact sound.balanced slug

theorem Sound.onlySettler {history : History τ} {sender : Address}
    (sound : Sound usdc deployment history) (notSettler : sender ≠ deployment.settler) :
    history.world.pool.settlerRole sender = false := by
  cases held : history.world.pool.settlerRole sender with
  | false => rfl
  | true => exact (notSettler (sound.poolRole sender held)).elim

theorem Sound.topUp {history : History τ} {after : World τ} {sender : Address}
    {timestamp amount : UInt64} {slug : Slug} (sound : Sound usdc deployment history)
    (notPool : sender ≠ deployment.pool)
    (added : PactPool.topUp usdc deployment history.world sender timestamp slug amount =
      .ok after) : Sound usdc deployment ⟨after, history.fees⟩ := by
  obtain ⟨-, -, token, state, moved, rfl, ledger⟩ := PactPool.topUp_spec added
  have received := Erc20.balance_transferFrom moved deployment.pool
  rw [if_neg (Ne.symm notPool), if_pos rfl] at received
  have others : ∀ other, other ≠ slug →
      (history.world.pool.setPool slug state).pools other = history.world.pool.pools other :=
    fun other different => Function.update_of_ne different _ _
  refine ⟨sound.poolRole, ?_, ?_, ?_⟩
  · intro spender
    rw [usdc.allowance_transferFrom _ _ _ _ _ _ moved,
      spendAllowance_of_ne fun same => notPool same.1.symm]
    exact sound.noAllowance spender
  · refine sum_update_le slug amount.toNat 0 sound.solvent ?_ ?_ ?_
    · intro other different
      rw [others other different]
    · rw [PactPool.pools_setPool, ledger]
      rfl
    · dsimp only
      omega
  · intro other
    dsimp only
    by_cases same : other = slug
    · subst same
      have balanced := sound.balanced other
      rw [PactPool.pools_setPool, ledger]
      simp only [Settlement.Pool.Balanced] at balanced ⊢
      omega
    · rw [others other same]
      exact sound.balanced other

theorem Sound.execute {before : History τ} {after : World τ} {sender : Address}
    {timestamp : UInt64} {call : Call} {receipts : List Receipt}
    (sound : Sound usdc deployment before) (notPool : sender ≠ deployment.pool)
    (notSettler : sender ≠ deployment.settler)
    (executed : Evm.execute usdc deployment before.world sender timestamp call =
      .ok (after, receipts)) :
    Sound usdc deployment ⟨after, fun slug => before.fees slug + feesOf receipts slug⟩ := by
  have hook := sound.onlySettler notSettler
  have payer : deployment.pool ≠ sender := Ne.symm notPool
  cases call with
  | settleBatch events => exact sound.settleBatch executed
  | topUp slug amount =>
      obtain ⟨world, added, same⟩ := (map_eq_ok _ _ _).mp executed
      cases same
      exact sound.topUp notPool added
  | creditPremium slug amount | debitForFees slug amount | debitForRefund slug amount
  | payout target amount =>
      obtain ⟨world, called, same⟩ := (map_eq_ok _ _ _).mp executed
      simp [PactPool.creditPremium, PactPool.debitForFees, PactPool.debitForRefund,
        PactPool.payout, onlyRole, hook] at called
  | transfer target amount =>
      obtain ⟨world, called, same⟩ := (map_eq_ok _ _ _).mp executed
      cases same
      simp only [World.tokenCall, bind_eq_ok, okOr_eq_ok, Except.ok.injEq] at called
      obtain ⟨token, moved, rfl⟩ := called
      have balance := Erc20.balance_transfer moved deployment.pool
      rw [if_neg payer] at balance
      refine sound.of_token rfl ?_ (by dsimp only; omega)
      intro spender
      dsimp only
      rw [usdc.allowance_transfer _ _ _ _ _ moved]
      exact sound.noAllowance spender
  | transferFrom source target amount =>
      obtain ⟨world, called, same⟩ := (map_eq_ok _ _ _).mp executed
      cases same
      simp only [World.tokenCall, bind_eq_ok, okOr_eq_ok, Except.ok.injEq] at called
      obtain ⟨token, moved, rfl⟩ := called
      have balance := Erc20.balance_transferFrom moved deployment.pool
      have allowed := (Erc20.covered_of_transferFrom moved).1
      refine sound.of_token rfl ?_ ?_
      · intro spender
        have less := spendAllowance_le (usdc.allowance before.world.token) source sender
          deployment.pool spender amount
        rw [sound.noAllowance] at less
        dsimp only
        rw [usdc.allowance_transferFrom _ _ _ _ _ _ moved]
        omega
      · dsimp only
        by_cases mine : deployment.pool = source
        · rw [← mine, sound.noAllowance] at allowed
          split at balance <;> omega
        · rw [if_neg mine] at balance
          omega
  | approve spender amount =>
      obtain ⟨world, called, same⟩ := (map_eq_ok _ _ _).mp executed
      cases same
      simp only [World.tokenCall, bind_eq_ok, okOr_eq_ok, Except.ok.injEq] at called
      obtain ⟨token, approved, rfl⟩ := called
      refine sound.of_token rfl ?_ ?_
      · intro other
        dsimp only
        rw [usdc.allowance_approve _ _ _ _ _ approved, setAllowance_apply,
          if_neg fun same => payer same.1]
        exact sound.noAllowance other
      · rw [usdc.balanceOf_approve _ _ _ _ _ approved]
  | registerEndpoint | updateEndpointConfig | updateFeeRecipients | pauseEndpoint
  | pauseProtocol | recordCallAndCapAccrual | recordRefundPaid =>
      obtain ⟨registry, called, same⟩ := (map_eq_ok _ _ _).mp executed
      cases same
      exact sound.of_token rfl sound.noAllowance (Nat.le_refl _)

theorem Sound.deployed {history : History τ} (deployed : Deployed usdc deployment history) :
    Sound usdc deployment history where
  poolRole account held := by
    rw [deployed.pool] at held
    exact of_decide_eq_true held
  noAllowance := deployed.noAllowance
  solvent slugs := by
    rw [deployed.pool]
    exact (Finset.sum_eq_zero fun _ _ => rfl).trans_le (Nat.zero_le _)
  balanced slug := by
    rw [deployed.pool, deployed.fees]
    rfl

theorem Sound.transaction {before after : History τ} (sound : Sound usdc deployment before)
    (moves : Transaction usdc deployment before after) : Sound usdc deployment after := by
  cases moves with
  | accepted sender timestamp call receipts notPool notSettler executed fees =>
      have next := sound.execute notPool notSettler executed
      rwa [← funext fees] at next
  | reverted sender timestamp call error failed unchanged => rwa [unchanged]

/-- In every reachable state the pool's tokens cover the ledgers of any set of
slugs together, and each ledger accounts for all that came in. -/
theorem evm_solvency (usdc : Erc20 τ) (deployment : Deployment) (history : History τ)
    (reached : Reachable (Deployed usdc deployment) (Transaction usdc deployment) history) :
    (∀ slugs : Finset Slug,
        ∑ slug ∈ slugs, (history.world.pool.pools slug).currentBalance.toNat ≤
          usdc.balanceOf history.world.token deployment.pool) ∧
      ∀ slug, (history.world.pool.pools slug).currentBalance.toNat +
          (history.world.pool.pools slug).totalRefunds.toNat + history.fees slug =
        (history.world.pool.pools slug).totalDeposits.toNat +
          (history.world.pool.pools slug).totalPremiums.toNat := by
  have sound := reached.invariant (Sound usdc deployment)
    (fun _ deployed => .deployed deployed) fun _ _ kept moves => kept.transaction moves
  exact ⟨sound.solvent, sound.balanced⟩

end Preservation

/-! ## Executing runs -/

section Execution

variable {τ : Type} (usdc : Erc20 τ) (deployment : Deployment)

/-- Execute one transaction and keep the history; a revert is an error. -/
def History.execute (history : History τ) (transaction : Address × UInt64 × Call) :
    Except EvmError (History τ) :=
  if transaction.1 = deployment.pool ∨ transaction.1 = deployment.settler then .error .panic
  else do
    let (world, receipts) ←
      Evm.execute usdc deployment history.world transaction.1 transaction.2.1 transaction.2.2
    .ok ⟨world, fun slug => history.fees slug + feesOf receipts slug⟩

variable {usdc deployment}

theorem History.transaction_of_execute {before after : History τ}
    {transaction : Address × UInt64 × Call}
    (executed : before.execute usdc deployment transaction = .ok after) :
    Transaction usdc deployment before after := by
  unfold History.execute at executed
  split at executed
  · cases executed
  case isFalse external =>
    obtain ⟨notPool, notSettler⟩ := not_or.mp external
    simp only [bind_eq_ok, Prod.exists, Except.ok.injEq] at executed
    obtain ⟨world, receipts, called, rfl⟩ := executed
    exact .accepted _ _ _ receipts notPool notSettler called fun _ => rfl

theorem History.reachable_of_run {start history : History τ}
    {transactions : List (Address × UInt64 × Call)} (deployed : Deployed usdc deployment start)
    (executed : transactions.foldlM (History.execute usdc deployment) start = .ok history) :
    Reachable (Deployed usdc deployment) (Transaction usdc deployment) history :=
  foldlM_invariant (Reachable (Deployed usdc deployment) (Transaction usdc deployment))
    executed (.start deployed)
    fun _ _ _ _ reached moved => .next reached (transaction_of_execute moved)

end Execution

/-! ## A concrete run -/

namespace Demo

def named (size : Nat) (tag : UInt8) : Bytes size := List.Vector.replicate size tag

def deployment : Deployment where
  pool := named 20 1
  settler := named 20 2
  pool_ne_zero := by decide
  settler_ne_zero := by decide
  pool_ne_settler := by decide

def authority : Address := named 20 3
def treasury : Address := named 20 4
def agent : Address := named 20 5
def operator : Address := named 20 6
def slug : Slug := named 16 97

def recipients : FeeRecipients :=
  ⟨⟨0, treasury, 1000⟩ :: List.replicate 7 FeeRecipient.zero, rfl⟩

def start : History TokenState where
  world :=
    { token :=
        { balances := fun account =>
            if account = authority then 5000 else if account = agent then 1000 else 0
          allowances := fun owner spender =>
            if owner = authority ∧ spender = deployment.pool then 5000
            else if owner = agent ∧ spender = deployment.settler then 1000 else 0 }
      registry :=
        { authority, treasuryVault := treasury, maxTotalFeeBps := 3000, protocolPaused := false
          defaultFeeRecipients := recipients, defaultCount := 1
          endpoints := fun _ => .zero, registered := fun _ => false
          settlerRole := fun account => account = deployment.settler }
      pool := ⟨fun _ => .zero, fun account => account = deployment.settler⟩
      settler := ⟨fun _ => false, fun account => account = operator⟩ }
  fees _ := 0

/-- A call that pays 200, breaches and asks for `refund`. -/
def event (tag : UInt8) (refund : UInt64) : SettlementEvent where
  callId := named 16 tag
  agent := agent
  endpointSlug := slug
  premium := 200
  refund := refund
  latencyMs := 900
  breach := true
  feeRecipientCountHint := 1
  timestamp := 50

def transactions : List (Address × UInt64 × Call) :=
  [(authority, 60, .registerEndpoint slug ⟨200, 0, 500, 0, 1500⟩ false 0 recipients),
   (authority, 70, .topUp slug 1000),
   (operator, 80, .settleBatch [event 1 900, event 2 300, event 3 900])]

theorem deployed_start : Deployed standard deployment start where
  constructed := ⟨authority, treasury, 3000, recipients, 1, by rfl⟩
  pool := rfl
  unsettled _ := rfl
  noAllowance spender := by
    have notAuthority : deployment.pool ≠ authority := by decide
    have notAgent : deployment.pool ≠ agent := by decide
    simp [standard, start, notAuthority, notAgent]
  fees _ := rfl

end Demo

/-- The run of three transactions above reaches a state with money in the pool,
and the books of that state are as claimed. -/
theorem evm_solvency_demo : ∃ history,
    Demo.transactions.foldlM (History.execute standard Demo.deployment) Demo.start =
        .ok history ∧
      (∀ slugs : Finset Slug,
        ∑ slug ∈ slugs, (history.world.pool.pools slug).currentBalance.toNat ≤
          history.world.token.balances Demo.deployment.pool) ∧
      ∀ slug, (history.world.pool.pools slug).currentBalance.toNat +
          (history.world.pool.pools slug).totalRefunds.toNat + history.fees slug =
        (history.world.pool.pools slug).totalDeposits.toNat +
          (history.world.pool.pools slug).totalPremiums.toNat := by
  have accepted : accepts
      (Demo.transactions.foldlM (History.execute standard Demo.deployment) Demo.start) := by
    decide +kernel
  obtain ⟨history, executed⟩ := accepted
  exact ⟨history, executed, evm_solvency standard Demo.deployment history
    (History.reachable_of_run Demo.deployed_start executed)⟩

end PactNetwork.Evm
