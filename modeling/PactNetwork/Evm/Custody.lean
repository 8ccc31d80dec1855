import Mathlib.Algebra.BigOperators.Group.Finset.Basic
import PactNetwork.Evm.Solvency

/-!
# What an approval can cost on the EVM

An agent approves the settler on its USDC. As long as the agent sends no transaction, no run
of the contracts takes more from it than it uses up of its approvals.
-/

set_option autoImplicit false

namespace PactNetwork.Evm

/-! ## Spending on approval -/

section Token

variable {τ : Type} {usdc : Erc20 τ} {account : Address} {spenders : Finset Address}
  {first second third : τ}

variable (usdc account spenders) in
def approvals (token : τ) : Nat := ∑ spender ∈ spenders, usdc.allowance token account spender

variable (usdc account spenders) in
def Limited (token : τ) : Prop :=
  ∀ spender ∈ spenders, usdc.allowance token account spender < uint256Max

variable (usdc account spenders) in
/-- The account's tokens later: what it lost was approved, and is no longer. -/
structure Spent (before after : τ) : Prop where
  allowance : ∀ spender, usdc.allowance after account spender ≤
    usdc.allowance before account spender
  loss : usdc.balanceOf before account + approvals usdc account spenders after ≤
    usdc.balanceOf after account + approvals usdc account spenders before

theorem Spent.refl (token : τ) : Spent usdc account spenders token token :=
  ⟨fun _ => le_rfl, le_rfl⟩

theorem Spent.trans (left : Spent usdc account spenders first second)
    (right : Spent usdc account spenders second third) :
    Spent usdc account spenders first third where
  allowance spender := (right.allowance spender).trans (left.allowance spender)
  loss := by
    have earlier := left.loss
    have later := right.loss
    omega

theorem Spent.limited (spent : Spent usdc account spenders first second)
    (limited : Limited usdc account spenders first) : Limited usdc account spenders second :=
  fun spender member => (spent.allowance spender).trans_lt (limited spender member)

theorem approvals_congr (same : usdc.allowance second account = usdc.allowance first account) :
    approvals usdc account spenders second = approvals usdc account spenders first := by
  unfold approvals
  rw [same]

theorem Spent.of_transfer {sender target : Address} {amount : Nat} (other : account ≠ sender)
    (moved : usdc.transfer first sender target amount = some second) :
    Spent usdc account spenders first second := by
  have same := usdc.allowance_transfer _ _ _ _ _ moved
  have balance := Erc20.balance_transfer moved account
  rw [if_neg other] at balance
  refine ⟨fun spender => by rw [same], ?_⟩
  rw [approvals_congr (congrFun same account)]
  omega

theorem Spent.of_transferFrom {spender source target : Address} {amount : Nat}
    (limited : Limited usdc account spenders first)
    (approved : account = source → spender ∈ spenders)
    (moved : usdc.transferFrom first spender source target amount = some second) :
    Spent usdc account spenders first second := by
  have spends := usdc.allowance_transferFrom _ _ _ _ _ _ moved
  have balance := Erc20.balance_transferFrom moved account
  refine ⟨fun other => ?_, ?_⟩
  · rw [spends]
    exact spendAllowance_le _ _ _ _ _ _
  · by_cases charged : account = source
    case pos =>
      subst charged
      have member := approved rfl
      have finite := (limited spender member).ne
      have allowed := (Erc20.covered_of_transferFrom moved).1
      have others : ∀ other ∈ spenders.erase spender,
          usdc.allowance second account other = usdc.allowance first account other := by
        intro other listed
        rw [spends]
        exact spendAllowance_of_ne fun same => (Finset.ne_of_mem_erase listed) same.2
      have own : usdc.allowance second account spender + amount =
          usdc.allowance first account spender := by
        rw [spends, spendAllowance_self finite]
        omega
      have before : usdc.allowance first account spender +
          ∑ other ∈ spenders.erase spender, usdc.allowance first account other =
            approvals usdc account spenders first := Finset.add_sum_erase _ _ member
      have after : usdc.allowance second account spender +
          ∑ other ∈ spenders.erase spender, usdc.allowance second account other =
            approvals usdc account spenders second := Finset.add_sum_erase _ _ member
      have rest : ∑ other ∈ spenders.erase spender, usdc.allowance second account other =
          ∑ other ∈ spenders.erase spender, usdc.allowance first account other :=
        Finset.sum_congr rfl others
      split at balance <;> omega
    case neg =>
      have same : usdc.allowance second account = usdc.allowance first account := by
        funext other
        rw [spends]
        exact spendAllowance_of_ne fun same => charged same.1
      rw [approvals_congr same]
      rw [if_neg charged] at balance
      omega

end Token

/-! ## The settler -/

section Settlement

variable {τ : Type} {usdc : Erc20 τ} {deployment : Deployment} {account : Address}
  {spenders : Finset Address}

theorem Spent.of_payAll {token after : τ} {payouts : List (Address × UInt64)}
    (other : account ≠ deployment.pool) (paid : payAll usdc deployment token payouts = some after) :
    Spent usdc account spenders token after := by
  induction payouts generalizing token with
  | nil =>
      cases paid
      exact .refl _
  | cons payout rest ih =>
      obtain ⟨middle, moved, moves⟩ := Option.bind_eq_some_iff.mp paid
      exact (Spent.of_transfer other moved).trans (ih moves)

theorem Spent.settleEvent {world after : World τ} {timestamp : UInt64} {event : SettlementEvent}
    {receipt : Receipt} (other : account ≠ deployment.pool) (member : deployment.settler ∈ spenders)
    (limited : Limited usdc account spenders world.token)
    (settled : PactSettler.settleEvent usdc deployment world timestamp event =
      .ok (after, receipt)) : Spent usdc account spenders world.token after.token := by
  obtain ⟨-, ended⟩ := PactSettler.settleEvent_spec settled
  cases ended with
  | inl failed =>
      obtain ⟨-, rfl, -⟩ := failed
      exact .refl _
  | inr done =>
      obtain ⟨token, outcome, pulled, effect⟩ := done
      obtain ⟨middle, paid, refund⟩ := effect.token
      have charged : Spent usdc account spenders world.token middle :=
        (Spent.of_transferFrom limited (fun _ => member) pulled).trans (.of_payAll other paid)
      cases refund with
      | inl nothing =>
          rw [nothing.2]
          exact charged
      | inr moved => exact charged.trans (.of_transfer other moved)

theorem Spent.settleBatch {world after : World τ} {sender : Address} {timestamp : UInt64}
    {events : List SettlementEvent} {receipts : List Receipt}
    (other : account ≠ deployment.pool) (member : deployment.settler ∈ spenders)
    (limited : Limited usdc account spenders world.token)
    (settled : PactSettler.settleBatch usdc deployment world sender timestamp events =
      .ok (after, receipts)) : Spent usdc account spenders world.token after.token := by
  simp only [PactSettler.settleBatch, bind_eq_ok] at settled
  obtain ⟨_, -, _, -, _, -, folded⟩ := settled
  refine foldlM_invariant (fun state : World τ × List Receipt =>
    Spent usdc account spenders world.token state.1.token) folded (.refl _) ?_
  intro before event later _ sofar stepped
  simp only [PactSettler.settleStep, bind_eq_ok, Prod.exists, Except.ok.injEq] at stepped
  obtain ⟨world', receipt, one, rfl⟩ := stepped
  exact sofar.trans (.settleEvent other member (sofar.limited limited) one)

end Settlement

/-! ## A run without the account's owner -/

section Runs

variable {τ : Type} {usdc : Erc20 τ} {deployment : Deployment} {account : Address}
  {spenders : Finset Address} {history later : History τ}

theorem Spent.execute {after : World τ} {sender : Address} {timestamp : UInt64} {call : Call}
    {receipts : List Receipt} (sound : Sound usdc deployment history)
    (other : account ≠ deployment.pool) (member : deployment.settler ∈ spenders)
    (limited : Limited usdc account spenders history.world.token)
    (notSettler : sender ≠ deployment.settler) (absent : account ≠ sender)
    (spender : sender ∈ spenders)
    (executed : Evm.execute usdc deployment history.world sender timestamp call =
      .ok (after, receipts)) : Spent usdc account spenders history.world.token after.token := by
  have hook := sound.onlySettler notSettler
  cases call with
  | settleBatch events => exact .settleBatch other member limited executed
  | topUp slug amount =>
      obtain ⟨world, added, same⟩ := (map_eq_ok _ _ _).mp executed
      cases same
      obtain ⟨-, -, token, state, moved, rfl, -⟩ := PactPool.topUp_spec added
      exact .of_transferFrom limited (fun charged => absurd charged absent) moved
  | creditPremium slug amount | debitForFees slug amount | debitForRefund slug amount
  | payout target amount =>
      obtain ⟨world, called, same⟩ := (map_eq_ok _ _ _).mp executed
      simp [PactPool.creditPremium, PactPool.debitForFees, PactPool.debitForRefund,
        PactPool.payout, onlyRole, hook] at called
  | transfer target amount =>
      obtain ⟨world, called, same⟩ := (map_eq_ok _ _ _).mp executed
      cases same
      simp only [World.tokenCall, bind_eq_ok, okOr_eq_ok, Except.ok.injEq] at called
      obtain ⟨token, moved, rfl⟩ := called
      exact .of_transfer absent moved
  | transferFrom source target amount =>
      obtain ⟨world, called, same⟩ := (map_eq_ok _ _ _).mp executed
      cases same
      simp only [World.tokenCall, bind_eq_ok, okOr_eq_ok, Except.ok.injEq] at called
      obtain ⟨token, moved, rfl⟩ := called
      exact .of_transferFrom limited (fun _ => spender) moved
  | approve target amount =>
      obtain ⟨world, called, same⟩ := (map_eq_ok _ _ _).mp executed
      cases same
      simp only [World.tokenCall, bind_eq_ok, okOr_eq_ok, Except.ok.injEq] at called
      obtain ⟨token, approved, rfl⟩ := called
      have same : usdc.allowance token account = usdc.allowance history.world.token account := by
        funext other
        rw [usdc.allowance_approve _ _ _ _ _ approved, setAllowance_apply,
          if_neg fun same => absent same.1]
      refine ⟨fun other => (congrFun same other).le, ?_⟩
      rw [approvals_congr same, usdc.balanceOf_approve _ _ _ _ _ approved]
  | registerEndpoint | updateEndpointConfig | updateFeeRecipients | pauseEndpoint
  | pauseProtocol | recordCallAndCapAccrual | recordRefundPaid =>
      obtain ⟨registry, called, same⟩ := (map_eq_ok _ _ _).mp executed
      cases same
      exact .refl _

variable (usdc deployment account spenders) in
/-- A transaction by one of the spenders, and not by the account. -/
def Unattended (before after : History τ) : Prop :=
  ∃ sender timestamp call, sender ∈ spenders ∧ account ≠ sender ∧
    sender ≠ deployment.pool ∧ sender ≠ deployment.settler ∧
    ((∃ error, Evm.execute usdc deployment before.world sender timestamp call = .error error ∧
        after = before) ∨
      ∃ receipts, Evm.execute usdc deployment before.world sender timestamp call =
          .ok (after.world, receipts) ∧
        ∀ slug, after.fees slug = before.fees slug + feesOf receipts slug)

theorem Unattended.transaction (step : Unattended usdc deployment account spenders history later) :
    Transaction usdc deployment history later := by
  obtain ⟨sender, timestamp, call, -, -, notPool, notSettler, ended⟩ := step
  cases ended with
  | inl failed =>
      obtain ⟨error, failed, unchanged⟩ := failed
      exact .reverted sender timestamp call error failed unchanged
  | inr accepted =>
      obtain ⟨receipts, executed, fees⟩ := accepted
      exact .accepted sender timestamp call receipts notPool notSettler executed fees

theorem Unattended.spends (step : Unattended usdc deployment account spenders history later)
    (sound : Sound usdc deployment history) (other : account ≠ deployment.pool)
    (member : deployment.settler ∈ spenders)
    (limited : Limited usdc account spenders history.world.token) :
    Spent usdc account spenders history.world.token later.world.token := by
  obtain ⟨sender, timestamp, call, spender, absent, -, notSettler, ended⟩ := step
  cases ended with
  | inl failed =>
      obtain ⟨-, -, rfl⟩ := failed
      exact .refl _
  | inr accepted =>
      obtain ⟨receipts, executed, -⟩ := accepted
      exact .execute sound other member limited notSettler absent spender executed

/-- In no run of transactions by others does an account lose more than is used up of what it
had approved them and the settler. Nothing is approved anew. -/
theorem evm_loss_approved
    (reached : Reachable (Deployed usdc deployment) (Transaction usdc deployment) history)
    (other : account ≠ deployment.pool) (member : deployment.settler ∈ spenders)
    (limited : Limited usdc account spenders history.world.token)
    (run : Relation.ReflTransGen (Unattended usdc deployment account spenders) history later) :
    Spent usdc account spenders history.world.token later.world.token := by
  have sound := reached.invariant (Sound usdc deployment)
    (fun _ deployed => .deployed deployed) fun _ _ kept moves => kept.transaction moves
  have whole : Sound usdc deployment later ∧
      Spent usdc account spenders history.world.token later.world.token := by
    induction run with
    | refl => exact ⟨sound, .refl _⟩
    | tail _ step ih =>
        obtain ⟨before, spent⟩ := ih
        exact ⟨before.transaction step.transaction,
          spent.trans (step.spends before other member (spent.limited limited))⟩
  exact whole.2

theorem unattended_of_run {transactions : List (Address × UInt64 × Call)}
    (senders : ∀ transaction ∈ transactions, transaction.1 ∈ spenders ∧ account ≠ transaction.1)
    (executed : transactions.foldlM (History.execute usdc deployment) history = .ok later) :
    Relation.ReflTransGen (Unattended usdc deployment account spenders) history later := by
  refine foldlM_invariant (Relation.ReflTransGen (Unattended usdc deployment account spenders)
    history) executed .refl ?_
  intro before transaction after listed sofar moved
  unfold History.execute at moved
  split at moved
  case isTrue => cases moved
  case isFalse external =>
    obtain ⟨notPool, notSettler⟩ := not_or.mp external
    simp only [bind_eq_ok, Prod.exists, Except.ok.injEq] at moved
    obtain ⟨world, receipts, called, rfl⟩ := moved
    obtain ⟨member, absent⟩ := senders transaction listed
    exact sofar.tail ⟨_, _, _, member, absent, notPool, notSettler,
      .inr ⟨receipts, called, fun _ => rfl⟩⟩

end Runs

/-- Three calls of 200 are charged to an approval of 1000. -/
theorem evm_loss_approved_demo : ∃ history,
    Demo.transactions.foldlM (History.execute standard Demo.deployment) Demo.start =
        .ok history ∧
      Spent standard Demo.agent {Demo.deployment.settler, Demo.authority, Demo.operator}
        Demo.start.world.token history.world.token ∧
      history.world.token.allowances Demo.agent Demo.deployment.settler = 400 := by
  have charged : ((Demo.transactions.foldlM (History.execute standard Demo.deployment)
      Demo.start).toOption.map fun history =>
        history.world.token.allowances Demo.agent Demo.deployment.settler) = some 400 := by
    decide +kernel
  obtain ⟨history, found, allowance⟩ := Option.map_eq_some_iff.mp charged
  rw [toOption_eq_some] at found
  refine ⟨history, found, ?_, allowance⟩
  refine evm_loss_approved (.start Demo.deployed_start) (by decide)
    (Finset.mem_insert_self _ _) ?limited (unattended_of_run ?senders found)
  case limited =>
    intro spender _
    have bound : standard.allowance Demo.start.world.token Demo.agent spender ≤ 5000 := by
      simp only [standard, Demo.start]
      split
      case isTrue => exact le_rfl
      case isFalse => split <;> decide
    exact bound.trans_lt (by decide)
  case senders => decide

end PactNetwork.Evm
