import PactNetwork.Evm.Solvency
import PactNetwork.Foundation.Journal

/-!
# Call ids of the EVM contracts

A run with the receipts of its batches. A settled call id stays settled, so it
has at most one receipt.
-/

set_option autoImplicit false

namespace PactNetwork.Evm

/-! ## Runs with their receipts -/

section Runs

variable {τ : Type} (usdc : Erc20 τ) (deployment : Deployment)

/-- One transaction at a time, with the receipts of an accepted batch. -/
inductive Turn (now : Int) (before : World τ) : List Receipt → World τ → Prop
  | accepted (sender : Address) (timestamp : UInt64) (time : (timestamp.toNat : Int) = now)
      (call : Call) {receipts : List Receipt} {after : World τ}
      (notPool : sender ≠ deployment.pool) (notSettler : sender ≠ deployment.settler)
      (executed : execute usdc deployment before sender timestamp call = .ok (after, receipts)) :
      Turn now before receipts after
  | reverted (sender : Address) (timestamp : UInt64) (time : (timestamp.toNat : Int) = now)
      (call : Call) {error : EvmError}
      (failed : execute usdc deployment before sender timestamp call = .error error) :
      Turn now before [] before

def World.Fresh (world : World τ) : Prop := Deployed usdc deployment ⟨world, fun _ => 0⟩

def World.Logged : World τ → List (List Receipt × World τ) → Prop :=
  Journal (World.Fresh usdc deployment) fun before receipts after =>
    ∃ now, Turn usdc deployment now before receipts after

/-- Execute a transaction and keep the log; a revert is an error. -/
def World.record (state : World τ × List (List Receipt × World τ))
    (transaction : Address × UInt64 × Call) :
    Except EvmError (World τ × List (List Receipt × World τ)) :=
  if transaction.1 = deployment.pool ∨ transaction.1 = deployment.settler then .error .panic
  else do
    let (world, receipts) ←
      execute usdc deployment state.1 transaction.1 transaction.2.1 transaction.2.2
    .ok (world, (receipts, world) :: state.2)

variable {usdc deployment}

theorem World.logged_of_record {state final : World τ × List (List Receipt × World τ)}
    {transactions : List (Address × UInt64 × Call)}
    (logged : World.Logged usdc deployment state.1 state.2)
    (played : transactions.foldlM (World.record usdc deployment) state = .ok final) :
    World.Logged usdc deployment final.1 final.2 := by
  refine foldlM_invariant (fun state : World τ × List (List Receipt × World τ) =>
    World.Logged usdc deployment state.1 state.2) played logged ?_
  intro before transaction after _ sofar stepped
  unfold World.record at stepped
  split at stepped
  · cases stepped
  case isFalse external =>
    obtain ⟨notPool, notSettler⟩ := not_or.mp external
    simp only [bind_eq_ok, Prod.exists, Except.ok.injEq] at stepped
    obtain ⟨world, receipts, executed, rfl⟩ := stepped
    exact .next sofar ⟨_, .accepted _ _ rfl _ notPool notSettler executed⟩

end Runs

/-! ## Settled ids -/

def Marked {τ : Type} (world : World τ) (id : CallId) : Prop :=
  world.settler.settledCallIds id = true

def callIds (receipts : List Receipt) : List CallId :=
  receipts.map fun receipt => receipt.log.callId

section Marks

variable {τ : Type} {usdc : Erc20 τ} {deployment : Deployment} {before after : World τ}
  {sender : Address} {timestamp : UInt64} {receipts : List Receipt}

def Call.ofRegistry : Call → Bool
  | .registerEndpoint .. | .updateEndpointConfig .. | .updateFeeRecipients .. | .pauseEndpoint ..
  | .pauseProtocol .. | .recordCallAndCapAccrual .. | .recordRefundPaid .. => true
  | _ => false

/-- Only `settleBatch` has receipts and changes the settler's storage, and only
it and the registry's own calls change the registry. -/
theorem execute_frame {call : Call}
    (executed : execute usdc deployment before sender timestamp call = .ok (after, receipts)) :
    (∃ events, call = .settleBatch events) ∨
      receipts = [] ∧ after.settler = before.settler ∧
        (call.ofRegistry = true ∨ after.registry = before.registry) := by
  cases call with
  | settleBatch events => exact .inl ⟨events, rfl⟩
  | registerEndpoint | updateEndpointConfig | updateFeeRecipients | pauseEndpoint
  | pauseProtocol | recordCallAndCapAccrual | recordRefundPaid =>
      obtain ⟨registry, called, same⟩ := (map_eq_ok _ _ _).mp executed
      cases same
      exact .inr ⟨rfl, rfl, .inl rfl⟩
  | topUp slug amount =>
      obtain ⟨world, called, same⟩ := (map_eq_ok _ _ _).mp executed
      cases same
      obtain ⟨-, -, token, state, -, rfl, -⟩ := PactPool.topUp_spec called
      exact .inr ⟨rfl, rfl, .inr rfl⟩
  | creditPremium slug amount =>
      obtain ⟨world, called, same⟩ := (map_eq_ok _ _ _).mp executed
      cases same
      obtain ⟨state, rfl, -⟩ := PactPool.creditPremium_spec called
      exact .inr ⟨rfl, rfl, .inr rfl⟩
  | debitForFees slug amount =>
      obtain ⟨world, called, same⟩ := (map_eq_ok _ _ _).mp executed
      cases same
      obtain ⟨-, state, rfl, -⟩ := PactPool.debitForFees_spec called
      exact .inr ⟨rfl, rfl, .inr rfl⟩
  | debitForRefund slug amount =>
      obtain ⟨world, called, same⟩ := (map_eq_ok _ _ _).mp executed
      cases same
      obtain ⟨-, state, rfl, -⟩ := PactPool.debitForRefund_spec called
      exact .inr ⟨rfl, rfl, .inr rfl⟩
  | payout target amount =>
      obtain ⟨world, called, same⟩ := (map_eq_ok _ _ _).mp executed
      cases same
      obtain ⟨-, token, -, rfl⟩ := PactPool.payout_spec called
      exact .inr ⟨rfl, rfl, .inr rfl⟩
  | transfer | transferFrom | approve =>
      obtain ⟨world, called, same⟩ := (map_eq_ok _ _ _).mp executed
      cases same
      simp only [World.tokenCall, bind_eq_ok, okOr_eq_ok, Except.ok.injEq] at called
      obtain ⟨token, -, rfl⟩ := called
      exact .inr ⟨rfl, rfl, .inr rfl⟩

namespace PactSettler

theorem unmarked_of_checkEvent {event : SettlementEvent} {config : EndpointConfig}
    (checked : checkEvent before timestamp event = .ok config) : ¬Marked before event.callId := by
  simp only [checkEvent, bind_eq_ok, failIf_eq_ok, exists_const] at checked
  obtain ⟨-, -, -, unsettled, -⟩ := checked
  exact unsettled

theorem settleEvent_marks {event : SettlementEvent} {receipt : Receipt}
    (settled : settleEvent usdc deployment before timestamp event = .ok (after, receipt)) :
    Marks Marked before (callIds [receipt]) after := by
  obtain ⟨checked, ends⟩ := settleEvent_spec settled
  have outcome : receipt.log.callId = event.callId ∧
      after.settler = (markSettled before event.callId).settler := by
    rcases ends with ⟨-, rfl, rfl⟩ | ⟨token, outcome, -, effect⟩
    · exact ⟨rfl, rfl⟩
    · rw [effect.log]
      exact ⟨rfl, effect.settler⟩
  obtain ⟨id, settler⟩ := outcome
  have ids : callIds [receipt] = [event.callId] := by
    rw [callIds, List.map_singleton, id]
  rw [ids]
  refine ⟨List.nodup_singleton _, ?_, ?_, ?_⟩
  · intro key member
    rw [List.mem_singleton.mp member]
    exact unmarked_of_checkEvent checked
  · intro key member
    rw [List.mem_singleton.mp member, Marked, settler]
    exact Function.update_self _ _ _
  · intro key old
    rw [Marked, settler]
    by_cases same : key = event.callId
    · subst same
      exact Function.update_self _ _ _
    · exact (Function.update_of_ne same _ _).trans old

theorem settleBatch_marks {events : List SettlementEvent}
    (settled : settleBatch usdc deployment before sender timestamp events =
      .ok (after, receipts)) : Marks Marked before (callIds receipts) after := by
  simp only [settleBatch, bind_eq_ok] at settled
  obtain ⟨_, -, _, -, _, -, folded⟩ := settled
  refine foldlM_invariant (fun state : World τ × List Receipt =>
    Marks Marked before (callIds state.2) state.1) folded (.of_keeps fun _ old => old) ?_
  intro earlier event later _ marked stepped
  simp only [settleStep, bind_eq_ok, Prod.exists, Except.ok.injEq] at stepped
  obtain ⟨world, receipt, one, rfl⟩ := stepped
  rw [callIds, List.map_append]
  exact marked.trans (settleEvent_marks one)

end PactSettler

theorem Turn.marks {now : Int} (turn : Turn usdc deployment now before receipts after) :
    Marks Marked before (callIds receipts) after := by
  cases turn with
  | accepted sender timestamp time call notPool notSettler executed =>
      rcases execute_frame executed with ⟨events, rfl⟩ | ⟨rfl, same, -⟩
      · exact PactSettler.settleBatch_marks executed
      · refine .of_keeps fun id old => ?_
        rw [Marked, same]
        exact old
  | reverted => exact .of_keeps fun _ old => old

theorem callIds_nodup {world : World τ} {log : List (List Receipt × World τ)}
    (logged : World.Logged usdc deployment world log) :
    (log.reverse.flatMap fun entry => callIds entry.1).Nodup := by
  refine Journal.nodup Marked (fun _ => True) logged (fun _ _ => trivial)
    (fun _ _ _ _ _ => trivial) ?_
  rintro before receipts after - ⟨now, turn⟩
  exact turn.marks

end Marks

end PactNetwork.Evm
