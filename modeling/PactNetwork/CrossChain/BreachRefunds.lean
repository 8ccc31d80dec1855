import PactNetwork.CrossChain.HourlyCap
import PactNetwork.Evm.Unregistered
import PactNetwork.V1.AgentAccounts

/-!
# Refunds without a breach

Neither chain looks at the breach flag when it reserves and pays a refund. An
event without a breach goes without a refund, and leaves the hourly cap alone,
exactly where nothing was due to it.
-/

set_option autoImplicit false

namespace PactNetwork

namespace Settlement

def Endpoint.remaining (endpoint : Endpoint) (now : Int) : Nat :=
  (endpoint.roll now).cap - (endpoint.roll now).periodRefunds

/-- No refund was paid, and the hourly cap has as much left as before. -/
structure Unrefunded (endpoint endpoint' : Endpoint) (now : Int) (refund : Nat) : Prop where
  refund : refund = 0
  remaining : endpoint'.remaining now = endpoint.remaining now

section Unrefunded

variable {pool : Pool} {endpoint : Endpoint} {now : Int} {call : Call}

theorem remaining_settle : (settle pool endpoint now call).endpoint.remaining now =
    endpoint.remaining now - (endpoint.roll now).payable call.refund := by
  have started : (settle pool endpoint now call).endpoint.periodStart =
      (endpoint.roll now).periodStart := by
    rcases Nat.lt_or_ge (pool.collect call).balance
      ((endpoint.roll now).payable call.refund) with short | covered
    · rw [settle_of_short short]
      rfl
    · rw [settle_of_covered rfl covered]
      rfl
  unfold Endpoint.remaining
  rw [roll_of_rolled started, Nat.sub_sub]
  rcases Nat.lt_or_ge (pool.collect call).balance
    ((endpoint.roll now).payable call.refund) with short | covered
  · rw [settle_of_short short]
    rfl
  · rw [settle_of_covered rfl covered]
    rfl

theorem payable_eq_zero {refund : Nat} :
    (endpoint.roll now).payable refund = 0 ↔ refund = 0 ∨ endpoint.remaining now = 0 := by
  unfold Endpoint.payable Endpoint.remaining
  omega

theorem unrefunded_settle_iff :
    Unrefunded endpoint (settle pool endpoint now call).endpoint now
        (settle pool endpoint now call).refund ↔
      call.refund = 0 ∨ endpoint.remaining now = 0 := by
  rw [← payable_eq_zero]
  constructor
  · intro unrefunded
    have kept := remaining_settle.symm.trans unrefunded.remaining
    have bounded : (endpoint.roll now).payable call.refund ≤ endpoint.remaining now :=
      Nat.min_le_right _ _
    omega
  · intro nothing
    have covered : (endpoint.roll now).payable call.refund ≤ (pool.collect call).balance := by
      rw [nothing]
      exact Nat.zero_le _
    refine ⟨?_, ?_⟩
    · rw [settle_of_covered rfl covered]
      exact nothing
    · rw [remaining_settle, nothing]
      exact Nat.sub_zero _

end Unrefunded

end Settlement

/-! ## V1 -/

namespace V1

open Solana

/-- Without a breach nothing is refunded and the cap is left alone. -/
def BreachRefunded (addresses : Addresses) (now : Int64) (event : SettlementEvent)
    (before after : Ledger) (receipt : Receipt) : Prop :=
  ∃ endpoint endpoint',
    structAt EndpointConfig.layout before (addresses.of (.endpointConfig event.endpointSlug)) =
      some endpoint ∧
    structAt EndpointConfig.layout after (addresses.of (.endpointConfig event.endpointSlug)) =
      some endpoint' ∧
    (event.breach = 0 → Settlement.Unrefunded endpoint.counters endpoint'.counters now.toInt
      receipt.record.actualRefundLamports.toNat)

/-- The pre-flight fails, no refund is asked for, or the hourly cap is used up. -/
def NothingDue (addresses : Addresses) (now : Int64) (fixed : FixedAccounts)
    (event : SettlementEvent) (accounts : EventAccounts) (before : Ledger) : Prop :=
  SettleBatch.delegateOk (before accounts.agentAta).data fixed.settlementAuth
      event.premiumLamports = false ∨
    event.refundLamports = 0 ∨
    ∀ endpoint, structAt EndpointConfig.layout before
        (addresses.of (.endpointConfig event.endpointSlug)) = some endpoint →
      endpoint.counters.remaining now.toInt = 0

theorem SettleBatch.Effect.breachRefunded_iff {addresses : Addresses} {context : Context}
    {fixed : FixedAccounts} {event : SettlementEvent} {accounts : EventAccounts}
    {pool pool' : CoveragePool} {endpoint endpoint' : EndpointConfig} {before after : Ledger}
    {status : SettlementStatus} {actual : UInt64} {receipt : Receipt}
    (effect : SettleBatch.Effect addresses context fixed event accounts pool pool' endpoint
      endpoint' before after status actual receipt) :
    BreachRefunded addresses context.now event before after receipt ↔
      (event.breach = 0 → NothingDue addresses context.now fixed event accounts before) := by
  have found := effect.bound.endpointFound
  have final := effect.endpointAfter
  rw [effect.bound.endpointConfig] at found final
  have written : receipt.record.actualRefundLamports = actual := by rw [effect.written]; rfl
  have zero : event.refundLamports = 0 ↔ (event.call receipt.fees).refund = 0 :=
    ⟨fun none_ => by rw [SettlementEvent.call, none_]; rfl, fun none_ => UInt64.toNat_inj.mp none_⟩
  have one : BreachRefunded addresses context.now event before after receipt ↔
      (event.breach = 0 → Settlement.Unrefunded endpoint.counters endpoint'.counters
        context.now.toInt actual.toNat) := by
    rw [← written]
    constructor
    · rintro ⟨first, last, firstFound, lastFound, unrefunded⟩
      cases found.symm.trans firstFound
      cases final.symm.trans lastFound
      exact unrefunded
    · exact fun unrefunded => ⟨endpoint, endpoint', found, final, unrefunded⟩
  rw [one]
  refine imp_congr_right fun _ => ?_
  rcases effect.outcome with
    ⟨preflight, -, none_, -, -, same, -, -⟩ | ⟨preflight, -, -, outcome, settled⟩
  · subst none_ same
    exact ⟨fun _ => .inl preflight, fun _ => ⟨rfl, rfl⟩⟩
  · rw [settled.counters, settled.refund, settled.outcome_eq, Settlement.unrefunded_settle_iff,
      ← zero]
    constructor
    · rintro (none_ | full)
      · exact .inr (.inl none_)
      · refine .inr (.inr fun stored there => ?_)
        cases found.symm.trans there
        exact full
    · rintro (stopped | none_ | full)
      · rw [preflight] at stopped
        cases stopped
      · exact .inl none_
      · exact .inr (full endpoint found)

end V1

/-! ## EVM -/

namespace Evm

variable {τ : Type} {usdc : Erc20 τ} {deployment : Deployment}

def BreachRefunded (timestamp : UInt64) (event : SettlementEvent) (before after : World τ)
    (receipt : Receipt) : Prop :=
  event.breach = false → Settlement.Unrefunded
    (before.registry.endpoints event.endpointSlug).counters
    (after.registry.endpoints event.endpointSlug).counters timestamp.toNat
    receipt.log.actualRefund.toNat

/-- The premium cannot be pulled, no refund is asked for, or the hourly cap is used up. -/
def NothingDue (usdc : Erc20 τ) (deployment : Deployment) (timestamp : UInt64)
    (event : SettlementEvent) (before : World τ) : Prop :=
  usdc.transferFrom before.token deployment.settler event.agent deployment.pool
      event.premium.toNat = none ∨
    event.refund = 0 ∨
    (before.registry.endpoints event.endpointSlug).counters.remaining timestamp.toNat = 0

theorem breachRefunded_iff {before after : World τ} {timestamp : UInt64} {event : SettlementEvent}
    {receipt : Receipt}
    (settled : PactSettler.settleEvent usdc deployment before timestamp event =
      .ok (after, receipt)) :
    BreachRefunded timestamp event before after receipt ↔
      (event.breach = false → NothingDue usdc deployment timestamp event before) := by
  have zero : event.refund = 0 ↔ (event.call receipt.fees).refund = 0 :=
    ⟨fun none_ => by rw [SettlementEvent.call, none_]; rfl, fun none_ => UInt64.toNat_inj.mp none_⟩
  refine imp_congr_right fun _ => ?_
  obtain ⟨-, ends⟩ := PactSettler.settleEvent_spec settled
  rcases ends with ⟨failed, rfl, rfl⟩ | ⟨token, outcome, pulled, effect⟩
  · exact ⟨fun _ => .inl failed, fun _ => ⟨rfl, rfl⟩⟩
  · obtain ⟨stored, saved, -, counters⟩ := effect.registry
    rw [saved, PactRegistry.endpoints_setEndpoint, counters, effect.refund, effect.outcome_eq, Settlement.unrefunded_settle_iff,
      ← zero]
    constructor
    · exact fun nothing => .inr nothing
    · rintro (failed | nothing)
      · rw [pulled] at failed
        cases failed
      · exact nothing

end Evm

/-- On both chains, whatever state an accepted batch starts in, an event without a breach
goes without a refund and leaves the hourly cap alone exactly where nothing is due to it. -/
theorem refund_without_breach {τ : Type} (usdc : Evm.Erc20 τ) (deployment : Evm.Deployment)
    (addresses : V1.Addresses) :
    (∀ context before list data after receipts,
      V1.SettleBatch.process addresses context before list data = .ok (after, receipts) →
        V1.EachTurn addresses context before list data
          fun fixed event accounts earlier later receipt =>
            V1.BreachRefunded addresses context.now event earlier later receipt ↔
              (event.breach = 0 →
                V1.NothingDue addresses context.now fixed event accounts earlier)) ∧
    ∀ before sender timestamp events after receipts,
      Evm.PactSettler.settleBatch usdc deployment before sender timestamp events =
          .ok (after, receipts) →
        Evm.EachTurn usdc deployment before timestamp events
          fun event earlier later receipt =>
            Evm.BreachRefunded timestamp event earlier later receipt ↔
              (event.breach = false →
                Evm.NothingDue usdc deployment timestamp event earlier) := by
  constructor
  · intro context before list data after receipts accepted
    exact V1.eachTurn_of_process accepted (fun _ => True) trivial (fun _ _ => trivial)
      fun _ effect => effect.breachRefunded_iff
  · intro before sender timestamp events after receipts accepted
    exact Evm.eachTurn_of_settleBatch accepted (fun _ => True) trivial (fun _ _ => trivial)
      fun _ settled => Evm.breachRefunded_iff settled

/-- The batches of the demos, whose calls breach. -/
theorem refund_without_breach_demo :
    (∃ after receipts, V1.SettleBatch.process V1.SettleBatch.Demo.addresses
        V1.SettleBatch.Demo.context V1.Demo.funded.ledger V1.Demo.batchAccounts
        V1.Demo.batchData = .ok (after, receipts) ∧
      V1.EachTurn V1.SettleBatch.Demo.addresses V1.SettleBatch.Demo.context V1.Demo.funded.ledger
        V1.Demo.batchAccounts V1.Demo.batchData fun fixed event accounts earlier later receipt =>
          V1.BreachRefunded V1.SettleBatch.Demo.addresses V1.SettleBatch.Demo.context.now event
              earlier later receipt ↔
            (event.breach = 0 → V1.NothingDue V1.SettleBatch.Demo.addresses
              V1.SettleBatch.Demo.context.now fixed event accounts earlier)) ∧
    ∃ history after receipts, Evm.PactSettler.settleBatch Evm.standard Evm.Demo.deployment
        (Evm.History.world history) Evm.Demo.operator 80 [Evm.Demo.event 1 900] =
          .ok (after, receipts) ∧
      Evm.EachTurn Evm.standard Evm.Demo.deployment history.world 80 [Evm.Demo.event 1 900]
        fun event earlier later receipt => Evm.BreachRefunded 80 event earlier later receipt ↔
          (event.breach = false → Evm.NothingDue Evm.standard Evm.Demo.deployment 80 event
            earlier) := by
  obtain ⟨solana, evm⟩ := refund_without_breach Evm.standard Evm.Demo.deployment
    V1.SettleBatch.Demo.addresses
  have accepted : accepts (V1.SettleBatch.process V1.SettleBatch.Demo.addresses
      V1.SettleBatch.Demo.context V1.Demo.funded.ledger V1.Demo.batchAccounts
      V1.Demo.batchData) := by
    decide +kernel
  have settled : accepts ((Evm.Demo.transactions.take 2).foldlM
      (Evm.History.execute Evm.standard Evm.Demo.deployment) Evm.Demo.start >>= fun history =>
        Evm.PactSettler.settleBatch Evm.standard Evm.Demo.deployment history.world
          Evm.Demo.operator 80 [Evm.Demo.event 1 900]) := by
    decide +kernel
  obtain ⟨⟨after, receipts⟩, batch⟩ := accepted
  obtain ⟨⟨world, logs⟩, played⟩ := settled
  obtain ⟨history, -, batched⟩ := (bind_eq_ok _ _ _).mp played
  exact ⟨⟨after, receipts, batch, solana _ _ _ _ _ _ batch⟩,
    history, world, logs, batched, evm _ _ _ _ _ _ batched⟩

/-! ## A refund without a breach -/

namespace V1.Demo

open Solana
open SettleBatch.Demo (addresses slot slug fixed agentAta)

def quiet : SettlementEvent := { (slot 1 1000 1200).event with breach := 0 }

def quietData : List UInt8 := SettleBatch.encodeEvents [quiet]

theorem quiet_accepted : (SettleBatch.process addresses SettleBatch.Demo.context funded.ledger
      batchAccounts quietData).toOption.map (fun final =>
        final.2.map fun receipt => (receipt.record.breach, receipt.record.actualRefundLamports)) =
    some [(0, 1200)] := by
  decide +kernel

theorem quiet_due : SettleBatch.delegateOk (funded.ledger agentAta).data fixed.settlementAuth
      quiet.premiumLamports = true ∧
    ((structAt EndpointConfig.layout funded.ledger (addresses.of (.endpointConfig slug))).map
      fun endpoint => endpoint.counters.remaining 100) = some 2000 := by
  decide +kernel

theorem quiet_refunded {ledger : Ledger}
    (preflight : SettleBatch.delegateOk (ledger agentAta).data fixed.settlementAuth
      quiet.premiumLamports = true)
    (window : ((structAt EndpointConfig.layout ledger
      (addresses.of (.endpointConfig slug))).map fun endpoint => endpoint.counters.remaining 100) =
        some 2000) :
    ¬EachTurn addresses SettleBatch.Demo.context ledger batchAccounts quietData
      fun _ event _ earlier later receipt =>
        BreachRefunded addresses SettleBatch.Demo.context.now event earlier later receipt := by
  rintro ⟨named, tail, bump, events, taken, -, parsed, each⟩
  have parses : SettleBatch.parseEvents quietData = .ok [quiet] :=
    SettleBatch.parseEvents_encodeEvents (by decide)
  obtain ⟨rfl, rfl⟩ := Prod.mk.inj (Except.ok.inj taken)
  obtain rfl := Except.ok.inj (parses.symm.trans parsed)
  obtain ⟨earlier, later, front, stepped, accounts, receipt, slot, appended, refunded⟩ :=
    each 0 Nat.zero_lt_one
  obtain rfl := Except.ok.inj front
  obtain ⟨accounts', receipt', _, _, _, _, _, _, slot', appended', -, effect⟩ :=
    SettleBatch.settleStep_spec stepped
  obtain ⟨rfl, -⟩ := Prod.mk.inj (Except.ok.inj (slot.symm.trans slot'))
  obtain ⟨rfl, -⟩ := List.cons.inj (List.append_cancel_left (appended.symm.trans appended'))
  have account : accounts.agentAta = agentAta :=
    (congrArg (fun taken => taken.1.agentAta) (Except.ok.inj slot)).symm
  have due := effect.breachRefunded_iff.mp refunded rfl
  unfold NothingDue at due
  rw [account] at due
  rcases due with stopped | none_ | full
  · exact Bool.false_ne_true (stopped.symm.trans preflight)
  · exact absurd (none_ : (1200 : UInt64) = 0) (by decide)
  · obtain ⟨endpoint, found, left_⟩ := Option.map_eq_some_iff.mp window
    have nothing : endpoint.counters.remaining 100 = 0 := full endpoint found
    omega

end V1.Demo

namespace Evm.Demo

def quiet : SettlementEvent := { event 1 900 with breach := false }

def funding : List (Address × UInt64 × Call) := transactions.take 2

theorem quiet_accepted : ((funding.foldlM (History.execute standard deployment) start).toOption.map
      fun history => decide (
        (PactSettler.settleBatch standard deployment history.world operator 80
          [quiet]).toOption.map (fun final =>
            final.2.map fun receipt => (receipt.log.breach, receipt.log.actualRefund)) =
          some [(false, 900)] ∧
        (standard.transferFrom history.world.token deployment.settler agent deployment.pool
          200).isSome = true ∧
        (history.world.registry.endpoints slug).counters.remaining 80 = 1500)) = some true := by
  decide +kernel

theorem quiet_refunded {world : World TokenState}
    (pulled : (standard.transferFrom world.token deployment.settler agent deployment.pool
      200).isSome = true)
    (window : (world.registry.endpoints slug).counters.remaining 80 = 1500) :
    ¬EachTurn standard deployment world 80 [quiet] (BreachRefunded 80) := by
  intro each
  obtain ⟨earlier, later, front, stepped, receipt, appended, refunded⟩ := each 0 Nat.zero_lt_one
  obtain rfl := Except.ok.inj front
  simp only [PactSettler.settleStep, bind_eq_ok, Prod.exists, Except.ok.injEq] at stepped
  obtain ⟨next, receipt', settled, rfl⟩ := stepped
  obtain ⟨rfl, -⟩ := List.cons.inj (List.append_cancel_left appended)
  rcases (breachRefunded_iff settled).mp refunded rfl with failed | none_ | full
  · exact absurd pulled (by rw [show standard.transferFrom world.token deployment.settler agent
      deployment.pool 200 = none from failed]; decide)
  · exact absurd (none_ : (900 : UInt64) = 0) (by decide)
  · have nothing : (world.registry.endpoints slug).counters.remaining 80 = 0 := full
    omega

end Evm.Demo

/-- In reachable states both chains pay the refund of a call that did not breach. -/
theorem refund_without_breach_fails :
    (V1.Chain.Reached V1.SettleBatch.Demo.addresses V1.Demo.funded ∧
      ∃ after receipts, V1.SettleBatch.process V1.SettleBatch.Demo.addresses
          V1.SettleBatch.Demo.context V1.Demo.funded.ledger V1.Demo.batchAccounts
          V1.Demo.quietData = .ok (after, receipts) ∧
        (receipts.map fun receipt => (receipt.record.breach,
          receipt.record.actualRefundLamports)) = [(0, 1200)] ∧
        ¬V1.EachTurn V1.SettleBatch.Demo.addresses V1.SettleBatch.Demo.context
          V1.Demo.funded.ledger V1.Demo.batchAccounts V1.Demo.quietData
          fun _ event _ earlier later receipt => V1.BreachRefunded V1.SettleBatch.Demo.addresses
            V1.SettleBatch.Demo.context.now event earlier later receipt) ∧
    ∃ history, Reachable (Evm.Deployed Evm.standard Evm.Demo.deployment)
        (Evm.Transaction Evm.standard Evm.Demo.deployment) history ∧
      ∃ after receipts, Evm.PactSettler.settleBatch Evm.standard Evm.Demo.deployment history.world
          Evm.Demo.operator 80 [Evm.Demo.quiet] = .ok (after, receipts) ∧
        (receipts.map fun receipt => (receipt.log.breach, receipt.log.actualRefund)) =
          [(false, 900)] ∧
        ¬Evm.EachTurn Evm.standard Evm.Demo.deployment history.world 80 [Evm.Demo.quiet]
          (Evm.BreachRefunded 80) := by
  constructor
  · obtain ⟨⟨after, receipts⟩, accepted, shown⟩ := Option.map_eq_some_iff.mp V1.Demo.quiet_accepted
    exact ⟨V1.Demo.funded_reached, after, receipts, toOption_eq_some.mp accepted, shown,
      V1.Demo.quiet_refunded V1.Demo.quiet_due.1 V1.Demo.quiet_due.2⟩
  · obtain ⟨history, executed, holds⟩ := Option.map_eq_some_iff.mp Evm.Demo.quiet_accepted
    obtain ⟨settled, pulled, window⟩ := of_decide_eq_true holds
    obtain ⟨⟨after, receipts⟩, accepted, shown⟩ := Option.map_eq_some_iff.mp settled
    exact ⟨history,
      Evm.History.reachable_of_run Evm.Demo.deployed_start (toOption_eq_some.mp executed),
      after, receipts, toOption_eq_some.mp accepted, shown,
      Evm.Demo.quiet_refunded pulled window⟩

end PactNetwork
