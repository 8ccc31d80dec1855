import PactNetwork.Evm.CallIds
import PactNetwork.V1.CallIds

/-!
# A call id settles once

On both chains the premium of a call is collected at most once and its refund
paid at most once, in any run, and a rejected batch uses up no call id.
-/

set_option autoImplicit false

namespace PactNetwork

theorem length_filter_le_one {α κ : Type} [DecidableEq κ] {entries : List α} (key : α → κ)
    (unique : (entries.map key).Nodup) (wanted : κ) (keep : α → Bool) :
    (entries.filter fun entry => decide (key entry = wanted) && keep entry).length ≤ 1 := by
  induction entries with
  | nil => exact Nat.zero_le 1
  | cons entry rest ih =>
      rw [List.map_cons, List.nodup_cons] at unique
      rw [List.filter_cons]
      split
      case isTrue kept =>
        have same := of_decide_eq_true ((Bool.and_eq_true _ _).mp kept).1
        have none_ : rest.filter (fun entry => decide (key entry = wanted) && keep entry) = [] := by
          rw [List.filter_eq_nil_iff]
          intro other member again
          have equal := of_decide_eq_true ((Bool.and_eq_true _ _).mp again).1
          exact unique.1 (same ▸ equal ▸ List.mem_map_of_mem member)
        rw [none_]
        exact Nat.le_refl 1
      case isFalse => exact ih unique.2

/-! ## V1 -/

namespace V1

def premiumsCollected (receipts : List Receipt) (id : CallId) : List UInt64 :=
  (receipts.filter fun receipt => decide (receipt.record.callId = id) &&
    decide (receipt.record.settlementStatus ≠ SettlementStatus.delegateFailed.toU8)).map
      fun receipt => receipt.record.premiumLamports

def refundsPaid (receipts : List Receipt) (id : CallId) : List UInt64 :=
  (receipts.filter fun receipt => decide (receipt.record.callId = id) &&
    decide (receipt.record.actualRefundLamports ≠ 0)).map
      fun receipt => receipt.record.actualRefundLamports

def Free (addresses : Addresses) (chain : Chain) (id : CallId) : Prop :=
  chain.ledger (addresses.of (.callRecord id)) = Solana.Account.absent

theorem settled_once {addresses : Addresses} {chain : Chain}
    {log : List (List Receipt × Chain)} (logged : Chain.Logged addresses chain log) (id : CallId) :
    (premiumsCollected (log.reverse.flatMap Prod.fst) id).length ≤ 1 ∧
      (refundsPaid (log.reverse.flatMap Prod.fst) id).length ≤ 1 := by
  have unique : ((log.reverse.flatMap Prod.fst).map fun receipt : Receipt =>
      receipt.record.callId).Nodup := by
    rw [List.map_flatMap]
    exact callIds_nodup logged
  rw [premiumsCollected, refundsPaid, List.length_map, List.length_map]
  exact ⟨length_filter_le_one _ unique id _, length_filter_le_one _ unique id _⟩

end V1

/-! ## EVM -/

namespace Evm

def premiumsCollected (receipts : List Receipt) (id : CallId) : List UInt64 :=
  (receipts.filter fun receipt => decide (receipt.log.callId = id) &&
    decide (receipt.log.status ≠ .delegateFailed)).map fun receipt => receipt.log.premium

def refundsPaid (receipts : List Receipt) (id : CallId) : List UInt64 :=
  (receipts.filter fun receipt => decide (receipt.log.callId = id) &&
    decide (receipt.log.actualRefund ≠ 0)).map fun receipt => receipt.log.actualRefund

def Free {τ : Type} (world : World τ) (id : CallId) : Prop :=
  world.settler.settledCallIds id = false

def World.transact {τ : Type} (usdc : Erc20 τ) (deployment : Deployment) (world : World τ)
    (sender : Address) (timestamp : UInt64) (call : Call) : World τ :=
  match execute usdc deployment world sender timestamp call with
  | .ok (after, _) => after
  | .error _ => world

theorem settled_once {τ : Type} {usdc : Erc20 τ} {deployment : Deployment} {world : World τ}
    {log : List (List Receipt × World τ)}
    (logged : World.Logged usdc deployment world log) (id : CallId) :
    (premiumsCollected (log.reverse.flatMap Prod.fst) id).length ≤ 1 ∧
      (refundsPaid (log.reverse.flatMap Prod.fst) id).length ≤ 1 := by
  have unique : ((log.reverse.flatMap Prod.fst).map fun receipt : Receipt =>
      receipt.log.callId).Nodup := by
    rw [List.map_flatMap]
    exact callIds_nodup logged
  rw [premiumsCollected, refundsPaid, List.length_map, List.length_map]
  exact ⟨length_filter_le_one _ unique id _, length_filter_le_one _ unique id _⟩

end Evm

/-- In every run on either chain a call id has its premium collected at most
once and a refund paid at most once, and a rejected batch leaves every call id
that was free as free as before. -/
theorem call_ids_settle_once {τ : Type} (usdc : Evm.Erc20 τ) (deployment : Evm.Deployment)
    (addresses : V1.Addresses) :
    (∀ chain log, V1.Chain.Logged addresses chain log →
      (∀ id, (V1.premiumsCollected (log.reverse.flatMap Prod.fst) id).length ≤ 1 ∧
        (V1.refundsPaid (log.reverse.flatMap Prod.fst) id).length ≤ 1) ∧
      ∀ instruction error,
        V1.processInstruction addresses chain.ledger instruction = .error error →
          ∀ id, V1.Free addresses chain id →
            V1.Free addresses (chain.execute addresses instruction) id) ∧
    (∀ world log, Evm.World.Logged usdc deployment world log →
      (∀ id, (Evm.premiumsCollected (log.reverse.flatMap Prod.fst) id).length ≤ 1 ∧
        (Evm.refundsPaid (log.reverse.flatMap Prod.fst) id).length ≤ 1) ∧
      ∀ sender timestamp events error,
        Evm.execute usdc deployment world sender timestamp (.settleBatch events) =
          .error error →
          ∀ id, Evm.Free world id → Evm.Free
            (world.transact usdc deployment sender timestamp (.settleBatch events)) id) := by
  constructor
  · intro chain log logged
    refine ⟨V1.settled_once logged, fun instruction error rejected id free => ?_⟩
    rw [V1.Chain.execute, rejected]
    exact free
  · intro world log logged
    refine ⟨Evm.settled_once logged, fun sender timestamp events error rejected id free => ?_⟩
    rw [Evm.World.transact, rejected]
    exact free

/-! ## Replays -/

namespace V1.Demo

open SettleBatch.Demo (addresses slot fixed)

def replay : Instruction :=
  instruction (fixed.toList ++ (slot 2 1000 1200).accounts.toList ++
      (slot 1 1000 1200).accounts.toList)
    (10 :: SettleBatch.encodeEvents [(slot 2 1000 1200).event, (slot 1 1000 1200).event])

def replayed : Chain × List (List Receipt × Chain) :=
  ([configure] ++ setup ++ [instruction batchAccounts (10 :: batchData), replay]).foldl
    (Chain.record addresses) (genesis, [])

theorem replayed_logged : Chain.Logged addresses replayed.1 replayed.2 := by
  refine @Chain.logged_of_record addresses (genesis, []) (.start genesis_begins) _
    fun next member => ?_
  simp only [setup, replay, List.cons_append, List.nil_append, List.mem_cons, List.not_mem_nil,
    or_false] at member
  rcases member with rfl | rfl | rfl | rfl | rfl | rfl | rfl <;> exact unsigned _ _

end V1.Demo

namespace Evm.Demo

def replay : List SettlementEvent := [event 4 100, event 1 100]

def logged : Except EvmError (World TokenState × List (List Receipt × World TokenState)) :=
  transactions.foldlM (World.record standard deployment) (start.world, [])

end Evm.Demo

/-- Replays on both chains are rejected and leave the new call of their batch
free; the settled call was paid for once. -/
theorem call_ids_settle_once_replayed :
    (V1.premiumsCollected (V1.Demo.replayed.2.reverse.flatMap Prod.fst)
        (V1.SettleBatch.Demo.named 16 1)).length ≤ 1 ∧
      V1.Free V1.SettleBatch.Demo.addresses
        (V1.Demo.replayed.1.execute V1.SettleBatch.Demo.addresses V1.Demo.replay)
        (V1.SettleBatch.Demo.named 16 2) ∧
      ∃ world log, Evm.World.Logged Evm.standard Evm.Demo.deployment world log ∧
        (Evm.refundsPaid (log.reverse.flatMap Prod.fst) (Evm.Demo.named 16 1)).length ≤ 1 ∧
        Evm.Free (world.transact Evm.standard Evm.Demo.deployment Evm.Demo.operator 90
          (.settleBatch Evm.Demo.replay)) (Evm.Demo.named 16 4) := by
  have rejected : ¬accepts (V1.processInstruction V1.SettleBatch.Demo.addresses
      V1.Demo.replayed.1.ledger V1.Demo.replay) := by
    decide +kernel
  have free : V1.Free V1.SettleBatch.Demo.addresses V1.Demo.replayed.1
      (V1.SettleBatch.Demo.named 16 2) := by
    unfold V1.Free
    decide +kernel
  have played : (Evm.Demo.logged.toOption.any fun final =>
      decide (¬accepts (Evm.execute Evm.standard Evm.Demo.deployment final.1 Evm.Demo.operator 90
        (.settleBatch Evm.Demo.replay)) ∧
          final.1.settler.settledCallIds (Evm.Demo.named 16 4) = false)) = true := by
    decide +kernel
  obtain ⟨final, executed, holds⟩ := (Option.any_eq_true _ _).mp played
  obtain ⟨reverted, unsettled⟩ := of_decide_eq_true holds
  obtain ⟨solana, evm⟩ := call_ids_settle_once Evm.standard Evm.Demo.deployment
    V1.SettleBatch.Demo.addresses
  have begun : Evm.World.Logged Evm.standard Evm.Demo.deployment Evm.Demo.start.world [] :=
    .start Evm.Demo.deployed_start
  have logged := Evm.World.logged_of_record begun (toOption_eq_some.mp executed)
  obtain ⟨once, unused⟩ := solana _ _ V1.Demo.replayed_logged
  obtain ⟨onceEvm, unusedEvm⟩ := evm _ _ logged
  obtain ⟨error, failed⟩ := error_of_not_accepts rejected
  obtain ⟨reason, refused⟩ := error_of_not_accepts reverted
  exact ⟨(once _).1, unused _ error failed _ free, final.1, final.2, logged, (onceEvm _).2,
    unusedEvm _ _ _ reason refused _ unsettled⟩

end PactNetwork
