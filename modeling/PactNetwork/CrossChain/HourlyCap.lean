import PactNetwork.Evm.HourlyCap
import PactNetwork.V1.HourlyCap

/-!
# The hourly cap on both chains
-/

set_option autoImplicit false

namespace PactNetwork

/-- In every run of either chain whose clock does not go back, every endpoint's
refunds keep the promise of its hourly cap. -/
theorem refunds_capped {τ : Type} (usdc : Evm.Erc20 τ) (deployment : Evm.Deployment)
    (addresses : V1.Addresses) :
    (∀ state log, V1.Chain.Clocked addresses state log →
      ∀ slug, Settlement.Capped (V1.exposure addresses slug log)) ∧
    (∀ state log, Evm.World.Clocked usdc deployment state log →
      ∀ slug, Settlement.Capped (Evm.exposure slug log)) :=
  ⟨fun _ _ clocked => clocked.capped, fun _ _ clocked => clocked.capped⟩

/-! ## Two windows -/

namespace V1.Demo

open SettleBatch.Demo (addresses slot slug fixed)

def later : Instruction :=
  { instruction (fixed.toList ++ (slot 3 1000 800).accounts.toList)
      (10 :: SettleBatch.encodeEvents [(slot 3 1000 800).event]) with
    context := { SettleBatch.Demo.context with now := 4000 } }

def clocked : (Int × Chain) × List (List Receipt × Int × Chain) :=
  ([configure] ++ setup ++ [instruction batchAccounts (10 :: batchData), later]).foldl
    (Chain.tick addresses) ((0, genesis), [])

theorem clocked_runs : Chain.Clocked addresses clocked.1 clocked.2 := by
  refine @Chain.clocked_of_tick addresses ((0, genesis), []) (.start genesis_begins) _
    fun next member => ?_
  simp only [setup, later, List.cons_append, List.nil_append, List.mem_cons, List.not_mem_nil,
    or_false] at member
  rcases member with rfl | rfl | rfl | rfl | rfl | rfl | rfl <;> exact unsigned [] []

end V1.Demo

namespace Evm.Demo

def clocked : (Int × World TokenState) × List (List Receipt × Int × World TokenState) :=
  (transactions ++ [(operator, 4000, Call.settleBatch [event 4 100])]).foldl
    (World.tick standard deployment) ((0, start.world), [])

theorem clocked_runs : World.Clocked standard deployment clocked.1 clocked.2 := by
  have begun : World.Clocked standard deployment (0, start.world) [] := .start deployed_start
  exact @World.clocked_of_tick _ standard deployment ((0, start.world), []) begun _

end Evm.Demo

/-- Refunds are paid in two windows of an endpoint on each chain. -/
theorem refunds_capped_demo :
    ((V1.exposure V1.SettleBatch.Demo.addresses V1.SettleBatch.Demo.slug
        V1.Demo.clocked.2).map fun reading => (reading.start, reading.paid)) =
          [(4000, 800), (100, 1200), (100, 0), (100, 0)] ∧
      Settlement.Capped (V1.exposure V1.SettleBatch.Demo.addresses V1.SettleBatch.Demo.slug
        V1.Demo.clocked.2) ∧
      ((Evm.exposure Evm.Demo.slug Evm.Demo.clocked.2).map fun reading =>
        (reading.start, reading.paid)) = [(4000, 100), (60, 1500), (60, 0), (60, 0)] ∧
      Settlement.Capped (Evm.exposure Evm.Demo.slug Evm.Demo.clocked.2) := by
  obtain ⟨solana, evm⟩ := refunds_capped Evm.standard Evm.Demo.deployment
    V1.SettleBatch.Demo.addresses
  refine ⟨?_, solana _ _ V1.Demo.clocked_runs _, ?_, evm _ _ Evm.Demo.clocked_runs _⟩
  · decide +kernel
  · decide +kernel

end PactNetwork
