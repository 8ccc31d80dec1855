import Mathlib.Algebra.BigOperators.Group.Finset.Piecewise
import Mathlib.Algebra.Order.BigOperators.Group.Finset
import PactNetwork.V2.Guarantees

/-!
# Policy counts

A pool's `active_policies` is the number of its policies whose flag is 1, so no
decrement is clamped.
-/

set_option autoImplicit false

namespace PactNetwork.V2

open Solana

/-! ## Active policies by pool -/

theorem term_le_sum {ι : Type} [Fintype ι] (term : ι → Nat) (item : ι) :
    term item ≤ ∑ other, term other :=
  Finset.single_le_sum (fun _ _ => Nat.zero_le _) (Finset.mem_univ item)

def activeOf (pool : Address) : Option Policy → Nat
  | some policy => if policy.pool = pool ∧ policy.active = 1 then 1 else 0
  | none => 0

def Books.activeIn (books : Books) (pool : Address) : Nat :=
  ∑ account : Address, activeOf pool (books.policies account)

namespace Books

variable {books other : Books} {pool account : Address} {policy : Policy}

theorem activeIn_eq_card (books : Books) (pool : Address) :
    books.activeIn pool = (Finset.univ.filter fun account =>
      ∃ policy ∈ books.policies account, policy.pool = pool ∧ policy.active = 1).card := by
  rw [Finset.card_filter]
  refine Finset.sum_congr rfl fun account _ => ?_
  cases books.policies account with
  | none => simp [activeOf]
  | some policy => simp [activeOf]

theorem activeIn_update
    (changed : other.policies = Function.update books.policies account (some policy))
    (pool : Address) :
    other.activeIn pool + activeOf pool (books.policies account) =
      books.activeIn pool + activeOf pool (some policy) :=
  sum_update (activeOf pool) changed

theorem activeOf_of_ne (different : pool ≠ policy.pool) : activeOf pool (some policy) = 0 := by
  rw [activeOf, if_neg]
  rintro ⟨rfl, -⟩
  exact different rfl

theorem activeIn_of_ne {owner : Address}
    (changed : other.policies = Function.update books.policies account (some policy))
    (before : ∀ stored, books.policies account = some stored → stored.pool = owner)
    (after : policy.pool = owner) (different : pool ≠ owner) :
    other.activeIn pool = books.activeIn pool := by
  have sums := activeIn_update changed pool
  have added : activeOf pool (some policy) = 0 := activeOf_of_ne (after ▸ different)
  have removed : activeOf pool (books.policies account) = 0 := by
    cases found : books.policies account with
    | none => rfl
    | some stored => exact activeOf_of_ne (before stored found ▸ different)
  omega

theorem activeIn_pos (stored : books.policies account = some policy) (member : policy.pool = pool)
    (active : policy.active = 1) : 0 < books.activeIn pool := by
  have bound : activeOf pool (books.policies account) ≤ books.activeIn pool :=
    term_le_sum (fun address => activeOf pool (books.policies address)) account
  rw [stored, activeOf, if_pos ⟨member, active⟩] at bound
  exact bound

end Books

/-! ## The invariant -/

structure Counted (books : Books) : Prop where
  flags : ∀ account policy, books.policies account = some policy →
    policy.active = 0 ∨ policy.active = 1
  members : ∀ account policy, books.policies account = some policy →
    ∃ pool, books.pools policy.pool = some pool
  counts : ∀ account pool, books.pools account = some pool →
    pool.activePolicies.toNat = books.activeIn account

namespace Counted

variable {books books' : Books}

theorem activeIn_eq_zero (counted : Counted books) {account : Address}
    (vacant : books.pools account = none) : books.activeIn account = 0 := by
  refine Finset.sum_eq_zero fun address _ => ?_
  cases found : books.policies address with
  | none => rfl
  | some policy =>
      obtain ⟨pool, stored⟩ := counted.members address policy found
      refine Books.activeOf_of_ne ?_
      rintro rfl
      cases vacant.symm.trans stored

theorem pools_update {account owner : Address} {pool' : CoveragePool}
    (pools : books'.pools = Function.update books.pools account (some pool'))
    (stored : ∃ pool, books.pools owner = some pool) : ∃ pool, books'.pools owner = some pool := by
  rw [pools]
  by_cases same : owner = account
  · exact ⟨pool', by rw [same, Function.update_self]⟩
  · rwa [Function.update_of_ne same]

theorem changePool (counted : Counted books) {account : Address} {pool' : CoveragePool}
    (pools : books'.pools = Function.update books.pools account (some pool'))
    (policies : books'.policies = books.policies)
    (counts : pool'.activePolicies.toNat = books.activeIn account) : Counted books' where
  flags address policy found := counted.flags address policy (policies ▸ found)
  members address policy found :=
    pools_update pools (counted.members address policy (policies ▸ found))
  counts owner pool stored := by
    have sum : books'.activeIn owner = books.activeIn owner := by
      rw [Books.activeIn, Books.activeIn, policies]
    rw [sum]
    by_cases same : owner = account
    · rw [same, pools, Function.update_self] at stored
      cases stored
      rw [same, counts]
    · rw [pools, Function.update_of_ne same] at stored
      exact counted.counts owner pool stored

theorem changePolicy (counted : Counted books) {account address : Address}
    {pool pool' : CoveragePool} {policy' : Policy}
    (pools : books'.pools = Function.update books.pools account (some pool'))
    (policies : books'.policies = Function.update books.policies address (some policy'))
    (stored : books.pools account = some pool)
    (before : ∀ policy, books.policies address = some policy → policy.pool = account)
    (member : policy'.pool = account) (flag : policy'.active = 0 ∨ policy'.active = 1)
    (counts : pool'.activePolicies.toNat + activeOf account (books.policies address) =
      pool.activePolicies.toNat + activeOf account (some policy')) : Counted books' where
  flags other policy found := by
    by_cases same : other = address
    · rw [same, policies, Function.update_self] at found
      cases found
      exact flag
    · rw [policies, Function.update_of_ne same] at found
      exact counted.flags other policy found
  members other policy found := by
    by_cases same : other = address
    · rw [same, policies, Function.update_self] at found
      cases found
      exact ⟨pool', by rw [member, pools, Function.update_self]⟩
    · rw [policies, Function.update_of_ne same] at found
      exact pools_update pools (counted.members other policy found)
  counts owner other found := by
    by_cases same : owner = account
    · subst same
      rw [pools, Function.update_self] at found
      cases found
      have change := Books.activeIn_update policies owner
      have own := counted.counts owner pool stored
      omega
    · rw [pools, Function.update_of_ne same] at found
      rw [Books.activeIn_of_ne policies before member same]
      exact counted.counts owner other found

end Counted

theorem Counted.uncountPolicy {books : Books} (counted : Counted books) {account address : Address}
    {pool : CoveragePool} {policy : Policy} (stored : books.pools account = some pool)
    (insured : books.policies address = some policy) (member : policy.pool = account)
    (active : policy.active ≠ 0) :
    (DisablePolicy.uncountPolicy pool).activePolicies.toNat + 1 = pool.activePolicies.toNat := by
  have flag := (counted.flags address policy insured).resolve_left active
  have positive := Books.activeIn_pos insured member flag
  rw [← counted.counts account pool stored] at positive
  have nonzero : pool.activePolicies ≠ 0 := by
    intro zero
    rw [zero] at positive
    exact absurd positive (by decide)
  rw [DisablePolicy.uncountPolicy, if_neg nonzero]
  have bound := pool.activePolicies.toNat_lt
  show (pool.activePolicies - 1).toNat + 1 = _
  rw [UInt32.toNat_sub_of_le]
  · show pool.activePolicies.toNat - 1 + 1 = _
    omega
  · rw [UInt32.le_iff_toNat_le]
    exact positive

/-! ## Each step keeps the counts -/

section Steps

variable {crypto : Crypto} {now : Int64} {books books' : Books}
  {label : Option SubmitClaim.Payout}

theorem Step.counted (step : Step crypto now books label books') (counted : Counted books) :
    Counted books' := by
  cases step with
  | initializeProtocol => exact ⟨counted.flags, counted.members, counted.counts⟩
  | updateConfig => exact ⟨counted.flags, counted.members, counted.counts⟩
  | updateOracle => exact ⟨counted.flags, counted.members, counted.counts⟩
  | createPool _ _ _ _ vacant _ _ _ =>
      exact counted.changePool rfl rfl (counted.activeIn_eq_zero vacant).symm
  | updateRates stored _ _ =>
      have counts := counted.counts _ _ stored
      exact counted.changePool rfl rfl counts
  | deposit _ _ stored _ _ _ _ _ _ poolCredited _ =>
      obtain ⟨_, _, -, -, rfl⟩ := Deposit.creditPool_eq_ok.mp poolCredited
      have counts := counted.counts _ _ stored
      exact counted.changePool rfl rfl counts
  | withdraw stored _ _ _ _ _ _ _ poolDebited _ =>
      obtain ⟨_, _, -, -, rfl⟩ := Withdraw.debitPool_eq_ok.mp poolDebited
      have counts := counted.counts _ _ stored
      exact counted.changePool rfl rfl counts
  | @enableInsurance accounts _ pool _ _ _ _ stored _ vacant _ poolCounted =>
      obtain ⟨bound, rfl⟩ := EnableInsurance.countPolicy_eq_ok.mp poolCounted
      refine counted.changePolicy rfl rfl stored ?_ rfl (.inr rfl) ?_
      · intro policy found
        cases vacant.symm.trans found
      · rw [vacant, activeOf, activeOf, if_pos ⟨rfl, rfl⟩]
        show (pool.activePolicies + 1).toNat + 0 = pool.activePolicies.toNat + 1
        rw [UInt32.toNat_add]
        exact Nat.mod_eq_of_lt bound
  | @disablePolicy account address pool policy stored insured member active =>
      refine counted.changePolicy rfl rfl stored ?_ member (.inl rfl) ?_
      · intro other found
        cases insured.symm.trans found
        exact member
      · have flag := (counted.flags _ _ insured).resolve_left active
        have after : activeOf account (some { policy with active := 0 }) = 0 :=
          if_neg fun ⟨_, one⟩ => UInt8.zero_ne_one one
        rw [insured, after, activeOf, if_pos ⟨member, flag⟩]
        exact counted.uncountPolicy stored insured member active
  | settlePremium stored insured member _ _ _ _ policyCharged poolCredited _ =>
      obtain ⟨_, -, rfl⟩ := SettlePremium.chargePolicy_eq_ok.mp policyCharged
      obtain ⟨_, _, -, -, rfl⟩ := SettlePremium.creditPool_eq_ok.mp poolCredited
      have flag := counted.flags _ _ insured
      refine counted.changePolicy rfl rfl stored ?_ member flag ?_
      · intro other found
        cases insured.symm.trans found
        exact member
      · rw [insured]
        rfl
  | submitClaim stored insured member _ _ _ poolDebited policyCharged _ =>
      obtain ⟨_, _, -, -, rfl⟩ := SubmitClaim.payPolicy_eq_ok.mp policyCharged
      obtain ⟨_, _, _, -, -, -, rfl⟩ := SubmitClaim.payPool_eq_ok.mp poolDebited
      have flag := counted.flags _ _ insured
      refine counted.changePolicy rfl rfl stored ?_ member flag ?_
      · intro other found
        cases insured.symm.trans found
        exact member
      · rw [insured]
        rfl
  | outside => exact ⟨counted.flags, counted.members, counted.counts⟩

end Steps

/-! ## Reachable chains keep the counts -/

section Chain

variable {crypto : Crypto} {chain : Chain}

theorem Chain.Reached.counted (reached : Chain.Reached crypto chain) :
    Counted (booksOf chain.ledger) := by
  refine reached.books Counted ?_ fun _ _ _ _ counted step => step.counted counted
  intro first genesis
  refine ⟨?_, ?_, ?_⟩
  · intro account policy found
    cases (genesis.no_record (by decide) account).symm.trans found
  · intro account policy found
    cases (genesis.no_record (by decide) account).symm.trans found
  · intro account pool found
    cases (genesis.no_record (by decide) account).symm.trans found

/-- Every pool counts its policies whose flag is 1, and an accepted
`disable_policy` takes exactly one off. -/
theorem active_policies_exact (reached : Chain.Reached crypto chain) {account : Address}
    {pool : CoveragePool} (stored : recordAt CoveragePool chain.ledger account = some pool) :
    pool.activePolicies.toNat = (Finset.univ.filter fun address =>
      ∃ policy ∈ recordAt Policy chain.ledger address,
        policy.pool = account ∧ policy.active = 1).card ∧
    ∀ context rest data result, DisablePolicy.process context chain.ledger (account :: rest) data =
      .ok result → ∃ pool', recordAt CoveragePool result account = some pool' ∧
        pool'.activePolicies.toNat + 1 = pool.activePolicies.toNat := by
  have counted := reached.counted
  refine ⟨(counted.counts account pool stored).trans (Books.activeIn_eq_card _ account), ?_⟩
  intro context rest data result accepted
  obtain ⟨_, policyAccount, agent, others, found, policy, listed, held, insured, member, active, -,
    books⟩ := @DisablePolicy.process_spec crypto _ _ _ _ _ accepted
  cases listed
  cases stored.symm.trans held
  refine ⟨DisablePolicy.uncountPolicy pool, ?_, counted.uncountPolicy stored insured member active⟩
  exact (congrFun (congrArg Books.pools books) account).trans (Function.update_self _ _ _)

/-- One agent is insured, and disables its policy. -/
theorem active_policies_exact_demo : ∃ pool pool' result,
    recordAt CoveragePool Demo.insured.ledger (Demo.key 101) = some pool ∧
    pool.activePolicies = 1 ∧ (Finset.univ.filter fun address =>
      ∃ policy ∈ recordAt Policy Demo.insured.ledger address,
        policy.pool = Demo.key 101 ∧ policy.active = 1).card = 1 ∧
    DisablePolicy.process (Demo.context Demo.agent 5) Demo.insured.ledger
      [Demo.key 101, Demo.key 104, Demo.agent] [] = .ok result ∧
    recordAt CoveragePool result (Demo.key 101) = some pool' ∧ pool'.activePolicies = 0 := by
  have before : (recordAt CoveragePool Demo.insured.ledger (Demo.key 101)).map
      CoveragePool.activePolicies = some 1 := by decide +kernel
  obtain ⟨pool, found, one⟩ := Option.map_eq_some_iff.mp before
  obtain ⟨counts, disables⟩ := active_policies_exact Demo.insured_reached found
  have accepted : (DisablePolicy.process (Demo.context Demo.agent 5) Demo.insured.ledger
      [Demo.key 101, Demo.key 104, Demo.agent] []).isOk = true := by decide +kernel
  cases processed : DisablePolicy.process (Demo.context Demo.agent 5) Demo.insured.ledger
      [Demo.key 101, Demo.key 104, Demo.agent] [] with
  | error _ =>
      rw [processed] at accepted
      cases accepted
  | ok result =>
      obtain ⟨pool', found', less⟩ := disables _ _ _ result processed
      rw [one] at counts less
      refine ⟨pool, pool', result, found, one, counts.symm, rfl, found', ?_⟩
      exact UInt32.toNat_inj.mp (Nat.succ.inj less)

end Chain

end PactNetwork.V2
