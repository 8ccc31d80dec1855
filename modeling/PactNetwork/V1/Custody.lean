import PactNetwork.Solana.Holdings
import PactNetwork.V1.Confinement
import PactNetwork.V1.Isolation

/-!
# What an approval can cost

An agent stays the owner of its token account and approves a delegate on it. As long as the
owner signs nothing, no run of the program takes more from the account than it uses up of
the approval.
-/

set_option autoImplicit false

namespace PactNetwork.Solana

/-! ## Spending on approval -/

namespace TokenAccount

def approved (token : TokenAccount) : Nat :=
  if token.delegateTag = 1 then token.delegatedAmount.toNat else 0

/-- The account later: what it lost was approved, and is no longer. -/
structure Spent (before after : TokenAccount) : Prop where
  holder : after.SameHolder before
  approved : after.approved ≤ before.approved
  loss : before.amount.toNat + after.approved ≤ after.amount.toNat + before.approved

variable {first second third : TokenAccount}

theorem Spent.refl (token : TokenAccount) : token.Spent token := ⟨rfl, le_rfl, le_rfl⟩

theorem Spent.trans (left : first.Spent second) (right : second.Spent third) :
    first.Spent third where
  holder := right.holder.trans left.holder
  approved := right.approved.trans left.approved
  loss := by
    have earlier := left.loss
    have later := right.loss
    omega

theorem Spent.owner (spent : first.Spent second) : second.owner = first.owner := by
  rw [spent.holder]

theorem approved_eq (tag : first.delegateTag = second.delegateTag)
    (allowed : first.delegatedAmount = second.delegatedAmount) :
    first.approved = second.approved := by
  simp only [approved, tag, allowed]

theorem Spent.of_delegate {token spent : TokenAccount} {authority : Address} {amount : UInt64}
    (spends : token.spend authority amount = .ok spent) (foreign : authority ≠ token.owner)
    (funds : amount.toNat ≤ token.amount.toNat) :
    token.Spent { spent with amount := token.amount - amount } := by
  cases spend_eq_ok.mp spends with
  | inr owned => exact absurd owned.2.1.symm foreign
  | inl drawn =>
      obtain ⟨tag, -, allowed, rfl⟩ := drawn
      have left : (token.delegatedAmount - amount).toNat =
          token.delegatedAmount.toNat - amount.toNat :=
        UInt64.toNat_sub_of_le _ _ (UInt64.le_iff_toNat_le.mpr allowed)
      have kept : (token.amount - amount).toNat = token.amount.toNat - amount.toNat :=
        UInt64.toNat_sub_of_le _ _ (UInt64.le_iff_toNat_le.mpr funds)
      have before : token.approved = token.delegatedAmount.toNat := if_pos tag
      have after : ∀ changed : TokenAccount,
          changed.delegatedAmount = token.delegatedAmount - amount →
          changed.approved ≤ token.delegatedAmount.toNat - amount.toNat := by
        intro changed same
        simp only [TokenAccount.approved, same, left]
        split
        case isTrue => exact le_rfl
        case isFalse => exact Nat.zero_le _
      refine ⟨rfl, ?_, ?_⟩
      · rw [before]
        exact (after _ rfl).trans (Nat.sub_le _ _)
      · have rest := after { token with
            delegatedAmount := token.delegatedAmount - amount
            delegateTag := if token.delegatedAmount - amount = 0 then 0 else token.delegateTag
            amount := token.amount - amount } rfl
        dsimp only at rest ⊢
        omega

end TokenAccount

namespace TokenLedger

variable {before after : TokenLedger} {payment : Payment} {address : Address}
  {token : TokenAccount}

theorem Pays.spends (paid : Pays before payment after) (found : before address = some token)
    (foreign : payment.authority ≠ token.owner) :
    ∃ token', after address = some token' ∧ token.Spent token' := by
  by_cases charged : address = payment.source ∧ payment.source ≠ payment.destination
  case pos =>
    obtain ⟨rfl, apart⟩ := charged
    obtain ⟨_, spent, found', funds, spends, stays⟩ := paid.spent apart
    cases found.symm.trans found'
    exact ⟨_, stays, .of_delegate spends foreign funds⟩
  case neg =>
    obtain ⟨token', stays, moved⟩ := paid.moved address found
    have same : token'.approved = token.approved := by
      cases moved.delegation with
      | inl same => exact TokenAccount.approved_eq same.1 same.2
      | inr drawn => exact absurd ⟨drawn.1, drawn.2.1⟩ charged
    refine ⟨token', stays, moved.holder, same.le, ?_⟩
    have balance := moved.balance
    -- Either nothing is taken from the account, or it pays itself.
    by_cases source : address = payment.source
    · have itself : address = payment.destination := by
        by_contra other
        exact charged ⟨source, fun equal => other (source.trans equal)⟩
      rw [if_pos source, if_pos itself] at balance
      omega
    · rw [if_neg source] at balance
      omega

end TokenLedger

end PactNetwork.Solana

namespace PactNetwork.V1

open Solana

/-! ## One instruction -/

section Steps

variable {tokens tokens' : TokenLedger} {address owner : Address} {token : TokenAccount}

theorem TokenStep.spends (step : TokenStep (· ≠ owner) tokens tokens')
    (found : tokens address = some token) (owned : token.owner = owner) :
    ∃ token', tokens' address = some token' ∧ token.Spent token' := by
  cases step with
  | @opened vault opened fresh =>
      have other : address ≠ vault := by
        rintro rfl
        rw [fresh] at found
        cases found
      exact ⟨token, by rw [Function.update_of_ne other, found], .refl token⟩
  | paid paid authorized => exact paid.spends found (owned ▸ authorized)

theorem TokenStep.run_spends (run : Relation.ReflTransGen (TokenStep (· ≠ owner)) tokens tokens')
    (found : tokens address = some token) (owned : token.owner = owner) :
    ∃ token', tokens' address = some token' ∧ token.Spent token' := by
  induction run with
  | refl => exact ⟨token, found, .refl token⟩
  | tail _ step ih =>
      obtain ⟨middle, stays, spent⟩ := ih
      obtain ⟨token', last, more⟩ := step.spends stays (spent.owner.trans owned)
      exact ⟨token', last, spent.trans more⟩

end Steps

section Instruction

variable {addresses : Addresses} {context : Context} {ledger result : Ledger}
  {accounts : List Address} {data : List UInt8} {owner : Address}

theorem TopUpCoveragePool.tokens (shaped : Shaped addresses ledger)
    (absent : context.signer owner = false)
    (accepted : TopUpCoveragePool.process addresses context ledger accounts data = .ok result) :
    Relation.ReflTransGen (TokenStep (· ≠ owner)) (tokenAt ledger) (tokenAt result) := by
  unfold TopUpCoveragePool.process at accepted
  split at accepted
  case h_1 authority pool authorityAta poolVault tokenProgram rest =>
    simp only [bind_eq_ok, failIf_eq_ok, exists_const, okOr_eq_ok, ne_eq, not_not, borrow]
      at accepted
    obtain ⟨-, -, signed, -, rfl, state, found, -, vault, moved, transferred, stored, again,
      state', deposited, saved⟩ := accepted
    obtain ⟨paid, kept⟩ := transfer_spec transferred
    have shaped' : Shaped addresses moved :=
      shaped.congr (fun _ => kept.owner _) fun _ => kept.length _
    obtain ⟨-, books⟩ := save_spec (fun _ => 0) shaped' again saved
    have tokens : tokenAt result = tokenAt moved := congrArg Books.tokens books
    rw [tokens]
    refine .single (.paid paid ?_)
    rintro rfl
    exact signed absent
  case h_2 => cases accepted

namespace SettleBatch

variable {fixed : FixedAccounts} {event : SettlementEvent} {named : EventAccounts}
  {pool pool' : CoveragePool} {endpoint endpoint' : EndpointConfig} {status : SettlementStatus}
  {actual : UInt64} {receipt : Receipt}

theorem Effect.tokens (keyed : ∀ pda, owner ≠ addresses.of pda)
    (authority : fixed.settlementAuth = addresses.of .settlementAuthority)
    (effect : Effect addresses context fixed event named pool pool' endpoint endpoint' ledger
      result status actual receipt) :
    Relation.ReflTransGen (TokenStep (· ≠ owner)) (tokenAt ledger) (tokenAt result) := by
  have poolKey : named.coveragePool ≠ owner := by
    rw [effect.bound.coveragePool]
    exact (keyed _).symm
  have authorityKey : fixed.settlementAuth ≠ owner := by
    rw [authority]
    exact (keyed _).symm
  cases effect.outcome with
  | inl failed =>
      obtain ⟨-, -, -, -, -, -, tokens, -⟩ := failed
      rw [tokens]
  | inr covered =>
      obtain ⟨-, -, -, outcome, settled⟩ := covered
      obtain ⟨credited, spread, premium, fees, refund⟩ := settled.tokens
      have first : TokenStep (· ≠ owner) (tokenAt ledger) credited := .paid premium authorityKey
      have next : Relation.ReflTransGen (TokenStep (· ≠ owner)) credited spread := by
        refine TokenStep.of_paysAll fees fun payment member => ?_
        obtain ⟨payout, -, rfl⟩ := List.mem_map.mp member
        exact poolKey
      cases refund with
      | inl nothing =>
          rw [nothing.2]
          exact .head first next
      | inr paid => exact .head first (next.tail (.paid paid poolKey))

theorem process_tokens {receipts : List Receipt} (keyed : ∀ pda, owner ≠ addresses.of pda)
    (accepted : process addresses context ledger accounts data = .ok (result, receipts)) :
    Relation.ReflTransGen (TokenStep (· ≠ owner)) (tokenAt ledger) (tokenAt result) := by
  obtain ⟨fixed, rest, bump, events, -, checked, -, progress, loop, rfl, -⟩ :=
    process_eq_ok accepted
  refine foldlM_invariant (fun progress : Progress => Relation.ReflTransGen
    (TokenStep (· ≠ owner)) (tokenAt ledger) (tokenAt progress.ledger)) loop .refl ?_
  intro earlier event later _ sofar stepped
  obtain ⟨_, _, _, _, _, _, _, _, -, -, -, effect⟩ := settleStep_spec stepped
  exact sofar.trans (effect.tokens keyed (checkFixed_spec checked).2.1.1)

end SettleBatch

end Instruction

section Chain

variable {addresses : Addresses} {chain later : Chain} {address owner : Address}
  {token : TokenAccount}

theorem processInstruction_tokens {instruction : Instruction} {ledger : Ledger}
    {receipts : List Receipt} (sound : Chain.Sound addresses chain)
    (keyed : ∀ pda, owner ≠ addresses.of pda)
    (unsigned : ∀ pda, instruction.context.signer (addresses.of pda) = false)
    (absent : instruction.context.signer owner = false)
    (processed : processInstruction addresses chain.ledger instruction = .ok (ledger, receipts)) :
    Relation.ReflTransGen (TokenStep (· ≠ owner)) (tokenAt chain.ledger) (tokenAt ledger) := by
  have shaped := sound.shaped
  have first : structOf addresses chain.ledger .protocolConfig = none → True := fun _ => trivial
  have signs : Authorized addresses instruction.context chain.ledger → True := fun _ => trivial
  obtain ⟨context, accounts, data⟩ := instruction
  cases data with
  | nil => cases processed
  | cons tag data =>
      rw [processInstruction, bind_eq_ok] at processed
      obtain ⟨discriminator, -, accepted⟩ := processed
      have plain : ∀ {outcome : Except ProgramError Ledger},
          outcome.map (·, ([] : List Receipt)) = .ok (ledger, receipts) →
            outcome = .ok ledger := by
        intro outcome mapped
        cases outcome with
        | error => cases mapped
        | ok => cases mapped; rfl
      cases discriminator with
      | settleBatch => exact SettleBatch.process_tokens keyed accepted
      | topUpCoveragePool => exact TopUpCoveragePool.tokens shaped absent (plain accepted)
      | initializeSettlementAuthority =>
          exact (InitializeSettlementAuthority.confined chain.fees shaped signs
            (plain accepted)).tokens
      | registerEndpoint =>
          exact (RegisterEndpoint.confined chain.fees shaped signs sound.books.fees
            (plain accepted)).tokens
      | updateEndpointConfig =>
          exact (UpdateEndpointConfig.confined chain.fees shaped signs (plain accepted)).tokens
      | pauseEndpoint =>
          exact (PauseEndpoint.confined chain.fees shaped signs (plain accepted)).tokens
      | initializeProtocolConfig =>
          exact (InitializeProtocolConfig.confined chain.fees shaped first
            (plain accepted)).tokens
      | initializeTreasury =>
          exact (InitializeTreasury.confined chain.fees shaped signs (plain accepted)).tokens
      | updateFeeRecipients =>
          exact (UpdateFeeRecipients.confined chain.fees shaped signs (plain accepted)).tokens
      | pauseProtocol =>
          exact (PauseProtocol.confined chain.fees shaped signs (plain accepted)).tokens

/-! ## A run without the owner -/

/-- A step in which the owner of an account takes no part. Without it other programs too
spend from the account on its approval only. -/
inductive Chain.Unattended (addresses : Addresses) (address owner : Address) :
    Chain → Chain → Prop
  | instruction {chain : Chain} (instruction : Instruction)
      (unsigned : ∀ pda, instruction.context.signer (addresses.of pda) = false)
      (absent : instruction.context.signer owner = false) :
      Unattended addresses address owner chain (chain.execute addresses instruction)
  | outside {chain : Chain} {ledger : Ledger} (outside : Outside addresses chain.ledger ledger)
      (spends : ∀ token, tokenAt chain.ledger address = some token →
        ∃ token', tokenAt ledger address = some token' ∧ token.Spent token') :
      Unattended addresses address owner chain ⟨ledger, chain.fees⟩

theorem Chain.Unattended.next (step : Unattended addresses address owner chain later) :
    Next addresses chain later := by
  cases step with
  | instruction instruction unsigned absent => exact .instruction instruction unsigned
  | outside outside spends => exact .outside outside

theorem Chain.Unattended.spends (step : Unattended addresses address owner chain later)
    (sound : Sound addresses chain) (keyed : ∀ pda, owner ≠ addresses.of pda)
    (found : tokenAt chain.ledger address = some token) (owned : token.owner = owner) :
    ∃ token', tokenAt later.ledger address = some token' ∧ token.Spent token' := by
  cases step with
  | outside outside spends => exact spends token found
  | instruction instruction unsigned absent =>
      unfold execute
      split
      case h_1 ledger receipts processed =>
        exact TokenStep.run_spends
          (processInstruction_tokens sound keyed unsigned absent processed) found owned
      case h_2 => exact ⟨token, found, .refl token⟩

/-- In no run without its owner does an account lose more than it has used up of what was
approved at the start. Nothing is approved anew, and the owner stays the owner. -/
theorem loss_approved (reached : Chain.Reached addresses chain)
    (found : tokenAt chain.ledger address = some token)
    (keyed : ∀ pda, token.owner ≠ addresses.of pda)
    (run : Relation.ReflTransGen (Chain.Unattended addresses address token.owner) chain later) :
    ∃ token', tokenAt later.ledger address = some token' ∧ token.Spent token' := by
  have whole : Chain.Reached addresses later ∧
      ∃ token', tokenAt later.ledger address = some token' ∧ token.Spent token' := by
    induction run with
    | refl => exact ⟨reached, token, found, .refl token⟩
    | tail _ step ih =>
        obtain ⟨before, middle, stays, spent⟩ := ih
        obtain ⟨token', last, more⟩ := step.spends before.sound keyed stays spent.owner
        exact ⟨before.next step.next, token', last, spent.trans more⟩
  exact whole.2

end Chain

/-! ## A charged approval -/

namespace CustodyDemo

open IsolationDemo (otherAta outside_update)
open SettleBatch.Demo (addresses named slot fixed token tokenAccount)

def agent : Address := named 32 9

def approving : TokenAccount := token agent 5000 5000

/-- The funded chain, on which an agent who signs nothing has approved an allowance. -/
def chain : Chain where
  ledger := Function.update V1.Demo.funded.ledger otherAta (tokenAccount approving)
  fees := V1.Demo.funded.fees

def batch : Instruction :=
  V1.Demo.instruction (fixed.toList ++
      { (slot 2 1000 0).accounts with agentAta := otherAta }.toList)
    (10 :: SettleBatch.encodeEvents [{ SettleBatch.Demo.event 2 1000 0 with agentOwner := agent }])

def charged : Chain := chain.execute addresses batch

theorem chain_reached : Chain.Reached addresses chain := by
  refine V1.Demo.funded_reached.next (.outside (outside_update ?_ ?_))
  · exact fun pda => V1.Demo.derived_ne (by decide) pda
  · intro token pda found
    rw [IsolationDemo.unopened] at found
    cases found

theorem approving_found : tokenAt chain.ledger otherAta = some approving := by decide +kernel

theorem approved_after :
    ((tokenAt charged.ledger otherAta).map TokenAccount.approved) = some 4000 := by
  decide +kernel

end CustodyDemo

/-- A call of 1000 is charged to an approval of 5000. -/
theorem loss_approved_demo : ∃ token',
    tokenAt CustodyDemo.charged.ledger IsolationDemo.otherAta = some token' ∧
      CustodyDemo.approving.Spent token' ∧ token'.approved = 4000 := by
  have absent : CustodyDemo.batch.context.signer CustodyDemo.approving.owner = false := by decide
  have step : Chain.Unattended SettleBatch.Demo.addresses IsolationDemo.otherAta
      CustodyDemo.approving.owner CustodyDemo.chain CustodyDemo.charged :=
    .instruction CustodyDemo.batch (V1.Demo.unsigned _ _) absent
  obtain ⟨token', found, spent⟩ := loss_approved CustodyDemo.chain_reached
    CustodyDemo.approving_found (fun pda => (V1.Demo.derived_ne (by decide) pda).symm)
    (.single step)
  have approved := CustodyDemo.approved_after
  rw [found, Option.map_some, Option.some.injEq] at approved
  exact ⟨token', found, spent, approved⟩

end PactNetwork.V1
