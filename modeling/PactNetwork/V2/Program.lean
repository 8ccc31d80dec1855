import PactNetwork.Foundation.Transition
import PactNetwork.V2.Policies

/-!
# The V2 program and its chain

Instruction dispatch, and the transition system it makes with the world around
it. A rejected instruction changes nothing but the clock.
-/

set_option autoImplicit false

namespace PactNetwork.V2

open Solana

inductive Discriminator where
  | initializeProtocol
  | updateConfig
  | updateOracle
  | createPool
  | deposit
  | enableInsurance
  | disablePolicy
  | settlePremium
  | withdraw
  | updateRates
  | submitClaim
  deriving DecidableEq, Repr

def Discriminator.tryFrom (value : UInt8) : Option Discriminator :=
  match value.toNat with
  | 0 => some .initializeProtocol
  | 1 => some .updateConfig
  | 2 => some .updateOracle
  | 3 => some .createPool
  | 4 => some .deposit
  | 5 => some .enableInsurance
  | 6 => some .disablePolicy
  | 7 => some .settlePremium
  | 8 => some .withdraw
  | 9 => some .updateRates
  | 10 => some .submitClaim
  | _ => none

structure Instruction where
  context : Context
  accounts : List Address
  data : List UInt8

section Process

variable (crypto : Crypto)

def dispatch (context : Context) (ledger : Ledger) (accounts : List Address)
    (data : List UInt8) :
    Discriminator → Except ProgramError (Ledger × Option SubmitClaim.Payout)
  | .initializeProtocol =>
      (InitializeProtocol.process crypto context ledger accounts data).map (·, none)
  | .updateConfig => (UpdateConfig.process crypto context ledger accounts data).map (·, none)
  | .updateOracle => (UpdateOracle.process crypto context ledger accounts data).map (·, none)
  | .createPool => (CreatePool.process crypto context ledger accounts data).map (·, none)
  | .deposit => (Deposit.process crypto context ledger accounts data).map (·, none)
  | .enableInsurance => (EnableInsurance.process crypto context ledger accounts data).map (·, none)
  | .disablePolicy => (DisablePolicy.process context ledger accounts data).map (·, none)
  | .settlePremium => (SettlePremium.process crypto context ledger accounts data).map (·, none)
  | .withdraw => (Withdraw.process crypto context ledger accounts data).map (·, none)
  | .updateRates => (UpdateRates.process crypto context ledger accounts data).map (·, none)
  | .submitClaim => (SubmitClaim.process crypto context ledger accounts data).map
      fun (ledger, payout) => (ledger, some payout)

def processInstruction (ledger : Ledger) (instruction : Instruction) :
    Except ProgramError (Ledger × Option SubmitClaim.Payout) :=
  match instruction.data with
  | [] => .error .invalidInstructionData
  | discriminator :: rest => do
      let discriminator ← okOr (Discriminator.tryFrom discriminator) .invalidInstructionData
      dispatch crypto instruction.context ledger instruction.accounts rest discriminator

end Process

/-! ## The chain -/

/-- A ledger, its clock, and the claims paid so far, the latest first. -/
structure Chain where
  ledger : Ledger
  clock : Int64
  payouts : List SubmitClaim.Payout

def Chain.execute (crypto : Crypto) (chain : Chain) (instruction : Instruction) : Chain :=
  match processInstruction crypto chain.ledger instruction with
  | .ok (ledger, payout) =>
      ⟨ledger, instruction.context.now, payout.toList ++ chain.payouts⟩
  | .error _ => { chain with clock := instruction.context.now }

/-- What other programs may do. Accounts of the program keep their data, and
those newly assigned to it are zeroed. At derived addresses only token accounts
change, and one that a derived address controls alone only receives. -/
structure Outside (crypto : Crypto) (before after : Ledger) : Prop where
  derived : ∀ address, crypto.Derived address → (before address).owner ≠ tokenProgram →
    (after address).owner = (before address).owner ∧ (after address).data = (before address).data
  owned : ∀ address, (before address).owner = programId →
    (after address).owner = programId ∧ (after address).data = (before address).data
  assigned : ∀ address, (before address).owner ≠ programId → (after address).owner = programId →
    ∀ byte ∈ (after address).data, byte = 0
  tokens : ∀ address token owner, tokenAt before address = some token → crypto.Derived owner →
    token.Exclusive owner → ∃ token', tokenAt after address = some token' ∧
      token'.Exclusive owner ∧ token.amount.toNat ≤ token'.amount.toNat

/-- One step of the chain. Nobody signs for a derived address, and the clock
does not go back. -/
inductive Chain.Next (crypto : Crypto) : Chain → Chain → Prop
  | instruction {chain : Chain} (instruction : Instruction)
      (unsigned : ∀ address, crypto.Derived address →
        instruction.context.signer address = false)
      (forward : chain.clock ≤ instruction.context.now) :
      Next crypto chain (chain.execute crypto instruction)
  | outside {chain : Chain} {ledger : Ledger} (outside : Outside crypto chain.ledger ledger) :
      Next crypto chain { chain with ledger }

/-- The steps whose instructions meet a condition on the state before them. -/
inductive Chain.NextWhen (crypto : Crypto) (allowed : Chain → Instruction → Prop) :
    Chain → Chain → Prop
  | instruction {chain : Chain} (instruction : Instruction)
      (unsigned : ∀ address, crypto.Derived address →
        instruction.context.signer address = false)
      (forward : chain.clock ≤ instruction.context.now) (met : allowed chain instruction) :
      NextWhen crypto allowed chain (chain.execute crypto instruction)
  | outside {chain : Chain} {ledger : Ledger} (outside : Outside crypto chain.ledger ledger) :
      NextWhen crypto allowed chain { chain with ledger }

theorem Chain.NextWhen.next {crypto : Crypto} {allowed : Chain → Instruction → Prop}
    {before after : Chain} (step : NextWhen crypto allowed before after) :
    Next crypto before after := by
  cases step with
  | instruction instruction unsigned forward _ => exact .instruction instruction unsigned forward
  | outside outside => exact .outside outside

/-- Before the program is initialized it has no accounts with data and its
addresses are vacant. -/
structure Chain.Genesis (crypto : Crypto) (chain : Chain) : Prop where
  vacant : ∀ address, crypto.Derived address →
    (chain.ledger address).owner = systemProgram ∧ (chain.ledger address).data = []
  unowned : ∀ address, (chain.ledger address).owner = programId →
    ∀ byte ∈ (chain.ledger address).data, byte = 0
  unpaid : chain.payouts = []

def Chain.Reached (crypto : Crypto) : Chain → Prop :=
  Reachable (Chain.Genesis crypto) (Chain.Next crypto)

/-- Executing instructions in the order of their clocks, unsigned by derived
addresses, is a run. -/
def Chain.InOrder (crypto : Crypto) : Int64 → List Instruction → Prop
  | _, [] => True
  | clock, instruction :: rest =>
      clock ≤ instruction.context.now ∧
        (∀ address, crypto.Derived address → instruction.context.signer address = false) ∧
        InOrder crypto instruction.context.now rest

theorem Chain.execute_clock (crypto : Crypto) (chain : Chain) (instruction : Instruction) :
    (chain.execute crypto instruction).clock = instruction.context.now := by
  unfold execute
  split <;> rfl

theorem Chain.run_execute {crypto : Crypto} (chain : Chain) (instructions : List Instruction)
    (ordered : InOrder crypto chain.clock instructions) :
    Relation.ReflTransGen (Next crypto) chain (instructions.foldl (execute crypto) chain) := by
  induction instructions generalizing chain with
  | nil => exact .refl
  | cons instruction rest ih =>
      obtain ⟨forward, unsigned, later⟩ := ordered
      have first : Next crypto chain (chain.execute crypto instruction) :=
        .instruction instruction unsigned forward
      refine .head first (ih _ ?_)
      rw [execute_clock]
      exact later

theorem Chain.runWhen_execute {crypto : Crypto} {allowed : Chain → Instruction → Prop}
    (chain : Chain) (instructions : List Instruction)
    (ordered : InOrder crypto chain.clock instructions)
    (met : ∀ instruction ∈ instructions, ∀ before, allowed before instruction) :
    Relation.ReflTransGen (NextWhen crypto allowed) chain
      (instructions.foldl (execute crypto) chain) := by
  induction instructions generalizing chain with
  | nil => exact .refl
  | cons instruction rest ih =>
      obtain ⟨forward, unsigned, later⟩ := ordered
      have first : NextWhen crypto allowed chain (chain.execute crypto instruction) :=
        .instruction instruction unsigned forward (met instruction List.mem_cons_self chain)
      refine .head first (ih _ ?_ fun other member => met other (List.mem_cons_of_mem _ member))
      rw [execute_clock]
      exact later

end PactNetwork.V2
