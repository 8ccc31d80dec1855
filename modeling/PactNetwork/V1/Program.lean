import PactNetwork.V1.BooksInvariants
import PactNetwork.V1.Endpoints

/-!
# The program and its chain

Instruction dispatch, and the transition system it makes with the world around
it. A rejected instruction changes nothing.
-/

set_option autoImplicit false

namespace PactNetwork.V1

open Solana

inductive Discriminator where
  | initializeSettlementAuthority
  | registerEndpoint
  | updateEndpointConfig
  | pauseEndpoint
  | topUpCoveragePool
  | settleBatch
  | initializeProtocolConfig
  | initializeTreasury
  | updateFeeRecipients
  | pauseProtocol
  deriving DecidableEq, Repr

def Discriminator.fromU8 (value : UInt8) : Option Discriminator :=
  match value.toNat with
  | 1 => some .initializeSettlementAuthority
  | 2 => some .registerEndpoint
  | 3 => some .updateEndpointConfig
  | 4 => some .pauseEndpoint
  | 9 => some .topUpCoveragePool
  | 10 => some .settleBatch
  | 12 => some .initializeProtocolConfig
  | 13 => some .initializeTreasury
  | 14 => some .updateFeeRecipients
  | 15 => some .pauseProtocol
  | _ => none

structure Instruction where
  context : Context
  accounts : List Address
  data : List UInt8

section Process

variable (addresses : Addresses) (context : Context)

def dispatch (ledger : Ledger) (accounts : List Address) (data : List UInt8) :
    Discriminator → Except ProgramError (Ledger × List Receipt)
  | .initializeSettlementAuthority =>
      (InitializeSettlementAuthority.process addresses context ledger accounts data).map (·, [])
  | .registerEndpoint =>
      (RegisterEndpoint.process addresses context ledger accounts data).map (·, [])
  | .updateEndpointConfig =>
      (UpdateEndpointConfig.process addresses context ledger accounts data).map (·, [])
  | .pauseEndpoint => (PauseEndpoint.process addresses context ledger accounts data).map (·, [])
  | .topUpCoveragePool =>
      (TopUpCoveragePool.process addresses context ledger accounts data).map (·, [])
  | .settleBatch => SettleBatch.process addresses context ledger accounts data
  | .initializeProtocolConfig =>
      (InitializeProtocolConfig.process addresses context ledger accounts data).map (·, [])
  | .initializeTreasury =>
      (InitializeTreasury.process addresses context ledger accounts).map (·, [])
  | .updateFeeRecipients =>
      (UpdateFeeRecipients.process addresses context ledger accounts data).map (·, [])
  | .pauseProtocol => (PauseProtocol.process addresses context ledger accounts data).map (·, [])

def processInstruction (ledger : Ledger) (instruction : Instruction) :
    Except ProgramError (Ledger × List Receipt) :=
  match instruction.data with
  | [] => .error .invalidInstructionData
  | discriminator :: rest => do
      let discriminator ← okOr (Discriminator.fromU8 discriminator) .invalidInstructionData
      dispatch addresses instruction.context ledger instruction.accounts rest discriminator

end Process

/-! ## The chain -/

/-- A ledger, and the fees the program has paid from each pool so far. -/
structure Chain where
  ledger : Ledger
  fees : Slug → Nat

def chargeFees (fees : Slug → Nat) : List Receipt → Slug → Nat
  | [] => fees
  | receipt :: rest => chargeFees (Function.update fees receipt.record.endpointSlug
      (fees receipt.record.endpointSlug + (amounts receipt.fees).sum)) rest

theorem chargeFees_append (fees : Slug → Nat) (front back : List Receipt) :
    chargeFees fees (front ++ back) = chargeFees (chargeFees fees front) back := by
  induction front generalizing fees with
  | nil => rfl
  | cons receipt rest ih => exact ih _

def Chain.execute (addresses : Addresses) (chain : Chain) (instruction : Instruction) : Chain :=
  match processInstruction addresses chain.ledger instruction with
  | .ok (ledger, receipts) => ⟨ledger, chargeFees chain.fees receipts⟩
  | .error _ => chain

/-- What other programs may do: nothing to the program's accounts or to an
address it derives, and nothing to a token account that only such an address
controls, except pay into it. -/
structure Outside (addresses : Addresses) (before after : Ledger) : Prop where
  derived : ∀ pda, (after (addresses.of pda)).owner = (before (addresses.of pda)).owner ∧
    (after (addresses.of pda)).data = (before (addresses.of pda)).data
  tokens : ∀ address token pda, tokenAt before address = some token →
    token.Exclusive (addresses.of pda) → ∃ token', tokenAt after address = some token' ∧
      token'.Exclusive (addresses.of pda) ∧ token.amount.toNat ≤ token'.amount.toNat

/-- One step of the chain. Nobody signs for a derived address. -/
inductive Chain.Next (addresses : Addresses) : Chain → Chain → Prop
  | instruction {chain : Chain} (instruction : Instruction)
      (unsigned : ∀ pda, instruction.context.signer (addresses.of pda) = false) :
      Next addresses chain (chain.execute addresses instruction)
  | outside {chain : Chain} {ledger : Ledger} (outside : Outside addresses chain.ledger ledger) :
      Next addresses chain ⟨ledger, chain.fees⟩

/-- Before the program is initialized its addresses are vacant. -/
structure Chain.Genesis (addresses : Addresses) (chain : Chain) : Prop where
  vacant : ∀ pda, (chain.ledger (addresses.of pda)).owner = systemProgram ∧
    (chain.ledger (addresses.of pda)).data = []
  unpaid : ∀ slug, chain.fees slug = 0

def Chain.Reached (addresses : Addresses) : Chain → Prop :=
  Reachable (Chain.Genesis addresses) (Chain.Next addresses)

theorem Chain.run_execute {addresses : Addresses} (chain : Chain)
    (instructions : List Instruction)
    (unsigned : ∀ instruction ∈ instructions, ∀ pda,
      instruction.context.signer (addresses.of pda) = false) :
    Relation.ReflTransGen (Next addresses) chain
      (instructions.foldl (execute addresses) chain) := by
  induction instructions generalizing chain with
  | nil => exact .refl
  | cons instruction rest ih =>
      have first : Next addresses chain (chain.execute addresses instruction) :=
        .instruction instruction (unsigned instruction List.mem_cons_self)
      exact .head first (ih _ fun later member => unsigned later (List.mem_cons_of_mem _ member))

/-! ## The books of a chain -/

def structOf (addresses : Addresses) (ledger : Ledger) (pda : Pda) : Option pda.Struct :=
  if (ledger (addresses.of pda)).owner = programId then
    structAt pda.layout ledger (addresses.of pda)
  else none

def Chain.books (addresses : Addresses) (chain : Chain) : Books where
  structs := structOf addresses chain.ledger
  tokens := tokenAt chain.ledger
  fees := chain.fees

def Shaped (addresses : Addresses) (ledger : Ledger) : Prop :=
  ∀ pda, ((ledger (addresses.of pda)).owner = systemProgram ∧
      (ledger (addresses.of pda)).data.length = 0) ∨
    ((ledger (addresses.of pda)).owner = programId ∧
      (ledger (addresses.of pda)).data.length = pda.layout.size)

end PactNetwork.V1
