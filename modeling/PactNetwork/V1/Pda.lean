import PactNetwork.V1.State

/-!
# Program-derived addresses of the V1 program

The seeds, and the helpers that verify a privileged account before a handler
trusts its fields.
-/

set_option autoImplicit false

namespace PactNetwork.V1

open Solana

inductive Pda where
  | coveragePool (slug : Slug)
  | endpointConfig (slug : Slug)
  | callRecord (callId : CallId)
  | settlementAuthority
  | treasury
  | protocolConfig
  deriving DecidableEq

namespace Pda

def seeds : Pda → Seeds
  | .coveragePool slug => [ascii "coverage_pool", slug.toList]
  | .endpointConfig slug => [ascii "endpoint", slug.toList]
  | .callRecord callId => [ascii "call", callId.toList]
  | .settlementAuthority => [ascii "settlement_authority"]
  | .treasury => [ascii "treasury"]
  | .protocolConfig => [ascii "protocol_config"]

theorem length_seeds_le (pda : Pda) : pda.seeds.flatten.length ≤ 31 := by
  cases pda <;> simp [seeds, ascii]

theorem eq_of_flatten_seeds_eq {left right : Pda}
    (same : left.seeds.flatten = right.seeds.flatten) : left = right := by
  cases left <;> cases right <;> simp [seeds, ascii] at same ⊢ <;> exact Subtype.ext same

end Pda

abbrev Addresses := ProgramAddresses Pda.seeds

namespace Addresses

variable (addresses : Addresses)

@[simp] theorem of_eq_of_iff {left right : Pda} :
    addresses.of left = addresses.of right ↔ left = right :=
  ⟨fun same => Pda.eq_of_flatten_seeds_eq (addresses.collisionFree left right same),
    congrArg addresses.of⟩

def packed : Addresses := ProgramAddresses.packed Pda.seeds Pda.length_seeds_le

end Addresses

/-! ## Privileged accounts -/

section Verify

variable (addresses : Addresses) (ledger : Ledger) (account : Address)

def verifyCanonical (pda : Pda) (error : PactError) : Except ProgramError Unit := do
  failIf (account ≠ addresses.of pda) (↑error)
  failIf ((ledger account).owner ≠ programId) (↑error)

def verifyProtocolConfig : Except ProgramError Unit :=
  verifyCanonical addresses ledger account .protocolConfig .invalidProtocolConfig

def verifyTreasury : Except ProgramError Unit :=
  verifyCanonical addresses ledger account .treasury .invalidTreasury

def verifySettlementAuthority : Except ProgramError Unit :=
  verifyCanonical addresses ledger account .settlementAuthority .invalidSettlementAuthority

variable {addresses ledger account}

@[simp] theorem verifyCanonical_eq_ok {pda : Pda} {error : PactError} {result : Unit} :
    verifyCanonical addresses ledger account pda error = .ok result ↔
      account = addresses.of pda ∧ (ledger account).owner = programId := by
  simp [verifyCanonical]

end Verify

end PactNetwork.V1
