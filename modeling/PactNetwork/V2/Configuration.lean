import PactNetwork.V2.Accounts
import PactNetwork.V2.Arguments

/-!
# Protocol configuration

`initialize_protocol`, `update_config` and `update_oracle`: the handlers that
write the canonical `ProtocolConfig`. All three check its address.
-/

set_option autoImplicit false

namespace PactNetwork.V2

open Solana

section Handlers

variable (crypto : Crypto) (context : Context)

def requireCanonical (account : Address) : Except ProgramError Unit := do
  let (expected, _) ← crypto.derive .protocol
  failIf (account ≠ expected) .invalidSeeds

/-! ## initialize_protocol -/

namespace InitializeProtocol

structure Args where
  authority : Address
  oracle : Address
  treasury : Address
  usdcMint : Address

def Args.layout : Layout Args :=
  ((Layout.bytes 32).pair <| (Layout.bytes 32).pair <| (Layout.bytes 32).pair <|
    Layout.bytes 32).map
  { toFun := fun (authority, oracle, treasury, usdcMint) =>
      ⟨authority, oracle, treasury, usdcMint⟩
    invFun := fun args => (args.authority, args.oracle, args.treasury, args.usdcMint)
    left_inv := fun _ => rfl
    right_inv := fun _ => rfl }

def config (args : Args) (bump : UInt8) : ProtocolConfig where
  discriminator := Pod.discriminator ProtocolConfig
  pad := List.Vector.replicate 7 0
  authority := args.authority
  oracle := args.oracle
  treasury := args.treasury
  usdcMint := args.usdcMint
  minPoolDeposit := defaultMinPoolDeposit
  defaultMaxCoveragePerCall := defaultMaxCoveragePerCall
  withdrawalCooldownSeconds := defaultWithdrawalCooldown
  aggregateCapWindowSeconds := defaultAggregateCapWindow
  claimWindowSeconds := defaultClaimWindow
  protocolFeeBps := defaultProtocolFeeBps
  defaultInsuranceRateBps := defaultInsuranceRateBps
  minPremiumBps := defaultMinPremiumBps
  aggregateCapBps := defaultAggregateCapBps
  maxClaimsPerBatch := defaultMaxClaimsPerBatch
  paused := 0
  bump := bump
  padTail := List.Vector.replicate 5 0
  reserved := List.Vector.replicate 64 0

/-- The default build, without `unsafe-bypass-deployer`. -/
def process (ledger : Ledger) (accounts : List Address) (data : List UInt8) :
    Except ProgramError Ledger :=
  match accounts with
  | account :: deployer :: system :: _ => do
      failIf (system ≠ systemProgram) .incorrectProgramId
      failIf (context.signer deployer = false) .missingRequiredSignature
      failIf (context.writable deployer = false) .invalidAccountData
      failIf (deployer ≠ deployerPubkey) ↑PactError.unauthorizedDeployer
      failIf (context.writable account = false) .invalidAccountData
      let (expected, bump) ← crypto.derive .protocol
      failIf (account ≠ expected) .invalidSeeds
      failIf ((ledger account).data ≠ []) .accountAlreadyInitialized
      failIf (data.length ≠ Args.layout.size) .invalidInstructionData
      let size := (Pod.layout (α := ProtocolConfig)).size
      let ledger ← createAccount context ledger deployer account (context.minimumBalance size)
        size programId
      write context ledger account (config (Args.layout.decode data) bump)
  | _ => .error .notEnoughAccountKeys

end InitializeProtocol

/-! ## update_config -/

namespace UpdateConfig

def setField {α : Type} (field : Option α) (allowed : α → Prop) [DecidablePred allowed]
    (stored : α) : Except ProgramError α :=
  match field with
  | none => .ok stored
  | some value => do
      failIf (¬ allowed value) ↑PactError.configSafetyFloorViolation
      .ok value

/-- The fields without a floor or cap are written as they come. -/
def apply (patch : UpdateConfigPatch) (config : ProtocolConfig) :
    Except ProgramError ProtocolConfig := do
  let protocolFeeBps ← setField patch.protocolFeeBps (· ≤ absoluteMaxProtocolFeeBps)
    config.protocolFeeBps
  let minPoolDeposit ← setField patch.minPoolDeposit (absoluteMinPoolDeposit ≤ ·)
    config.minPoolDeposit
  let withdrawalCooldownSeconds ← setField patch.withdrawalCooldownSeconds
    (absoluteMinWithdrawalCooldown ≤ ·) config.withdrawalCooldownSeconds
  let aggregateCapBps ← setField patch.aggregateCapBps (· ≤ absoluteMaxAggregateCapBps)
    config.aggregateCapBps
  let claimWindowSeconds ← setField patch.claimWindowSeconds (absoluteMinClaimWindow ≤ ·)
    config.claimWindowSeconds
  .ok { config with
    protocolFeeBps, minPoolDeposit, withdrawalCooldownSeconds, aggregateCapBps, claimWindowSeconds
    defaultInsuranceRateBps :=
      patch.defaultInsuranceRateBps.getD config.defaultInsuranceRateBps
    defaultMaxCoveragePerCall :=
      patch.defaultMaxCoveragePerCall.getD config.defaultMaxCoveragePerCall
    minPremiumBps := patch.minPremiumBps.getD config.minPremiumBps
    aggregateCapWindowSeconds :=
      patch.aggregateCapWindowSeconds.getD config.aggregateCapWindowSeconds
    maxClaimsPerBatch := patch.maxClaimsPerBatch.getD config.maxClaimsPerBatch
    paused := patch.paused.getD config.paused }

def process (ledger : Ledger) (accounts : List Address) (data : List UInt8) :
    Except ProgramError Ledger :=
  match accounts with
  | account :: authority :: _ => do
      failIf (context.writable account = false) .invalidAccountData
      failIf (context.signer authority = false) .missingRequiredSignature
      requireCanonical crypto account
      let patch ← UpdateConfigPatch.cursor.decode data
      failIf (patch.treasury ≠ none ∨ patch.usdcMint ≠ none) ↑PactError.frozenConfigField
      let config ← load ProtocolConfig ledger account
      failIf (authority ≠ config.authority) ↑PactError.unauthorized
      let updated ← apply patch config
      write context ledger account updated
  | _ => .error .notEnoughAccountKeys

end UpdateConfig

/-! ## update_oracle -/

namespace UpdateOracle

def process (ledger : Ledger) (accounts : List Address) (data : List UInt8) :
    Except ProgramError Ledger :=
  match accounts with
  | account :: authority :: _ => do
      failIf (context.writable account = false) .invalidAccountData
      failIf (context.signer authority = false) .missingRequiredSignature
      requireCanonical crypto account
      failIf (data.length ≠ 32) .invalidInstructionData
      let newOracle : Address := (Layout.bytes 32).decode data
      failIf (newOracle = List.Vector.replicate 32 0) ↑PactError.invalidOracleKey
      let config ← load ProtocolConfig ledger account
      failIf (authority ≠ config.authority) ↑PactError.unauthorized
      failIf (newOracle = config.authority) ↑PactError.invalidOracleKey
      write context ledger account { config with oracle := newOracle }
  | _ => .error .notEnoughAccountKeys

end UpdateOracle

end Handlers

end PactNetwork.V2
