import PactNetwork.V2.Configuration

/-!
# Pools and underwriters

`create_pool`, `update_rates`, `deposit` and `withdraw`.
-/

set_option autoImplicit false

namespace PactNetwork.V2

open Solana

section Handlers

variable (crypto : Crypto) (context : Context)

/-! ## create_pool -/

namespace CreatePool

def pool (config : ProtocolConfig) (args : CreatePoolArgs) (now : Int64) (vault : Address)
    (bump vaultBump : UInt8) : CoveragePool where
  discriminator := Pod.discriminator CoveragePool
  pad := List.Vector.replicate 7 0
  authority := config.authority
  usdcMint := config.usdcMint
  vault := vault
  providerHostname := buffer 64 args.hostname
  totalDeposited := 0
  totalAvailable := 0
  totalPremiumsEarned := 0
  totalClaimsPaid := 0
  maxCoveragePerCall := args.maxCoveragePerCall.getD config.defaultMaxCoveragePerCall
  payoutsThisWindow := 0
  windowStart := now
  createdAt := now
  updatedAt := now
  activePolicies := 0
  insuranceRateBps := args.insuranceRateBps.getD config.defaultInsuranceRateBps
  minPremiumBps := config.minPremiumBps
  providerHostnameLen := UInt8.ofNat args.hostname.length
  bump := bump
  vaultBump := vaultBump
  padTail := List.Vector.replicate 5 0
  reserved := List.Vector.replicate 64 0

/-- Create the pool and its vault, bind the vault, write the pool. -/
def create (ledger : Ledger) (account vault mint authority : Address) (config : ProtocolConfig)
    (args : CreatePoolArgs) : Except ProgramError Ledger := do
  let (expectedPool, bump) ← crypto.derive (.pool args.hostname)
  failIf (account ≠ expectedPool) .invalidSeeds
  failIf ((ledger account).data ≠ []) .accountAlreadyInitialized
  let (expectedVault, vaultBump) ← crypto.derive (.vault account)
  failIf (vault ≠ expectedVault) .invalidSeeds
  failIf ((ledger vault).data ≠ []) .accountAlreadyInitialized
  let size := (Pod.layout (α := CoveragePool)).size
  let ledger ← createAccount context ledger authority account (context.minimumBalance size) size
    programId
  let ledger ← createAccount context ledger authority vault
    (context.minimumBalance TokenAccount.layout.size) TokenAccount.layout.size tokenProgram
  let ledger ← initializeAccount3 context ledger vault mint account
  write context ledger account (pool config args context.now vault bump vaultBump)

def process (ledger : Ledger) (accounts : List Address) (data : List UInt8) :
    Except ProgramError Ledger :=
  match accounts with
  | configAccount :: account :: vault :: mint :: authority :: system :: token :: _ :: _ => do
      failIf (system ≠ systemProgram) .incorrectProgramId
      failIf (token ≠ tokenProgram) .incorrectProgramId
      failIf (context.signer authority = false) .missingRequiredSignature
      failIf (context.writable authority = false) .invalidAccountData
      failIf (context.writable account = false ∨ context.writable vault = false)
        .invalidAccountData
      let args ← CreatePoolArgs.cursor.decode data
      failIf (args.hostname.length = 0 ∨ 64 < args.hostname.length) ↑PactError.hostnameTooLong
      requireCanonical crypto configAccount
      let config ← load ProtocolConfig ledger configAccount
      failIf (config.paused ≠ 0) ↑PactError.protocolPaused
      failIf (authority ≠ config.authority) ↑PactError.unauthorized
      failIf (mint ≠ config.usdcMint) ↑PactError.unauthorized
      create crypto context ledger account vault mint authority config args
  | _ => .error .notEnoughAccountKeys

end CreatePool

/-! ## update_rates -/

namespace UpdateRates

/-- Of the oracle's handlers this one checks whose config it reads. -/
def process (ledger : Ledger) (accounts : List Address) (data : List UInt8) :
    Except ProgramError Ledger :=
  match accounts with
  | configAccount :: account :: oracle :: _ => do
      failIf (context.writable account = false) .invalidAccountData
      failIf (context.signer oracle = false) ↑PactError.unauthorized
      requireCanonical crypto configAccount
      failIf ((ledger configAccount).owner ≠ programId) ↑PactError.unauthorized
      failIf ((ledger account).owner ≠ programId) ↑PactError.unauthorized
      failIf (data.length ≠ 2) .invalidInstructionData
      let newRateBps := Layout.u16.decode data
      failIf (newRateBps > 10000) ↑PactError.rateOutOfBounds
      let config ← load ProtocolConfig ledger configAccount
      failIf (oracle ≠ config.oracle) ↑PactError.unauthorizedOracle
      let pool ← load CoveragePool ledger account
      failIf (newRateBps < pool.minPremiumBps) ↑PactError.rateBelowFloor
      write context ledger account
        { pool with insuranceRateBps := newRateBps, updatedAt := context.now }
  | _ => .error .notEnoughAccountKeys

end UpdateRates

/-! ## deposit -/

/-- The accounts `deposit` and `withdraw` share. -/
structure UnderwriterAccounts where
  config : Address
  pool : Address
  vault : Address
  position : Address
  underwriterToken : Address
  underwriter : Address

/-- The underwriter's token account holds the pool's mint and is the signer's. -/
def checkUnderwriterToken (ledger : Ledger) (accounts : UnderwriterAccounts)
    (pool : CoveragePool) : Except ProgramError Unit := do
  let (mint, owner) ← readMintOwner ledger accounts.underwriterToken
  failIf (mint ≠ pool.usdcMint) ↑PactError.tokenAccountMismatch
  failIf (owner ≠ accounts.underwriter) ↑PactError.tokenAccountMismatch

namespace Deposit

def position (accounts : UnderwriterAccounts) (bump : UInt8) : UnderwriterPosition where
  discriminator := Pod.discriminator UnderwriterPosition
  pad := List.Vector.replicate 7 0
  pool := accounts.pool
  underwriter := accounts.underwriter
  deposited := 0
  earnedPremiums := 0
  lossesAbsorbed := 0
  depositTimestamp := 0
  lastClaimTimestamp := 0
  bump := bump
  padTail := List.Vector.replicate 7 0
  reserved := List.Vector.replicate 64 0

/-- Create the position, or make sure the existing one is the program's. -/
def openPosition (ledger : Ledger) (accounts : UnderwriterAccounts) (bump : UInt8) :
    Except ProgramError Ledger :=
  if (ledger accounts.position).data = [] then do
    let size := (Pod.layout (α := UnderwriterPosition)).size
    let ledger ← createAccount context ledger accounts.underwriter accounts.position
      (context.minimumBalance size) size programId
    write context ledger accounts.position (position accounts bump)
  else do
    failIf ((ledger accounts.position).owner ≠ programId) ↑PactError.unauthorized
    .ok ledger

def creditPosition (position : UnderwriterPosition) (amount : UInt64) :
    Except ProgramError UnderwriterPosition := do
  let deposited ← okOr (checkedAdd position.deposited amount) ↑PactError.arithmeticOverflow
  .ok { position with deposited }

def creditPool (pool : CoveragePool) (amount : UInt64) : Except ProgramError CoveragePool := do
  let totalDeposited ← okOr (checkedAdd pool.totalDeposited amount) ↑PactError.arithmeticOverflow
  let totalAvailable ← okOr (checkedAdd pool.totalAvailable amount) ↑PactError.arithmeticOverflow
  .ok { pool with totalDeposited, totalAvailable }

theorem creditPosition_eq_ok {position result : UnderwriterPosition} {amount : UInt64} :
    creditPosition position amount = .ok result ↔ ∃ deposited : UInt64,
      deposited.toNat = position.deposited.toNat + amount.toNat ∧
        result = { position with deposited } := by
  simp only [creditPosition, bind_eq_ok, okOr_eq_ok, checkedAdd_eq_some, Except.ok.injEq]
  exact exists_congr fun _ => and_congr_right fun _ => eq_comm

theorem creditPool_eq_ok {pool result : CoveragePool} {amount : UInt64} :
    creditPool pool amount = .ok result ↔ ∃ totalDeposited totalAvailable : UInt64,
      totalDeposited.toNat = pool.totalDeposited.toNat + amount.toNat ∧
        totalAvailable.toNat = pool.totalAvailable.toNat + amount.toNat ∧
        result = { pool with totalDeposited, totalAvailable } := by
  simp only [creditPool, bind_eq_ok, okOr_eq_ok, checkedAdd_eq_some, Except.ok.injEq,
    exists_and_left]
  exact exists_congr fun _ => and_congr_right fun _ => exists_congr fun _ =>
    and_congr_right fun _ => eq_comm

/-- The effects, once every account has been checked. -/
def settle (ledger : Ledger) (accounts : UnderwriterAccounts) (bump : UInt8) (amount : UInt64) :
    Except ProgramError Ledger := do
  let ledger ← openPosition context ledger accounts bump
  let position ← load UnderwriterPosition ledger accounts.position
  let position ← creditPosition position amount
  let ledger ← write context ledger accounts.position position
  let pool ← load CoveragePool ledger accounts.pool
  let pool ← creditPool pool amount
  let ledger ← write context ledger accounts.pool pool
  let ledger ← transferUserSigned context ledger accounts.underwriterToken accounts.vault
    accounts.underwriter amount
  let position ← load UnderwriterPosition ledger accounts.position
  let ledger ← write context ledger accounts.position
    { position with depositTimestamp := context.now }
  let pool ← load CoveragePool ledger accounts.pool
  write context ledger accounts.pool { pool with updatedAt := context.now }

/-- Neither the config's nor the pool's owner is checked. -/
def deposit (ledger : Ledger) (accounts : UnderwriterAccounts) (data : List UInt8) :
    Except ProgramError Ledger := do
  failIf (context.signer accounts.underwriter = false) .missingRequiredSignature
  failIf (context.writable accounts.underwriter = false) .invalidAccountData
  failIf (context.writable accounts.pool = false ∨ context.writable accounts.vault = false ∨
    context.writable accounts.position = false ∨
    context.writable accounts.underwriterToken = false) .invalidAccountData
  let amount ← decodeU64 data
  let config ← load ProtocolConfig ledger accounts.config
  failIf (config.paused ≠ 0) ↑PactError.protocolPaused
  failIf (amount = 0) ↑PactError.zeroAmount
  failIf (amount < config.minPoolDeposit) ↑PactError.belowMinimumDeposit
  let pool ← load CoveragePool ledger accounts.pool
  failIf (accounts.vault ≠ pool.vault) ↑PactError.tokenAccountMismatch
  failIf ((ledger accounts.underwriterToken).owner ≠ tokenProgram) ↑PactError.tokenAccountMismatch
  checkUnderwriterToken ledger accounts pool
  let (expected, bump) ← crypto.derive (.position accounts.pool accounts.underwriter)
  failIf (accounts.position ≠ expected) .invalidSeeds
  settle context ledger accounts bump amount

def process (ledger : Ledger) (accounts : List Address) (data : List UInt8) :
    Except ProgramError Ledger :=
  match accounts with
  | config :: pool :: vault :: position :: underwriterToken :: underwriter :: token :: system ::
      _ => do
      failIf (token ≠ tokenProgram) .incorrectProgramId
      failIf (system ≠ systemProgram) .incorrectProgramId
      deposit crypto context ledger
        ⟨config, pool, vault, position, underwriterToken, underwriter⟩ data
  | _ => .error .notEnoughAccountKeys

end Deposit

/-! ## withdraw -/

namespace Withdraw

def debitPosition (position : UnderwriterPosition) (amount : UInt64) :
    Except ProgramError UnderwriterPosition := do
  let deposited ← okOr (checkedSub position.deposited amount) ↑PactError.arithmeticOverflow
  .ok { position with deposited }

def debitPool (pool : CoveragePool) (now : Int64) (amount : UInt64) :
    Except ProgramError CoveragePool := do
  let totalDeposited ← okOr (checkedSub pool.totalDeposited amount) ↑PactError.arithmeticOverflow
  let totalAvailable ← okOr (checkedSub pool.totalAvailable amount) ↑PactError.arithmeticOverflow
  .ok { pool with totalDeposited, totalAvailable, updatedAt := now }

theorem debitPosition_eq_ok {position result : UnderwriterPosition} {amount : UInt64} :
    debitPosition position amount = .ok result ↔ ∃ deposited : UInt64,
      position.deposited.toNat = deposited.toNat + amount.toNat ∧
        result = { position with deposited } := by
  simp only [debitPosition, bind_eq_ok, okOr_eq_ok, checkedSub_eq_some, Except.ok.injEq]
  exact exists_congr fun _ => and_congr_right fun _ => eq_comm

theorem debitPool_eq_ok {pool result : CoveragePool} {now : Int64} {amount : UInt64} :
    debitPool pool now amount = .ok result ↔ ∃ totalDeposited totalAvailable : UInt64,
      pool.totalDeposited.toNat = totalDeposited.toNat + amount.toNat ∧
        pool.totalAvailable.toNat = totalAvailable.toNat + amount.toNat ∧
        result = { pool with totalDeposited, totalAvailable, updatedAt := now } := by
  simp only [debitPool, bind_eq_ok, okOr_eq_ok, checkedSub_eq_some, Except.ok.injEq,
    exists_and_left]
  exact exists_congr fun _ => and_congr_right fun _ => exists_congr fun _ =>
    and_congr_right fun _ => eq_comm

def cooldown (config : ProtocolConfig) : Int64 :=
  max config.withdrawalCooldownSeconds absoluteMinWithdrawalCooldown

def checkPosition (now : Int64) (underwriter : Address) (config : ProtocolConfig)
    (position : UnderwriterPosition) (amount : UInt64) : Except ProgramError Unit := do
  failIf (position.underwriter ≠ underwriter) ↑PactError.unauthorized
  let elapsed ← okOr (checkedSubI64 now position.depositTimestamp) ↑PactError.arithmeticOverflow
  failIf (elapsed < cooldown config) ↑PactError.withdrawalUnderCooldown
  failIf (position.deposited < amount) ↑PactError.insufficientPoolBalance

/-- The effects, once every account has been checked. -/
def settle (ledger : Ledger) (accounts : UnderwriterAccounts) (pool : CoveragePool)
    (amount : UInt64) : Except ProgramError Ledger := do
  let ledger ← transferPoolSigned crypto context ledger accounts.vault accounts.underwriterToken
    accounts.pool amount pool
  let position ← load UnderwriterPosition ledger accounts.position
  let position ← debitPosition position amount
  let ledger ← write context ledger accounts.position position
  let pool ← load CoveragePool ledger accounts.pool
  let pool ← debitPool pool context.now amount
  write context ledger accounts.pool pool

def withdraw (ledger : Ledger) (accounts : UnderwriterAccounts) (data : List UInt8) :
    Except ProgramError Ledger := do
  failIf (context.signer accounts.underwriter = false) .missingRequiredSignature
  failIf (context.writable accounts.pool = false ∨ context.writable accounts.vault = false ∨
    context.writable accounts.position = false ∨
    context.writable accounts.underwriterToken = false) .invalidAccountData
  failIf ((ledger accounts.pool).owner ≠ programId) ↑PactError.unauthorized
  failIf ((ledger accounts.position).owner ≠ programId) ↑PactError.unauthorized
  failIf ((ledger accounts.underwriterToken).owner ≠ tokenProgram) ↑PactError.tokenAccountMismatch
  let amount ← decodeU64 data
  failIf (amount = 0) ↑PactError.zeroAmount
  let config ← load ProtocolConfig ledger accounts.config
  let (expected, _) ← crypto.derive (.position accounts.pool accounts.underwriter)
  failIf (accounts.position ≠ expected) .invalidSeeds
  let position ← load UnderwriterPosition ledger accounts.position
  checkPosition context.now accounts.underwriter config position amount
  let pool ← load CoveragePool ledger accounts.pool
  failIf (pool.totalAvailable < amount) ↑PactError.withdrawalWouldUnderfund
  failIf (accounts.vault ≠ pool.vault) ↑PactError.tokenAccountMismatch
  checkUnderwriterToken ledger accounts pool
  settle crypto context ledger accounts pool amount

def process (ledger : Ledger) (accounts : List Address) (data : List UInt8) :
    Except ProgramError Ledger :=
  match accounts with
  | config :: pool :: vault :: position :: underwriterToken :: underwriter :: token :: _ ::
      _ => do
      failIf (token ≠ tokenProgram) .incorrectProgramId
      withdraw crypto context ledger
        ⟨config, pool, vault, position, underwriterToken, underwriter⟩ data
  | _ => .error .notEnoughAccountKeys

end Withdraw

end Handlers

end PactNetwork.V2
