import PactNetwork.V1.Administration
import PactNetwork.V1.Refinement

/-!
# Endpoints and their pools

`register_endpoint`, `update_endpoint_config`, `update_fee_recipients`,
`pause_endpoint` and `top_up_coverage_pool`.
-/

set_option autoImplicit false

namespace PactNetwork.V1

open Solana

section Handlers

variable (addresses : Addresses) (context : Context)

/-! ## register_endpoint -/

namespace RegisterEndpoint

structure Args where
  slug : Slug
  flatPremiumLamports : UInt64
  percentBps : UInt16
  slaLatencyMs : UInt32
  imputedCostLamports : UInt64
  exposureCapPerHourLamports : UInt64
  feeRecipientsPresent : UInt8
  feeRecipientCount : UInt8

def Args.layout : Layout Args :=
  ((Layout.bytes 16).pair <| Layout.u64.pair <| Layout.u16.pair <| Layout.u32.pair <|
    Layout.u64.pair <| Layout.u64.pair <| Layout.u8.pair Layout.u8).map
  { toFun := fun (slug, flatPremiumLamports, percentBps, slaLatencyMs, imputedCostLamports,
      exposureCapPerHourLamports, feeRecipientsPresent, feeRecipientCount) =>
      ⟨slug, flatPremiumLamports, percentBps, slaLatencyMs, imputedCostLamports,
        exposureCapPerHourLamports, feeRecipientsPresent, feeRecipientCount⟩
    invFun := fun args =>
      (args.slug, args.flatPremiumLamports, args.percentBps, args.slaLatencyMs,
        args.imputedCostLamports, args.exposureCapPerHourLamports, args.feeRecipientsPresent,
        args.feeRecipientCount)
    left_inv := fun _ => rfl
    right_inv := fun _ => rfl }

theorem Args.layout_size : Args.layout.size = 48 := rfl

/-- The explicit entries, or a copy of the default template. -/
def chooseEntries (config : ProtocolConfig) (args : Args) (data : List UInt8) :
    Except ProgramError (FeeRecipients × UInt8) :=
  if args.feeRecipientsPresent = 1 then do
    failIf (data.length < 48 + args.feeRecipientCount.toNat * FeeRecipient.layout.size)
      .invalidInstructionData
    let (entries, _) ←
      Fee.parseAndValidate (data.drop 48) args.feeRecipientCount.toNat config.maxTotalFeeBps
    .ok (entries, args.feeRecipientCount)
  else do
    failIf (config.defaultFeeRecipientCount.toNat > maxFeeRecipients)
      (↑PactError.feeRecipientArrayTooLong)
    .ok (config.defaultFeeRecipients, config.defaultFeeRecipientCount)

theorem chooseEntries_spec {config : ProtocolConfig} {args : Args} {data : List UInt8}
    {entries : FeeRecipients} {count : UInt8}
    (template : Fee.WithinBounds
      (config.defaultFeeRecipients.toList.take config.defaultFeeRecipientCount.toNat)
      config.maxTotalFeeBps.toNat)
    (chosen : chooseEntries config args data = .ok (entries, count)) :
    Fee.WithinBounds (entries.toList.take count.toNat) config.maxTotalFeeBps.toNat := by
  unfold chooseEntries at chosen
  split at chosen
  case isTrue explicit =>
    simp only [bind_eq_ok, Prod.exists, Except.ok.injEq, Prod.mk.injEq] at chosen
    obtain ⟨_, -, parsed, sumBps, accepted, rfl, rfl⟩ := chosen
    exact (Fee.parseAndValidate_spec accepted).2
  case isFalse default =>
    simp only [bind_eq_ok, Except.ok.injEq, Prod.mk.injEq] at chosen
    obtain ⟨_, -, rfl, rfl⟩ := chosen
    exact template

theorem chooseEntries_known {config : ProtocolConfig} {args : Args} {data : List UInt8}
    {entries : FeeRecipients} {count : UInt8}
    (template : Fee.Known config.defaultFeeRecipientCount config.defaultFeeRecipients)
    (chosen : chooseEntries config args data = .ok (entries, count)) :
    Fee.Known count entries := by
  unfold chooseEntries at chosen
  split at chosen
  case isTrue explicit =>
    simp only [bind_eq_ok, Prod.exists, Except.ok.injEq, Prod.mk.injEq] at chosen
    obtain ⟨_, -, parsed, sumBps, accepted, rfl, rfl⟩ := chosen
    exact Fee.parseAndValidate_known accepted
  case isFalse default =>
    simp only [bind_eq_ok, Except.ok.injEq, Prod.mk.injEq] at chosen
    obtain ⟨_, -, rfl, rfl⟩ := chosen
    exact template

def pool (addresses : Addresses) (now : Int64) (args : Args) (authority mint vault : Address) :
    CoveragePool where
  bump := addresses.bump (.coveragePool args.slug)
  padding0 := List.Vector.replicate 7 0
  authority := authority
  usdcMint := mint
  usdcVault := vault
  endpointSlug := args.slug
  totalDeposits := 0
  totalPremiums := 0
  totalRefunds := 0
  currentBalance := 0
  createdAt := now

def endpoint (addresses : Addresses) (now : Int64) (args : Args) (pool : Address)
    (entries : FeeRecipients) (count : UInt8) : EndpointConfig where
  bump := addresses.bump (.endpointConfig args.slug)
  paused := 0
  padding0 := List.Vector.replicate 6 0
  slug := args.slug
  flatPremiumLamports := args.flatPremiumLamports
  percentBps := args.percentBps
  padding1 := List.Vector.replicate 6 0
  slaLatencyMs := args.slaLatencyMs
  padding2 := List.Vector.replicate 4 0
  imputedCostLamports := args.imputedCostLamports
  exposureCapPerHourLamports := args.exposureCapPerHourLamports
  currentPeriodStart := now
  currentPeriodRefunds := 0
  totalCalls := 0
  totalBreaches := 0
  totalPremiums := 0
  totalRefunds := 0
  lastUpdated := now
  coveragePool := pool
  feeRecipientCount := count
  padding3 := List.Vector.replicate 7 0
  feeRecipients := entries

/-- The accounts `register_endpoint` names. -/
structure Accounts where
  authority : Address
  protocolConfig : Address
  treasury : Address
  endpoint : Address
  pool : Address
  poolVault : Address
  mint : Address
  systemProgram : Address
  tokenProgram : Address

/-- Create the pool, bind its vault, create the endpoint, write both. -/
def create (ledger : Ledger) (accounts : Accounts) (args : Args) (entries : FeeRecipients)
    (count : UInt8) : Except ProgramError Ledger := do
  failIf (accounts.endpoint ≠ addresses.of (.endpointConfig args.slug)) .invalidSeeds
  failIf ((ledger accounts.endpoint).data ≠ []) (↑PactError.endpointAlreadyRegistered)
  failIf (accounts.pool ≠ addresses.of (.coveragePool args.slug)) .invalidSeeds
  failIf ((ledger accounts.pool).data ≠ []) (↑PactError.endpointAlreadyRegistered)
  let ledger ← createAccount context ledger accounts.authority accounts.pool
    (context.minimumBalance CoveragePool.layout.size) CoveragePool.layout.size programId
  let ledger ← initializeAccount3 context ledger accounts.poolVault accounts.mint accounts.pool
  let ledger ← createAccount context ledger accounts.authority accounts.endpoint
    (context.minimumBalance EndpointConfig.layout.size) EndpointConfig.layout.size programId
  let ledger ← save CoveragePool.layout programId context ledger accounts.pool
    (pool addresses context.now args accounts.authority accounts.mint accounts.poolVault)
  save EndpointConfig.layout programId context ledger accounts.endpoint
    (endpoint addresses context.now args accounts.pool entries count)

def register (ledger : Ledger) (accounts : Accounts) (tail : List Address) (data : List UInt8) :
    Except ProgramError Ledger := do
  failIf (data.length < Args.layout.size) .invalidInstructionData
  failIf (accounts.systemProgram ≠ Solana.systemProgram) .incorrectProgramId
  failIf (accounts.tokenProgram ≠ Solana.tokenProgram) .incorrectProgramId
  failIf (context.signer accounts.authority = false) .missingRequiredSignature
  failIf (context.writable accounts.authority = false ∨
    context.writable accounts.endpoint = false ∨ context.writable accounts.pool = false ∨
    context.writable accounts.poolVault = false) .invalidAccountData
  verifyProtocolConfig addresses ledger accounts.protocolConfig
  verifyTreasury addresses ledger accounts.treasury
  let config ← requireAuthority ledger accounts.protocolConfig accounts.authority
  failIf (config.usdcMint ≠ accounts.mint) (↑PactError.feeRecipientInvalidUsdcMint)
  let treasury ← okOr (structAt Treasury.layout ledger accounts.treasury)
    ↑PactError.treasuryNotInitialized
  let args := Args.layout.decode (data.take Args.layout.size)
  failIf (∃ byte ∈ args.slug.toList, byte ≠ 0 ∧ (byte < 0x20 ∨ byte > 0x7e))
    (↑PactError.invalidSlug)
  let (entries, count) ← chooseEntries config args data
  let resolved ← Fee.resolveRecipients ledger entries count.toNat treasury.usdcVault
    config.usdcMint tail
  create addresses context ledger accounts args resolved count

def process (ledger : Ledger) (accounts : List Address) (data : List UInt8) :
    Except ProgramError Ledger :=
  match accounts with
  | authority :: protocolConfig :: treasury :: endpoint :: pool :: poolVault :: mint ::
      systemProgram :: tokenProgram :: tail =>
      register addresses context ledger ⟨authority, protocolConfig, treasury, endpoint, pool,
        poolVault, mint, systemProgram, tokenProgram⟩ tail data
  | _ => .error .notEnoughAccountKeys

end RegisterEndpoint

/-! ## update_fee_recipients -/

namespace UpdateFeeRecipients

def process (ledger : Ledger) (accounts : List Address) (data : List UInt8) :
    Except ProgramError Ledger :=
  match accounts with
  | authority :: protocolConfig :: treasury :: endpoint :: tail => do
      failIf (data.length < 17) .invalidInstructionData
      failIf (context.signer authority = false) .missingRequiredSignature
      failIf (context.writable endpoint = false) .invalidAccountData
      verifyProtocolConfig addresses ledger protocolConfig
      verifyTreasury addresses ledger treasury
      let config ← requireAuthority ledger protocolConfig authority
      let stored ← okOr (structAt Treasury.layout ledger treasury)
        ↑PactError.treasuryNotInitialized
      let slug : Slug := (Layout.bytes 16).decode (data.take 16)
      let count := (data[16]?).getD 0
      failIf (data.length ≠ 17 + count.toNat * FeeRecipient.layout.size) .invalidInstructionData
      failIf (count.toNat > maxFeeRecipients) (↑PactError.feeRecipientArrayTooLong)
      let (entries, _) ←
        Fee.parseAndValidate (data.drop 17) count.toNat config.maxTotalFeeBps
      let resolved ←
        Fee.resolveRecipients ledger entries count.toNat stored.usdcVault config.usdcMint tail
      failIf (endpoint ≠ addresses.of (.endpointConfig slug)) .invalidSeeds
      let state ← okOr (structAt EndpointConfig.layout ledger endpoint) .invalidAccountData
      save EndpointConfig.layout programId context ledger endpoint
        { state with
          feeRecipientCount := count
          feeRecipients := resolved
          lastUpdated := context.now }
  | _ => .error .notEnoughAccountKeys

end UpdateFeeRecipients

/-! ## update_endpoint_config -/

namespace UpdateEndpointConfig

/-- The instruction data: five fields behind presence flags. -/
structure Args where
  flatPremiumLamports : UInt8 × UInt64
  percentBps : UInt8 × UInt16
  slaLatencyMs : UInt8 × UInt32
  imputedCostLamports : UInt8 × UInt64
  exposureCapPerHourLamports : UInt8 × UInt64

def Args.layout : Layout Args :=
  ((Layout.u8.pair Layout.u64).pair <| (Layout.u8.pair Layout.u16).pair <|
    (Layout.u8.pair Layout.u32).pair <| (Layout.u8.pair Layout.u64).pair <|
    Layout.u8.pair Layout.u64).map
  { toFun := fun (flatPremiumLamports, percentBps, slaLatencyMs, imputedCostLamports,
      exposureCapPerHourLamports) =>
      ⟨flatPremiumLamports, percentBps, slaLatencyMs, imputedCostLamports,
        exposureCapPerHourLamports⟩
    invFun := fun args =>
      (args.flatPremiumLamports, args.percentBps, args.slaLatencyMs, args.imputedCostLamports,
        args.exposureCapPerHourLamports)
    left_inv := fun _ => rfl
    right_inv := fun _ => rfl }

theorem Args.layout_size : Args.layout.size = 35 := rfl

def choose {α : Type} (field : UInt8 × α) (stored : α) : α :=
  if field.1 = 1 then field.2 else stored

def apply (endpoint : EndpointConfig) (args : Args) (now : Int64) : EndpointConfig :=
  { endpoint with
    flatPremiumLamports := choose args.flatPremiumLamports endpoint.flatPremiumLamports
    percentBps := choose args.percentBps endpoint.percentBps
    slaLatencyMs := choose args.slaLatencyMs endpoint.slaLatencyMs
    imputedCostLamports := choose args.imputedCostLamports endpoint.imputedCostLamports
    exposureCapPerHourLamports :=
      choose args.exposureCapPerHourLamports endpoint.exposureCapPerHourLamports
    lastUpdated := now }

/-- The endpoint's address is not checked, only its size. -/
def process (ledger : Ledger) (accounts : List Address) (data : List UInt8) :
    Except ProgramError Ledger :=
  match accounts with
  | authority :: protocolConfig :: endpoint :: _ => do
      failIf (data.length ≠ Args.layout.size) .invalidInstructionData
      failIf (context.signer authority = false) .missingRequiredSignature
      failIf (context.writable endpoint = false) .invalidAccountData
      verifyProtocolConfig addresses ledger protocolConfig
      let _ ← requireAuthority ledger protocolConfig authority
      let state ← okOr (structAt EndpointConfig.layout ledger endpoint) .invalidAccountData
      save EndpointConfig.layout programId context ledger endpoint
        (apply state (Args.layout.decode data) context.now)
  | _ => .error .notEnoughAccountKeys

end UpdateEndpointConfig

/-! ## pause_endpoint -/

namespace PauseEndpoint

/-- Here too the endpoint's address is not checked. -/
def process (ledger : Ledger) (accounts : List Address) (data : List UInt8) :
    Except ProgramError Ledger :=
  match accounts with
  | authority :: protocolConfig :: endpoint :: _ => do
      failIf (data.length ≠ 1) .invalidInstructionData
      failIf (context.signer authority = false) .missingRequiredSignature
      failIf (context.writable endpoint = false) .invalidAccountData
      verifyProtocolConfig addresses ledger protocolConfig
      let _ ← requireAuthority ledger protocolConfig authority
      let state ← okOr (structAt EndpointConfig.layout ledger endpoint) .invalidAccountData
      save EndpointConfig.layout programId context ledger endpoint
        { state with paused := (data[0]?).getD 0 }
  | _ => .error .notEnoughAccountKeys

end PauseEndpoint

/-! ## top_up_coverage_pool -/

namespace TopUpCoveragePool

def deposit (pool : CoveragePool) (amount : UInt64) : Except ProgramError CoveragePool := do
  let currentBalance ← okOr (checkedAdd pool.currentBalance amount) ↑PactError.arithmeticOverflow
  let totalDeposits ← okOr (checkedAdd pool.totalDeposits amount) ↑PactError.arithmeticOverflow
  .ok { pool with currentBalance, totalDeposits }

theorem deposit_spec {pool result : CoveragePool} {amount : UInt64}
    (deposited : deposit pool amount = .ok result) :
    result.SameTerms pool ∧ result.ledger = { pool.ledger with
      balance := pool.ledger.balance + amount.toNat
      deposits := pool.ledger.deposits + amount.toNat } := by
  simp only [deposit, bind_eq_ok, okOr_eq_ok, checkedAdd_eq_some, Except.ok.injEq] at deposited
  obtain ⟨balance, sum, deposits, total, rfl⟩ := deposited
  refine ⟨rfl, ?_⟩
  simp only [CoveragePool.ledger, sum, total]

def process (ledger : Ledger) (accounts : List Address) (data : List UInt8) :
    Except ProgramError Ledger :=
  match accounts with
  | authority :: pool :: authorityAta :: poolVault :: tokenProgram :: _ => do
      failIf (data.length ≠ 24) .invalidInstructionData
      failIf (tokenProgram ≠ Solana.tokenProgram) .incorrectProgramId
      failIf (context.signer authority = false) .missingRequiredSignature
      failIf (context.writable pool = false ∨ context.writable authorityAta = false ∨
        context.writable poolVault = false) .invalidAccountData
      let slug : Slug := (Layout.bytes 16).decode (data.take 16)
      let amount := Layout.u64.decode (data.drop 16)
      failIf (pool ≠ addresses.of (.coveragePool slug)) .invalidSeeds
      let state ← okOr (structAt CoveragePool.layout ledger pool) .invalidAccountData
      failIf (state.authority ≠ authority) (↑PactError.unauthorizedAuthority)
      failIf (state.usdcVault ≠ poolVault) .invalidAccountData
      let ledger ← transfer context ledger authorityAta poolVault authority amount
      let state ← borrow CoveragePool.layout ledger pool
      let state ← deposit state amount
      save CoveragePool.layout programId context ledger pool state
  | _ => .error .notEnoughAccountKeys

end TopUpCoveragePool

end Handlers

end PactNetwork.V1
