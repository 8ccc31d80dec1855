import PactNetwork.Solana.Token

/-!
# V1 account layouts

The `repr(C)` account structs of the V1 program, its constants and its errors.
Fields stand in memory order, padding included, so each layout is the struct.
-/

set_option autoImplicit false

namespace PactNetwork.V1

open Solana

abbrev Slug := Bytes 16
abbrev CallId := Bytes 16

def programId : Address :=
  ⟨[68, 49, 70, 190, 97, 129, 189, 18, 1, 253, 249, 31, 254, 250, 191, 30,
    198, 56, 130, 38, 123, 68, 140, 17, 229, 232, 213, 159, 113, 243, 37, 27], rfl⟩

def usdcMainnet : Address :=
  ⟨[198, 250, 122, 243, 190, 219, 173, 58, 61, 101, 243, 106, 171, 201, 116, 49,
    177, 187, 228, 194, 210, 246, 224, 228, 124, 166, 2, 3, 69, 47, 93, 97], rfl⟩

def usdcDevnet : Address :=
  ⟨[59, 68, 44, 179, 145, 33, 87, 241, 58, 147, 61, 1, 52, 40, 45, 3,
    43, 95, 254, 205, 1, 162, 219, 241, 183, 121, 6, 8, 223, 0, 46, 167], rfl⟩

def maxBatchSize : Nat := 50
def minPremiumLamports : UInt64 := 100
def absoluteFeeBpsCap : UInt16 := 10000
def defaultMaxTotalFeeBps : UInt16 := 3000
def maxFeeRecipients : Nat := 8

/-- `PactError`, with the codes of `code` below. -/
inductive PactError where
  | endpointPaused
  | unauthorizedSettler
  | unauthorizedAuthority
  | duplicateCallId
  | invalidTimestamp
  | batchTooLarge
  | premiumTooSmall
  | invalidSlug
  | arithmeticOverflow
  | feeRecipientArrayTooLong
  | feeBpsExceedsCap
  | feeBpsSumOver10k
  | feeRecipientDuplicateDestination
  | feeRecipientInvalidUsdcMint
  | multipleTreasuryRecipients
  | recipientCoverageMismatch
  | protocolConfigNotInitialized
  | treasuryNotInitialized
  | endpointAlreadyRegistered
  | invalidFeeRecipientKind
  | invalidProtocolConfig
  | invalidTreasury
  | missingTreasuryEntry
  | treasuryBpsZero
  | invalidAffiliateAta
  | protocolPaused
  | invalidSettlementAuthority
  deriving DecidableEq, Repr

def PactError.code : PactError → Nat
  | .endpointPaused => 6001
  | .unauthorizedSettler => 6005
  | .unauthorizedAuthority => 6006
  | .duplicateCallId => 6007
  | .invalidTimestamp => 6011
  | .batchTooLarge => 6012
  | .premiumTooSmall => 6013
  | .invalidSlug => 6014
  | .arithmeticOverflow => 6015
  | .feeRecipientArrayTooLong => 6016
  | .feeBpsExceedsCap => 6017
  | .feeBpsSumOver10k => 6018
  | .feeRecipientDuplicateDestination => 6019
  | .feeRecipientInvalidUsdcMint => 6020
  | .multipleTreasuryRecipients => 6021
  | .recipientCoverageMismatch => 6022
  | .protocolConfigNotInitialized => 6023
  | .treasuryNotInitialized => 6024
  | .endpointAlreadyRegistered => 6025
  | .invalidFeeRecipientKind => 6026
  | .invalidProtocolConfig => 6027
  | .invalidTreasury => 6028
  | .missingTreasuryEntry => 6029
  | .treasuryBpsZero => 6030
  | .invalidAffiliateAta => 6031
  | .protocolPaused => 6032
  | .invalidSettlementAuthority => 6033

/-- `From<PactError> for ProgramError`. -/
instance : Coe PactError ProgramError := ⟨fun error => .custom error.code⟩

/-! ## Fee recipients -/

inductive FeeRecipientKind where
  | treasury
  | affiliateAta
  | affiliatePda
  deriving DecidableEq, Repr

def FeeRecipientKind.fromU8 (value : UInt8) : Option FeeRecipientKind :=
  match value.toNat with
  | 0 => some .treasury
  | 1 => some .affiliateAta
  | 2 => some .affiliatePda
  | _ => none

def FeeRecipientKind.toU8 : FeeRecipientKind → UInt8
  | .treasury => 0
  | .affiliateAta => 1
  | .affiliatePda => 2

structure FeeRecipient where
  kind : UInt8
  pad0 : Bytes 7
  destination : Address
  bps : UInt16
  pad1 : Bytes 6
  deriving DecidableEq

namespace FeeRecipient

def layout : Layout FeeRecipient :=
  (Layout.u8.pair <| (Layout.bytes 7).pair <| (Layout.bytes 32).pair <| Layout.u16.pair <|
    Layout.bytes 6).map
  { toFun := fun (kind, pad0, destination, bps, pad1) => ⟨kind, pad0, destination, bps, pad1⟩
    invFun := fun entry => (entry.kind, entry.pad0, entry.destination, entry.bps, entry.pad1)
    left_inv := fun _ => rfl
    right_inv := fun _ => rfl }

theorem layout_size : layout.size = 48 := rfl

def zero : FeeRecipient :=
  ⟨0, List.Vector.replicate 7 0, List.Vector.replicate 32 0, 0, List.Vector.replicate 6 0⟩

end FeeRecipient

/-- `[FeeRecipient; MAX_FEE_RECIPIENTS]`. -/
abbrev FeeRecipients := List.Vector FeeRecipient 8

def feeRecipientsLayout : Layout FeeRecipients := FeeRecipient.layout.array 8

/-! ## Accounts -/

structure CoveragePool where
  bump : UInt8
  padding0 : Bytes 7
  authority : Address
  usdcMint : Address
  usdcVault : Address
  endpointSlug : Slug
  totalDeposits : UInt64
  totalPremiums : UInt64
  totalRefunds : UInt64
  currentBalance : UInt64
  createdAt : Int64
  deriving DecidableEq

namespace CoveragePool

def layout : Layout CoveragePool :=
  (Layout.u8.pair <| (Layout.bytes 7).pair <| (Layout.bytes 32).pair <|
    (Layout.bytes 32).pair <| (Layout.bytes 32).pair <| (Layout.bytes 16).pair <|
    Layout.u64.pair <| Layout.u64.pair <| Layout.u64.pair <| Layout.u64.pair Layout.i64).map
  { toFun := fun (bump, padding0, authority, usdcMint, usdcVault, endpointSlug, totalDeposits,
      totalPremiums, totalRefunds, currentBalance, createdAt) =>
      ⟨bump, padding0, authority, usdcMint, usdcVault, endpointSlug, totalDeposits,
        totalPremiums, totalRefunds, currentBalance, createdAt⟩
    invFun := fun pool =>
      (pool.bump, pool.padding0, pool.authority, pool.usdcMint, pool.usdcVault,
        pool.endpointSlug, pool.totalDeposits, pool.totalPremiums, pool.totalRefunds,
        pool.currentBalance, pool.createdAt)
    left_inv := fun _ => rfl
    right_inv := fun _ => rfl }

theorem layout_size : layout.size = 160 := rfl

end CoveragePool

structure EndpointConfig where
  bump : UInt8
  paused : UInt8
  padding0 : Bytes 6
  slug : Slug
  flatPremiumLamports : UInt64
  percentBps : UInt16
  padding1 : Bytes 6
  slaLatencyMs : UInt32
  padding2 : Bytes 4
  imputedCostLamports : UInt64
  exposureCapPerHourLamports : UInt64
  currentPeriodStart : Int64
  currentPeriodRefunds : UInt64
  totalCalls : UInt64
  totalBreaches : UInt64
  totalPremiums : UInt64
  totalRefunds : UInt64
  lastUpdated : Int64
  coveragePool : Address
  feeRecipientCount : UInt8
  padding3 : Bytes 7
  feeRecipients : FeeRecipients
  deriving DecidableEq

namespace EndpointConfig

def layout : Layout EndpointConfig :=
  (Layout.u8.pair <| Layout.u8.pair <| (Layout.bytes 6).pair <| (Layout.bytes 16).pair <|
    Layout.u64.pair <| Layout.u16.pair <| (Layout.bytes 6).pair <| Layout.u32.pair <|
    (Layout.bytes 4).pair <| Layout.u64.pair <| Layout.u64.pair <| Layout.i64.pair <|
    Layout.u64.pair <| Layout.u64.pair <| Layout.u64.pair <| Layout.u64.pair <|
    Layout.u64.pair <| Layout.i64.pair <| (Layout.bytes 32).pair <| Layout.u8.pair <|
    (Layout.bytes 7).pair feeRecipientsLayout).map
  { toFun := fun (bump, paused, padding0, slug, flatPremiumLamports, percentBps, padding1,
      slaLatencyMs, padding2, imputedCostLamports, exposureCapPerHourLamports,
      currentPeriodStart, currentPeriodRefunds, totalCalls, totalBreaches, totalPremiums,
      totalRefunds, lastUpdated, coveragePool, feeRecipientCount, padding3, feeRecipients) =>
      ⟨bump, paused, padding0, slug, flatPremiumLamports, percentBps, padding1,
        slaLatencyMs, padding2, imputedCostLamports, exposureCapPerHourLamports,
        currentPeriodStart, currentPeriodRefunds, totalCalls, totalBreaches, totalPremiums,
        totalRefunds, lastUpdated, coveragePool, feeRecipientCount, padding3, feeRecipients⟩
    invFun := fun endpoint =>
      (endpoint.bump, endpoint.paused, endpoint.padding0, endpoint.slug,
        endpoint.flatPremiumLamports, endpoint.percentBps, endpoint.padding1,
        endpoint.slaLatencyMs, endpoint.padding2, endpoint.imputedCostLamports,
        endpoint.exposureCapPerHourLamports, endpoint.currentPeriodStart,
        endpoint.currentPeriodRefunds, endpoint.totalCalls, endpoint.totalBreaches,
        endpoint.totalPremiums, endpoint.totalRefunds, endpoint.lastUpdated,
        endpoint.coveragePool, endpoint.feeRecipientCount, endpoint.padding3,
        endpoint.feeRecipients)
    left_inv := fun _ => rfl
    right_inv := fun _ => rfl }

theorem layout_size : layout.size = 544 := rfl

def recipients (endpoint : EndpointConfig) : List FeeRecipient :=
  endpoint.feeRecipients.toList.take endpoint.feeRecipientCount.toNat

end EndpointConfig

inductive SettlementStatus where
  | settled
  | delegateFailed
  | poolDepleted
  | exposureCapClamped
  deriving DecidableEq, Repr

def SettlementStatus.toU8 : SettlementStatus → UInt8
  | .settled => 0
  | .delegateFailed => 1
  | .poolDepleted => 2
  | .exposureCapClamped => 3

structure CallRecord where
  bump : UInt8
  breach : UInt8
  settlementStatus : UInt8
  padding0 : Bytes 5
  callId : CallId
  agent : Address
  endpointSlug : Slug
  premiumLamports : UInt64
  refundLamports : UInt64
  actualRefundLamports : UInt64
  latencyMs : UInt32
  padding1 : Bytes 4
  timestamp : Int64
  deriving DecidableEq

namespace CallRecord

def layout : Layout CallRecord :=
  (Layout.u8.pair <| Layout.u8.pair <| Layout.u8.pair <| (Layout.bytes 5).pair <|
    (Layout.bytes 16).pair <| (Layout.bytes 32).pair <| (Layout.bytes 16).pair <|
    Layout.u64.pair <| Layout.u64.pair <| Layout.u64.pair <| Layout.u32.pair <|
    (Layout.bytes 4).pair Layout.i64).map
  { toFun := fun (bump, breach, settlementStatus, padding0, callId, agent, endpointSlug,
      premiumLamports, refundLamports, actualRefundLamports, latencyMs, padding1, timestamp) =>
      ⟨bump, breach, settlementStatus, padding0, callId, agent, endpointSlug,
        premiumLamports, refundLamports, actualRefundLamports, latencyMs, padding1, timestamp⟩
    invFun := fun record =>
      (record.bump, record.breach, record.settlementStatus, record.padding0, record.callId,
        record.agent, record.endpointSlug, record.premiumLamports, record.refundLamports,
        record.actualRefundLamports, record.latencyMs, record.padding1, record.timestamp)
    left_inv := fun _ => rfl
    right_inv := fun _ => rfl }

theorem layout_size : layout.size = 112 := rfl

end CallRecord

structure SettlementAuthority where
  bump : UInt8
  padding0 : Bytes 7
  signer : Address
  setAt : Int64
  deriving DecidableEq

namespace SettlementAuthority

def layout : Layout SettlementAuthority :=
  (Layout.u8.pair <| (Layout.bytes 7).pair <| (Layout.bytes 32).pair Layout.i64).map
  { toFun := fun (bump, padding0, signer, setAt) => ⟨bump, padding0, signer, setAt⟩
    invFun := fun authority =>
      (authority.bump, authority.padding0, authority.signer, authority.setAt)
    left_inv := fun _ => rfl
    right_inv := fun _ => rfl }

theorem layout_size : layout.size = 48 := rfl

end SettlementAuthority

structure Treasury where
  bump : UInt8
  padding0 : Bytes 7
  authority : Address
  usdcVault : Address
  setAt : Int64
  deriving DecidableEq

namespace Treasury

def layout : Layout Treasury :=
  (Layout.u8.pair <| (Layout.bytes 7).pair <| (Layout.bytes 32).pair <|
    (Layout.bytes 32).pair Layout.i64).map
  { toFun := fun (bump, padding0, authority, usdcVault, setAt) =>
      ⟨bump, padding0, authority, usdcVault, setAt⟩
    invFun := fun treasury =>
      (treasury.bump, treasury.padding0, treasury.authority, treasury.usdcVault, treasury.setAt)
    left_inv := fun _ => rfl
    right_inv := fun _ => rfl }

theorem layout_size : layout.size = 80 := rfl

end Treasury

structure ProtocolConfig where
  bump : UInt8
  padding0 : Bytes 7
  authority : Address
  usdcMint : Address
  maxTotalFeeBps : UInt16
  defaultFeeRecipientCount : UInt8
  paused : UInt8
  padding1 : Bytes 4
  defaultFeeRecipients : FeeRecipients
  deriving DecidableEq

namespace ProtocolConfig

def layout : Layout ProtocolConfig :=
  (Layout.u8.pair <| (Layout.bytes 7).pair <| (Layout.bytes 32).pair <|
    (Layout.bytes 32).pair <| Layout.u16.pair <| Layout.u8.pair <| Layout.u8.pair <|
    (Layout.bytes 4).pair feeRecipientsLayout).map
  { toFun := fun (bump, padding0, authority, usdcMint, maxTotalFeeBps,
      defaultFeeRecipientCount, paused, padding1, defaultFeeRecipients) =>
      ⟨bump, padding0, authority, usdcMint, maxTotalFeeBps, defaultFeeRecipientCount, paused,
        padding1, defaultFeeRecipients⟩
    invFun := fun config =>
      (config.bump, config.padding0, config.authority, config.usdcMint, config.maxTotalFeeBps,
        config.defaultFeeRecipientCount, config.paused, config.padding1,
        config.defaultFeeRecipients)
    left_inv := fun _ => rfl
    right_inv := fun _ => rfl }

theorem layout_size : layout.size = 464 := rfl

end ProtocolConfig

end PactNetwork.V1
