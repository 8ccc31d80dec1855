import PactNetwork.Solana.Token

/-!
# V2 account layouts

The zero-copy account structs of the V2 program, its constants and its errors.
-/

set_option autoImplicit false

namespace PactNetwork.V2

open Solana

def programId : Address :=
  ⟨[99, 177, 24, 239, 105, 44, 126, 87, 170, 84, 229, 189, 177, 25, 41, 255,
    30, 127, 216, 71, 20, 150, 178, 71, 226, 127, 248, 97, 175, 228, 153, 173], rfl⟩

def deployerPubkey : Address :=
  ⟨[67, 93, 202, 7, 54, 210, 203, 176, 125, 109, 147, 247, 93, 101, 90, 214,
    213, 158, 211, 240, 178, 207, 171, 223, 17, 75, 1, 177, 213, 18, 230, 174], rfl⟩

/-! ## Constants -/

def absoluteMinWithdrawalCooldown : Int64 := 3600
def absoluteMaxAggregateCapBps : UInt16 := 8000
def absoluteMaxProtocolFeeBps : UInt16 := 3000
def absoluteMinClaimWindow : Int64 := 60
def absoluteMinPoolDeposit : UInt64 := 1000000
def maxAgentIdLen : Nat := 64
def maxCallIdLen : Nat := 64
def maxReferrerShareBps : UInt16 := 3000
def defaultProtocolFeeBps : UInt16 := 1500
def defaultMinPoolDeposit : UInt64 := 100000000
def defaultInsuranceRateBps : UInt16 := 25
def defaultMaxCoveragePerCall : UInt64 := 1000000
def defaultMinPremiumBps : UInt16 := 5
def defaultWithdrawalCooldown : Int64 := 604800
def defaultAggregateCapBps : UInt16 := 3000
def defaultAggregateCapWindow : Int64 := 86400
def defaultClaimWindow : Int64 := 3600
def defaultMaxClaimsPerBatch : UInt8 := 10

inductive PactError where
  | protocolPaused
  | poolAlreadyExists
  | policyAlreadyExists
  | delegationMissing
  | delegationInsufficient
  | tokenAccountMismatch
  | policyInactive
  | insufficientPoolBalance
  | insufficientPrepaidBalance
  | withdrawalUnderCooldown
  | withdrawalWouldUnderfund
  | aggregateCapExceeded
  | claimWindowExpired
  | duplicateClaim
  | invalidRate
  | hostnameTooLong
  | agentIdTooLong
  | callIdTooLong
  | unauthorized
  | invalidTriggerType
  | zeroAmount
  | belowMinimumDeposit
  | configSafetyFloorViolation
  | arithmeticOverflow
  | unauthorizedDeployer
  | unauthorizedOracle
  | frozenConfigField
  | rateOutOfBounds
  | rateBelowFloor
  | policyExpired
  | invalidOracleKey
  deriving DecidableEq, Repr

/-- `PACT_ERROR_BASE` and the position among the variants. -/
def PactError.code (error : PactError) : Nat := 6000 + error.ctorIdx

/-- `From<PactError> for ProgramError`. -/
instance : Coe PactError ProgramError := ⟨fun error => .custom error.code⟩

/-! ## Zero-copy structs -/

/-- A struct that fills its account, with its discriminator in the first byte. -/
class Pod (α : Type) where
  layout : Layout α
  discriminator : UInt8
  /-- The struct's `discriminator` field. -/
  tag : α → UInt8
  head_encode : ∀ value, (layout.encode value).head? = some (tag value)

/-- `try_cast`: length and discriminator are all that is checked. -/
def tryFromBytes (α : Type) [Pod α] (data : List UInt8) : Except ProgramError α := do
  failIf (data.length ≠ (Pod.layout (α := α)).size) .invalidAccountData
  failIf (data.head? ≠ some (Pod.discriminator α)) .invalidAccountData
  .ok (Pod.layout.decode data)

@[simp] theorem tryFromBytes_eq_ok {α : Type} [Pod α] {data : List UInt8} {value : α} :
    tryFromBytes α data = .ok value ↔
      data = Pod.layout.encode value ∧ Pod.tag value = Pod.discriminator α := by
  simp only [tryFromBytes, bind_eq_ok, failIf_eq_ok, ne_eq, not_not, Except.ok.injEq,
    exists_const]
  constructor
  · rintro ⟨sized, tagged, rfl⟩
    have encoded := Pod.layout.encode_decode data sized
    refine ⟨encoded.symm, ?_⟩
    rw [← encoded, Pod.head_encode, Option.some.injEq] at tagged
    exact tagged
  · rintro ⟨rfl, tagged⟩
    refine ⟨Pod.layout.length_encode value, ?_, Pod.layout.decode_encode value⟩
    rw [Pod.head_encode, tagged]

structure ProtocolConfig where
  discriminator : UInt8
  pad : Bytes 7
  authority : Address
  oracle : Address
  treasury : Address
  usdcMint : Address
  minPoolDeposit : UInt64
  defaultMaxCoveragePerCall : UInt64
  withdrawalCooldownSeconds : Int64
  aggregateCapWindowSeconds : Int64
  claimWindowSeconds : Int64
  protocolFeeBps : UInt16
  defaultInsuranceRateBps : UInt16
  minPremiumBps : UInt16
  aggregateCapBps : UInt16
  maxClaimsPerBatch : UInt8
  paused : UInt8
  bump : UInt8
  padTail : Bytes 5
  reserved : Bytes 64

instance : Pod ProtocolConfig where
  layout :=
    (Layout.u8.pair <| (Layout.bytes 7).pair <| (Layout.bytes 32).pair <|
      (Layout.bytes 32).pair <| (Layout.bytes 32).pair <| (Layout.bytes 32).pair <|
      Layout.u64.pair <| Layout.u64.pair <| Layout.i64.pair <| Layout.i64.pair <|
      Layout.i64.pair <| Layout.u16.pair <| Layout.u16.pair <| Layout.u16.pair <|
      Layout.u16.pair <| Layout.u8.pair <| Layout.u8.pair <| Layout.u8.pair <|
      (Layout.bytes 5).pair <| Layout.bytes 64).map
    { toFun := fun (discriminator, pad, authority, oracle, treasury, usdcMint, minPoolDeposit,
        defaultMaxCoveragePerCall, withdrawalCooldownSeconds, aggregateCapWindowSeconds,
        claimWindowSeconds, protocolFeeBps, defaultInsuranceRateBps, minPremiumBps,
        aggregateCapBps, maxClaimsPerBatch, paused, bump, padTail, reserved) =>
        ⟨discriminator, pad, authority, oracle, treasury, usdcMint, minPoolDeposit,
          defaultMaxCoveragePerCall, withdrawalCooldownSeconds, aggregateCapWindowSeconds,
          claimWindowSeconds, protocolFeeBps, defaultInsuranceRateBps, minPremiumBps,
          aggregateCapBps, maxClaimsPerBatch, paused, bump, padTail, reserved⟩
      invFun := fun config =>
        (config.discriminator, config.pad, config.authority, config.oracle, config.treasury,
          config.usdcMint, config.minPoolDeposit, config.defaultMaxCoveragePerCall,
          config.withdrawalCooldownSeconds, config.aggregateCapWindowSeconds,
          config.claimWindowSeconds, config.protocolFeeBps, config.defaultInsuranceRateBps,
          config.minPremiumBps, config.aggregateCapBps, config.maxClaimsPerBatch, config.paused,
          config.bump, config.padTail, config.reserved)
      left_inv := fun _ => rfl
      right_inv := fun _ => rfl }
  discriminator := 0
  tag := ProtocolConfig.discriminator
  head_encode _ := Layout.head_encode_u8_pair _ _

theorem ProtocolConfig.size_layout : (Pod.layout (α := ProtocolConfig)).size = 256 := rfl

/-- `vaultBump` is `_pad_tail[0]`. -/
structure CoveragePool where
  discriminator : UInt8
  pad : Bytes 7
  authority : Address
  usdcMint : Address
  vault : Address
  providerHostname : Bytes 64
  totalDeposited : UInt64
  totalAvailable : UInt64
  totalPremiumsEarned : UInt64
  totalClaimsPaid : UInt64
  maxCoveragePerCall : UInt64
  payoutsThisWindow : UInt64
  windowStart : Int64
  createdAt : Int64
  updatedAt : Int64
  activePolicies : UInt32
  insuranceRateBps : UInt16
  minPremiumBps : UInt16
  providerHostnameLen : UInt8
  bump : UInt8
  vaultBump : UInt8
  padTail : Bytes 5
  reserved : Bytes 64

instance : Pod CoveragePool where
  layout :=
    (Layout.u8.pair <| (Layout.bytes 7).pair <| (Layout.bytes 32).pair <|
      (Layout.bytes 32).pair <| (Layout.bytes 32).pair <| (Layout.bytes 64).pair <|
      Layout.u64.pair <| Layout.u64.pair <| Layout.u64.pair <| Layout.u64.pair <|
      Layout.u64.pair <| Layout.u64.pair <| Layout.i64.pair <| Layout.i64.pair <|
      Layout.i64.pair <| Layout.u32.pair <| Layout.u16.pair <| Layout.u16.pair <|
      Layout.u8.pair <| Layout.u8.pair <| Layout.u8.pair <| (Layout.bytes 5).pair <|
      Layout.bytes 64).map
    { toFun := fun (discriminator, pad, authority, usdcMint, vault, providerHostname,
        totalDeposited, totalAvailable, totalPremiumsEarned, totalClaimsPaid, maxCoveragePerCall,
        payoutsThisWindow, windowStart, createdAt, updatedAt, activePolicies, insuranceRateBps,
        minPremiumBps, providerHostnameLen, bump, vaultBump, padTail, reserved) =>
        ⟨discriminator, pad, authority, usdcMint, vault, providerHostname, totalDeposited,
          totalAvailable, totalPremiumsEarned, totalClaimsPaid, maxCoveragePerCall,
          payoutsThisWindow, windowStart, createdAt, updatedAt, activePolicies, insuranceRateBps,
          minPremiumBps, providerHostnameLen, bump, vaultBump, padTail, reserved⟩
      invFun := fun pool =>
        (pool.discriminator, pool.pad, pool.authority, pool.usdcMint, pool.vault,
          pool.providerHostname, pool.totalDeposited, pool.totalAvailable,
          pool.totalPremiumsEarned, pool.totalClaimsPaid, pool.maxCoveragePerCall,
          pool.payoutsThisWindow, pool.windowStart, pool.createdAt, pool.updatedAt,
          pool.activePolicies, pool.insuranceRateBps, pool.minPremiumBps,
          pool.providerHostnameLen, pool.bump, pool.vaultBump, pool.padTail, pool.reserved)
      left_inv := fun _ => rfl
      right_inv := fun _ => rfl }
  discriminator := 1
  tag := CoveragePool.discriminator
  head_encode _ := Layout.head_encode_u8_pair _ _

theorem CoveragePool.size_layout : (Pod.layout (α := CoveragePool)).size = 320 := rfl

def CoveragePool.hostnameBytes (pool : CoveragePool) : List UInt8 :=
  pool.providerHostname.toList.take pool.providerHostnameLen.toNat

structure UnderwriterPosition where
  discriminator : UInt8
  pad : Bytes 7
  pool : Address
  underwriter : Address
  deposited : UInt64
  earnedPremiums : UInt64
  lossesAbsorbed : UInt64
  depositTimestamp : Int64
  lastClaimTimestamp : Int64
  bump : UInt8
  padTail : Bytes 7
  reserved : Bytes 64

instance : Pod UnderwriterPosition where
  layout :=
    (Layout.u8.pair <| (Layout.bytes 7).pair <| (Layout.bytes 32).pair <|
      (Layout.bytes 32).pair <| Layout.u64.pair <| Layout.u64.pair <| Layout.u64.pair <|
      Layout.i64.pair <| Layout.i64.pair <| Layout.u8.pair <| (Layout.bytes 7).pair <|
      Layout.bytes 64).map
    { toFun := fun (discriminator, pad, pool, underwriter, deposited, earnedPremiums,
        lossesAbsorbed, depositTimestamp, lastClaimTimestamp, bump, padTail, reserved) =>
        ⟨discriminator, pad, pool, underwriter, deposited, earnedPremiums, lossesAbsorbed,
          depositTimestamp, lastClaimTimestamp, bump, padTail, reserved⟩
      invFun := fun position =>
        (position.discriminator, position.pad, position.pool, position.underwriter,
          position.deposited, position.earnedPremiums, position.lossesAbsorbed,
          position.depositTimestamp, position.lastClaimTimestamp, position.bump, position.padTail,
          position.reserved)
      left_inv := fun _ => rfl
      right_inv := fun _ => rfl }
  discriminator := 2
  tag := UnderwriterPosition.discriminator
  head_encode _ := Layout.head_encode_u8_pair _ _

theorem UnderwriterPosition.size_layout : (Pod.layout (α := UnderwriterPosition)).size = 184 := rfl

structure Policy where
  discriminator : UInt8
  pad : Bytes 7
  agent : Address
  pool : Address
  agentTokenAccount : Address
  agentId : Bytes 64
  totalPremiumsPaid : UInt64
  totalClaimsReceived : UInt64
  callsCovered : UInt64
  createdAt : Int64
  expiresAt : Int64
  agentIdLen : UInt8
  active : UInt8
  bump : UInt8
  padTail : Bytes 5
  referrer : Address
  referrerShareBps : UInt16
  referrerPresent : UInt8
  padReferrer : Bytes 5
  linkedPolicy : Bytes 32
  policyKind : UInt8
  linkedPolicyPresent : UInt8
  discountScope : UInt8
  padDoubleCoverage : Bytes 5
  reserved : Bytes 24

instance : Pod Policy where
  layout :=
    (Layout.u8.pair <| (Layout.bytes 7).pair <| (Layout.bytes 32).pair <|
      (Layout.bytes 32).pair <| (Layout.bytes 32).pair <| (Layout.bytes 64).pair <|
      Layout.u64.pair <| Layout.u64.pair <| Layout.u64.pair <| Layout.i64.pair <|
      Layout.i64.pair <| Layout.u8.pair <| Layout.u8.pair <| Layout.u8.pair <|
      (Layout.bytes 5).pair <| (Layout.bytes 32).pair <| Layout.u16.pair <| Layout.u8.pair <|
      (Layout.bytes 5).pair <| (Layout.bytes 32).pair <| Layout.u8.pair <| Layout.u8.pair <|
      Layout.u8.pair <| (Layout.bytes 5).pair <| Layout.bytes 24).map
    { toFun := fun (discriminator, pad, agent, pool, agentTokenAccount, agentId,
        totalPremiumsPaid, totalClaimsReceived, callsCovered, createdAt, expiresAt, agentIdLen,
        active, bump, padTail, referrer, referrerShareBps, referrerPresent, padReferrer,
        linkedPolicy, policyKind, linkedPolicyPresent, discountScope, padDoubleCoverage,
        reserved) =>
        ⟨discriminator, pad, agent, pool, agentTokenAccount, agentId, totalPremiumsPaid,
          totalClaimsReceived, callsCovered, createdAt, expiresAt, agentIdLen, active, bump,
          padTail, referrer, referrerShareBps, referrerPresent, padReferrer, linkedPolicy,
          policyKind, linkedPolicyPresent, discountScope, padDoubleCoverage, reserved⟩
      invFun := fun policy =>
        (policy.discriminator, policy.pad, policy.agent, policy.pool, policy.agentTokenAccount,
          policy.agentId, policy.totalPremiumsPaid, policy.totalClaimsReceived,
          policy.callsCovered, policy.createdAt, policy.expiresAt, policy.agentIdLen,
          policy.active, policy.bump, policy.padTail, policy.referrer, policy.referrerShareBps,
          policy.referrerPresent, policy.padReferrer, policy.linkedPolicy, policy.policyKind,
          policy.linkedPolicyPresent, policy.discountScope, policy.padDoubleCoverage,
          policy.reserved)
      left_inv := fun _ => rfl
      right_inv := fun _ => rfl }
  discriminator := 3
  tag := Policy.discriminator
  head_encode _ := Layout.head_encode_u8_pair _ _

theorem Policy.size_layout : (Pod.layout (α := Policy)).size = 320 := rfl

inductive TriggerType where
  | timeout
  | error
  | schemaMismatch
  | latencySla
  deriving DecidableEq, Repr

def TriggerType.toU8 : TriggerType → UInt8
  | .timeout => 0
  | .error => 1
  | .schemaMismatch => 2
  | .latencySla => 3

inductive ClaimStatus where
  | pending
  | approved
  | rejected
  deriving DecidableEq, Repr

def ClaimStatus.toU8 : ClaimStatus → UInt8
  | .pending => 0
  | .approved => 1
  | .rejected => 2

structure Claim where
  discriminator : UInt8
  pad : Bytes 7
  policy : Address
  pool : Address
  agent : Address
  callId : Bytes 32
  evidenceHash : Bytes 32
  paymentAmount : UInt64
  refundAmount : UInt64
  callTimestamp : Int64
  createdAt : Int64
  resolvedAt : Int64
  latencyMs : UInt32
  statusCode : UInt16
  triggerType : UInt8
  status : UInt8
  bump : UInt8
  padTail : Bytes 7
  reserved : Bytes 64

instance : Pod Claim where
  layout :=
    (Layout.u8.pair <| (Layout.bytes 7).pair <| (Layout.bytes 32).pair <|
      (Layout.bytes 32).pair <| (Layout.bytes 32).pair <| (Layout.bytes 32).pair <|
      (Layout.bytes 32).pair <| Layout.u64.pair <| Layout.u64.pair <| Layout.i64.pair <|
      Layout.i64.pair <| Layout.i64.pair <| Layout.u32.pair <| Layout.u16.pair <|
      Layout.u8.pair <| Layout.u8.pair <| Layout.u8.pair <| (Layout.bytes 7).pair <|
      Layout.bytes 64).map
    { toFun := fun (discriminator, pad, policy, pool, agent, callId, evidenceHash, paymentAmount,
        refundAmount, callTimestamp, createdAt, resolvedAt, latencyMs, statusCode, triggerType,
        status, bump, padTail, reserved) =>
        ⟨discriminator, pad, policy, pool, agent, callId, evidenceHash, paymentAmount,
          refundAmount, callTimestamp, createdAt, resolvedAt, latencyMs, statusCode, triggerType,
          status, bump, padTail, reserved⟩
      invFun := fun claim =>
        (claim.discriminator, claim.pad, claim.policy, claim.pool, claim.agent, claim.callId,
          claim.evidenceHash, claim.paymentAmount, claim.refundAmount, claim.callTimestamp,
          claim.createdAt, claim.resolvedAt, claim.latencyMs, claim.statusCode, claim.triggerType,
          claim.status, claim.bump, claim.padTail, claim.reserved)
      left_inv := fun _ => rfl
      right_inv := fun _ => rfl }
  discriminator := 4
  tag := Claim.discriminator
  head_encode _ := Layout.head_encode_u8_pair _ _

theorem Claim.size_layout : (Pod.layout (α := Claim)).size = 288 := rfl

end PactNetwork.V2
