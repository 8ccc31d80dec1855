import PactNetwork.Foundation.Buffer
import PactNetwork.V1.State
import PactNetwork.V1Client.Instructions

/-!
# The client's account decoders

The decoders of the TypeScript client, by their hand-written offsets. A number
is a natural number and a bigint an integer; public keys come out as base58
strings, whose rendering is a parameter.
-/

set_option autoImplicit false

namespace PactNetwork.V1Client

open Solana

/-! ## Reading -/

/-- `bytes[offset]`, `getUint16`, `getUint32` and `getBigUint64`, by width. -/
def getUint (width : Nat) (bytes : List UInt8) (offset : Nat) : Nat :=
  leNat (slice bytes offset width)

def getBigInt64 (bytes : List UInt8) (offset : Nat) : Int :=
  let bits := getUint 8 bytes offset
  if bits < 2 ^ 63 then bits else bits - 2 ^ 64

abbrev Pubkey := String

def needBytes (decoder : String) (len : Nat) (bytes : List UInt8) : Except ClientError Unit :=
  failIf (bytes.length < len) (.error s!"{decoder}: need {len} bytes, got {bytes.length}")

/-! ## Shapes -/

/-- `kind` is the value of a `FeeRecipientKind`. -/
structure FeeRecipient where
  kind : Nat
  destination : Pubkey
  bps : Nat
  deriving DecidableEq

structure CoveragePool where
  bump : Nat
  authority : Pubkey
  usdcMint : Pubkey
  usdcVault : Pubkey
  endpointSlug : List UInt8
  totalDeposits : Int
  totalPremiums : Int
  totalRefunds : Int
  currentBalance : Int
  createdAt : Int
  deriving DecidableEq

structure EndpointConfig where
  bump : Nat
  paused : Bool
  slug : List UInt8
  flatPremiumLamports : Int
  percentBps : Nat
  slaLatencyMs : Nat
  imputedCostLamports : Int
  exposureCapPerHourLamports : Int
  currentPeriodStart : Int
  currentPeriodRefunds : Int
  totalCalls : Int
  totalBreaches : Int
  totalPremiums : Int
  totalRefunds : Int
  lastUpdated : Int
  coveragePool : Pubkey
  feeRecipientCount : Nat
  feeRecipients : List FeeRecipient
  deriving DecidableEq

/-- `settlementStatus` is the value of a `SettlementStatus`. -/
structure CallRecord where
  bump : Nat
  breach : Bool
  settlementStatus : Nat
  callId : List UInt8
  agent : Pubkey
  endpointSlug : List UInt8
  premiumLamports : Int
  refundLamports : Int
  actualRefundLamports : Int
  latencyMs : Nat
  timestamp : Int
  deriving DecidableEq

structure SettlementAuthority where
  bump : Nat
  signer : Pubkey
  setAt : Int
  deriving DecidableEq

structure Treasury where
  bump : Nat
  authority : Pubkey
  usdcVault : Pubkey
  setAt : Int
  deriving DecidableEq

structure ProtocolConfig where
  bump : Nat
  authority : Pubkey
  usdcMint : Pubkey
  maxTotalFeeBps : Nat
  defaultFeeRecipientCount : Nat
  paused : Nat
  defaultFeeRecipients : List FeeRecipient
  deriving DecidableEq

/-! ## Decoders -/

def feeRecipientLen : Nat := 48

def maxFeeRecipients : Nat := 8

section Decoders

variable (toBase58 : List UInt8 → Pubkey)

def readPubkey (bytes : List UInt8) (offset : Nat) : Pubkey :=
  toBase58 (slice bytes offset 32)

def decodeFeeRecipient (bytes : List UInt8) (offset : Nat) : Except ClientError FeeRecipient := do
  failIf (bytes.length < offset + feeRecipientLen) (.error
    (s!"decodeFeeRecipient: need {feeRecipientLen} bytes at offset {offset}, " ++
      s!"got {(bytes.length : Int) - offset}"))
  let kindByte := getUint 1 bytes offset
  failIf (kindByte > 2) (.error s!"decodeFeeRecipient: unknown kind {kindByte}")
  .ok {
    kind := kindByte
    destination := readPubkey toBase58 bytes (offset + 8)
    bps := getUint 2 bytes (offset + 40) }

def decodeFeeRecipientArray (bytes : List UInt8) (baseOffset count : Nat) :
    Except ClientError (List FeeRecipient) := do
  failIf (count > maxFeeRecipients)
    (.error s!"fee_recipient_count {count} > MAX_FEE_RECIPIENTS {maxFeeRecipients}")
  (List.range count).mapM fun i =>
    decodeFeeRecipient toBase58 bytes (baseOffset + i * feeRecipientLen)

def decodeCoveragePool (bytes : List UInt8) : Except ClientError CoveragePool := do
  needBytes "decodeCoveragePool" 160 bytes
  .ok {
    bump := getUint 1 bytes 0
    authority := readPubkey toBase58 bytes 8
    usdcMint := readPubkey toBase58 bytes 40
    usdcVault := readPubkey toBase58 bytes 72
    endpointSlug := slice bytes 104 16
    totalDeposits := getUint 8 bytes 120
    totalPremiums := getUint 8 bytes 128
    totalRefunds := getUint 8 bytes 136
    currentBalance := getUint 8 bytes 144
    createdAt := getBigInt64 bytes 152 }

def decodeEndpointConfig (bytes : List UInt8) : Except ClientError EndpointConfig := do
  needBytes "decodeEndpointConfig" 544 bytes
  let feeRecipientCount := getUint 1 bytes 152
  let feeRecipients ← decodeFeeRecipientArray toBase58 bytes 160 feeRecipientCount
  .ok {
    bump := getUint 1 bytes 0
    paused := getUint 1 bytes 1 ≠ 0
    slug := slice bytes 8 16
    flatPremiumLamports := getUint 8 bytes 24
    percentBps := getUint 2 bytes 32
    slaLatencyMs := getUint 4 bytes 40
    imputedCostLamports := getUint 8 bytes 48
    exposureCapPerHourLamports := getUint 8 bytes 56
    currentPeriodStart := getBigInt64 bytes 64
    currentPeriodRefunds := getUint 8 bytes 72
    totalCalls := getUint 8 bytes 80
    totalBreaches := getUint 8 bytes 88
    totalPremiums := getUint 8 bytes 96
    totalRefunds := getUint 8 bytes 104
    lastUpdated := getBigInt64 bytes 112
    coveragePool := readPubkey toBase58 bytes 120
    feeRecipientCount := feeRecipientCount
    feeRecipients := feeRecipients }

def decodeCallRecord (bytes : List UInt8) : Except ClientError CallRecord := do
  needBytes "decodeCallRecord" 112 bytes
  let statusByte := getUint 1 bytes 2
  failIf (statusByte > 3) (.error s!"decodeCallRecord: unknown settlement_status {statusByte}")
  .ok {
    bump := getUint 1 bytes 0
    breach := getUint 1 bytes 1 ≠ 0
    settlementStatus := statusByte
    callId := slice bytes 8 16
    agent := readPubkey toBase58 bytes 24
    endpointSlug := slice bytes 56 16
    premiumLamports := getUint 8 bytes 72
    refundLamports := getUint 8 bytes 80
    actualRefundLamports := getUint 8 bytes 88
    latencyMs := getUint 4 bytes 96
    timestamp := getBigInt64 bytes 104 }

def decodeSettlementAuthority (bytes : List UInt8) : Except ClientError SettlementAuthority := do
  needBytes "decodeSettlementAuthority" 48 bytes
  .ok {
    bump := getUint 1 bytes 0
    signer := readPubkey toBase58 bytes 8
    setAt := getBigInt64 bytes 40 }

def decodeTreasury (bytes : List UInt8) : Except ClientError Treasury := do
  needBytes "decodeTreasury" 80 bytes
  .ok {
    bump := getUint 1 bytes 0
    authority := readPubkey toBase58 bytes 8
    usdcVault := readPubkey toBase58 bytes 40
    setAt := getBigInt64 bytes 72 }

def decodeProtocolConfig (bytes : List UInt8) : Except ClientError ProtocolConfig := do
  needBytes "decodeProtocolConfig" 464 bytes
  let count := getUint 1 bytes 74
  let defaultFeeRecipients ← decodeFeeRecipientArray toBase58 bytes 80 count
  .ok {
    bump := getUint 1 bytes 0
    authority := readPubkey toBase58 bytes 8
    usdcMint := readPubkey toBase58 bytes 40
    maxTotalFeeBps := getUint 2 bytes 72
    defaultFeeRecipientCount := count
    paused := getUint 1 bytes 75
    defaultFeeRecipients := defaultFeeRecipients }

end Decoders

end PactNetwork.V1Client
