import PactNetwork.V2.State

/-!
# Instruction arguments

The hand-written Borsh decoders, as cursors over the instruction data.
-/

set_option autoImplicit false

namespace PactNetwork.V2

open Solana

/-- A decoder moves along the data it has left, or rejects the instruction. -/
abbrev Cursor := StateT (List UInt8) (Except ProgramError)

namespace Cursor

variable {α : Type}

def reject (error : ProgramError) : Cursor α := fun _ => .error error

def take (count : Nat) : Cursor (List UInt8) := fun data =>
  if data.length < count then .error .invalidInstructionData
  else .ok (data.take count, data.drop count)

def read (layout : Layout α) : Cursor α := do
  let bytes ← take layout.size
  return layout.decode bytes

def readString : Cursor (List UInt8) := do
  let length ← read Layout.u32
  take length.toNat

def readTag : Cursor UInt8 := do
  let tag ← read Layout.u8
  if tag = 0 ∨ tag = 1 then return tag else reject .invalidInstructionData

def option (inner : Cursor α) : Cursor (Option α) := do
  let tag ← readTag
  if tag = 0 then return none else some <$> inner

def decode (cursor : Cursor α) (data : List UInt8) : Except ProgramError α := do
  let (value, rest) ← cursor data
  failIf (rest ≠ []) .invalidInstructionData
  return value

end Cursor

def buffer (size : Nat) (bytes : List UInt8) : Bytes size :=
  ⟨(bytes ++ List.replicate size 0).take size, by simp⟩

open Cursor

structure CreatePoolArgs where
  hostname : List UInt8
  insuranceRateBps : Option UInt16
  maxCoveragePerCall : Option UInt64

def CreatePoolArgs.cursor : Cursor CreatePoolArgs := do
  let hostname ← readString
  if 64 < hostname.length then reject ↑PactError.hostnameTooLong else do
  let insuranceRateBps ← option (read Layout.u16)
  let maxCoveragePerCall ← option (read Layout.u64)
  return ⟨hostname, insuranceRateBps, maxCoveragePerCall⟩

structure EnableInsuranceArgs where
  agentId : List UInt8
  expiresAt : Int64
  referrer : Address
  referrerPresent : UInt8
  referrerShareBps : UInt16

def EnableInsuranceArgs.cursor : Cursor EnableInsuranceArgs := do
  let agentId ← readString
  if maxAgentIdLen < agentId.length then reject ↑PactError.agentIdTooLong else do
  let expiresAt ← read Layout.i64
  let referrer ← read (Layout.bytes 32)
  let referrerPresent ← readTag
  let referrerShareBps ← read Layout.u16
  return ⟨agentId, expiresAt, referrer, referrerPresent, referrerShareBps⟩

structure SubmitClaimArgs where
  callId : List UInt8
  triggerType : TriggerType
  evidenceHash : Bytes 32
  callTimestamp : Int64
  latencyMs : UInt32
  statusCode : UInt16
  paymentAmount : UInt64

def readTriggerType : Cursor TriggerType := do
  let raw ← read Layout.u8
  match raw.toNat with
  | 0 => return .timeout
  | 1 => return .error
  | 2 => return .schemaMismatch
  | 3 => return .latencySla
  | _ => reject ↑PactError.invalidTriggerType

def SubmitClaimArgs.cursor : Cursor SubmitClaimArgs := do
  let callId ← readString
  if maxCallIdLen < callId.length then reject ↑PactError.callIdTooLong else do
  let triggerType ← readTriggerType
  let evidenceHash ← read (Layout.bytes 32)
  let callTimestamp ← read Layout.i64
  let latencyMs ← read Layout.u32
  let statusCode ← read Layout.u16
  let paymentAmount ← read Layout.u64
  return ⟨callId, triggerType, evidenceHash, callTimestamp, latencyMs, statusCode, paymentAmount⟩

/-- `UpdateConfigPatch`. -/
structure UpdateConfigPatch where
  protocolFeeBps : Option UInt16
  minPoolDeposit : Option UInt64
  defaultInsuranceRateBps : Option UInt16
  defaultMaxCoveragePerCall : Option UInt64
  minPremiumBps : Option UInt16
  withdrawalCooldownSeconds : Option Int64
  aggregateCapBps : Option UInt16
  aggregateCapWindowSeconds : Option Int64
  claimWindowSeconds : Option Int64
  maxClaimsPerBatch : Option UInt8
  paused : Option UInt8
  treasury : Option Address
  usdcMint : Option Address

/-- `decode_opt_bool` takes the same two bytes for its payload as for its tag. -/
def UpdateConfigPatch.cursor : Cursor UpdateConfigPatch := do
  let protocolFeeBps ← option (read Layout.u16)
  let minPoolDeposit ← option (read Layout.u64)
  let defaultInsuranceRateBps ← option (read Layout.u16)
  let defaultMaxCoveragePerCall ← option (read Layout.u64)
  let minPremiumBps ← option (read Layout.u16)
  let withdrawalCooldownSeconds ← option (read Layout.i64)
  let aggregateCapBps ← option (read Layout.u16)
  let aggregateCapWindowSeconds ← option (read Layout.i64)
  let claimWindowSeconds ← option (read Layout.i64)
  let maxClaimsPerBatch ← option (read Layout.u8)
  let paused ← option readTag
  let treasury ← option (read (Layout.bytes 32))
  let usdcMint ← option (read (Layout.bytes 32))
  return ⟨protocolFeeBps, minPoolDeposit, defaultInsuranceRateBps, defaultMaxCoveragePerCall,
    minPremiumBps, withdrawalCooldownSeconds, aggregateCapBps, aggregateCapWindowSeconds,
    claimWindowSeconds, maxClaimsPerBatch, paused, treasury, usdcMint⟩

def decodeU64 (data : List UInt8) : Except ProgramError UInt64 := do
  failIf (data.length ≠ 8) .invalidInstructionData
  .ok (Layout.u64.decode data)

end PactNetwork.V2
