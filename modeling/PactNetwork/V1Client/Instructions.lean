import PactNetwork.Foundation.Buffer
import PactNetwork.V1.Program

/-!
# The client's settle_batch

`buildSettleBatchIx` and `accountListForBatch` of the TypeScript client. A
bigint or a number is an integer, whatever its range; writing one that does not
fit throws.
-/

set_option autoImplicit false

namespace PactNetwork.V1Client

open Solana

/-! ## Node buffers -/

inductive ClientError where
  /-- `new Error(message)`. -/
  | error (message : String)
  /-- A `RangeError` of a buffer write. -/
  | outOfRange
  deriving DecidableEq

/-- `writeUInt16LE`, `writeUInt32LE` and `writeBigUInt64LE`, by width. -/
def writeUInt (width : Nat) (data : List UInt8) (value : Int) (offset : Nat) :
    Except ClientError (List UInt8) := do
  failIf (value < 0 ∨ value ≥ 256 ^ width) .outOfRange
  .ok (blit data offset (leBytes width value.toNat))

def writeBigInt64LE (data : List UInt8) (value : Int) (offset : Nat) :
    Except ClientError (List UInt8) := do
  failIf (value < -2 ^ 63 ∨ value ≥ 2 ^ 63) .outOfRange
  .ok (blit data offset (leBytes 8 (value % 2 ^ 64).toNat))

/-! ## Events -/

structure SettlementEvent where
  callId : List UInt8
  agentOwner : Address
  agentAta : Address
  endpointConfig : Address
  coveragePool : Address
  poolVault : Address
  slug : List UInt8
  premiumLamports : Int
  refundLamports : Int
  latencyMs : Int
  breach : Bool
  timestamp : Int
  feeRecipientAtas : List Address
  deriving DecidableEq

def slugLen : Nat := 16

def callIdLen : Nat := 16

def asSlug (slug : List UInt8) : Except ClientError (List UInt8) :=
  if slug.length = slugLen then .ok slug
  else if slug.length > slugLen then .error (.error "slug must be <= 16 bytes")
  else .ok (blit (List.replicate slugLen 0) 0 slug)

def asCallId (callId : List UInt8) : Except ClientError (List UInt8) :=
  if callId.length ≠ callIdLen then .error (.error "call_id must be exactly 16 bytes")
  else .ok callId

/-! ## The instruction -/

structure AccountMeta where
  pubkey : Address
  isSigner : Bool
  isWritable : Bool
  deriving DecidableEq

structure TransactionInstruction where
  programId : Address
  keys : List AccountMeta
  data : List UInt8
  deriving DecidableEq

structure SettleBatchParams where
  programId : Option Address
  settler : Address
  settlementAuthority : Address
  protocolConfig : Address
  events : List SettlementEvent
  callRecordPdas : List Address
  deriving DecidableEq

def settleEventBytes : Nat := 104

def discSettleBatch : UInt8 := 10

def writeEvent (data : List UInt8) (off : Nat) (ev : SettlementEvent) :
    Except ClientError (List UInt8) := do
  let callId ← asCallId ev.callId
  let data := blit data off callId
  let data := blit data (off + 16) ev.agentOwner.toList
  let slug ← asSlug ev.slug
  let data := blit data (off + 48) slug
  let data ← writeUInt 8 data ev.premiumLamports (off + 64)
  let data ← writeUInt 8 data ev.refundLamports (off + 72)
  let data ← writeUInt 4 data ev.latencyMs (off + 80)
  let data := blit data (off + 84) [if ev.breach then 1 else 0]
  -- Storing into a `Buffer` keeps the low byte.
  let data := blit data (off + 85) [UInt8.ofNat ev.feeRecipientAtas.length]
  writeBigInt64LE data ev.timestamp (off + 92)

def writeEvents (data : List UInt8) (i : Nat) :
    List SettlementEvent → Except ClientError (List UInt8)
  | [] => .ok data
  | ev :: rest => do
      let data ← writeEvent data (3 + i * settleEventBytes) ev
      writeEvents data (i + 1) rest

def fixedKeys (settler settlementAuthority protocolConfig : Address) : List AccountMeta :=
  [⟨settler, true, true⟩, ⟨settlementAuthority, false, false⟩, ⟨tokenProgram, false, false⟩,
    ⟨systemProgram, false, false⟩, ⟨protocolConfig, false, false⟩]

def eventKeys (ev : SettlementEvent) (callRecordPda : Address) : List AccountMeta :=
  [⟨callRecordPda, false, true⟩, ⟨ev.coveragePool, false, true⟩, ⟨ev.poolVault, false, true⟩,
    ⟨ev.endpointConfig, false, true⟩, ⟨ev.agentAta, false, true⟩] ++
    ev.feeRecipientAtas.map fun fa => ⟨fa, false, true⟩

def buildSettleBatchIx (p : SettleBatchParams) : Except ClientError TransactionInstruction := do
  failIf (p.events.length ≠ p.callRecordPdas.length)
    (.error (s!"callRecordPdas length ({p.callRecordPdas.length}) " ++
      s!"must equal events length ({p.events.length})"))
  let data := List.replicate (1 + 2 + p.events.length * settleEventBytes) 0
  let data := blit data 0 [discSettleBatch]
  let data ← writeUInt 2 data p.events.length 1
  let data ← writeEvents data 0 p.events
  .ok ⟨p.programId.getD V1.programId,
    fixedKeys p.settler p.settlementAuthority p.protocolConfig ++
      (List.zipWith eventKeys p.events p.callRecordPdas).flatten, data⟩

def accountListForBatch (events : List SettlementEvent) (callRecordPdas : List Address)
    (settler settlementAuthority protocolConfig : Address) :
    Except ClientError (List AccountMeta) := do
  failIf (events.length ≠ callRecordPdas.length)
    (.error (s!"events ({events.length}) and callRecordPdas ({callRecordPdas.length}) " ++
      "must align"))
  .ok (fixedKeys settler settlementAuthority protocolConfig ++
    (List.zipWith eventKeys events callRecordPdas).flatten)

end PactNetwork.V1Client
