import PactNetwork.Foundation.Chunks
import PactNetwork.Settler.MessageData

/-!
# The EVM adapter

The parts of `EvmAdapter` that read logs: its construction, and the tail of
finalized settlement events.
-/

set_option autoImplicit false

namespace PactNetwork.Adapters

open Chunks

/-- The adapter with its deployment. The constructor refuses an empty chunk. -/
structure EvmAdapter where
  chainId : Nat
  registry : Option String
  settler : Option String
  logRangeChunk : Nat
  chunkPositive : 0 < logRangeChunk

namespace EvmAdapter

def defaultLogRangeChunk : Int := 9500

/-- `new EvmAdapter`, with the chunk of the options or of the chain's descriptor. -/
def create (chainId : Nat) (registry settler : Option String) (option descriptor : Option Int) :
    Except String EvmAdapter :=
  let logRangeChunk := option.getD (descriptor.getD defaultLogRangeChunk)
  if positive : 0 < logRangeChunk then
    .ok ⟨chainId, registry, settler, logRangeChunk.toNat, by omega⟩
  else .error s!"EvmAdapter: logRangeChunk must be > 0 (got {logRangeChunk})"

end EvmAdapter

/-- What a node answers to the requests, which are numbered. -/
structure PublicClient (Log : Type) where
  /-- The number of the finalized block. -/
  getBlock : Nat → Except String (Option Nat)
  getContractEvents : Nat → Window → Except String (List Log)

def hexText (bytes : List UInt8) : String :=
  "0x" ++ String.ofList (bytes.flatMap Settler.byteHex)

/-! ## The tail of settlement events -/

structure CallSettledLog where
  callId : V1.CallId
  transactionHash : Option String
  blockNumber : Option Nat
  deriving DecidableEq

structure SettlementEvent where
  callId : String
  settlementSig : String
  blockOrSlot : String
  deriving DecidableEq

def CallSettledLog.event (log : CallSettledLog) (finalized : Nat) : SettlementEvent where
  callId := hexText log.callId.toList
  settlementSig := log.transactionHash.getD ""
  blockOrSlot := toString (log.blockNumber.getD finalized)

/-- What one turn of an asynchronous iteration brings. -/
inductive Tick (α : Type) where
  | yields (value : α)
  | waits
  | ends
  | throws (error : String)
  deriving DecidableEq

inductive TailState where
  | polling (fromBlock : Nat)
  | scanning (first finalized : Nat)
  | yielding (logs : List CallSettledLog) (next finalized : Nat)
  | stopped

namespace EvmAdapter

variable (adapter : EvmAdapter) (client : PublicClient CallSettledLog)

def tailStep (turn : Nat) : TailState → Tick SettlementEvent × TailState
  | .polling fromBlock =>
      match client.getBlock turn with
      | .error error => (.throws error, .stopped)
      | .ok none => (.waits, .polling fromBlock)
      | .ok (some finalized) =>
          -- The sweep leaves `fromBlock` behind the finalized block.
          (.waits, if fromBlock ≤ finalized then .scanning fromBlock finalized
            else .polling fromBlock)
  | .scanning first finalized =>
      if first ≤ finalized then
        match client.getContractEvents turn
            (Window.starting adapter.logRangeChunk finalized first) with
        | .error error => (.throws error, .stopped)
        | .ok logs => (.waits, .yielding logs (first + adapter.logRangeChunk) finalized)
      else (.waits, .polling (finalized + 1))
  | .yielding [] next finalized => (.waits, .scanning next finalized)
  | .yielding (log :: rest) next finalized =>
      (.yields (log.event finalized), .yielding rest next finalized)
  | .stopped => (.ends, .stopped)

def tailState (fromBlock : Nat) : Nat → TailState
  | 0 => .polling fromBlock
  | turn + 1 => (adapter.tailStep client turn (tailState fromBlock turn)).2

def tailSettlementEvents (fromBlock turn : Nat) : Tick SettlementEvent :=
  match adapter.settler with
  | none =>
      if turn = 0 then .throws
        s!"EvmAdapter.tailSettlementEvents: no settler address for chain {adapter.chainId}"
      else .ends
  | some _ => (adapter.tailStep client turn (adapter.tailState client fromBlock turn)).1

end EvmAdapter

end PactNetwork.Adapters
