import PactNetwork.Evm.PactPool

/-!
# PactSettler

`settleBatch` and the economic half of an event, `_settleSuccess`. An event
yields the log it emits together with the fees it paid out.
-/

set_option autoImplicit false

namespace PactNetwork.Evm

structure SettlementEvent where
  callId : CallId
  agent : Address
  endpointSlug : Slug
  premium : UInt64
  refund : UInt64
  latencyMs : UInt32
  breach : Bool
  feeRecipientCountHint : UInt8
  timestamp : UInt64
  deriving DecidableEq

/-- The event `CallSettled`. -/
structure CallSettled where
  callId : CallId
  slug : Slug
  agent : Address
  premium : UInt64
  refund : UInt64
  actualRefund : UInt64
  status : Settlement.Status
  breach : Bool
  latencyMs : UInt32
  timestamp : UInt64
  deriving DecidableEq

def SettlementEvent.log (event : SettlementEvent) (actualRefund : UInt64)
    (status : Settlement.Status) : CallSettled where
  callId := event.callId
  slug := event.endpointSlug
  agent := event.agent
  premium := event.premium
  refund := event.refund
  actualRefund := actualRefund
  status := status
  breach := event.breach
  latencyMs := event.latencyMs
  timestamp := event.timestamp

/-- What one event did: its log, the fees paid out in order, and the amount
debited for them. -/
structure Receipt where
  log : CallSettled
  fees : List (Address × UInt64)
  feesDebited : UInt64
  deriving DecidableEq

namespace PactSettler

/-- `uint64(uint256(premium) * bps / 10_000)`; the cast truncates. -/
def feeAmount (premium : UInt64) (bps : UInt16) : UInt64 :=
  UInt64.ofNat (premium.toNat * bps.toNat / 10000)

section Calls

variable {τ : Type} (usdc : Erc20 τ) (deployment : Deployment)

/-- The fee fan-out loop, from the total and the payouts so far. -/
def payFees (premium : UInt64) :
    List FeeRecipient → World τ → UInt64 → List (Address × UInt64) →
      Except EvmError (World τ × UInt64 × List (Address × UInt64))
  | [], world, totalFeePaid, paid => .ok (world, totalFeePaid, paid)
  | recipient :: rest, world, totalFeePaid, paid =>
      let amount := feeAmount premium recipient.bps
      if amount = 0 then payFees premium rest world totalFeePaid paid
      else do
        let world ← PactPool.payout usdc deployment world deployment.settler
          recipient.destination amount
        let totalFeePaid ← ckAdd totalFeePaid amount
        payFees premium rest world totalFeePaid (paid ++ [(recipient.destination, amount)])

def debitFees (world : World τ) (slug : Slug) (totalFeePaid : UInt64) :
    Except EvmError (World τ) :=
  if totalFeePaid > 0 then PactPool.debitForFees world deployment.settler slug totalFeePaid
  else .ok world

/-- Pay the refund if the pool's ledger covers it. -/
def payRefund (world : World τ) (event : SettlementEvent) (payableRefund : UInt64)
    (status : Settlement.Status) :
    Except EvmError (World τ × UInt64 × Settlement.Status) :=
  if payableRefund > 0 then do
    let state ← PactPool.balanceOf world event.endpointSlug
    if state.currentBalance < payableRefund then .ok (world, 0, .poolDepleted)
    else do
      let world ← PactPool.payout usdc deployment world deployment.settler event.agent
        payableRefund
      let world ← PactPool.debitForRefund world deployment.settler event.endpointSlug
        payableRefund
      .ok (world, payableRefund, status)
  else .ok (world, 0, status)

def recordRefund (world : World τ) (slug : Slug) (actualRefund : UInt64) :
    Except EvmError (World τ) :=
  if actualRefund > 0 then do
    let registry ← world.registry.recordRefundPaid deployment.settler slug actualRefund
    .ok { world with registry }
  else .ok world

/-- `_settleSuccess`; `config` is the snapshot read before the premium came in. -/
def settleSuccess (world : World τ) (timestamp : UInt64) (event : SettlementEvent)
    (config : EndpointConfig) : Except EvmError (World τ × Receipt) := do
  let world ← PactPool.creditPremium world deployment.settler event.endpointSlug event.premium
  let (registry, payableRefund) ← world.registry.recordCallAndCapAccrual deployment.settler
    timestamp event.endpointSlug event.premium event.breach event.refund
  let status : Settlement.Status :=
    if payableRefund < event.refund then .exposureCapClamped else .settled
  let (world, totalFeePaid, fees) ←
    payFees usdc deployment event.premium config.recipients { world with registry } 0 []
  let world ← debitFees deployment world event.endpointSlug totalFeePaid
  let (world, actualRefund, status) ←
    payRefund usdc deployment world event payableRefund status
  let world ← recordRefund deployment world event.endpointSlug actualRefund
  .ok (world, ⟨event.log actualRefund status, fees, totalFeePaid⟩)

/-- The hard reverts of one event, up to the fee-count check. -/
def checkEvent (world : World τ) (timestamp : UInt64) (event : SettlementEvent) :
    Except EvmError EndpointConfig := do
  failIf (event.timestamp > timestamp) .invalidTimestamp
  failIf (event.premium < ProtocolInvariants.minPremium) .premiumTooSmall
  failIf (event.feeRecipientCountHint > ProtocolInvariants.maxFeeRecipients)
    .feeRecipientArrayTooLong
  failIf (world.settler.settledCallIds event.callId = true) .duplicateCallId
  let config := world.registry.endpoints event.endpointSlug
  failIf (config.paused = true) .endpointPaused
  failIf (config.feeRecipientCount ≠ event.feeRecipientCountHint) .recipientCoverageMismatch
  .ok config

def markSettled (world : World τ) (callId : CallId) : World τ :=
  { world with settler := { world.settler with
      settledCallIds := Function.update world.settler.settledCallIds callId true } }

/-- One turn of the loop. A premium that cannot be pulled, for whatever
reason, ends the event as `delegateFailed`. -/
def settleEvent (world : World τ) (timestamp : UInt64) (event : SettlementEvent) :
    Except EvmError (World τ × Receipt) := do
  let config ← checkEvent world timestamp event
  let world := markSettled world event.callId
  match usdc.transferFrom world.token deployment.settler event.agent deployment.pool
      event.premium.toNat with
  | none => .ok (world, ⟨event.log 0 .delegateFailed, [], 0⟩)
  | some token => settleSuccess usdc deployment { world with token } timestamp event config

def settleStep (timestamp : UInt64) (state : World τ × List Receipt) (event : SettlementEvent) :
    Except EvmError (World τ × List Receipt) := do
  let (world, receipt) ← settleEvent usdc deployment state.1 timestamp event
  .ok (world, state.2 ++ [receipt])

def settleBatch (world : World τ) (sender : Address) (timestamp : UInt64)
    (events : List SettlementEvent) : Except EvmError (World τ × List Receipt) := do
  onlyRole world.settler.settlerRole sender
  failIf (world.registry.protocolPaused = true) .protocolPaused
  failIf (events.length > ProtocolInvariants.maxBatchSize) .batchTooLarge
  events.foldlM (settleStep usdc deployment timestamp) (world, [])

end Calls

end PactSettler

end PactNetwork.Evm
