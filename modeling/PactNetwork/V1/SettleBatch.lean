import PactNetwork.V1.Pda

/-!
# settle_batch

The handler, step by step in source order. The account cursor is the list of
accounts not yet consumed. Besides the ledger an event yields a receipt: its
CallRecord and the fees it paid.
-/

set_option autoImplicit false

namespace PactNetwork.V1

open Solana

structure SettlementEvent where
  callId : CallId
  agentOwner : Address
  endpointSlug : Slug
  premiumLamports : UInt64
  refundLamports : UInt64
  latencyMs : UInt32
  breach : UInt8
  feeCountHint : UInt8
  pad : Bytes 6
  timestamp : Int64
  pad2 : Bytes 4
  deriving DecidableEq

namespace SettlementEvent

def layout : Layout SettlementEvent :=
  ((Layout.bytes 16).pair <| (Layout.bytes 32).pair <| (Layout.bytes 16).pair <|
    Layout.u64.pair <| Layout.u64.pair <| Layout.u32.pair <| Layout.u8.pair <|
    Layout.u8.pair <| (Layout.bytes 6).pair <| Layout.i64.pair <| Layout.bytes 4).map
  { toFun := fun (callId, agentOwner, endpointSlug, premiumLamports, refundLamports, latencyMs,
      breach, feeCountHint, pad, timestamp, pad2) =>
      ⟨callId, agentOwner, endpointSlug, premiumLamports, refundLamports, latencyMs,
        breach, feeCountHint, pad, timestamp, pad2⟩
    invFun := fun event =>
      (event.callId, event.agentOwner, event.endpointSlug, event.premiumLamports,
        event.refundLamports, event.latencyMs, event.breach, event.feeCountHint, event.pad,
        event.timestamp, event.pad2)
    left_inv := fun _ => rfl
    right_inv := fun _ => rfl }

theorem layout_size : layout.size = 104 := rfl

/-- The record of an event that ended with `status`. -/
def record (event : SettlementEvent) (bump : UInt8) (status : SettlementStatus)
    (actualRefund : UInt64) : CallRecord where
  bump := bump
  breach := event.breach
  settlementStatus := status.toU8
  padding0 := List.Vector.replicate 5 0
  callId := event.callId
  agent := event.agentOwner
  endpointSlug := event.endpointSlug
  premiumLamports := event.premiumLamports
  refundLamports := event.refundLamports
  actualRefundLamports := actualRefund
  latencyMs := event.latencyMs
  padding1 := List.Vector.replicate 4 0
  timestamp := event.timestamp

end SettlementEvent

structure FixedAccounts where
  settlerSigner : Address
  settlementAuth : Address
  tokenProgram : Address
  systemProgram : Address
  protocolConfig : Address

def FixedAccounts.toList (fixed : FixedAccounts) : List Address :=
  [fixed.settlerSigner, fixed.settlementAuth, fixed.tokenProgram, fixed.systemProgram,
    fixed.protocolConfig]

structure EventAccounts where
  callRecord : Address
  coveragePool : Address
  poolVault : Address
  endpointConfig : Address
  agentAta : Address
  feeAtas : List Address

def EventAccounts.toList (accounts : EventAccounts) : List Address :=
  [accounts.callRecord, accounts.coveragePool, accounts.poolVault, accounts.endpointConfig,
    accounts.agentAta] ++ accounts.feeAtas

structure Receipt where
  record : CallRecord
  /-- The fees transferred, in order. -/
  fees : List (Address × UInt64)
  deriving DecidableEq

namespace SettleBatch

/-! ## Reading the instruction -/

def takeFixed : List Address → Except ProgramError (FixedAccounts × List Address)
  | settlerSigner :: settlementAuth :: tokenProgram :: systemProgram :: protocolConfig :: rest =>
      .ok (⟨settlerSigner, settlementAuth, tokenProgram, systemProgram, protocolConfig⟩, rest)
  | _ => .error .notEnoughAccountKeys

/-- The next `FIXED_PER_EVENT + fee_count_hint` accounts. -/
def takeEvent (feeCountHint : UInt8) :
    List Address → Except ProgramError (EventAccounts × List Address)
  | callRecord :: coveragePool :: poolVault :: endpointConfig :: agentAta :: rest =>
      if rest.length < feeCountHint.toNat then .error .notEnoughAccountKeys
      else .ok (⟨callRecord, coveragePool, poolVault, endpointConfig, agentAta,
        rest.take feeCountHint.toNat⟩, rest.drop feeCountHint.toNat)
  | _ => .error .notEnoughAccountKeys

def parseEvents (data : List UInt8) : Except ProgramError (List SettlementEvent) := do
  let eventCount := leNat (data.take 2)
  failIf (eventCount > maxBatchSize) (↑PactError.batchTooLarge)
  failIf (data.length < 2 + eventCount * SettlementEvent.layout.size) .invalidInstructionData
  .ok (SettlementEvent.layout.decodeArray eventCount (data.drop 2))

/-! ## Pure steps -/

def checkEvent (now : Int64) (event : SettlementEvent) : Except ProgramError Unit := do
  failIf (event.timestamp > now) (↑PactError.invalidTimestamp)
  failIf (event.premiumLamports < minPremiumLamports) (↑PactError.premiumTooSmall)
  failIf (event.feeCountHint.toNat > maxFeeRecipients) (↑PactError.feeRecipientArrayTooLong)

/-- The delegate pre-flight, straight off the agent account's bytes. Neither the
account's owner nor its amount is looked at. -/
def delegateOk (data : List UInt8) (settlementAuth : Address) (premium : UInt64) : Bool :=
  match TokenAccount.layout.read data with
  | none => false
  | some token =>
      token.state == 1 && token.delegateTag == 1 && token.delegate == settlementAuth &&
        decide (token.delegatedAmount ≥ premium)

/-- `(premium as u128 * bps / 10_000) as u64`; the cast truncates. -/
def feeAmount (premium : UInt64) (bps : UInt16) : UInt64 :=
  UInt64.ofNat (premium.toNat * bps.toNat / 10000)

def creditPremium (pool : CoveragePool) (premium : UInt64) :
    Except ProgramError CoveragePool := do
  let currentBalance ← okOr (checkedAdd pool.currentBalance premium) ↑PactError.arithmeticOverflow
  let totalPremiums ← okOr (checkedAdd pool.totalPremiums premium) ↑PactError.arithmeticOverflow
  .ok { pool with currentBalance, totalPremiums }

def debitPool (pool : CoveragePool) (amount : UInt64) : Except ProgramError CoveragePool := do
  let currentBalance ← okOr (checkedSub pool.currentBalance amount) ↑PactError.arithmeticOverflow
  .ok { pool with currentBalance }

def debitRefund (pool : CoveragePool) (amount : UInt64) : Except ProgramError CoveragePool := do
  let currentBalance ← okOr (checkedSub pool.currentBalance amount) ↑PactError.arithmeticOverflow
  let totalRefunds ← okOr (checkedAdd pool.totalRefunds amount) ↑PactError.arithmeticOverflow
  .ok { pool with currentBalance, totalRefunds }

def countBreach (totalBreaches : UInt64) (breach : UInt8) : Except ProgramError UInt64 :=
  if breach ≠ 0 then okOr (checkedAdd totalBreaches 1) ↑PactError.arithmeticOverflow
  else .ok totalBreaches

/-- The period reset. Overflow checks are on, so the sum panics past `i64::MAX`. -/
def rollPeriod (endpoint : EndpointConfig) (now : Int64) : Except ProgramError EndpointConfig :=
  if endpoint.currentPeriodStart.toInt + 3600 ≥ 2 ^ 63 then .error (.runtime .panic)
  else if now.toInt > endpoint.currentPeriodStart.toInt + 3600 then
    .ok { endpoint with currentPeriodStart := now, currentPeriodRefunds := 0 }
  else .ok endpoint

def clampRefund (endpoint : EndpointConfig) (refund : UInt64) : UInt64 :=
  if refund > 0 then
    let capRemaining :=
      saturatingSub endpoint.exposureCapPerHourLamports endpoint.currentPeriodRefunds
    if refund > capRemaining then capRemaining else refund
  else refund

def accrueRefund (currentPeriodRefunds refund : UInt64) : Except ProgramError UInt64 :=
  if refund > 0 then okOr (checkedAdd currentPeriodRefunds refund) ↑PactError.arithmeticOverflow
  else .ok currentPeriodRefunds

/-- The endpoint's statistics and the exposure cap; also the refund left. -/
def recordCall (endpoint : EndpointConfig) (now : Int64) (event : SettlementEvent) :
    Except ProgramError (EndpointConfig × UInt64) := do
  let totalCalls ← okOr (checkedAdd endpoint.totalCalls 1) ↑PactError.arithmeticOverflow
  let totalPremiums ← okOr (checkedAdd endpoint.totalPremiums event.premiumLamports)
    ↑PactError.arithmeticOverflow
  let totalBreaches ← countBreach endpoint.totalBreaches event.breach
  let rolled ← rollPeriod { endpoint with totalCalls, totalPremiums, totalBreaches } now
  let refund := clampRefund rolled event.refundLamports
  let currentPeriodRefunds ← accrueRefund rolled.currentPeriodRefunds refund
  .ok ({ rolled with currentPeriodRefunds }, refund)

def recordRefund (endpoint : EndpointConfig) (amount : UInt64) :
    Except ProgramError EndpointConfig := do
  let totalRefunds ← okOr (checkedAdd endpoint.totalRefunds amount) ↑PactError.arithmeticOverflow
  .ok { endpoint with totalRefunds }

/-! ## Steps on the ledger -/

section Steps

variable (addresses : Addresses) (context : Context)

/-- The checks of the fixed accounts; returns the settlement authority's bump. -/
def checkFixed (ledger : Ledger) (fixed : FixedAccounts) : Except ProgramError UInt8 := do
  failIf (fixed.tokenProgram ≠ Solana.tokenProgram) .incorrectProgramId
  failIf (fixed.systemProgram ≠ Solana.systemProgram) .incorrectProgramId
  failIf (context.signer fixed.settlerSigner = false) .missingRequiredSignature
  verifyProtocolConfig addresses ledger fixed.protocolConfig
  let config ← okOr (structAt ProtocolConfig.layout ledger fixed.protocolConfig)
    ↑PactError.protocolConfigNotInitialized
  failIf (config.paused ≠ 0) (↑PactError.protocolPaused)
  verifySettlementAuthority addresses ledger fixed.settlementAuth
  let authority ← okOr (structAt SettlementAuthority.layout ledger fixed.settlementAuth)
    .invalidAccountData
  failIf (authority.signer ≠ fixed.settlerSigner) (↑PactError.unauthorizedSettler)
  .ok authority.bump

/-- The checks of an event's accounts; returns the endpoint snapshot. -/
def checkAccounts (ledger : Ledger) (event : SettlementEvent) (accounts : EventAccounts) :
    Except ProgramError EndpointConfig := do
  failIf (accounts.callRecord ≠ addresses.of (.callRecord event.callId)) .invalidSeeds
  failIf (accounts.coveragePool ≠ addresses.of (.coveragePool event.endpointSlug)) .invalidSeeds
  failIf (accounts.endpointConfig ≠ addresses.of (.endpointConfig event.endpointSlug))
    .invalidSeeds
  failIf ((ledger accounts.callRecord).data ≠ []) (↑PactError.duplicateCallId)
  let endpoint ← okOr (structAt EndpointConfig.layout ledger accounts.endpointConfig)
    .invalidAccountData
  failIf (endpoint.paused ≠ 0) (↑PactError.endpointPaused)
  failIf (endpoint.feeRecipientCount ≠ event.feeCountHint) (↑PactError.recipientCoverageMismatch)
  failIf (endpoint.coveragePool ≠ accounts.coveragePool) (↑PactError.recipientCoverageMismatch)
  let pool ← okOr (structAt CoveragePool.layout ledger accounts.coveragePool)
    .invalidAccountData
  failIf (pool.usdcVault ≠ accounts.poolVault) .invalidAccountData
  failIf (accounts.feeAtas ≠ endpoint.recipients.map FeeRecipient.destination)
    (↑PactError.recipientCoverageMismatch)
  .ok endpoint

/-- `transfer_pda_signed`: the runtime grants the signature of `pda` under `bump`. -/
def transferPdaSigned (ledger : Ledger) (source destination authority : Address)
    (amount : UInt64) (pda : Pda) (bump : UInt8) : Except ProgramError Ledger := do
  failIf (addresses.signed pda bump ≠ some authority ∧ context.signer authority = false)
    (.runtime .privilegeEscalation)
  transfer context ledger source destination authority amount

def payFromVault (ledger : Ledger) (event : SettlementEvent) (accounts : EventAccounts)
    (destination : Address) (amount : UInt64) : Except ProgramError Ledger :=
  let pda := Pda.coveragePool event.endpointSlug
  transferPdaSigned addresses context ledger accounts.poolVault destination accounts.coveragePool
    amount pda (addresses.bump pda)

def updatePool (ledger : Ledger) (accounts : EventAccounts)
    (change : CoveragePool → Except ProgramError CoveragePool) : Except ProgramError Ledger := do
  let pool ← borrow CoveragePool.layout ledger accounts.coveragePool
  let pool ← change pool
  save CoveragePool.layout programId context ledger accounts.coveragePool pool

/-- The fee fan-out from the total and the payments so far. Each recipient's
destination has been checked to be the account passed for it. -/
def payFees (event : SettlementEvent) (accounts : EventAccounts) :
    List FeeRecipient → Ledger → UInt64 → List (Address × UInt64) →
      Except ProgramError (Ledger × UInt64 × List (Address × UInt64))
  | [], ledger, totalFeePaid, paid => .ok (ledger, totalFeePaid, paid)
  | recipient :: rest, ledger, totalFeePaid, paid =>
      let amount := feeAmount event.premiumLamports recipient.bps
      if amount = 0 then payFees event accounts rest ledger totalFeePaid paid
      else do
        let ledger ← payFromVault addresses context ledger event accounts recipient.destination
          amount
        let totalFeePaid ← okOr (checkedAdd totalFeePaid amount) ↑PactError.arithmeticOverflow
        payFees event accounts rest ledger totalFeePaid
          (paid ++ [(recipient.destination, amount)])

def debitFees (ledger : Ledger) (accounts : EventAccounts) (totalFeePaid : UInt64) :
    Except ProgramError Ledger :=
  if totalFeePaid > 0 then
    updatePool context ledger accounts fun pool => debitPool pool totalFeePaid
  else .ok ledger

/-- Pay what the cap left of the refund if the pool's ledger covers it. -/
def payRefund (ledger : Ledger) (event : SettlementEvent) (accounts : EventAccounts)
    (refund : UInt64) (status : SettlementStatus) :
    Except ProgramError (Ledger × UInt64 × SettlementStatus) :=
  if refund > 0 then do
    let pool ← borrow CoveragePool.layout ledger accounts.coveragePool
    if pool.currentBalance < refund then .ok (ledger, 0, .poolDepleted)
    else do
      let ledger ← payFromVault addresses context ledger event accounts accounts.agentAta refund
      let ledger ← updatePool context ledger accounts fun pool => debitRefund pool refund
      let endpoint ← borrow EndpointConfig.layout ledger accounts.endpointConfig
      let endpoint ← recordRefund endpoint refund
      let ledger ← save EndpointConfig.layout programId context ledger accounts.endpointConfig
        endpoint
      .ok (ledger, refund, status)
  else .ok (ledger, 0, status)

def writeRecord (ledger : Ledger) (event : SettlementEvent) (accounts : EventAccounts)
    (status : SettlementStatus) (actualRefund : UInt64) (fees : List (Address × UInt64)) :
    Except ProgramError (Ledger × Receipt) := do
  let record := event.record (addresses.bump (.callRecord event.callId)) status actualRefund
  let _ ← borrow CallRecord.layout ledger accounts.callRecord
  let ledger ← save CallRecord.layout programId context ledger accounts.callRecord record
  .ok (ledger, ⟨record, fees⟩)

/-- An event whose pre-flight passed, from the premium transfer on. -/
def settleCovered (ledger : Ledger) (fixed : FixedAccounts) (authorityBump : UInt8)
    (event : SettlementEvent) (accounts : EventAccounts) (endpoint : EndpointConfig) :
    Except ProgramError (Ledger × Receipt) := do
  let ledger ← transferPdaSigned addresses context ledger accounts.agentAta accounts.poolVault
    fixed.settlementAuth event.premiumLamports .settlementAuthority authorityBump
  let ledger ← updatePool context ledger accounts fun pool =>
    creditPremium pool event.premiumLamports
  let stored ← borrow EndpointConfig.layout ledger accounts.endpointConfig
  let (stored, refund) ← recordCall stored context.now event
  let ledger ← save EndpointConfig.layout programId context ledger accounts.endpointConfig stored
  let (ledger, totalFeePaid, fees) ←
    payFees addresses context event accounts endpoint.recipients ledger 0 []
  let ledger ← debitFees context ledger accounts totalFeePaid
  let (ledger, actualRefund, status) ← payRefund addresses context ledger event accounts refund
    (if refund < event.refundLamports then .exposureCapClamped else .settled)
  writeRecord addresses context ledger event accounts status actualRefund fees

def settleEvent (ledger : Ledger) (fixed : FixedAccounts) (authorityBump : UInt8)
    (event : SettlementEvent) (accounts : EventAccounts) :
    Except ProgramError (Ledger × Receipt) := do
  let endpoint ← checkAccounts addresses ledger event accounts
  let ledger ← createAccount context ledger fixed.settlerSigner accounts.callRecord
    (context.minimumBalance CallRecord.layout.size) CallRecord.layout.size programId
  if delegateOk (ledger accounts.agentAta).data fixed.settlementAuth event.premiumLamports then
    settleCovered addresses context ledger fixed authorityBump event accounts endpoint
  else writeRecord addresses context ledger event accounts .delegateFailed 0 []

end Steps

/-! ## The batch -/

/-- The loop's state: ledger, unconsumed accounts, receipts so far. -/
structure Progress where
  ledger : Ledger
  rest : List Address
  receipts : List Receipt

section Batch

variable (addresses : Addresses) (context : Context)

def settleStep (fixed : FixedAccounts) (authorityBump : UInt8) (progress : Progress)
    (event : SettlementEvent) : Except ProgramError Progress := do
  checkEvent context.now event
  let (accounts, rest) ← takeEvent event.feeCountHint progress.rest
  let (ledger, receipt) ←
    settleEvent addresses context progress.ledger fixed authorityBump event accounts
  .ok ⟨ledger, rest, progress.receipts ++ [receipt]⟩

def process (ledger : Ledger) (accounts : List Address) (data : List UInt8) :
    Except ProgramError (Ledger × List Receipt) := do
  let (fixed, rest) ← takeFixed accounts
  failIf (data.length < 2) .invalidInstructionData
  let authorityBump ← checkFixed addresses context ledger fixed
  let events ← parseEvents data
  let progress ←
    events.foldlM (settleStep addresses context fixed authorityBump) ⟨ledger, rest, []⟩
  .ok (progress.ledger, progress.receipts)

end Batch

end SettleBatch

end PactNetwork.V1
