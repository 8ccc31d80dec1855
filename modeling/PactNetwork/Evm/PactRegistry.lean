import PactNetwork.Evm.FeeValidation

/-!
# PactRegistry

Endpoint configuration, the fee template, the kill switch, and the two hooks
through which the settler counts calls. Calls take the sender first; events
the contract logs are left out.
-/

set_option autoImplicit false

namespace PactNetwork.Evm

abbrev Slug := Bytes 16
abbrev CallId := Bytes 16

structure EndpointConfig where
  paused : Bool
  flatPremium : UInt64
  percentBps : UInt16
  slaLatencyMs : UInt32
  imputedCost : UInt64
  exposureCapPerHour : UInt64
  totalCalls : UInt64
  totalBreaches : UInt64
  totalPremiums : UInt64
  totalRefunds : UInt64
  currentPeriodStart : UInt64
  currentPeriodRefunds : UInt64
  lastUpdated : UInt64
  feeRecipientCount : UInt8
  feeRecipients : FeeRecipients
  deriving DecidableEq

namespace EndpointConfig

/-- What a mapping holds for a slug nobody registered. -/
def zero : EndpointConfig where
  paused := false
  flatPremium := 0
  percentBps := 0
  slaLatencyMs := 0
  imputedCost := 0
  exposureCapPerHour := 0
  totalCalls := 0
  totalBreaches := 0
  totalPremiums := 0
  totalRefunds := 0
  currentPeriodStart := 0
  currentPeriodRefunds := 0
  lastUpdated := 0
  feeRecipientCount := 0
  feeRecipients := List.Vector.replicate 8 FeeRecipient.zero

def recipients (config : EndpointConfig) : List FeeRecipient :=
  config.feeRecipients.toList.take config.feeRecipientCount.toNat

end EndpointConfig

structure PactRegistry where
  authority : Address
  treasuryVault : Address
  maxTotalFeeBps : UInt16
  protocolPaused : Bool
  defaultFeeRecipients : FeeRecipients
  defaultCount : UInt8
  endpoints : Slug → EndpointConfig
  registered : Slug → Bool
  /-- The holders of the registry's `SETTLER_ROLE`. -/
  settlerRole : Address → Bool

def ckAdd (left right : UInt64) : Except EvmError UInt64 :=
  okOr (checkedAdd left right) .arithmeticOverflow

def ckSub (left right : UInt64) : Except EvmError UInt64 :=
  okOr (checkedSub left right) .arithmeticOverflow

@[simp] theorem ckAdd_eq_ok {left right result : UInt64} :
    ckAdd left right = .ok result ↔ result.toNat = left.toNat + right.toNat := by
  rw [ckAdd, okOr_eq_ok, checkedAdd_eq_some]

@[simp] theorem ckSub_eq_ok {left right result : UInt64} :
    ckSub left right = .ok result ↔ left.toNat = result.toNat + right.toNat := by
  rw [ckSub, okOr_eq_ok, checkedSub_eq_some]

def onlyRole (role : Address → Bool) (sender : Address) : Except EvmError Unit :=
  failIf (role sender = false) .accessControlUnauthorizedAccount

namespace PactRegistry

/-- The constructor. Its grant of the admin role is not modelled: `settlerRole`
is the role table after deployment. -/
def construct (authority treasuryVault : Address) (maxTotalFeeBps : UInt16)
    (defaultRecipients : FeeRecipients) (defaultCount : UInt8)
    (settlerRole : Address → Bool) : Except EvmError PactRegistry := do
  FeeValidation.validateDefaultTemplate defaultRecipients defaultCount maxTotalFeeBps
  .ok { authority, treasuryVault, maxTotalFeeBps, defaultCount, settlerRole,
        protocolPaused := false, defaultFeeRecipients := defaultRecipients,
        endpoints := fun _ => .zero, registered := fun _ => false }

def onlyAuthority (registry : PactRegistry) (sender : Address) : Except EvmError Unit :=
  failIf (sender ≠ registry.authority) .unauthorizedAuthority

/-- `_validateSlug`: every byte is zero or printable ASCII. -/
def validateSlug (slug : Slug) : Except EvmError Unit :=
  failIf (∃ byte ∈ slug.toList, byte ≠ 0 ∧ (byte < 0x20 ∨ byte > 0x7e)) .invalidSlug

def setEndpoint (registry : PactRegistry) (slug : Slug) (config : EndpointConfig) :
    PactRegistry :=
  { registry with endpoints := Function.update registry.endpoints slug config }

/-- The pricing fields of a registration or an update. -/
structure Pricing where
  flatPremium : UInt64
  percentBps : UInt16
  slaLatencyMs : UInt32
  imputedCost : UInt64
  exposureCapPerHour : UInt64

/-- The explicit list of a registration, or a copy of the default template. -/
def chooseEntries (registry : PactRegistry) (feeRecipientsPresent : Bool)
    (feeRecipientCount : UInt8) (feeRecipients : FeeRecipients) :
    Except EvmError (FeeRecipients × UInt8) :=
  if feeRecipientsPresent then .ok (feeRecipients, feeRecipientCount)
  else do
    failIf (registry.defaultCount > ProtocolInvariants.maxFeeRecipients)
      .feeRecipientArrayTooLong
    .ok (registry.defaultFeeRecipients, registry.defaultCount)

def registerEndpoint (registry : PactRegistry) (sender : Address) (timestamp : UInt64)
    (slug : Slug) (pricing : Pricing) (feeRecipientsPresent : Bool) (feeRecipientCount : UInt8)
    (feeRecipients : FeeRecipients) : Except EvmError PactRegistry := do
  registry.onlyAuthority sender
  validateSlug slug
  let (entries, count) ←
    registry.chooseEntries feeRecipientsPresent feeRecipientCount feeRecipients
  let (entries, _) ←
    FeeValidation.validate entries count registry.maxTotalFeeBps registry.treasuryVault
  failIf (registry.registered slug = true) .endpointAlreadyRegistered
  let config : EndpointConfig :=
    { paused := false
      flatPremium := pricing.flatPremium
      percentBps := pricing.percentBps
      slaLatencyMs := pricing.slaLatencyMs
      imputedCost := pricing.imputedCost
      exposureCapPerHour := pricing.exposureCapPerHour
      totalCalls := 0
      totalBreaches := 0
      totalPremiums := 0
      totalRefunds := 0
      currentPeriodStart := timestamp
      currentPeriodRefunds := 0
      lastUpdated := timestamp
      feeRecipientCount := count
      feeRecipients := entries }
  .ok { registry.setEndpoint slug config with
        registered := Function.update registry.registered slug true }

def updateEndpointConfig (registry : PactRegistry) (sender : Address) (timestamp : UInt64)
    (slug : Slug) (pricing : Pricing) : Except EvmError PactRegistry := do
  registry.onlyAuthority sender
  failIf (registry.registered slug = false) .endpointNotFound
  .ok (registry.setEndpoint slug { registry.endpoints slug with
    flatPremium := pricing.flatPremium
    percentBps := pricing.percentBps
    slaLatencyMs := pricing.slaLatencyMs
    imputedCost := pricing.imputedCost
    exposureCapPerHour := pricing.exposureCapPerHour
    lastUpdated := timestamp })

def updateFeeRecipients (registry : PactRegistry) (sender : Address) (timestamp : UInt64)
    (slug : Slug) (recipients : FeeRecipients) (count : UInt8) :
    Except EvmError PactRegistry := do
  registry.onlyAuthority sender
  failIf (registry.registered slug = false) .endpointNotFound
  let (entries, _) ←
    FeeValidation.validate recipients count registry.maxTotalFeeBps registry.treasuryVault
  .ok (registry.setEndpoint slug { registry.endpoints slug with
    feeRecipientCount := count
    feeRecipients := entries
    lastUpdated := timestamp })

def pauseEndpoint (registry : PactRegistry) (sender : Address) (slug : Slug) (paused : Bool) :
    Except EvmError PactRegistry := do
  registry.onlyAuthority sender
  failIf (registry.registered slug = false) .endpointNotFound
  .ok (registry.setEndpoint slug { registry.endpoints slug with paused })

def pauseProtocol (registry : PactRegistry) (sender : Address) (paused : Bool) :
    Except EvmError PactRegistry := do
  registry.onlyAuthority sender
  .ok { registry with protocolPaused := paused }

/-! ## Settler hooks -/

def rollPeriod (config : EndpointConfig) (timestamp : UInt64) :
    Except EvmError EndpointConfig := do
  let periodEnd ← okOr (checkedAdd config.currentPeriodStart 3600) .panic
  if timestamp > periodEnd then
    .ok { config with currentPeriodStart := timestamp, currentPeriodRefunds := 0 }
  else .ok config

/-- The exposure-cap clamp: what of `intendedRefund` is payable. -/
def clampRefund (config : EndpointConfig) (intendedRefund : UInt64) : UInt64 :=
  if intendedRefund > 0 then
    let capRemaining :=
      if config.exposureCapPerHour > config.currentPeriodRefunds then
        config.exposureCapPerHour - config.currentPeriodRefunds
      else 0
    if intendedRefund > capRemaining then capRemaining else intendedRefund
  else intendedRefund

def countBreach (totalBreaches : UInt64) (breach : Bool) : Except EvmError UInt64 :=
  if breach then ckAdd totalBreaches 1 else .ok totalBreaches

def accrueRefund (currentPeriodRefunds payableRefund : UInt64) : Except EvmError UInt64 :=
  if payableRefund > 0 then ckAdd currentPeriodRefunds payableRefund
  else .ok currentPeriodRefunds

def recordCallAndCapAccrual (registry : PactRegistry) (sender : Address) (timestamp : UInt64)
    (slug : Slug) (premium : UInt64) (breach : Bool) (intendedRefund : UInt64) :
    Except EvmError (PactRegistry × UInt64) := do
  onlyRole registry.settlerRole sender
  failIf (registry.registered slug = false) .endpointNotFound
  let config := registry.endpoints slug
  let totalCalls ← ckAdd config.totalCalls 1
  let totalPremiums ← ckAdd config.totalPremiums premium
  let totalBreaches ← countBreach config.totalBreaches breach
  let rolled ← rollPeriod { config with totalCalls, totalPremiums, totalBreaches } timestamp
  let payableRefund := clampRefund rolled intendedRefund
  let currentPeriodRefunds ← accrueRefund rolled.currentPeriodRefunds payableRefund
  .ok (registry.setEndpoint slug { rolled with currentPeriodRefunds }, payableRefund)

def recordRefundPaid (registry : PactRegistry) (sender : Address) (slug : Slug)
    (actualRefund : UInt64) : Except EvmError PactRegistry := do
  onlyRole registry.settlerRole sender
  failIf (registry.registered slug = false) .endpointNotFound
  let totalRefunds ← ckAdd (registry.endpoints slug).totalRefunds actualRefund
  .ok (registry.setEndpoint slug { registry.endpoints slug with totalRefunds })

end PactRegistry

end PactNetwork.Evm
