import PactNetwork.Foundation.Transition
import PactNetwork.V1.EventEffects

/-!
# Batching is transparent

A batch is its events in order: accepted batches are accepted one event at a
time with the same ledger, and an event that would be rejected on its own at
its turn rejects the batch. The header checks can be repeated before every
event because no event touches the accounts they read.
-/

set_option autoImplicit false

namespace PactNetwork.V1

open Solana

namespace SettleBatch

structure Slot where
  event : SettlementEvent
  accounts : EventAccounts
  fits : accounts.feeAtas.length = event.feeCountHint.toNat

def encodeEvents (events : List SettlementEvent) : List UInt8 :=
  leBytes 2 events.length ++ events.flatMap SettlementEvent.layout.encode

section Batch

variable (addresses : Addresses) (context : Context)

/-- `settle_batch` on a list of events with their accounts. -/
def settleBatch (fixed : FixedAccounts) (slots : List Slot) (ledger : Ledger) :
    Except ProgramError (Ledger × List Receipt) :=
  process addresses context ledger
    (fixed.toList ++ slots.flatMap fun slot => slot.accounts.toList)
    (encodeEvents (slots.map Slot.event))

def settleNext (fixed : FixedAccounts) (state : Ledger × List Receipt) (slot : Slot) :
    Except ProgramError (Ledger × List Receipt) := do
  let (ledger, receipts) ← settleBatch addresses context fixed [slot] state.1
  .ok (ledger, state.2 ++ receipts)

def settleEach (fixed : FixedAccounts) (slots : List Slot) (ledger : Ledger) :
    Except ProgramError (Ledger × List Receipt) :=
  slots.foldlM (settleNext addresses context fixed) (ledger, [])

def landed (ledger : Ledger) {β : Type} (outcome : Except ProgramError (Ledger × β)) : Ledger :=
  match outcome with
  | .ok (after, _) => after
  | .error _ => ledger

def settleSlot (fixed : FixedAccounts) (authorityBump : UInt8) (state : Ledger × List Receipt)
    (slot : Slot) : Except ProgramError (Ledger × List Receipt) := do
  checkEvent context.now slot.event
  let (ledger, receipt) ←
    settleEvent addresses context state.1 fixed authorityBump slot.event slot.accounts
  .ok (ledger, state.2 ++ [receipt])

variable {addresses context}

/-! ## Parsing what was encoded -/

theorem parseEvents_encodeEvents {events : List SettlementEvent} (small : events.length ≤ 50) :
    parseEvents (encodeEvents events) = .ok events := by
  have count : leNat ((encodeEvents events).take 2) = events.length := by
    rw [encodeEvents, List.take_left' (length_leBytes 2 _), leNat_leBytes]
    exact Nat.mod_eq_of_lt (by omega)
  have length : (encodeEvents events).length =
      2 + events.length * SettlementEvent.layout.size := by
    rw [encodeEvents, List.length_append, length_leBytes, Layout.length_flatMap_encode]
  have decoded : SettlementEvent.layout.decodeArray events.length
      ((encodeEvents events).drop 2) = events := by
    rw [encodeEvents, List.drop_left' (length_leBytes 2 _)]
    simpa using Layout.decodeArray_flatMap SettlementEvent.layout events []
  simp only [parseEvents, count, decoded]
  rw [failIf_of_not (by simpa [maxBatchSize] using small), failIf_of_not (by omega)]
  rfl

theorem takeEvent_toList (slot : Slot) (rest : List Address) :
    takeEvent slot.event.feeCountHint (slot.accounts.toList ++ rest) =
      .ok (slot.accounts, rest) := by
  obtain ⟨event, ⟨callRecord, pool, vault, endpoint, agentAta, feeAtas⟩, fits⟩ := slot
  simp only at fits
  simp only [EventAccounts.toList, List.cons_append, List.nil_append, takeEvent]
  rw [if_neg (by rw [List.length_append]; omega), List.take_left' fits, List.drop_left' fits]

theorem foldlM_settleStep {fixed : FixedAccounts} {authorityBump : UInt8} {slots : List Slot}
    {ledger : Ledger} {receipts : List Receipt} :
    (slots.map Slot.event).foldlM (settleStep addresses context fixed authorityBump)
        ⟨ledger, slots.flatMap fun slot => slot.accounts.toList, receipts⟩ =
      (slots.foldlM (settleSlot addresses context fixed authorityBump) (ledger, receipts)).map
        fun state => ⟨state.1, [], state.2⟩ := by
  induction slots generalizing ledger receipts with
  | nil => rfl
  | cons slot slots ih =>
      simp only [List.map_cons, List.flatMap_cons, List.foldlM_cons, settleStep, settleSlot,
        takeEvent_toList, ok_bind]
      cases checked : checkEvent context.now slot.event with
      | error failure => rfl
      | ok passed =>
          cases settled : settleEvent addresses context ledger fixed authorityBump slot.event
            slot.accounts with
          | error failure => rfl
          | ok outcome => exact ih

theorem settleBatch_eq {fixed : FixedAccounts} {slots : List Slot} {ledger : Ledger}
    (small : slots.length ≤ 50) :
    settleBatch addresses context fixed slots ledger =
      (checkFixed addresses context ledger fixed >>= fun authorityBump =>
        slots.foldlM (settleSlot addresses context fixed authorityBump) (ledger, [])) := by
  have long : ¬(encodeEvents (slots.map Slot.event)).length < 2 := by
    rw [encodeEvents, List.length_append, length_leBytes]
    omega
  simp only [settleBatch, process, FixedAccounts.toList, List.cons_append, List.nil_append,
    takeFixed, ok_bind, failIf_of_not long]
  rw [parseEvents_encodeEvents (by rwa [List.length_map])]
  cases checkFixed addresses context ledger fixed with
  | error failure => rfl
  | ok authorityBump =>
      simp only [ok_bind, foldlM_settleStep]
      cases slots.foldlM (settleSlot addresses context fixed authorityBump) (ledger, []) <;> rfl

/-! ## The header stays valid -/

theorem checkEvent_eq_ok {now : Int64} {event : SettlementEvent} {result : Unit} :
    checkEvent now event = .ok result ↔ ¬ event.timestamp > now ∧
      ¬ event.premiumLamports < minPremiumLamports ∧
      ¬ event.feeCountHint.toNat > maxFeeRecipients := by
  simp only [checkEvent, bind_eq_ok, failIf_eq_ok, exists_const]

theorem premium_pos {now : Int64} {event : SettlementEvent} {result : Unit}
    (checked : checkEvent now event = .ok result) : 0 < event.premiumLamports.toNat := by
  obtain ⟨-, large, -⟩ := checkEvent_eq_ok.mp checked
  rw [UInt64.lt_iff_toNat_lt] at large
  have minimum : minPremiumLamports.toNat = 100 := rfl
  omega

theorem Effect.privileged {fixed : FixedAccounts} {event : SettlementEvent}
    {accounts : EventAccounts} {pool pool' : CoveragePool} {endpoint endpoint' : EndpointConfig}
    {before after : Ledger} {status : SettlementStatus} {actual : UInt64} {receipt : Receipt}
    (effect : Effect addresses context fixed event accounts pool pool' endpoint endpoint' before
      after status actual receipt) {address : Address}
    (owned : (before address).owner = programId)
    (notPool : address ≠ accounts.coveragePool) (notEndpoint : address ≠ accounts.endpointConfig) :
    after address = before address := by
  refine effect.frame address ?_ ?_ notPool notEndpoint (by
    rw [owned]
    exact programId_ne_tokenProgram)
  · rintro rfl
    rw [effect.fresh] at owned
    exact programId_ne_systemProgram owned.symm
  · rintro rfl
    rw [effect.payer.1] at owned
    exact programId_ne_systemProgram owned.symm

theorem checkFixed_congr {before after : Ledger} {fixed : FixedAccounts}
    (config : after fixed.protocolConfig = before fixed.protocolConfig)
    (authority : after fixed.settlementAuth = before fixed.settlementAuth) :
    checkFixed addresses context after fixed = checkFixed addresses context before fixed := by
  simp only [checkFixed, verifyProtocolConfig, verifySettlementAuthority, verifyCanonical,
    structAt, config, authority]

theorem checkFixed_spec {ledger : Ledger} {fixed : FixedAccounts} {authorityBump : UInt8}
    (checked : checkFixed addresses context ledger fixed = .ok authorityBump) :
    (fixed.protocolConfig = addresses.of .protocolConfig ∧
      (ledger fixed.protocolConfig).owner = programId) ∧
    (fixed.settlementAuth = addresses.of .settlementAuthority ∧
      (ledger fixed.settlementAuth).owner = programId) ∧
    context.signer fixed.settlerSigner = true ∧
    ∃ config authority,
      structAt ProtocolConfig.layout ledger (addresses.of .protocolConfig) = some config ∧
      config.paused = 0 ∧
      structAt SettlementAuthority.layout ledger (addresses.of .settlementAuthority) =
        some authority ∧
      authority.signer = fixed.settlerSigner ∧ authority.bump = authorityBump := by
  simp only [checkFixed, verifyProtocolConfig, verifySettlementAuthority, bind_eq_ok,
    failIf_eq_ok, exists_const, okOr_eq_ok, verifyCanonical_eq_ok, ne_eq, not_not,
    Except.ok.injEq, Bool.not_eq_false] at checked
  obtain ⟨-, -, signed, config, protocol, configFound, unpaused, authority, settlement,
    authorityFound, signer, bump⟩ := checked
  rw [config.1] at configFound
  rw [authority.1] at authorityFound
  exact ⟨config, authority, signed, protocol, settlement, configFound, unpaused, authorityFound,
    signer, bump⟩

theorem checkFixed_settleSlot {fixed : FixedAccounts} {authorityBump : UInt8}
    {ledger : Ledger} {receipts : List Receipt} {after : Ledger × List Receipt} {slot : Slot}
    (checked : checkFixed addresses context ledger fixed = .ok authorityBump)
    (settled : settleSlot addresses context fixed authorityBump (ledger, receipts) slot =
      .ok after) :
    checkFixed addresses context after.1 fixed = .ok authorityBump := by
  simp only [settleSlot, bind_eq_ok, Prod.exists, Except.ok.injEq] at settled
  obtain ⟨passed, event, ledger, receipt, settled, rfl⟩ := settled
  obtain ⟨pool, _, endpoint, _, _, _, effect⟩ := settleEvent_spec (premium_pos event) settled
  obtain ⟨⟨config, configOwned⟩, ⟨authority, authorityOwned⟩, -⟩ := checkFixed_spec checked
  have bound := effect.bound
  rw [← checked]
  apply checkFixed_congr
  · refine effect.privileged configOwned ?_ ?_
    · rw [config, bound.coveragePool]
      simp
    · rw [config, bound.endpointConfig]
      simp
  · refine effect.privileged authorityOwned ?_ ?_
    · rw [authority, bound.coveragePool]
      simp
    · rw [authority, bound.endpointConfig]
      simp

/-! ## One batch, many batches -/

theorem settleBatch_singleton (fixed : FixedAccounts) (slot : Slot) (ledger : Ledger) :
    settleBatch addresses context fixed [slot] ledger =
      (checkFixed addresses context ledger fixed >>= fun authorityBump =>
        settleSlot addresses context fixed authorityBump (ledger, []) slot) := by
  rw [settleBatch_eq (by simp)]
  cases checkFixed addresses context ledger fixed with
  | error failure => rfl
  | ok authorityBump =>
      simp only [ok_bind, List.foldlM_cons, List.foldlM_nil]
      cases settleSlot addresses context fixed authorityBump (ledger, []) slot <;> rfl

theorem settleSlot_receipts (fixed : FixedAccounts) (authorityBump : UInt8) (ledger : Ledger)
    (receipts : List Receipt) (slot : Slot) :
    settleSlot addresses context fixed authorityBump (ledger, receipts) slot =
      (settleSlot addresses context fixed authorityBump (ledger, []) slot).map
        fun state => (state.1, receipts ++ state.2) := by
  simp only [settleSlot]
  cases checkEvent context.now slot.event with
  | error failure => rfl
  | ok passed =>
      simp only [ok_bind]
      cases settleEvent addresses context ledger fixed authorityBump slot.event slot.accounts <;>
        rfl

theorem foldlM_settleSlot_eq {fixed : FixedAccounts} {authorityBump : UInt8} {slots : List Slot}
    {ledger : Ledger} {receipts : List Receipt}
    (checked : checkFixed addresses context ledger fixed = .ok authorityBump) :
    slots.foldlM (settleSlot addresses context fixed authorityBump) (ledger, receipts) =
      slots.foldlM (settleNext addresses context fixed) (ledger, receipts) := by
  induction slots generalizing ledger receipts with
  | nil => rfl
  | cons slot slots ih =>
      rw [List.foldlM_cons, List.foldlM_cons, settleNext, settleBatch_singleton, checked, ok_bind,
        settleSlot_receipts]
      cases settled : settleSlot addresses context fixed authorityBump (ledger, []) slot with
      | error failure => rfl
      | ok state => exact ih (checkFixed_settleSlot checked settled)

/-- Batching is transparent: what a batch does is what its events do one by
one, and one rejected event rejects them all. -/
theorem batch_transparent (addresses : Addresses) (context : Context) (fixed : FixedAccounts)
    (slots : List Slot) (ledger : Ledger) (small : slots.length ≤ 50) :
    (∀ after receipts,
      settleBatch addresses context fixed slots ledger = .ok (after, receipts) →
        settleEach addresses context fixed slots ledger = .ok (after, receipts)) ∧
    (∀ front slot back middle receipts failure, slots = front ++ slot :: back →
      settleEach addresses context fixed front ledger = .ok (middle, receipts) →
      settleBatch addresses context fixed [slot] middle = .error failure →
        (∃ reason, settleBatch addresses context fixed slots ledger = .error reason) ∧
        landed ledger (settleBatch addresses context fixed slots ledger) = ledger) := by
  have forward : ∀ after receipts,
      settleBatch addresses context fixed slots ledger = .ok (after, receipts) →
        settleEach addresses context fixed slots ledger = .ok (after, receipts) := by
    intro after receipts accepted
    rw [settleBatch_eq small, bind_eq_ok] at accepted
    obtain ⟨authorityBump, checked, settled⟩ := accepted
    rw [settleEach, ← foldlM_settleSlot_eq checked]
    exact settled
  refine ⟨forward, ?_⟩
  intro front slot back middle receipts failure split reached rejected
  cases outcome : settleBatch addresses context fixed slots ledger with
  | error reason => exact ⟨⟨reason, rfl⟩, rfl⟩
  | ok accepted =>
      -- then the single instructions all succeed, the rejected one included
      have each := forward accepted.1 accepted.2 outcome
      rw [settleEach, split] at each
      obtain ⟨state, first, rest⟩ := foldlM_append_eq_ok.mp each
      cases first.symm.trans reached
      obtain ⟨next, single, -⟩ := foldlM_cons_eq_ok.mp rest
      rw [settleNext, rejected] at single
      cases single

end Batch

/-! ## A concrete ledger -/

namespace Demo

def addresses : Addresses := Addresses.packed
def named (size : Nat) (tag : UInt8) : Bytes size := List.Vector.replicate size tag
def settler : Address := named 32 1
def agentAta : Address := named 32 2
def vault : Address := named 32 3
def treasuryVault : Address := named 32 4
def slug : Slug := named 16 97

def token (owner : Address) (amount allowance : UInt64) : TokenAccount where
  mint := usdcMainnet
  owner := owner
  amount := amount
  delegateTag := if allowance = 0 then 0 else 1
  delegate := addresses.of .settlementAuthority
  state := 1
  isNativeTag := 0
  isNative := 0
  delegatedAmount := allowance
  closeAuthorityTag := 0
  closeAuthority := systemProgram

def recipient : FeeRecipient where
  kind := 0
  pad0 := named 7 0
  destination := treasuryVault
  bps := 1000
  pad1 := named 6 0

def recipients : FeeRecipients := ⟨recipient :: List.replicate 7 FeeRecipient.zero, rfl⟩

def pool : CoveragePool where
  bump := 255
  padding0 := named 7 0
  authority := settler
  usdcMint := usdcMainnet
  usdcVault := vault
  endpointSlug := slug
  totalDeposits := 500
  totalPremiums := 0
  totalRefunds := 0
  currentBalance := 500
  createdAt := 0

def endpoint : EndpointConfig where
  bump := 255
  paused := 0
  padding0 := named 6 0
  slug := slug
  flatPremiumLamports := 1000
  percentBps := 0
  padding1 := named 6 0
  slaLatencyMs := 500
  padding2 := named 4 0
  imputedCostLamports := 1000
  exposureCapPerHourLamports := 2000
  currentPeriodStart := 0
  currentPeriodRefunds := 0
  totalCalls := 0
  totalBreaches := 0
  totalPremiums := 0
  totalRefunds := 0
  lastUpdated := 0
  coveragePool := addresses.of (.coveragePool slug)
  feeRecipientCount := 1
  padding3 := named 7 0
  feeRecipients := recipients

def config : ProtocolConfig where
  bump := 255
  padding0 := named 7 0
  authority := settler
  usdcMint := usdcMainnet
  maxTotalFeeBps := 3000
  defaultFeeRecipientCount := 1
  paused := 0
  padding1 := named 4 0
  defaultFeeRecipients := recipients

def authority : SettlementAuthority where
  bump := 255
  padding0 := named 7 0
  signer := settler
  setAt := 0

def tokenAccount (token : TokenAccount) : Account :=
  ⟨1000, tokenProgram, TokenAccount.layout.encode token⟩

def accounts : List (Address × Account) :=
  [(settler, ⟨1000000, systemProgram, []⟩),
   (addresses.of .protocolConfig, ⟨1000, programId, ProtocolConfig.layout.encode config⟩),
   (addresses.of .settlementAuthority,
     ⟨1000, programId, SettlementAuthority.layout.encode authority⟩),
   (addresses.of (.coveragePool slug), ⟨1000, programId, CoveragePool.layout.encode pool⟩),
   (addresses.of (.endpointConfig slug), ⟨1000, programId, EndpointConfig.layout.encode endpoint⟩),
   (vault, tokenAccount (token (addresses.of (.coveragePool slug)) 500 0)),
   (treasuryVault, tokenAccount (token settler 0 0)),
   (agentAta, tokenAccount (token settler 5000 5000))]

def ledger : Ledger := fun address => (accounts.lookup address).getD Account.absent

def context : Context where
  signer address := address = settler
  writable _ := true
  now := 100
  minimumBalance size := size

def fixed : FixedAccounts :=
  ⟨settler, addresses.of .settlementAuthority, tokenProgram, systemProgram,
    addresses.of .protocolConfig⟩

def event (tag : UInt8) (premium refund : UInt64) : SettlementEvent where
  callId := named 16 tag
  agentOwner := settler
  endpointSlug := slug
  premiumLamports := premium
  refundLamports := refund
  latencyMs := 700
  breach := 1
  feeCountHint := 1
  pad := named 6 0
  timestamp := 50
  pad2 := named 4 0

def slot (tag : UInt8) (premium refund : UInt64) : Slot where
  event := event tag premium refund
  accounts := ⟨addresses.of (.callRecord (named 16 tag)), addresses.of (.coveragePool slug),
    vault, addresses.of (.endpointConfig slug), agentAta, [treasuryVault]⟩
  fits := rfl

/-- Two calls on one endpoint; the second refund hits the hourly cap. A replay of
the first call is rejected, alone and in a batch. -/
theorem batch_transparent_demo :
    (∃ after receipts,
      settleBatch addresses context fixed [slot 1 1000 1200, slot 2 1000 1500] ledger =
        .ok (after, receipts) ∧
      settleEach addresses context fixed [slot 1 1000 1200, slot 2 1000 1500] ledger =
        .ok (after, receipts)) ∧
    landed ledger (settleBatch addresses context fixed [slot 1 1000 1200, slot 1 1000 1200] ledger)
      = ledger := by
  have accepted : accepts
      (settleBatch addresses context fixed [slot 1 1000 1200, slot 2 1000 1500] ledger) := by
    decide +kernel
  have alone : accepts (settleEach addresses context fixed [slot 1 1000 1200] ledger) := by
    decide +kernel
  have replayed : ¬ accepts (settleEach addresses context fixed [slot 1 1000 1200] ledger >>=
      fun state => settleBatch addresses context fixed [slot 1 1000 1200] state.1) := by
    decide +kernel
  obtain ⟨⟨after, receipts⟩, batch⟩ := accepted
  obtain ⟨⟨middle, first⟩, reached⟩ := alone
  refine ⟨⟨after, receipts, batch,
    (batch_transparent addresses context fixed _ ledger (by decide)).1 after receipts batch⟩, ?_⟩
  rw [reached, ok_bind] at replayed
  cases rejected : settleBatch addresses context fixed [slot 1 1000 1200] middle with
  | ok state => exact absurd ⟨state, rejected⟩ replayed
  | error failure =>
      exact ((batch_transparent addresses context fixed _ ledger (by decide)).2
        [slot 1 1000 1200] (slot 1 1000 1200) [] middle first failure rfl reached rejected).2

end Demo

end SettleBatch

end PactNetwork.V1
