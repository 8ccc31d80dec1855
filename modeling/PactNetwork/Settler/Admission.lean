import PactNetwork.Settler.Batching
import PactNetwork.Settler.PathParity
import PactNetwork.V1Client.WireFormat

/-!
# What the batcher lets through

`push` drops a message only when its premium is zero. The program refuses a whole
batch for one event below the minimum premium or ahead of its clock, and the
client's builder for one field that does not fit the wire.
-/

set_option autoImplicit false

namespace PactNetwork.Settler.Admission

open Solana V1Client Batching Paths

/-! ## From the instruction to the program's checks -/

/-- The instruction is built, and every event the program reads of it passes its
static checks. -/
def Unpoisoned (clock : Int64) (built : Except ClientError TransactionInstruction) : Prop :=
  ∃ ix data events, built = .ok ix ∧ ix.data = discSettleBatch :: data ∧
    V1.SettleBatch.parseEvents data = .ok events ∧
    ∀ event ∈ events, accepts (V1.SettleBatch.checkEvent clock event)

/-- An event that fits the wire, pays the minimum and is not ahead of the clock. -/
structure Sendable (clock : Int64) (ev : SettlementEvent) : Prop where
  inRange : ev.InRange
  premium : 100 ≤ ev.premiumLamports
  timestamp : ev.timestamp ≤ clock.toInt

section Wire

variable {clock : Int64} {ev : SettlementEvent}

theorem callId_of_asCallId {callId result : List UInt8} (named : asCallId callId = .ok result) :
    callId.length = 16 := by
  unfold asCallId at named
  split at named
  case isTrue => cases named
  case isFalse sized => exact not_not.mp sized

theorem slug_of_asSlug {slug result : List UInt8} (padded : asSlug slug = .ok result) :
    slug.length ≤ 16 := by
  unfold asSlug slugLen at padded
  split at padded
  case isTrue exact => omega
  case isFalse =>
    split at padded
    case isTrue => cases padded
    case isFalse short => omega

theorem bounds_of_writeUInt {width offset : Nat} {data result : List UInt8} {value : Int}
    (written : writeUInt width data value offset = .ok result) :
    0 ≤ value ∧ value < 256 ^ width := by
  simp only [writeUInt, bind_eq_ok, failIf_eq_ok, exists_const] at written
  omega

theorem inRange_of_writeEvent {data result : List UInt8} {off : Nat}
    (written : writeEvent data off ev = .ok result) : ev.InRange := by
  simp only [writeEvent, bind_eq_ok] at written
  obtain ⟨callId, named, slug, padded, _, premium, _, refund, _, latency, timestamp⟩ := written
  simp only [writeBigInt64LE, bind_eq_ok, failIf_eq_ok, exists_const] at timestamp
  exact {
    callId := callId_of_asCallId named
    slug := slug_of_asSlug padded
    premiumLamports := bounds_of_writeUInt premium
    refundLamports := bounds_of_writeUInt refund
    latencyMs := bounds_of_writeUInt latency
    timestamp := by omega }

theorem inRange_of_writeEvents {events : List SettlementEvent} {data result : List UInt8} {i : Nat}
    (written : writeEvents data i events = .ok result) : ∀ ev ∈ events, ev.InRange := by
  induction events generalizing data i with
  | nil => exact fun _ member => absurd member List.not_mem_nil
  | cons first rest ih =>
      obtain ⟨middle, one, later⟩ := (bind_eq_ok _ _ _).mp written
      intro ev member
      cases member with
      | head => exact inRange_of_writeEvent one
      | tail _ member => exact ih later ev member

theorem inRange_of_build {p : SettleBatchParams} {ix : TransactionInstruction}
    (built : buildSettleBatchIx p = .ok ix) : ∀ ev ∈ p.events, ev.InRange := by
  simp only [buildSettleBatchIx, bind_eq_ok, failIf_eq_ok, exists_const] at built
  obtain ⟨-, _, -, _, written, -⟩ := built
  exact inRange_of_writeEvents written

theorem accepts_checkEvent_iff {callRecordPda : Address} {slot : V1.SettleBatch.Slot}
    (carries : Carries ev callRecordPda slot) (recipients : ev.feeRecipientAtas.length ≤ 8) :
    accepts (V1.SettleBatch.checkEvent clock slot.event) ↔
      100 ≤ ev.premiumLamports ∧ ev.timestamp ≤ clock.toInt := by
  have premium := carries.premiumLamports
  have timestamp := carries.timestamp
  have hint := carries.feeCountHint
  have minimum : V1.minPremiumLamports.toNat = 100 := rfl
  have maximum : V1.maxFeeRecipients = 8 := rfl
  simp only [accepts, V1.SettleBatch.checkEvent_eq_ok, exists_const, gt_iff_lt,
    Int64.lt_iff_toInt_lt, UInt64.lt_iff_toNat_lt]
  omega

theorem forall_iff_of_forall₂ {α β : Type} {related : α → β → Prop} {left : α → Prop}
    {right : β → Prop} {items : List α} {images : List β}
    (paired : List.Forall₂ related items images)
    (same : ∀ item image, related item image → (left item ↔ right image)) :
    (∀ item ∈ items, left item) ↔ ∀ image ∈ images, right image := by
  induction paired with
  | nil => simp
  | cons first rest ih => rw [List.forall_mem_cons, List.forall_mem_cons, same _ _ first, ih]

theorem exists_forall₂ {α β : Type} {related : α → β → Prop} {items : List α}
    (each : ∀ item ∈ items, ∃ image, related item image) :
    ∃ images, List.Forall₂ related items images := by
  induction items with
  | nil => exact ⟨[], .nil⟩
  | cons item items ih =>
      obtain ⟨image, first⟩ := each item List.mem_cons_self
      obtain ⟨images, rest⟩ := ih fun other member => each other (List.mem_cons_of_mem _ member)
      exact ⟨image :: images, .cons first rest⟩

theorem unpoisoned_build_iff {p : SettleBatchParams}
    (aligned : p.events.length = p.callRecordPdas.length) (few : p.events.length ≤ 50)
    (recipients : ∀ ev ∈ p.events, ev.feeRecipientAtas.length ≤ 8) :
    Unpoisoned clock (buildSettleBatchIx p) ↔ ∀ ev ∈ p.events, Sendable clock ev := by
  have member : ∀ pair ∈ p.events.zip p.callRecordPdas, pair.1 ∈ p.events :=
    fun pair inside => (List.of_mem_zip inside).1
  have events : (p.events.zip p.callRecordPdas).map Prod.fst = p.events :=
    List.map_fst_zip aligned.le
  have each : (∀ ev ∈ p.events, ev.InRange) →
      (Unpoisoned clock (buildSettleBatchIx p) ↔
        ∀ pair ∈ p.events.zip p.callRecordPdas,
          100 ≤ pair.1.premiumLamports ∧ pair.1.timestamp ≤ clock.toInt) := by
    intro inRange
    obtain ⟨slots, carried⟩ := carried_all (fun pair inside => inRange _ (member pair inside))
      fun pair inside => Nat.lt_of_le_of_lt (recipients _ (member pair inside)) (by omega)
    have count : (slots.map V1.SettleBatch.Slot.event).length ≤ 50 := by
      rw [List.length_map, ← carried.length_eq, List.length_zip, ← aligned, Nat.min_self]
      exact few
    have checks : (∀ pair ∈ p.events.zip p.callRecordPdas,
        100 ≤ pair.1.premiumLamports ∧ pair.1.timestamp ≤ clock.toInt) ↔
          ∀ slot ∈ slots, accepts (V1.SettleBatch.checkEvent clock slot.event) := by
      have bounded : List.Forall₂ (fun pair slot =>
          pair ∈ p.events.zip p.callRecordPdas ∧ Carries pair.1 pair.2 slot) _ slots :=
        (List.forall₂_and_left _ _).mpr ⟨fun _ inside => inside, carried⟩
      exact forall_iff_of_forall₂ bounded fun pair slot both =>
        (accepts_checkEvent_iff both.2 (recipients _ (member pair both.1))).symm
    rw [checks, Unpoisoned, carried.buildSettleBatchIx aligned few]
    constructor
    · intro through slot inside
      obtain ⟨ix, data, wire, same, head, parsed, passes⟩ := through
      cases same
      cases head
      rw [V1.SettleBatch.parseEvents_encodeEvents count] at parsed
      cases parsed
      exact passes _ (List.mem_map_of_mem inside)
    · intro passes
      refine ⟨_, _, _, rfl, rfl, V1.SettleBatch.parseEvents_encodeEvents count, ?_⟩
      exact List.forall_mem_map.mpr passes
  constructor
  · intro through ev inside
    have inRange : ∀ ev ∈ p.events, ev.InRange := by
      obtain ⟨ix, _, _, built, -⟩ := through
      exact inRange_of_build built
    obtain ⟨pair, paired, rfl⟩ := List.mem_map.mp (events ▸ inside)
    obtain ⟨premium, timestamp⟩ := (each inRange).mp through pair paired
    exact ⟨inRange _ inside, premium, timestamp⟩
  · intro sendable
    refine (each fun ev inside => (sendable ev inside).inRange).mpr fun pair inside => ?_
    have passes := sendable pair.1 (member pair inside)
    exact ⟨passes.premium, passes.timestamp⟩

theorem aborted_of_poisoned {ix : TransactionInstruction} {addresses : V1.Addresses}
    {ledger : Ledger} {context : Context} {accounts : List Address} {data : List UInt8}
    (tagged : ix.data = discSettleBatch :: data) (poisoned : ¬Unpoisoned context.now (.ok ix)) :
    ¬accepts (V1.processInstruction addresses ledger ⟨context, accounts, ix.data⟩) := by
  intro settled
  obtain ⟨result, settled⟩ := settled
  rw [tagged] at settled
  have settled : V1.SettleBatch.process addresses context ledger accounts data = .ok result :=
    settled
  simp only [V1.SettleBatch.process, bind_eq_ok, failIf_eq_ok, exists_const, Prod.exists] at settled
  obtain ⟨fixed, rest, -, -, bump, -, events, parsed, progress, folded, -⟩ := settled
  refine poisoned ⟨ix, data, events, rfl, tagged, parsed, fun event member => ?_⟩
  obtain ⟨index, inside, rfl⟩ := List.getElem_of_mem member
  obtain ⟨before, after, -, step, -⟩ := foldlM_split folded index inside
  obtain ⟨passed, checked, -⟩ := (bind_eq_ok _ _ _).mp step
  exact ⟨passed, checked⟩

end Wire

/-! ## From the message to the event -/

section Messages

variable (web3 : Web3) (runtime : Runtime) (deployment : Deployment) (chain : Accounts) (now : Int)

structure WithinLimits (clock : Int64) (data : MessageData) : Prop where
  callId : ((codeUnits (data.callId.orElse (.string "")).toStr).filter (· ≠ 45)).length = 32
  agentPubkey : (web3.publicKey (data.agentPubkey.orElse (.string "")).toStr).isSome
  premiumLamports : ∃ premium, runtime.toBigInt data.premiumLamports = .ok premium ∧
    100 ≤ premium ∧ premium < 2 ^ 64
  refundLamports : ∃ refund, runtime.toBigInt (data.refundLamports.orElse (.string "0")) =
    .ok refund ∧ 0 ≤ refund ∧ refund < 2 ^ 64
  latencyMs : ∃ latency, runtime.toNumber (data.latencyMs.orElse (.number 0)) = .ok latency ∧
    0 ≤ latency ∧ latency < 2 ^ 32
  timestamp : ∃ timestamp, parseEventTimestamp runtime data = .ok timestamp ∧
    -2 ^ 63 ≤ timestamp ∧ timestamp ≤ clock.toInt

def OnCurve (data : MessageData) : Prop :=
  ∀ agent, web3.publicKey (data.agentPubkey.orElse (.string "")).toStr = some agent →
    web3.isOnCurve agent = true

def Builds (slug : String) (data : MessageData) (event : SettlementEvent × Address) : Prop :=
  ∃ parsed hydrated, parse web3 runtime data = .ok parsed ∧
    hydrated.feeRecipientAtas.length ≤ 8 ∧ parsed.event web3 deployment slug hydrated = event

variable {web3 runtime deployment chain now}
variable {clock : Int64} {data : MessageData} {slug : String}

theorem parseCallId_eq_ok_iff {text : String} : accepts (parseCallId text) ↔
    ((codeUnits text).filter (· ≠ 45)).length = 32 := by
  unfold parseCallId
  dsimp only
  split
  case isTrue sized => exact ⟨fun _ => sized, fun _ => ⟨_, rfl⟩⟩
  case isFalse unsized => exact ⟨nofun, fun sized => absurd sized unsized⟩

theorem WithinLimits.parses (within : WithinLimits web3 runtime clock data) :
    accepts (parse web3 runtime data) := by
  obtain ⟨callId, named⟩ := parseCallId_eq_ok_iff.mpr within.callId
  obtain ⟨agent, owned⟩ := Option.isSome_iff_exists.mp within.agentPubkey
  obtain ⟨premium, paid, -⟩ := within.premiumLamports
  obtain ⟨refund, owed, -⟩ := within.refundLamports
  obtain ⟨latency, took, -⟩ := within.latencyMs
  obtain ⟨timestamp, stamped, -⟩ := within.timestamp
  simp only [parse, named, newPublicKey, owned, okOr_some, paid, owed, took, stamped, ok_bind]
  exact ⟨_, rfl⟩

theorem sendable_iff {event : SettlementEvent × Address}
    (builds : Builds web3 runtime deployment slug data event) :
    Sendable clock event.1 ↔ WithinLimits web3 runtime clock data := by
  obtain ⟨parsed, hydrated, read, -, rfl⟩ := builds
  simp only [parse, newPublicKey, bind_eq_ok, okOr_eq_ok, Except.ok.injEq] at read
  obtain ⟨callId, named, agent, owned, premium, paid, refund, owed, latency, took, timestamp,
    stamped, rfl⟩ := read
  constructor
  · intro sendable
    have inRange := sendable.inRange
    exact {
      callId := parseCallId_eq_ok_iff.mp ⟨callId, named⟩
      agentPubkey := Option.isSome_iff_exists.mpr ⟨agent, owned⟩
      premiumLamports := ⟨premium, paid, sendable.premium, inRange.premiumLamports.2⟩
      refundLamports := ⟨refund, owed, inRange.refundLamports⟩
      latencyMs := ⟨latency, took, inRange.latencyMs⟩
      timestamp := ⟨timestamp, stamped, inRange.timestamp.1, sendable.timestamp⟩ }
  · intro within
    obtain ⟨_, same, premium⟩ := within.premiumLamports
    cases paid.symm.trans same
    obtain ⟨_, same, refund⟩ := within.refundLamports
    cases owed.symm.trans same
    obtain ⟨_, same, latency⟩ := within.latencyMs
    cases took.symm.trans same
    obtain ⟨_, same, timestamp⟩ := within.timestamp
    cases stamped.symm.trans same
    exact {
      inRange := {
        callId := callId.toList_length
        slug := (slugBytes slug).toList_length.le
        premiumLamports := ⟨Int.le_trans (by decide) premium.1, premium.2⟩
        refundLamports := refund
        latencyMs := latency
        timestamp := ⟨timestamp.1, Int.lt_of_le_of_lt timestamp.2 clock.toInt_lt⟩ }
      premium := premium.1
      timestamp := timestamp.2 }

theorem unpoisoned_events_iff {batch : List MessageData} {events : List (SettlementEvent × Address)}
    (few : batch.length ≤ 50)
    (built : List.Forall₂ (Builds web3 runtime deployment slug) batch events) :
    Unpoisoned clock (buildSettleBatchIx
        (settleBatchParams deployment (events.map Prod.fst) (events.map Prod.snd))) ↔
      ∀ data ∈ batch, WithinLimits web3 runtime clock data := by
  have recipients : (∀ data ∈ batch, True) ↔
      ∀ event ∈ events, event.1.feeRecipientAtas.length ≤ 8 := by
    refine forall_iff_of_forall₂ built fun data event builds => (true_iff _).mpr ?_
    obtain ⟨parsed, hydrated, -, bounded, rfl⟩ := builds
    exact bounded
  have each : (∀ data ∈ batch, WithinLimits web3 runtime clock data) ↔
      ∀ event ∈ events, Sendable clock event.1 :=
    forall_iff_of_forall₂ built fun data event builds => (sendable_iff builds).symm
  rw [unpoisoned_build_iff, each]
  · exact List.forall_mem_map
  · simp [settleBatchParams]
  · simpa [settleBatchParams, ← built.length_eq] using few
  · exact List.forall_mem_map.mpr (recipients.mp fun _ _ => trivial)

variable (web3 deployment chain now) in
/-- What both paths need of the endpoint: its accounts are there, and its recipients,
at most eight, can be paid. -/
structure EndpointReady (slug : String) (caches later : Caches) (snap : EndpointSnapshot)
    (hydrated : Hydrated) : Prop where
  loaded : loadEndpoint web3 deployment chain now slug caches = .ok (snap, later)
  hydrates : hydrate web3 deployment chain slug = .ok hydrated
  recipients : hydrated.feeRecipientAtas.length ≤ 8
  payable : ∀ premium caches,
    accepts (computeFeeSharesForEvent web3 deployment chain premium snap.config caches)
  counted : snap.config.feeRecipientCount ≤ 8

variable {batch : List MessageData} {caches later : Caches} {snap : EndpointSnapshot}
  {hydrated : Hydrated}

/-! ## The adapter path -/

theorem submitViaAdapter_eq_ok {ix : TransactionInstruction}
    (ready : EndpointReady web3 deployment chain now slug caches later snap hydrated)
    (nonempty : batch ≠ []) (single : ∀ data ∈ batch, extractSlug data = .ok slug) :
    Paths.submitViaAdapter web3 runtime deployment chain now batch caches = .ok ix ↔
      ∃ events, List.Forall₂ (fun data event => ∃ parsed, parse web3 runtime data = .ok parsed ∧
          web3.isOnCurve parsed.agentOwner = true ∧
          parsed.event web3 deployment slug hydrated = event) batch events ∧
        buildSettleBatchIx (settleBatchParams deployment (events.map Prod.fst)
          (events.map Prod.snd)) = .ok ix := by
  obtain ⟨first, rest, rfl⟩ := List.exists_cons_of_ne_nil nonempty
  simp only [Paths.submitViaAdapter, submitSettleBatch, List.head?_cons, okOr_some, ok_bind,
    single first List.mem_cons_self, ready.loaded, ready.hydrates, bind_eq_ok, mapM_eq_ok]
  constructor
  · intro submitted
    obtain ⟨sent, mapped, events, completed, built⟩ := submitted
    exact ⟨events, (forall₂_comp.mp ⟨sent, mapped, completed⟩).imp
      fun _ _ both => adapterEvent_iff.mp both, built⟩
  · intro submitted
    obtain ⟨events, parsed, built⟩ := submitted
    obtain ⟨sent, mapped, completed⟩ := forall₂_comp.mpr
      (parsed.imp fun _ _ through => adapterEvent_iff.mpr through)
    exact ⟨sent, mapped, events, completed, built⟩

theorem adapter_unpoisoned_iff
    (ready : EndpointReady web3 deployment chain now slug caches later snap hydrated)
    (nonempty : batch ≠ []) (few : batch.length ≤ 50)
    (single : ∀ data ∈ batch, extractSlug data = .ok slug) :
    Unpoisoned clock (Paths.submitViaAdapter web3 runtime deployment chain now batch caches) ↔
      ∀ data ∈ batch, WithinLimits web3 runtime clock data ∧ OnCurve web3 data := by
  have builds : ∀ {events : List (SettlementEvent × Address)},
      List.Forall₂ (fun data event => ∃ parsed, parse web3 runtime data = .ok parsed ∧
        web3.isOnCurve parsed.agentOwner = true ∧
        parsed.event web3 deployment slug hydrated = event) batch events →
      List.Forall₂ (Builds web3 runtime deployment slug) batch events :=
    fun parsed => parsed.imp fun _ _ ⟨message, read, _, same⟩ =>
      ⟨message, hydrated, read, ready.recipients, same⟩
  constructor
  · intro through data member
    obtain ⟨ix, raw, wire, submitted, tagged, read, passes⟩ := through
    obtain ⟨events, parsed, built⟩ := (submitViaAdapter_eq_ok ready nonempty single).mp submitted
    have within := (unpoisoned_events_iff few (builds parsed)).mp
      ⟨ix, raw, wire, built, tagged, read, passes⟩
    refine ⟨within data member, fun agent named => ?_⟩
    obtain ⟨message, found, onCurve⟩ : ∃ message, parse web3 runtime data = .ok message ∧
        web3.isOnCurve message.agentOwner = true := by
      have each : (∀ data ∈ batch, ∃ message, parse web3 runtime data = .ok message ∧
          web3.isOnCurve message.agentOwner = true) ↔ ∀ event ∈ events, True :=
        forall_iff_of_forall₂ parsed fun _ _ ⟨message, read, curve, _⟩ =>
          iff_true_intro ⟨message, read, curve⟩
      exact each.mpr (fun _ _ => trivial) data member
    simp only [parse, newPublicKey, bind_eq_ok, okOr_eq_ok, Except.ok.injEq] at found
    obtain ⟨_, -, _, owned, _, -, _, -, _, -, _, -, rfl⟩ := found
    cases named.symm.trans owned
    exact onCurve
  · intro within
    have parsed : ∀ data ∈ batch, ∃ event, ∃ parsed, parse web3 runtime data = .ok parsed ∧
        web3.isOnCurve parsed.agentOwner = true ∧
        parsed.event web3 deployment slug hydrated = event := by
      intro data member
      obtain ⟨limits, onCurve⟩ := within data member
      obtain ⟨message, read⟩ := limits.parses
      have found := read
      simp only [parse, newPublicKey, bind_eq_ok, okOr_eq_ok, Except.ok.injEq] at found
      obtain ⟨_, -, agent, owned, _, -, _, -, _, -, _, -, rfl⟩ := found
      exact ⟨_, _, read, onCurve agent owned, rfl⟩
    obtain ⟨events, paired⟩ := exists_forall₂ parsed
    obtain ⟨ix, raw, wire, built, checks⟩ := (unpoisoned_events_iff few (builds paired)).mpr
      fun data member => (within data member).1
    exact ⟨ix, raw, wire, (submitViaAdapter_eq_ok ready nonempty single).mpr
      ⟨events, paired, built⟩, checks⟩

/-! ## The legacy path -/

theorem feeShares_spec {premium : Int} {recipients : List FeeRecipient}
    {shares : List RecipientShare}
    (paid : feeShares web3 deployment chain premium recipients caches = .ok (shares, later)) :
    ∃ dests : List Address, dests.length = recipients.length ∧
      shares.map RecipientShare.pubkey = dests.map fun dest => web3.toBase58 dest.toList := by
  induction recipients generalizing caches shares later with
  | nil =>
      cases paid
      exact ⟨[], rfl, rfl⟩
  | cons recipient recipients ih =>
      simp only [feeShares, bind_eq_ok, Prod.exists, Except.ok.injEq, Prod.mk.injEq] at paid
      obtain ⟨dest, _, -, rest, _, others, rfl, -⟩ := paid
      obtain ⟨dests, length, named⟩ := ih others
      exact ⟨dest :: dests, by simp [length], by simp [named]⟩

theorem computeFeeShares_spec {premium : Int} {config : EndpointConfig}
    {shares : List RecipientShare}
    (paid : computeFeeSharesForEvent web3 deployment chain premium config caches =
      .ok (shares, later)) :
    ∃ dests, shares.mapM (fun share => newPublicKey web3 share.pubkey) = .ok dests ∧
      dests.length ≤ config.feeRecipientCount := by
  simp only [computeFeeSharesForEvent, bind_eq_ok, failIf_eq_ok, exists_const] at paid
  obtain ⟨-, paid⟩ := paid
  obtain ⟨dests, length, named⟩ := feeShares_spec paid
  exact ⟨dests, newPublicKey_shares named, length ▸ List.length_take_le _ _⟩

section Legacy

variable {snapshots : List (String × EndpointSnapshot)} {events : List LegacyEvent}

theorem legacyEvent_builds {found : LegacyEvent} (single : extractSlug data = .ok slug)
    (looked : snapshots.lookup slug = some snap) (counted : snap.config.feeRecipientCount ≤ 8)
    (built : legacyEvent web3 runtime deployment chain snapshots data caches =
      .ok (found, later)) :
    Builds web3 runtime deployment slug data (found.event, found.callRecordPda) := by
  simp only [legacyEvent, single, looked, okOr_some, ok_bind, bind_eq_ok, Prod.exists,
    Except.ok.injEq, Prod.mk.injEq] at built
  obtain ⟨callId, named, agent, owned, premium, paid, refund, owed, latency, took, timestamp,
    stamped, shares, _, shared, atas, keyed, rfl, -⟩ := built
  obtain ⟨dests, read, bounded⟩ := computeFeeShares_spec shared
  cases keyed.symm.trans read
  refine ⟨⟨callId, agent, premium, refund, latency,
    breachFromOutcome (data.outcome.orElse (.string "ok")).toStr, timestamp⟩,
    snap.hydrated atas, ?_, bounded.trans counted, rfl⟩
  simp only [parse, named, owned, paid, owed, took, stamped, ok_bind]

theorem legacyEvent_accepts (single : extractSlug data = .ok slug)
    (looked : snapshots.lookup slug = some snap)
    (payable : ∀ premium caches,
      accepts (computeFeeSharesForEvent web3 deployment chain premium snap.config caches))
    (parses : accepts (parse web3 runtime data)) (caches : Caches) :
    accepts (legacyEvent web3 runtime deployment chain snapshots data caches) := by
  obtain ⟨parsed, read⟩ := parses
  simp only [parse, bind_eq_ok, Except.ok.injEq] at read
  obtain ⟨callId, named, agent, owned, premium, paid, refund, owed, latency, took, timestamp,
    stamped, -⟩ := read
  obtain ⟨⟨shares, later⟩, shared⟩ := payable premium caches
  obtain ⟨dests, keyed, -⟩ := computeFeeShares_spec shared
  simp only [legacyEvent, single, looked, okOr_some, ok_bind, named, owned, paid, owed, took,
    stamped, shared, keyed]
  exact ⟨_, rfl⟩

theorem legacyEvents_builds (single : ∀ data ∈ batch, extractSlug data = .ok slug)
    (looked : snapshots.lookup slug = some snap) (counted : snap.config.feeRecipientCount ≤ 8)
    (built : legacyEvents web3 runtime deployment chain snapshots batch caches =
      .ok (events, later)) :
    List.Forall₂ (Builds web3 runtime deployment slug) batch
      (events.map fun event => (event.event, event.callRecordPda)) := by
  induction batch generalizing caches later events with
  | nil =>
      cases built
      exact .nil
  | cons data batch ih =>
      simp only [legacyEvents, bind_eq_ok, Prod.exists, Except.ok.injEq, Prod.mk.injEq] at built
      obtain ⟨first, _, one, rest, _, others, rfl, -⟩ := built
      exact .cons (legacyEvent_builds (single data List.mem_cons_self) looked counted one)
        (ih (fun other member => single other (List.mem_cons_of_mem _ member)) others)

theorem legacyEvents_accepts (single : ∀ data ∈ batch, extractSlug data = .ok slug)
    (looked : snapshots.lookup slug = some snap)
    (payable : ∀ premium caches,
      accepts (computeFeeSharesForEvent web3 deployment chain premium snap.config caches))
    (parses : ∀ data ∈ batch, accepts (parse web3 runtime data)) (caches : Caches) :
    accepts (legacyEvents web3 runtime deployment chain snapshots batch caches) := by
  induction batch generalizing caches with
  | nil => exact ⟨_, rfl⟩
  | cons data batch ih =>
      obtain ⟨⟨first, middle⟩, one⟩ := legacyEvent_accepts (single data List.mem_cons_self) looked
        payable (parses data List.mem_cons_self) caches
      obtain ⟨⟨rest, later⟩, others⟩ := ih
        (fun other member => single other (List.mem_cons_of_mem _ member))
        (fun other member => parses other (List.mem_cons_of_mem _ member)) middle
      simp only [legacyEvents, one, others, ok_bind]
      exact ⟨_, rfl⟩

end Legacy

theorem legacy_unpoisoned_iff
    (ready : EndpointReady web3 deployment chain now slug caches later snap hydrated)
    (nonempty : batch ≠ []) (few : batch.length ≤ 50)
    (single : ∀ data ∈ batch, extractSlug data = .ok slug) :
    Unpoisoned clock
        ((Paths.submitLegacyDirect web3 runtime deployment chain now batch caches).map Prod.fst) ↔
      ∀ data ∈ batch, WithinLimits web3 runtime clock data := by
  have looked : [(slug, snap)].lookup slug = some snap := by simp
  have slugs : (List.replicate batch.length slug).eraseDups = [slug] := by
    obtain ⟨first, rest, rfl⟩ := List.exists_cons_of_ne_nil nonempty
    exact eraseDups_replicate slug rest.length
  simp only [Paths.submitLegacyDirect, slugs_of_single single, ok_bind, slugs, loadSnapshots,
    ready.loaded]
  cases collected : legacyEvents web3 runtime deployment chain [(slug, snap)] batch later with
  | error failure =>
      constructor
      · intro through
        obtain ⟨_, _, _, built, -⟩ := through
        cases built
      · intro within
        obtain ⟨events, built⟩ := legacyEvents_accepts single looked ready.payable
          (fun data member => (within data member).parses) later
        cases collected.symm.trans built
  | ok collected' =>
      obtain ⟨events, final⟩ := collected'
      have built := legacyEvents_builds single looked ready.counted collected
      have through : Unpoisoned clock _ ↔ _ := unpoisoned_events_iff few built
      simp only [List.map_map, Function.comp_def] at through
      rw [← through, ok_bind]
      cases buildSettleBatchIx (settleBatchParams deployment (events.map LegacyEvent.event)
          (events.map LegacyEvent.callRecordPda)) with
      | error failure => exact Iff.rfl
      | ok ix => exact Iff.rfl

end Messages

/-! ## The batches of a run -/

section Batcher

variable {runtime : Runtime} {world : World}

/-- A batch as the batcher sends it: admitted messages of one network and slug. -/
structure Formed (runtime : Runtime) (messages : List SettleMessage) : Prop where
  nonempty : messages ≠ []
  few : messages.length ≤ maxBatchSize
  keyed : ∃ key, ∀ message ∈ messages, message.key = key
  admitted : ∀ message ∈ messages, message.Charged runtime

/-- What is queued was admitted, and what was sent out was formed. -/
structure Filtered (runtime : Runtime) (world : World) : Prop where
  queued : ∀ message ∈ world.pending, message.Charged runtime
  sent : ∀ call ∈ world.calls, Formed runtime call.messages

theorem Filtered.flush (filtered : Filtered runtime world)
    (bounded : world.pending.length ≤ maxBatchSize) : Filtered runtime world.flush := by
  rw [World.flush_spec]
  refine ⟨fun _ member => absurd member List.not_mem_nil, fun call member => ?_⟩
  cases List.mem_append.mp member with
  | inl earlier => exact filtered.sent call earlier
  | inr now =>
      split at now
      case isTrue =>
        obtain ⟨messages, part, rfl⟩ := List.mem_map.mp now
        have within : (Grouping.partition SettleMessage.key world.pending).flatten ⊆
            world.pending :=
          (Grouping.partition_perm _).subset
        exact {
          nonempty := Grouping.ne_nil_of_mem_partition part
          few := (Grouping.length_of_mem_partition part).trans bounded
          keyed := Grouping.keyed_of_mem_partition part
          admitted := fun message inside =>
            filtered.queued message (within (List.mem_flatten_of_mem part inside)) }
      case isFalse => exact absurd now List.not_mem_nil

theorem Filtered.apply (filtered : Filtered runtime world) (sound : Batching.Sound world)
    (turn : Turn) : Filtered runtime (turn.apply runtime world) := by
  cases turn with
  | setFlushCallback => exact ⟨filtered.queued, filtered.sent⟩
  | push message =>
      by_cases charged : message.Charged runtime
      · have queued : Filtered runtime (world.enqueue message) := by
          refine ⟨fun other member => ?_, by simpa using filtered.sent⟩
          rw [World.pending_enqueue] at member
          cases List.mem_append.mp member with
          | inl earlier => exact filtered.queued other earlier
          | inr last => exact List.mem_singleton.mp last ▸ charged
        simp only [Turn.apply, World.push_of_charged charged]
        split
        case isTrue =>
          refine Filtered.flush ⟨by simpa using queued.queued, by simpa using filtered.sent⟩ ?_
          rw [World.pending_cancelTimer, World.pending_enqueue, List.length_append]
          exact sound.below
        case isFalse => exact queued
      · cases pushed : world.push runtime message with
        | error failure => simpa only [Turn.apply, pushed] using filtered
        | ok next =>
            simp only [Turn.apply, pushed, World.push_of_not_charged charged pushed]
            exact ⟨filtered.queued, filtered.sent⟩
  | timer handle =>
      have fired : Filtered runtime { world with timers := world.timers.erase handle } :=
        ⟨filtered.queued, filtered.sent⟩
      exact fired.flush sound.below.le
  | flush => exact filtered.flush sound.below.le
  | settle call result =>
      refine ⟨filtered.queued, fun entry member => ?_⟩
      obtain ⟨index, inside, rfl⟩ := List.getElem_of_mem member
      simp only [Turn.apply, List.getElem_modify] at inside ⊢
      have before : index < world.calls.length := by
        rwa [List.length_modify] at inside
      have formed := filtered.sent _ (List.getElem_mem before)
      split
      case isTrue => exact formed
      case isFalse => exact formed

theorem formed_of_sent (reached : Reached runtime world) {call : Call}
    (sent : call ∈ world.calls) : Formed runtime call.messages := by
  have both : Batching.Sound world ∧ Filtered runtime world := by
    refine reached.fires (fun world => Batching.Sound world ∧ Filtered runtime world) ?_ ?_
    · intro first same
      rw [same]
      exact ⟨(Idle.mk rfl rfl rfl).sound, fun _ member => absurd member List.not_mem_nil,
        fun _ member => absurd member List.not_mem_nil⟩
    · intro before turn holds _
      exact ⟨holds.1.apply turn, holds.2.apply holds.1 turn⟩
  exact both.2.sent call sent

theorem Formed.single {messages : List SettleMessage} (formed : Formed runtime messages)
    {first : SettleMessage} (member : first ∈ messages) {slug : String}
    (named : extractSlug first.data = .ok slug) :
    ∀ data ∈ messages.map SettleMessage.data, extractSlug data = .ok slug := by
  obtain ⟨key, keyed⟩ := formed.keyed
  refine List.forall_mem_map.mpr fun message inside => ?_
  have same : stringOr "" message.data.endpointSlug = stringOr "" first.data.endpointSlug :=
    congrArg Prod.snd ((keyed message inside).trans (keyed first member).symm)
  have known : ∃ text, first.data.endpointSlug = .string text ∧ text.length ≠ 0 := by
    unfold extractSlug at named
    split at named
    case h_1 text found =>
      refine ⟨text, found, fun empty => ?_⟩
      rw [if_pos empty] at named
      cases named
    case h_2 => cases named
  obtain ⟨text, found, filled⟩ := known
  cases other : message.data.endpointSlug with
  | string name =>
      rw [other, found] at same
      have equal : name = text := same
      rw [← named, extractSlug, extractSlug, other, found, equal]
  | _ =>
      rw [other, found] at same
      have empty : "" = text := same
      rw [← empty] at filled
      exact absurd rfl filled

end Batcher

namespace PoisonDemo

def runtime : Runtime where
  bigInt text := [("0", 0), ("50", 50), ("1000", 1000)].lookup text
  number _ := none
  dateParse _ := none

def message (id callId premium : String) : SettleMessage where
  id := id
  network := .undefined
  data := { PathDemo.message with
    callId := .string callId
    premiumLamports := .string premium }

def paid : SettleMessage := message "a" "00000000-0000-0000-0000-000000000001" "1000"

def other : SettleMessage := message "b" "00000000-0000-0000-0000-000000000002" "1000"

def small : SettleMessage := message "c" "00000000-0000-0000-0000-000000000003" "50"

def flushed (last : SettleMessage) : World :=
  [Turn.setFlushCallback, .push paid, .push last, .timer 0].foldl (Turn.apply runtime)
    World.constructed

theorem flushed_reached (last : SettleMessage) (set : (([Turn.setFlushCallback, .push paid,
    .push last].foldl (Turn.apply runtime) World.constructed).timers = [0])) :
    Reached runtime (flushed last) := by
  refine Reachable.replay _ (.start rfl) ⟨trivial, trivial, trivial, ?_, trivial⟩
  have timer : 0 ∈ ([Turn.setFlushCallback, .push paid, .push last].foldl (Turn.apply runtime)
      World.constructed).timers := by
    rw [set]
    exact List.mem_singleton_self 0
  exact timer

def clock : Int64 := 1700000100

def hydrated : Hydrated where
  endpointConfigPda := PathDemo.deployment.addresses.of (.endpointConfig PathDemo.slug)
  coveragePoolPda := PathDemo.deployment.addresses.of (.coveragePool PathDemo.slug)
  poolVault := PathDemo.key 2
  feeRecipientAtas := [PathDemo.key 4]

theorem ready : EndpointReady PathDemo.web3 PathDemo.deployment
    (PathDemo.chain (PathDemo.endpoint 0 1)) 30000 "api" PathDemo.caches PathDemo.caches
    (PathDemo.snapshot 0 (PathDemo.endpoint 0 1)) hydrated where
  loaded := by
    have fresh : PathDemo.caches.fresh 30000 "api" =
        some (PathDemo.snapshot 0 (PathDemo.endpoint 0 1)) := by
      decide +kernel
    rw [loadEndpoint, fresh]
  hydrates := by decide +kernel
  recipients := by decide
  payable premium caches := by
    have recipients : (PathDemo.snapshot 0 (PathDemo.endpoint 0 1)).config.feeRecipients.take
        (PathDemo.snapshot 0 (PathDemo.endpoint 0 1)).config.feeRecipientCount =
          [FeeRecipient.ofProgram PathDemo.toBase58 PathDemo.treasuryRecipient] := rfl
    have treasury :
        (FeeRecipient.ofProgram PathDemo.toBase58 PathDemo.treasuryRecipient).kind = 0 :=
      rfl
    have vault : loadTreasuryVault PathDemo.web3 PathDemo.deployment
        (PathDemo.chain (PathDemo.endpoint 0 1)) = .ok (PathDemo.key 4) := by
      decide +kernel
    rw [computeFeeSharesForEvent, failIf_of_not (by decide +kernel), ok_bind, recipients, feeShares,
      resolveRecipient, if_pos treasury, requireTreasuryVault]
    cases caches.treasuryVault with
    | none =>
        rw [vault]
        exact ⟨_, rfl⟩
    | some cached => exact ⟨_, rfl⟩
  counted := by decide

theorem limits {id callId : String}
    (sized : ((codeUnits callId).filter (· ≠ 45)).length = 32) :
    WithinLimits PathDemo.web3 runtime clock (message id callId "1000").data where
  callId := sized
  agentPubkey := by
    have zero : PathDemo.web3.publicKey "11111111111111111111111111111111" =
        some (PathDemo.key 0) := by
      decide +kernel
    exact Option.isSome_iff_exists.mpr ⟨_, zero⟩
  premiumLamports := ⟨1000, rfl, by decide, by decide⟩
  refundLamports := ⟨0, rfl, by decide, by decide⟩
  latencyMs := ⟨150, rfl, by decide, by decide⟩
  timestamp := ⟨1700000000, rfl, by decide, by decide⟩

end PoisonDemo

end PactNetwork.Settler.Admission
