import PactNetwork.V1.Batching
import PactNetwork.V1Client.Instructions

/-!
# The wire format of settle_batch

The program reads back what the client's builder wrote: the same events in the
same order, each with its own accounts, and nothing left over.
-/

set_option autoImplicit false

namespace PactNetwork.V1

open Solana

namespace SettleBatch

/-! ## What the handler reads -/

/-- The accounts the loop takes for its events, under the bound it puts on
their recipient counts. Also the accounts left. -/
def readSlots : List SettlementEvent → List Address →
    Except ProgramError (List (SettlementEvent × EventAccounts) × List Address)
  | [], rest => .ok ([], rest)
  | event :: events, rest => do
      failIf (event.feeCountHint.toNat > maxFeeRecipients) (↑PactError.feeRecipientArrayTooLong)
      let (accounts, rest) ← takeEvent event.feeCountHint rest
      let (slots, rest) ← readSlots events rest
      .ok ((event, accounts) :: slots, rest)

/-- The handler's reads alone, without what it does in between. -/
def readBatch (accounts : List Address) (data : List UInt8) :
    Except ProgramError
      (FixedAccounts × List (SettlementEvent × EventAccounts) × List Address) := do
  let (fixed, rest) ← takeFixed accounts
  failIf (data.length < 2) .invalidInstructionData
  let events ← parseEvents data
  let (slots, rest) ← readSlots events rest
  .ok (fixed, slots, rest)

section Reads

variable {addresses : Addresses} {context : Context}

theorem readSlots_of_settleStep {fixed : FixedAccounts} {authorityBump : UInt8}
    {events : List SettlementEvent} {progress final : Progress}
    (settled : events.foldlM (settleStep addresses context fixed authorityBump) progress =
      .ok final) :
    accepts (readSlots events progress.rest) := by
  induction events generalizing progress with
  | nil => exact ⟨_, rfl⟩
  | cons event events ih =>
      simp only [foldlM_cons_eq_ok, settleStep, bind_eq_ok, checkEvent_eq_ok, Except.ok.injEq,
        Prod.exists] at settled
      obtain ⟨middle, ⟨-, ⟨-, -, small⟩, accounts, rest, taken, ledger, receipt, -, rfl⟩, later⟩ :=
        settled
      obtain ⟨⟨slots, left⟩, read⟩ := ih later
      refine ⟨((event, accounts) :: slots, left), ?_⟩
      have read : readSlots events rest = .ok (slots, left) := read
      simp only [readSlots, failIf_of_not small, ok_bind, taken, read]

theorem readBatch_of_process {ledger : Ledger} {accounts : List Address} {data : List UInt8}
    (accepted : accepts (process addresses context ledger accounts data)) :
    accepts (readBatch accounts data) := by
  obtain ⟨result, accepted⟩ := accepted
  simp only [process, bind_eq_ok, failIf_eq_ok, exists_const, Prod.exists] at accepted
  obtain ⟨fixed, rest, taken, long, bump, -, events, parsed, progress, settled, -⟩ := accepted
  obtain ⟨⟨slots, left⟩, read⟩ := readSlots_of_settleStep settled
  refine ⟨(fixed, slots, left), ?_⟩
  simp only [readBatch, taken, ok_bind, failIf_of_not long, parsed, read]

end Reads

theorem readSlots_slots {slots : List Slot}
    (small : ∀ slot ∈ slots, slot.event.feeCountHint.toNat ≤ maxFeeRecipients) :
    readSlots (slots.map Slot.event) (slots.flatMap fun slot => slot.accounts.toList) =
      .ok (slots.map fun slot => (slot.event, slot.accounts), []) := by
  induction slots with
  | nil => rfl
  | cons slot slots ih =>
      have first := small slot List.mem_cons_self
      have others := ih fun other member => small other (List.mem_cons_of_mem _ member)
      simp only [List.map_cons, List.flatMap_cons, readSlots, failIf_of_not (Nat.not_lt.mpr first),
        ok_bind, takeEvent_toList, others]

theorem readBatch_slots (fixed : FixedAccounts) {slots : List Slot} (few : slots.length ≤ 50)
    (small : ∀ slot ∈ slots, slot.event.feeCountHint.toNat ≤ maxFeeRecipients) :
    readBatch (fixed.toList ++ slots.flatMap fun slot => slot.accounts.toList)
        (encodeEvents (slots.map Slot.event)) =
      .ok (fixed, slots.map fun slot => (slot.event, slot.accounts), []) := by
  have long : ¬(encodeEvents (slots.map Slot.event)).length < 2 := by
    rw [encodeEvents, List.length_append, length_leBytes]
    omega
  simp only [readBatch, FixedAccounts.toList, List.cons_append, List.nil_append, takeFixed, ok_bind,
    failIf_of_not long]
  rw [parseEvents_encodeEvents (by rwa [List.length_map]), ok_bind, readSlots_slots small]
  rfl

end SettleBatch

end PactNetwork.V1

namespace PactNetwork.V1Client

open Solana V1

/-! ## Carrying an event -/

/-- The fields of an event fit their places on the wire. -/
structure SettlementEvent.InRange (ev : SettlementEvent) : Prop where
  callId : ev.callId.length = 16
  slug : ev.slug.length ≤ 16
  premiumLamports : 0 ≤ ev.premiumLamports ∧ ev.premiumLamports < 2 ^ 64
  refundLamports : 0 ≤ ev.refundLamports ∧ ev.refundLamports < 2 ^ 64
  latencyMs : 0 ≤ ev.latencyMs ∧ ev.latencyMs < 2 ^ 32
  timestamp : -2 ^ 63 ≤ ev.timestamp ∧ ev.timestamp < 2 ^ 63

/-- The program's event and accounts are the client's. -/
structure Carries (ev : SettlementEvent) (callRecordPda : Address) (slot : SettleBatch.Slot) :
    Prop where
  callId : slot.event.callId.toList = ev.callId
  agentOwner : slot.event.agentOwner = ev.agentOwner
  slug : slot.event.endpointSlug.toList = ev.slug ++ List.replicate (16 - ev.slug.length) 0
  premiumLamports : (slot.event.premiumLamports.toNat : Int) = ev.premiumLamports
  refundLamports : (slot.event.refundLamports.toNat : Int) = ev.refundLamports
  latencyMs : (slot.event.latencyMs.toNat : Int) = ev.latencyMs
  breach : slot.event.breach = if ev.breach then 1 else 0
  feeCountHint : slot.event.feeCountHint.toNat = ev.feeRecipientAtas.length
  pad : slot.event.pad = List.Vector.replicate 6 0
  timestamp : slot.event.timestamp.toInt = ev.timestamp
  pad2 : slot.event.pad2 = List.Vector.replicate 4 0
  accounts : slot.accounts = ⟨callRecordPda, ev.coveragePool, ev.poolVault, ev.endpointConfig,
    ev.agentAta, ev.feeRecipientAtas⟩

section Event

variable {ev : SettlementEvent} {callRecordPda : Address} {slot : SettleBatch.Slot}

theorem SettlementEvent.InRange.carried (inRange : ev.InRange) (callRecordPda : Address)
    (recipients : ev.feeRecipientAtas.length < 256) : ∃ slot, Carries ev callRecordPda slot := by
  have hint : (UInt8.ofNat ev.feeRecipientAtas.length).toNat = ev.feeRecipientAtas.length :=
    UInt8.toNat_ofNat_of_lt' recipients
  refine ⟨⟨⟨⟨ev.callId, inRange.callId⟩, ev.agentOwner,
    ⟨ev.slug ++ List.replicate (16 - ev.slug.length) 0, ?_⟩, UInt64.ofNat ev.premiumLamports.toNat,
    UInt64.ofNat ev.refundLamports.toNat, UInt32.ofNat ev.latencyMs.toNat, if ev.breach then 1 else 0,
    UInt8.ofNat ev.feeRecipientAtas.length, List.Vector.replicate 6 0, Int64.ofInt ev.timestamp,
    List.Vector.replicate 4 0⟩, ⟨callRecordPda, ev.coveragePool, ev.poolVault, ev.endpointConfig,
    ev.agentAta, ev.feeRecipientAtas⟩, hint.symm⟩, ?_⟩
  · rw [List.length_append, List.length_replicate]
    have := inRange.slug
    omega
  · exact {
      callId := rfl
      agentOwner := rfl
      slug := rfl
      premiumLamports := by
        have bounds := inRange.premiumLamports
        have fits : ev.premiumLamports.toNat < 2 ^ 64 := by omega
        rw [UInt64.toNat_ofNat_of_lt' fits, Int.toNat_of_nonneg bounds.1]
      refundLamports := by
        have bounds := inRange.refundLamports
        have fits : ev.refundLamports.toNat < 2 ^ 64 := by omega
        rw [UInt64.toNat_ofNat_of_lt' fits, Int.toNat_of_nonneg bounds.1]
      latencyMs := by
        have bounds := inRange.latencyMs
        have fits : ev.latencyMs.toNat < 2 ^ 32 := by omega
        rw [UInt32.toNat_ofNat_of_lt' fits, Int.toNat_of_nonneg bounds.1]
      breach := rfl
      feeCountHint := hint
      pad := rfl
      timestamp := Int64.toInt_ofInt_of_le inRange.timestamp.1 inRange.timestamp.2
      pad2 := rfl
      accounts := rfl }

theorem Carries.eventKeys (carries : Carries ev callRecordPda slot) :
    (eventKeys ev callRecordPda).map AccountMeta.pubkey = slot.accounts.toList := by
  rw [carries.accounts]
  simp [V1Client.eventKeys, EventAccounts.toList, Function.comp_def]

/-! ## Writing an event -/

theorem writeUInt_eq (width : Nat) {data : List UInt8} {value : Int} {offset number : Nat}
    (same : (number : Int) = value) (small : number < 256 ^ width) :
    writeUInt width data value offset = .ok (blit data offset (leBytes width number)) := by
  have fits : ¬(value < 0 ∨ value ≥ 256 ^ width) := by
    subst same
    have : (number : Int) < 256 ^ width := by exact_mod_cast small
    omega
  subst same
  rw [writeUInt, failIf_of_not fits]
  rfl

theorem writeBigInt64LE_eq {data : List UInt8} {value : Int} {offset : Nat} {number : Int64}
    (same : number.toInt = value) :
    writeBigInt64LE data value offset = .ok (blit data offset (Layout.i64.encode number)) := by
  subst same
  have lower := number.le_toInt
  have upper := number.toInt_lt
  have bits : (number.toInt % 2 ^ 64).toNat = number.toUInt64.toNat := by
    have signed : number.toInt = (number.toUInt64.toNat : Int).bmod (2 ^ 64) :=
      BitVec.toInt_eq_toNat_bmod number.toBitVec
    have small := number.toUInt64.toNat_lt
    have mod : (number.toUInt64.toNat : Int).bmod (2 ^ 64) % ((2 ^ 64 : Nat) : Int) =
        number.toUInt64.toNat % ((2 ^ 64 : Nat) : Int) := Int.bmod_emod
    rw [signed]
    omega
  rw [writeBigInt64LE, failIf_of_not (by omega), bits]
  rfl

theorem Carries.asCallId (carries : Carries ev callRecordPda slot) :
    asCallId ev.callId = .ok slot.event.callId.toList := by
  rw [← carries.callId, V1Client.asCallId, if_neg]
  rw [List.Vector.toList_length]
  exact fun different => different rfl

theorem Carries.asSlug (carries : Carries ev callRecordPda slot) :
    asSlug ev.slug = .ok slot.event.endpointSlug.toList := by
  have length := congrArg List.length carries.slug
  rw [List.Vector.toList_length, List.length_append, List.length_replicate] at length
  rw [carries.slug]
  unfold V1Client.asSlug slugLen
  split
  case isTrue exact =>
    rw [exact, Nat.sub_self, List.replicate_zero, List.append_nil]
  case isFalse other =>
    rw [if_neg (by omega)]
    simp only [blit, List.take_zero, List.nil_append, Nat.zero_add, List.drop_replicate]

theorem writeEvent_eq (carries : Carries ev callRecordPda slot) (front : List UInt8) (rest : Nat) :
    writeEvent (front ++ List.replicate (settleEventBytes + rest) 0) front.length ev =
      .ok (front ++ V1.SettlementEvent.layout.encode slot.event ++ List.replicate rest 0) := by
  have start : front ++ List.replicate (settleEventBytes + rest) 0 =
      front ++ [] ++ List.replicate (settleEventBytes + rest) 0 := by rw [List.append_nil]
  have hint : UInt8.ofNat ev.feeRecipientAtas.length = slot.event.feeCountHint := by
    rw [← carries.feeCountHint, UInt8.ofNat_toNat]
  unfold writeEvent
  simp only [carries.asCallId, carries.asSlug, ok_bind,
    writeUInt_eq 8 carries.premiumLamports slot.event.premiumLamports.toNat_lt,
    writeUInt_eq 8 carries.refundLamports slot.event.refundLamports.toNat_lt,
    writeUInt_eq 4 carries.latencyMs slot.event.latencyMs.toNat_lt,
    writeBigInt64LE_eq carries.timestamp]
  rw [start, blit_next front, blit_next front, blit_next front, blit_next front, blit_next front,
    blit_next front, blit_next front, blit_next front, skip_zeros front _ 6, blit_next front,
    skip_zeros front _ 4]
  · simp only [settleEventBytes, List.Vector.toList_length, length_leBytes,
      List.length_cons, List.length_nil, Layout.length_encode]
    have fields : V1.SettlementEvent.layout.encode slot.event =
        slot.event.callId.toList ++ (slot.event.agentOwner.toList ++
          (slot.event.endpointSlug.toList ++ (leBytes 8 slot.event.premiumLamports.toNat ++
            (leBytes 8 slot.event.refundLamports.toNat ++ (leBytes 4 slot.event.latencyMs.toNat ++
              (Layout.u8.encode slot.event.breach ++ (Layout.u8.encode slot.event.feeCountHint ++
                (slot.event.pad.toList ++ (Layout.i64.encode slot.event.timestamp ++
                  slot.event.pad2.toList))))))))) := rfl
    have zeros : 104 + rest - 16 - 32 - 16 - 8 - 8 - 4 - (0 + 1) - (0 + 1) - 6 - Layout.i64.size -
        4 = rest := by
      rw [show Layout.i64.size = 8 from rfl]
      omega
    rw [zeros, fields, Layout.encode_u8, Layout.encode_u8, carries.agentOwner, carries.breach,
      carries.pad, carries.pad2, hint]
    simp only [List.append_assoc, List.nil_append]
    rfl
  all_goals
    simp only [settleEventBytes, List.length_append, List.Vector.toList_length, length_leBytes,
      List.length_cons, List.length_nil, Layout.length_encode, List.length_replicate,
      show Layout.i64.size = 8 from rfl]
  all_goals omega

end Event

/-! ## Writing a batch -/

def CarriesAll (pairs : List (SettlementEvent × Address)) (slots : List SettleBatch.Slot) : Prop :=
  List.Forall₂ (fun pair slot => Carries pair.1 pair.2 slot) pairs slots

section Batch

variable {pairs : List (SettlementEvent × Address)} {slots : List SettleBatch.Slot}

theorem carried_all (inRange : ∀ pair ∈ pairs, pair.1.InRange)
    (recipients : ∀ pair ∈ pairs, pair.1.feeRecipientAtas.length < 256) :
    ∃ slots, CarriesAll pairs slots := by
  induction pairs with
  | nil => exact ⟨[], .nil⟩
  | cons pair pairs ih =>
      obtain ⟨slot, carries⟩ := (inRange pair List.mem_cons_self).carried pair.2
        (recipients pair List.mem_cons_self)
      obtain ⟨slots, others⟩ := ih (fun other member => inRange other (List.mem_cons_of_mem _ member))
        fun other member => recipients other (List.mem_cons_of_mem _ member)
      exact ⟨slot :: slots, .cons carries others⟩

theorem CarriesAll.small (carried : CarriesAll pairs slots)
    (recipients : ∀ pair ∈ pairs, pair.1.feeRecipientAtas.length ≤ 8) :
    ∀ slot ∈ slots, slot.event.feeCountHint.toNat ≤ V1.maxFeeRecipients := by
  induction carried with
  | nil => exact nofun
  | @cons pair slot pairs slots carries others ih =>
      intro other member
      cases member with
      | head =>
          rw [carries.feeCountHint]
          exact recipients pair List.mem_cons_self
      | tail _ later =>
          exact ih (fun next inside => recipients next (List.mem_cons_of_mem _ inside)) other later

theorem CarriesAll.writeEvents (carried : CarriesAll pairs slots) (front : List UInt8) (i : Nat)
    (place : front.length = 3 + i * settleEventBytes) :
    writeEvents (front ++ List.replicate (pairs.length * settleEventBytes) 0) i
        (pairs.map Prod.fst) =
      .ok (front ++ (slots.map SettleBatch.Slot.event).flatMap V1.SettlementEvent.layout.encode) := by
  induction carried generalizing front i with
  | nil =>
      rw [List.length_nil, Nat.zero_mul, List.replicate_zero]
      rfl
  | @cons pair slot pairs slots carries others ih =>
      have length : (front ++ V1.SettlementEvent.layout.encode slot.event).length =
          3 + (i + 1) * settleEventBytes := by
        rw [List.length_append, Layout.length_encode, place, V1.SettlementEvent.layout_size,
          settleEventBytes]
        omega
      rw [List.length_cons, Nat.succ_mul, Nat.add_comm, List.map_cons, V1Client.writeEvents, ← place,
        writeEvent_eq carries, ok_bind, ih _ _ length, List.map_cons, List.flatMap_cons,
        List.append_assoc]

theorem CarriesAll.eventKeys (carried : CarriesAll pairs slots) :
    ((pairs.map fun pair => V1Client.eventKeys pair.1 pair.2).flatten).map AccountMeta.pubkey =
      slots.flatMap fun slot => slot.accounts.toList := by
  induction carried with
  | nil => rfl
  | cons carries others ih =>
      rw [List.map_cons, List.flatten_cons, List.map_append, ih, carries.eventKeys, List.flatMap_cons]

theorem writeHeader {count : Nat} (small : count < 256 ^ 2) :
    writeUInt 2 (blit (List.replicate (1 + 2 + count * settleEventBytes) 0) 0 [discSettleBatch])
        count 1 =
      .ok (discSettleBatch :: leBytes 2 count ++ List.replicate (count * settleEventBytes) 0) := by
  have first : blit (List.replicate (1 + 2 + count * settleEventBytes) 0) 0 [discSettleBatch] =
      [] ++ [discSettleBatch] ++ List.replicate (2 + count * settleEventBytes) 0 := by
    unfold blit
    rw [List.take_zero, List.length_singleton, List.drop_replicate,
      show 1 + 2 + count * settleEventBytes - (0 + 1) = 2 + count * settleEventBytes by omega]
  rw [writeUInt_eq 2 rfl small, first, blit_next [] [discSettleBatch] (leBytes 2 count) (show 1 = _ from rfl),
    length_leBytes, Nat.add_sub_cancel_left]
  rfl

theorem CarriesAll.buildSettleBatchIx {p : SettleBatchParams}
    (aligned : p.events.length = p.callRecordPdas.length)
    (carried : CarriesAll (p.events.zip p.callRecordPdas) slots) (few : p.events.length ≤ 50) :
    V1Client.buildSettleBatchIx p = .ok ⟨p.programId.getD V1.programId,
      fixedKeys p.settler p.settlementAuthority p.protocolConfig ++
        (List.zipWith V1Client.eventKeys p.events p.callRecordPdas).flatten,
      discSettleBatch :: SettleBatch.encodeEvents (slots.map SettleBatch.Slot.event)⟩ := by
  have events : (p.events.zip p.callRecordPdas).map Prod.fst = p.events :=
    List.map_fst_zip aligned.le
  have count : (p.events.zip p.callRecordPdas).length = p.events.length := by
    rw [← congrArg List.length events, List.length_map]
  have written := carried.writeEvents (discSettleBatch :: leBytes 2 p.events.length) 0 rfl
  rw [events, count] at written
  have sent : p.events.length = (slots.map SettleBatch.Slot.event).length := by
    rw [List.length_map, ← carried.length_eq, count]
  unfold V1Client.buildSettleBatchIx
  dsimp only
  rw [failIf_of_not (not_not.mpr aligned), ok_bind, writeHeader (by omega), ok_bind, written,
    ok_bind, SettleBatch.encodeEvents, ← sent]
  rfl

theorem CarriesAll.keys {p : SettleBatchParams}
    (carried : CarriesAll (p.events.zip p.callRecordPdas) slots) :
    (fixedKeys p.settler p.settlementAuthority p.protocolConfig ++
        (List.zipWith V1Client.eventKeys p.events p.callRecordPdas).flatten).map
          AccountMeta.pubkey =
      (FixedAccounts.mk p.settler p.settlementAuthority tokenProgram systemProgram
        p.protocolConfig).toList ++ slots.flatMap fun slot => slot.accounts.toList := by
  rw [List.map_append, ← carried.eventKeys, List.map_zip_eq_zipWith]
  rfl

end Batch

/-- What `settle_batch` reads of a built instruction, and what it goes on with:
the events of the batch in order, each with its own accounts, to the last byte
and the last account. -/
theorem settle_batch_round_trip (p : SettleBatchParams)
    (aligned : p.events.length = p.callRecordPdas.length) (few : p.events.length ≤ 50)
    (inRange : ∀ ev ∈ p.events, ev.InRange)
    (recipients : ∀ ev ∈ p.events, ev.feeRecipientAtas.length ≤ 8) :
    ∃ ix data slots, buildSettleBatchIx p = .ok ix ∧
      accountListForBatch p.events p.callRecordPdas p.settler p.settlementAuthority
        p.protocolConfig = .ok ix.keys ∧
      ix.data = discSettleBatch :: data ∧ data.length = 2 + p.events.length * settleEventBytes ∧
      CarriesAll (p.events.zip p.callRecordPdas) slots ∧
      let accounts := ix.keys.map AccountMeta.pubkey
      let fixed : FixedAccounts :=
        ⟨p.settler, p.settlementAuthority, tokenProgram, systemProgram, p.protocolConfig⟩
      SettleBatch.readBatch accounts data =
        .ok (fixed, slots.map fun slot => (slot.event, slot.accounts), []) ∧
      ∀ addresses context ledger,
        processInstruction addresses ledger ⟨context, accounts, ix.data⟩ =
          (SettleBatch.checkFixed addresses context ledger fixed >>= fun authorityBump =>
            slots.foldlM (SettleBatch.settleSlot addresses context fixed authorityBump)
              (ledger, [])) := by
  have member : ∀ pair ∈ p.events.zip p.callRecordPdas, pair.1 ∈ p.events :=
    fun pair inside => (List.of_mem_zip inside).1
  obtain ⟨slots, carried⟩ := carried_all (fun pair inside => inRange _ (member pair inside))
    fun pair inside => Nat.lt_of_le_of_lt (recipients _ (member pair inside)) (by omega)
  have count : slots.length = p.events.length := by
    rw [← carried.length_eq, List.length_zip, ← aligned, Nat.min_self]
  have small := carried.small fun pair inside => recipients _ (member pair inside)
  have built := carried.buildSettleBatchIx aligned few
  refine ⟨_, SettleBatch.encodeEvents (slots.map SettleBatch.Slot.event), slots, built, ?_, rfl,
    ?_, carried, ?_⟩
  · rw [accountListForBatch, failIf_of_not (not_not.mpr aligned)]
    rfl
  · rw [SettleBatch.encodeEvents, List.length_append, length_leBytes, Layout.length_flatMap_encode,
      List.length_map, count]
    rfl
  · intro accounts fixed
    have keys : accounts = fixed.toList ++ slots.flatMap fun slot => slot.accounts.toList :=
      carried.keys
    rw [keys]
    refine ⟨SettleBatch.readBatch_slots fixed (count ▸ few) small, fun addresses context ledger => ?_⟩
    exact SettleBatch.settleBatch_eq (count ▸ few)

namespace Demo

def address (tag : UInt8) : Address := List.Vector.replicate 32 tag

/-- An event with some number of fee recipients. -/
def event (tag : UInt8) (slug : List UInt8) (breach : Bool) (recipients : Nat) : SettlementEvent where
  callId := List.replicate 16 tag
  agentOwner := address 1
  agentAta := address 2
  endpointConfig := address 3
  coveragePool := address 4
  poolVault := address 5
  slug := slug
  premiumLamports := 1000
  refundLamports := 2 ^ 64 - 1
  latencyMs := 2 ^ 32 - 1
  breach := breach
  timestamp := -1
  feeRecipientAtas := List.replicate recipients (address 6)

def batch (events : List SettlementEvent) : SettleBatchParams where
  programId := none
  settler := address 7
  settlementAuthority := address 8
  protocolConfig := address 9
  events := events
  callRecordPdas := List.replicate events.length (address 10)

theorem event_inRange (tag : UInt8) (slug : List UInt8) (short : slug.length ≤ 16) (breach : Bool)
    (recipients : Nat) : (event tag slug breach recipients).InRange where
  callId := rfl
  slug := short
  premiumLamports := (by decide : (0 : Int) ≤ 1000 ∧ (1000 : Int) < 2 ^ 64)
  refundLamports := (by decide : (0 : Int) ≤ 2 ^ 64 - 1 ∧ (2 ^ 64 - 1 : Int) < 2 ^ 64)
  latencyMs := (by decide : (0 : Int) ≤ 2 ^ 32 - 1 ∧ (2 ^ 32 - 1 : Int) < 2 ^ 32)
  timestamp := (by decide : (-2 ^ 63 : Int) ≤ -1 ∧ (-1 : Int) < 2 ^ 63)

end Demo

open Demo in
/-- Two events, of two recipients and of none, are read back. -/
theorem settle_batch_round_trip_pair : ∃ ix data, ∃ slots : List SettleBatch.Slot,
    buildSettleBatchIx (batch [event 1 [104] true 2, event 2 [] false 0]) = .ok ix ∧
      ix.data = discSettleBatch :: data ∧
      SettleBatch.readBatch (ix.keys.map AccountMeta.pubkey) data =
        .ok (⟨address 7, address 8, tokenProgram, systemProgram, address 9⟩,
          slots.map fun slot => (slot.event, slot.accounts), []) := by
  obtain ⟨ix, data, slots, built, -, same, -, -, read, -⟩ := settle_batch_round_trip
    (batch [event 1 [104] true 2, event 2 [] false 0]) rfl (by decide)
    (by
      intro ev member
      rcases List.mem_pair.mp member with rfl | rfl
      · exact event_inRange 1 [104] (by decide) true 2
      · exact event_inRange 2 [] (by decide) false 0)
    (by decide)
  exact ⟨ix, data, slots, built, same, read⟩

open Demo in
/-- An event with nine recipients is built, and refused by the handler. -/
theorem nine_recipients_refused : ∃ ix data,
    (∀ ev ∈ (batch [event 1 [104] true 9]).events, ev.InRange) ∧
      buildSettleBatchIx (batch [event 1 [104] true 9]) = .ok ix ∧
      ix.data = discSettleBatch :: data ∧
      ¬accepts (SettleBatch.readBatch (ix.keys.map AccountMeta.pubkey) data) := by
  have inRange : ∀ ev ∈ (batch [event 1 [104] true 9]).events, ev.InRange := by
    intro ev member
    rw [List.mem_singleton.mp member]
    exact event_inRange 1 [104] (by decide) true 9
  refine ⟨_, _, inRange, rfl, rfl, by decide +kernel⟩

end PactNetwork.V1Client
