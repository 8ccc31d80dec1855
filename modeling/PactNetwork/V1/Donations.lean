import PactNetwork.Solana.Lamports
import PactNetwork.V1.CallIds

/-!
# Lamport donations

Anyone can send lamports to any address. A batch does not notice them, unless
one of its records is to be created where they went.
-/

set_option autoImplicit false

namespace PactNetwork.V1

open Solana

/-- Transfers by third parties: the donor has a key, and it is not the settler's. -/
inductive Donations (addresses : Addresses) (settler : Address) (before : Ledger) : Ledger → Prop
  | none : Donations addresses settler before before
  | transfer {given : Ledger} (earlier : Donations addresses settler before given)
      (donor recipient : Address) (amount : Nat) (third : donor ≠ settler)
      (keyed : ∀ pda, addresses.of pda ≠ donor) (owner : (given donor).owner = systemProgram)
      (empty : (given donor).data = []) (funds : amount ≤ (given donor).lamports) :
      Donations addresses settler before (transferLamports given donor recipient amount)

/-- What donations may do: balances change, but those of the settler and of the
program's addresses do not fall. -/
structure Enriched (addresses : Addresses) (settler : Address) (before given : Ledger) : Prop where
  owner : ∀ address, (given address).owner = (before address).owner
  data : ∀ address, (given address).data = (before address).data
  settler : (before settler).lamports ≤ (given settler).lamports
  derived : ∀ pda, (before (addresses.of pda)).lamports ≤ (given (addresses.of pda)).lamports

theorem Donations.enriched {addresses : Addresses} {settler : Address} {before given : Ledger}
    (donations : Donations addresses settler before given) :
    Enriched addresses settler before given := by
  induction donations with
  | none => exact ⟨fun _ => rfl, fun _ => rfl, le_rfl, fun _ => le_rfl⟩
  | transfer earlier donor recipient amount third keyed owner empty funds ih =>
      exact ⟨ih.owner, ih.data, ih.settler.trans (lamports_le_transfer third.symm),
        fun pda => (ih.derived pda).trans (lamports_le_transfer (keyed pda))⟩

namespace SettleBatch

/-! ## An event under other balances -/

section Event

variable {addresses : Addresses} {context : Context} {fixed : FixedAccounts} {bump : UInt8}
  {event : SettlementEvent} {accounts : EventAccounts} {lamports : Address → Nat}
  {ledger : Ledger}

def endowed {β : Type} (lamports : Address → Nat) (result : Ledger × β) : Ledger × β :=
  (endow lamports result.1, result.2)

theorem transferPdaSigned_endow (source destination authority : Address) (amount : UInt64)
    (pda : Pda) :
    transferPdaSigned addresses context (endow lamports ledger) source destination authority
        amount pda bump =
      (transferPdaSigned addresses context ledger source destination authority amount pda
        bump).map (endow lamports) :=
  bind_map_congr fun _ => transfer_endow source destination authority amount

theorem updatePool_endow (change : CoveragePool → Except ProgramError CoveragePool) :
    updatePool context (endow lamports ledger) accounts change =
      (updatePool context ledger accounts change).map (endow lamports) :=
  bind_map_congr fun _ => bind_map_congr fun _ => save_endow _ _ _

theorem payFees_endow (recipients : List FeeRecipient) (total : UInt64)
    (paid : List (Address × UInt64)) :
    payFees addresses context event accounts recipients (endow lamports ledger) total paid =
      (payFees addresses context event accounts recipients ledger total paid).map
        (endowed lamports) := by
  induction recipients generalizing ledger total paid with
  | nil => rfl
  | cons recipient rest ih =>
      rw [payFees, payFees]
      by_cases nothing : feeAmount event.premiumLamports recipient.bps = 0
      · rw [if_pos nothing, if_pos nothing]
        exact ih total paid
      · rw [if_neg nothing, if_neg nothing, payFromVault, transferPdaSigned_endow]
        exact map_bind_congr fun _ => bind_map_congr fun _ => ih _ _

theorem debitFees_endow (total : UInt64) :
    debitFees context (endow lamports ledger) accounts total =
      (debitFees context ledger accounts total).map (endow lamports) := by
  unfold debitFees
  split
  case isTrue => exact updatePool_endow _
  case isFalse => rfl

theorem payRefund_endow (refund : UInt64) (status : SettlementStatus) :
    payRefund addresses context (endow lamports ledger) event accounts refund status =
      (payRefund addresses context ledger event accounts refund status).map
        (endowed lamports) := by
  unfold payRefund
  split
  case isFalse => rfl
  case isTrue =>
    refine bind_map_congr fun pool => ?_
    split
    case isTrue => rfl
    case isFalse =>
      rw [payFromVault, transferPdaSigned_endow]
      refine map_bind_congr fun paid => ?_
      rw [updatePool_endow]
      refine map_bind_congr fun debited => bind_map_congr fun endpoint => ?_
      refine bind_map_congr fun counted => ?_
      rw [save_endow]
      exact map_bind_congr fun _ => rfl

theorem writeRecord_endow (status : SettlementStatus) (actualRefund : UInt64)
    (fees : List (Address × UInt64)) :
    writeRecord addresses context (endow lamports ledger) event accounts status actualRefund fees =
      (writeRecord addresses context ledger event accounts status actualRefund fees).map
        (endowed lamports) := by
  refine bind_map_congr fun _ => ?_
  rw [save_endow]
  exact map_bind_congr fun _ => rfl

theorem settleCovered_endow (endpoint : EndpointConfig) :
    settleCovered addresses context (endow lamports ledger) fixed bump event accounts endpoint =
      (settleCovered addresses context ledger fixed bump event accounts endpoint).map
        (endowed lamports) := by
  unfold settleCovered
  rw [transferPdaSigned_endow]
  refine map_bind_congr fun charged => ?_
  rw [updatePool_endow]
  refine map_bind_congr fun credited => bind_map_congr fun stored => ?_
  refine bind_map_congr fun recorded => ?_
  dsimp only
  rw [save_endow]
  refine map_bind_congr fun counted => ?_
  rw [payFees_endow]
  refine map_bind_congr fun paid => ?_
  dsimp only [endowed]
  rw [debitFees_endow]
  refine map_bind_congr fun debited => ?_
  rw [payRefund_endow]
  exact map_bind_congr fun refunded => writeRecord_endow _ _ _

def settleCreated (addresses : Addresses) (context : Context) (fixed : FixedAccounts)
    (bump : UInt8) (event : SettlementEvent) (accounts : EventAccounts)
    (endpoint : EndpointConfig) (ledger : Ledger) : Except ProgramError (Ledger × Receipt) :=
  if delegateOk (ledger accounts.agentAta).data fixed.settlementAuth event.premiumLamports then
    settleCovered addresses context ledger fixed bump event accounts endpoint
  else writeRecord addresses context ledger event accounts .delegateFailed 0 []

theorem settleCreated_endow (endpoint : EndpointConfig) :
    settleCreated addresses context fixed bump event accounts endpoint (endow lamports ledger) =
      (settleCreated addresses context fixed bump event accounts endpoint ledger).map
        (endowed lamports) := by
  unfold settleCreated
  rw [endow_data]
  split
  case isTrue => exact settleCovered_endow endpoint
  case isFalse => exact writeRecord_endow _ _ _

end Event

/-! ## A batch under other balances -/

section Batch

variable {addresses : Addresses} {context : Context} {fixed : FixedAccounts} {bump : UInt8}
  {event : SettlementEvent} {lamports : Address → Nat} {earlier later : Progress}

def Progress.endow (lamports : Address → Nat) (progress : Progress) : Progress :=
  { progress with ledger := Solana.endow lamports progress.ledger }

def afterEvent (addresses : Addresses) (context : Context) (fixed : FixedAccounts)
    (event : SettlementEvent) (lamports : Address → Nat) : Address → Nat :=
  Function.update (Function.update lamports fixed.settlerSigner
    (lamports fixed.settlerSigner - context.minimumBalance CallRecord.layout.size))
    (addresses.of (.callRecord event.callId))
    (context.minimumBalance CallRecord.layout.size)

/-- An accepted event, taken apart at the creation of its record. -/
structure Turn (addresses : Addresses) (context : Context) (fixed : FixedAccounts) (bump : UInt8)
    (event : SettlementEvent) (earlier later : Progress) (accounts : EventAccounts)
    (endpoint : EndpointConfig) (created : Ledger) (receipt : Receipt) : Prop where
  admitted : checkEvent context.now event = .ok ()
  taken : takeEvent event.feeCountHint earlier.rest = .ok (accounts, later.rest)
  checked : checkAccounts addresses earlier.ledger event accounts = .ok endpoint
  record : accounts.callRecord = addresses.of (.callRecord event.callId)
  made : createAccount context earlier.ledger fixed.settlerSigner accounts.callRecord
    (context.minimumBalance CallRecord.layout.size) CallRecord.layout.size programId = .ok created
  settled : settleCreated addresses context fixed bump event accounts endpoint created =
    .ok (later.ledger, receipt)
  appended : later.receipts = earlier.receipts ++ [receipt]

theorem turn_of_settleStep
    (stepped : settleStep addresses context fixed bump earlier event = .ok later) :
    ∃ accounts endpoint created receipt, Turn addresses context fixed bump event earlier later
      accounts endpoint created receipt := by
  simp only [settleStep, bind_eq_ok, Prod.exists, Except.ok.injEq] at stepped
  obtain ⟨_, admitted, accounts, rest, taken, ledger, receipt, settled, rfl⟩ := stepped
  rw [settleEvent, bind_eq_ok] at settled
  obtain ⟨endpoint, checked, settled⟩ := settled
  rw [bind_eq_ok] at settled
  obtain ⟨created, made, settled⟩ := settled
  obtain ⟨pool, bound⟩ := checkAccounts_eq_ok.mp checked
  exact ⟨accounts, endpoint, created, receipt, admitted, taken, checked, bound.callRecord, made,
    settled, rfl⟩

section Turn

variable {accounts : EventAccounts} {endpoint : EndpointConfig} {created : Ledger}
  {receipt : Receipt} (turn : Turn addresses context fixed bump event earlier later accounts
    endpoint created receipt)
include turn

theorem Turn.balances : (fun address => (later.ledger address).lamports) =
    afterEvent addresses context fixed event fun address => (earlier.ledger address).lamports := by
  have settled := turn.settled
  rw [← @endow_self created, settleCreated_endow, map_eq_ok] at settled
  obtain ⟨⟨ledger, receipt⟩, -, same⟩ := settled
  obtain ⟨-, -, -, rfl⟩ := createAccount_eq_ok.mp turn.made
  rw [← (Prod.mk.inj same).1]
  funext address
  rw [endow_lamports, turn.record, afterEvent]
  by_cases made : address = addresses.of (.callRecord event.callId)
  · subst made
    rw [Function.update_self, Function.update_self]
  · rw [Function.update_of_ne made, Function.update_of_ne made]
    by_cases pays : address = fixed.settlerSigner
    · subst pays
      rw [Function.update_self, Function.update_self]
    · rw [Function.update_of_ne pays, Function.update_of_ne pays]

theorem Turn.endowed (funds : (earlier.ledger fixed.settlerSigner).lamports ≤
      lamports fixed.settlerSigner)
    (empty : lamports (addresses.of (.callRecord event.callId)) = 0) :
    settleStep addresses context fixed bump (earlier.endow lamports) event =
      .ok (later.endow (afterEvent addresses context fixed event lamports)) := by
  rw [← turn.record] at empty
  have made := createAccount_endow turn.made empty funds
  have settled : settleEvent addresses context (endow lamports earlier.ledger) fixed bump event
      accounts = .ok (endow (afterEvent addresses context fixed event lamports) later.ledger,
        receipt) := by
    have checked : checkAccounts addresses (endow lamports earlier.ledger) event accounts =
        .ok endpoint := turn.checked
    rw [settleEvent, checked, ok_bind, made, ok_bind]
    refine (settleCreated_endow endpoint).trans ?_
    rw [turn.settled, afterEvent, ← turn.record]
    rfl
  have taken : takeEvent event.feeCountHint (earlier.endow lamports).rest =
      .ok (accounts, later.rest) := turn.taken
  rw [settleStep, turn.admitted, ok_bind, taken, ok_bind]
  dsimp only [Progress.endow]
  rw [settled, ok_bind, turn.appended]

theorem Turn.blocked (given : lamports (addresses.of (.callRecord event.callId)) ≠ 0) :
    settleStep addresses context fixed bump (earlier.endow lamports) event =
      .error (.runtime .accountAlreadyInUse) := by
  rw [← turn.record] at given
  have refused := createAccount_funded turn.made given
  have checked : checkAccounts addresses (endow lamports earlier.ledger) event accounts =
      .ok endpoint := turn.checked
  have taken : takeEvent event.feeCountHint (earlier.endow lamports).rest =
      .ok (accounts, later.rest) := turn.taken
  rw [settleStep, turn.admitted, ok_bind, taken, ok_bind]
  dsimp only [Progress.endow]
  rw [settleEvent, checked, ok_bind, refused, error_bind, error_bind]

end Turn

def Watched (addresses : Addresses) (fixed : FixedAccounts) (address : Address) : Prop :=
  address = fixed.settlerSigner ∨ ∃ pda, address = addresses.of pda

theorem Turn.gifts {accounts : EventAccounts} {endpoint : EndpointConfig} {created : Ledger}
    {receipt : Receipt} (turn : Turn addresses context fixed bump event earlier later accounts
      endpoint created receipt) {gift : Address → Nat}
    (given : ∀ address, Watched addresses fixed address →
      lamports address = (earlier.ledger address).lamports + gift address)
    (empty : gift (addresses.of (.callRecord event.callId)) = 0) (address : Address)
    (watched : Watched addresses fixed address) :
    afterEvent addresses context fixed event lamports address =
      (later.ledger address).lamports + gift address := by
  rw [show (later.ledger address).lamports = _ from congrFun turn.balances address, afterEvent,
    afterEvent]
  by_cases made : address = addresses.of (.callRecord event.callId)
  · subst made
    rw [Function.update_self, Function.update_self, empty, Nat.add_zero]
  · rw [Function.update_of_ne made, Function.update_of_ne made]
    by_cases pays : address = fixed.settlerSigner
    · subst pays
      obtain ⟨-, -, ⟨-, -, rent⟩, -⟩ := createAccount_eq_ok.mp turn.made
      rw [Function.update_self, Function.update_self, given _ watched]
      omega
    · rw [Function.update_of_ne pays, Function.update_of_ne pays, given _ watched]

theorem loop_endow {events : List SettlementEvent} {start finish : Progress}
    (loop : events.foldlM (settleStep addresses context fixed bump) start = .ok finish)
    {gift : Address → Nat} (given : ∀ address, Watched addresses fixed address →
      lamports address = (start.ledger address).lamports + gift address) :
    ((∀ id ∈ events.map (·.callId), gift (addresses.of (.callRecord id)) = 0) →
      ∃ final, events.foldlM (settleStep addresses context fixed bump) (start.endow lamports) =
        .ok (finish.endow final)) ∧
    ((∃ id ∈ events.map (·.callId), gift (addresses.of (.callRecord id)) ≠ 0) →
      ∃ error, events.foldlM (settleStep addresses context fixed bump) (start.endow lamports) =
        .error error) := by
  induction events generalizing start lamports with
  | nil =>
      cases loop
      refine ⟨fun _ => ⟨lamports, rfl⟩, fun some => ?_⟩
      obtain ⟨_, member, -⟩ := some
      cases member
  | cons event rest ih =>
      obtain ⟨middle, first, later⟩ := foldlM_cons_eq_ok.mp loop
      obtain ⟨accounts, endpoint, created, receipt, turn⟩ := turn_of_settleStep first
      have absent : (start.ledger (addresses.of (.callRecord event.callId))).lamports = 0 := by
        obtain ⟨-, absent, -, -⟩ := createAccount_eq_ok.mp turn.made
        rw [← turn.record, absent]
        rfl
      have here := given _ (.inr ⟨.callRecord event.callId, rfl⟩)
      rw [absent, Nat.zero_add] at here
      by_cases empty : gift (addresses.of (.callRecord event.callId)) = 0
      · have funds : (start.ledger fixed.settlerSigner).lamports ≤ lamports fixed.settlerSigner := by
          rw [given _ (.inl rfl)]
          exact Nat.le_add_right _ _
        have one := turn.endowed funds (here.trans empty)
        obtain ⟨passes, stops⟩ := ih later (turn.gifts given empty)
        rw [List.foldlM_cons, one, ok_bind, List.map_cons]
        refine ⟨fun none => passes (List.forall_mem_cons.mp none).2, fun some => stops ?_⟩
        obtain ⟨id, member, funded⟩ := some
        rcases List.mem_cons.mp member with rfl | member
        · exact absurd empty funded
        · exact ⟨id, member, funded⟩
      · rw [List.foldlM_cons, turn.blocked (here ▸ empty), error_bind, List.map_cons]
        exact ⟨fun none => absurd (none event.callId List.mem_cons_self) empty,
          fun _ => ⟨_, rfl⟩⟩

theorem checkFixed_endow (ledger : Ledger) : checkFixed addresses context (endow lamports ledger)
    fixed = checkFixed addresses context ledger fixed := rfl

end Batch

/-! ## Batches after donations -/

section Donated

variable {addresses : Addresses} {context : Context} {before given after : Ledger}
  {settler : Address} {accounts : List Address} {data : List UInt8} {receipts : List Receipt}

theorem head_of_takeFixed {fixed : FixedAccounts} {rest : List Address}
    (taken : takeFixed accounts = .ok (fixed, rest)) :
    accounts.head? = some fixed.settlerSigner := by
  unfold takeFixed at taken
  split at taken
  case h_1 =>
    cases taken
    rfl
  case h_2 => cases taken

def RecordFunded (addresses : Addresses) (before given : Ledger) (receipts : List Receipt) : Prop :=
  ∃ id ∈ callIds receipts, (given (addresses.of (.callRecord id))).lamports ≠
    (before (addresses.of (.callRecord id))).lamports

/-- A batch that would be accepted is accepted after donations, with the same
receipts and the same data in every account, exactly when no record was funded. -/
theorem process_after_donations (payer : accounts.head? = some settler)
    (accepted : process addresses context before accounts data = .ok (after, receipts))
    (donations : Donations addresses settler before given) :
    (¬RecordFunded addresses before given receipts → ∃ later,
      process addresses context given accounts data = .ok (later, receipts) ∧
        ∀ address, (later address).owner = (after address).owner ∧
          (later address).data = (after address).data) ∧
    (RecordFunded addresses before given receipts →
      ∃ error, process addresses context given accounts data = .error error) := by
  have enriched := donations.enriched
  have same := eq_endow enriched.owner enriched.data
  simp only [process, bind_eq_ok, failIf_eq_ok, exists_const, Prod.exists, Except.ok.injEq,
    Prod.mk.injEq] at accepted
  obtain ⟨fixed, rest, taken, long, bump, checked, events, parsed, progress, loop, rfl, rfl⟩ :=
    accepted
  have pays := payer.symm.trans (head_of_takeFixed taken)
  cases pays
  have more : ∀ address, Watched addresses fixed address → (given address).lamports =
      (before address).lamports + ((given address).lamports - (before address).lamports) := by
    intro address watched
    have le : (before address).lamports ≤ (given address).lamports := by
      rcases watched with rfl | ⟨pda, rfl⟩
      · exact enriched.settler
      · exact enriched.derived pda
    omega
  obtain ⟨passes, stops⟩ := loop_endow loop more
  have ids := callIds_of_loop loop
  have whole : process addresses context given accounts data =
      (events.foldlM (settleStep addresses context fixed bump)
        (Progress.endow (fun address => (given address).lamports) ⟨before, rest, []⟩)).map
          fun progress => (progress.ledger, progress.receipts) := by
    have checked' : checkFixed addresses context given fixed = .ok bump := by
      rw [same, checkFixed_endow]
      exact checked
    rw [process, taken, ok_bind]
    dsimp only
    rw [failIf_of_not long, ok_bind, checked', ok_bind, parsed, ok_bind, Progress.endow, ← same]
    rfl
  rw [show events.map (·.callId) = callIds progress.receipts from ids.symm] at passes stops
  constructor
  · intro untouched
    have none : ∀ id ∈ callIds progress.receipts, (given (addresses.of (.callRecord id))).lamports -
        (before (addresses.of (.callRecord id))).lamports = 0 := by
      intro id member
      by_contra some
      exact untouched ⟨id, member, fun same => some (by rw [same, Nat.sub_self])⟩
    obtain ⟨final, ran⟩ := passes none
    rw [whole, ran]
    exact ⟨_, rfl, fun _ => ⟨rfl, rfl⟩⟩
  · intro touched
    obtain ⟨id, member, changed⟩ := touched
    have more := enriched.derived (.callRecord id)
    obtain ⟨error, ran⟩ := stops ⟨id, member, by omega⟩
    rw [whole, ran]
    exact ⟨error, rfl⟩

end Donated

/-! ## A donation to a record's address -/

namespace Demo

def donor : Address := named 32 9

def crowded : Ledger := Function.update ledger donor ⟨5000, systemProgram, []⟩

def batchAccounts : List Address := fixed.toList ++ (slot 1 1000 1200).accounts.toList

def batchData : List UInt8 := encodeEvents [(slot 1 1000 1200).event]

theorem donation (recipient : Address) :
    Donations addresses settler crowded (transferLamports crowded donor recipient 1) :=
  .transfer .none donor recipient 1 (by decide) (V1.Demo.derived_ne (by decide)) rfl rfl
    (by decide +kernel)

/-- One lamport at the address of a call's record stops the batch of that call. -/
theorem donation_blocks_batch :
    accepts (process addresses context crowded batchAccounts batchData) ∧
    Donations addresses settler crowded
      (transferLamports crowded donor (addresses.of (.callRecord (named 16 1))) 1) ∧
    ¬accepts (process addresses context
      (transferLamports crowded donor (addresses.of (.callRecord (named 16 1))) 1)
      batchAccounts batchData) :=
  ⟨by decide +kernel, donation _, by decide +kernel⟩

/-- One lamport to the pool's vault does not. -/
theorem process_after_donations_demo :
    accepts (process addresses context (transferLamports crowded donor vault 1) batchAccounts
      batchData) := by
  have accepted : accepts (process addresses context crowded batchAccounts batchData) := by
    decide +kernel
  obtain ⟨⟨after, receipts⟩, ran⟩ := accepted
  have untouched : ¬RecordFunded addresses crowded (transferLamports crowded donor vault 1)
      receipts := by
    rintro ⟨id, -, changed⟩
    refine changed ?_
    rw [transferLamports, endow_lamports,
      Function.update_of_ne (V1.Demo.derived_ne (by decide) _),
      Function.update_of_ne (V1.Demo.derived_ne (by decide) _)]
  obtain ⟨later, again, -⟩ := (process_after_donations rfl ran (donation vault)).1 untouched
  exact ⟨_, again⟩

end Demo

end SettleBatch

end PactNetwork.V1
