import Mathlib.Algebra.BigOperators.Group.Finset.Piecewise
import Mathlib.Data.Set.Function
import PactNetwork.Solana.Holdings
import PactNetwork.V1.Batching

/-!
# Double entry

Every token that a batch moves is accounted for by the receipts of its events, account by
account: what an account loses another one gains.
-/

set_option autoImplicit false

namespace PactNetwork

/-! ## Shares received -/

section Received

variable {α β : Type} [DecidableEq α] [DecidableEq β]

def received (payouts : List (α × UInt64)) (account : α) : Nat :=
  (payouts.map fun payout => if account = payout.1 then payout.2.toNat else 0).sum

theorem received_map {payouts : List (α × UInt64)} {rename : α → β} {accounts : Set α}
    {account : α} (injective : Set.InjOn rename accounts) (member : account ∈ accounts)
    (inside : ∀ payout ∈ payouts, payout.1 ∈ accounts) :
    received (payouts.map fun payout => (rename payout.1, payout.2)) (rename account) =
      received payouts account := by
  induction payouts with
  | nil => rfl
  | cons payout rest ih =>
      have later := ih fun other found => inside other (List.mem_cons_of_mem _ found)
      have same : rename account = rename payout.1 ↔ account = payout.1 :=
        injective.eq_iff member (inside payout List.mem_cons_self)
      simp only [received, List.map_cons, List.sum_cons, same] at later ⊢
      rw [later]

theorem sum_received {payouts : List (α × UInt64)} {accounts : Finset α}
    (inside : ∀ payout ∈ payouts, payout.1 ∈ accounts) :
    ∑ account ∈ accounts, received payouts account =
      (payouts.map fun payout => payout.2.toNat).sum := by
  induction payouts with
  | nil => simp [received]
  | cons payout rest ih =>
      have later := ih fun other found => inside other (List.mem_cons_of_mem _ found)
      simp only [received, List.map_cons, List.sum_cons, Finset.sum_add_distrib] at later ⊢
      rw [later, Finset.sum_ite_eq' accounts payout.1, if_pos (inside payout List.mem_cons_self)]

end Received

namespace V1.SettleBatch

open Solana Solana.TokenLedger

/-! ## The entries of an event -/

structure Entry where
  slot : Slot
  receipt : Receipt

namespace Entry

variable (entry : Entry) (account : Address)

def charged : Nat :=
  if entry.receipt.record.settlementStatus = SettlementStatus.delegateFailed.toU8 then 0
  else entry.receipt.record.premiumLamports.toNat

def refunded : Nat := entry.receipt.record.actualRefundLamports.toNat

def debit : Nat :=
  (if account = entry.slot.accounts.agentAta then entry.charged else 0) +
    if account = entry.slot.accounts.poolVault then
      (amounts entry.receipt.fees).sum + entry.refunded else 0

def credit : Nat :=
  (if account = entry.slot.accounts.poolVault then entry.charged else 0) +
    received entry.receipt.fees account +
      if account = entry.slot.accounts.agentAta then entry.refunded else 0

end Entry

/-! ## One event -/

section Event

variable {addresses : Addresses} {context : Context} {before after : Ledger}
  {fixed : FixedAccounts} {event : SettlementEvent} {accounts : EventAccounts}
  {recipients : List FeeRecipient} {pool pool' : CoveragePool} {endpoint endpoint' : EndpointConfig}
  {tokens tokens' : TokenLedger} {status : SettlementStatus} {actual : UInt64} {receipt : Receipt}
  {fees : List (Address × UInt64)} {outcome : Settlement.Outcome} {now : Int64}

theorem feeShares_inside {premium : UInt64} {users : Set Address}
    (inside : ∀ ata ∈ recipients.map FeeRecipient.destination, ata ∈ users) :
    ∀ payout ∈ feeShares premium recipients, payout.1 ∈ users := by
  intro payout member
  obtain ⟨recipient, listed, rfl⟩ := List.mem_map.mp (List.mem_filter.mp member).1
  exact inside _ (List.mem_map_of_mem listed)

theorem sum_if {items : List (Address × UInt64)} (condition : Prop) [Decidable condition] :
    (items.map fun payout => if condition then payout.2.toNat else 0).sum =
      if condition then (amounts items).sum else 0 := by
  split
  case isTrue => rfl
  case isFalse => simp

theorem Settled.balanced (settled : Settled now fixed event accounts recipients pool pool' endpoint
      endpoint' tokens tokens' status actual fees outcome) (address : Address) :
    balance tokens' address +
        ((if address = accounts.agentAta then event.premiumLamports.toNat else 0) +
          if address = accounts.poolVault then (amounts fees).sum + actual.toNat else 0) =
      balance tokens address +
        ((if address = accounts.poolVault then event.premiumLamports.toNat else 0) +
          received fees address + if address = accounts.agentAta then actual.toNat else 0) := by
  obtain ⟨credited, spread, premium, shares, refund⟩ := settled.tokens
  have first := balance_pays premium address
  have second := balance_paysAll shares address
  have third : balance tokens' address +
        (if address = accounts.poolVault then actual.toNat else 0) =
      balance spread address + (if address = accounts.agentAta then actual.toNat else 0) := by
    cases refund with
    | inl nothing =>
        obtain ⟨rfl, rfl⟩ := nothing
        simp
    | inr paid => exact balance_pays paid address
  simp only [List.map_map, Function.comp_def, sum_if] at first second
  have outgoing : (if address = accounts.poolVault then (amounts fees).sum + actual.toNat else 0) =
      (if address = accounts.poolVault then (amounts fees).sum else 0) +
        if address = accounts.poolVault then actual.toNat else 0 := by
    split <;> rfl
  rw [outgoing]
  simp only [received]
  omega

/-- An event's entry: what it took, what it brought, and whom. -/
structure Posted (before after : Ledger) (entry : Entry) : Prop where
  balanced : ∀ account, balance (tokenAt after) account + entry.debit account =
    balance (tokenAt before) account + entry.credit account
  payees : ∀ payout ∈ entry.receipt.fees, payout.1 ∈ entry.slot.accounts.feeAtas

theorem Effect.posted {slot : Slot}
    (effect : Effect addresses context fixed slot.event slot.accounts pool pool' endpoint endpoint'
      before after status actual receipt) : Posted before after ⟨slot, receipt⟩ := by
  have record := effect.written
  have premium : receipt.record.premiumLamports = slot.event.premiumLamports := by
    rw [record]
    rfl
  have refunded : receipt.record.actualRefundLamports = actual := by
    rw [record]
    rfl
  have stored : receipt.record.settlementStatus = status.toU8 := by
    rw [record]
    rfl
  cases effect.outcome with
  | inl failed =>
      obtain ⟨-, rfl, rfl, nothing, -, -, tokens, -⟩ := failed
      refine ⟨fun account => ?_, ?_⟩
      · simp [Entry.debit, Entry.credit, Entry.charged, Entry.refunded, stored, refunded, nothing,
          tokens, received, amounts]
      · rw [nothing]
        exact fun _ member => absurd member List.not_mem_nil
  | inr covered =>
      obtain ⟨-, -, -, outcome, settled⟩ := covered
      have collected : status.toU8 ≠ SettlementStatus.delegateFailed.toU8 := by
        have settles : status ≠ .delegateFailed := by
          rintro rfl
          refine (Settlement.settle_status pool.ledger endpoint.counters context.now.toInt
            (slot.event.call receipt.fees)).2.1 ?_
          rw [← settled.outcome_eq]
          exact settled.status.symm
        cases status with
        | delegateFailed => exact absurd rfl settles
        | _ => decide
      refine ⟨fun account => ?_, ?_⟩
      · simp only [Entry.debit, Entry.credit, Entry.charged, Entry.refunded, stored, premium,
          refunded, if_neg collected]
        exact settled.balanced account
      · rw [settled.shares, effect.bound.feeAtas]
        exact feeShares_inside fun _ listed => listed

end Event

/-! ## Journals -/

section Journal

variable {addresses : Addresses} {context : Context} {fixed : FixedAccounts} {bump : UInt8}

def entries (slots : List Slot) (receipts : List Receipt) : List Entry :=
  List.zipWith Entry.mk slots receipts

/-- The receipts explain what happened to every balance. -/
structure Journaled (before after : Ledger) (slots : List Slot) (receipts : List Receipt) :
    Prop where
  length : receipts.length = slots.length
  balanced : ∀ account, balance (tokenAt after) account +
      ((entries slots receipts).map fun entry => entry.debit account).sum =
    balance (tokenAt before) account +
      ((entries slots receipts).map fun entry => entry.credit account).sum
  payees : ∀ entry ∈ entries slots receipts, ∀ payout ∈ entry.receipt.fees,
    payout.1 ∈ entry.slot.accounts.feeAtas

theorem Journaled.nil (ledger : Ledger) : Journaled ledger ledger [] [] where
  length := rfl
  balanced _ := rfl
  payees _ member := absurd member List.not_mem_nil

theorem Journaled.append {first second third : Ledger} {slots slots' : List Slot}
    {receipts receipts' : List Receipt} (left : Journaled first second slots receipts)
    (right : Journaled second third slots' receipts') :
    Journaled first third (slots ++ slots') (receipts ++ receipts') := by
  have joined : entries (slots ++ slots') (receipts ++ receipts') =
      entries slots receipts ++ entries slots' receipts' :=
    List.zipWith_append left.length.symm
  constructor
  case length =>
    rw [List.length_append, List.length_append, left.length, right.length]
  case balanced =>
    intro account
    have earlier := left.balanced account
    have later := right.balanced account
    rw [joined]
    simp only [List.map_append, List.sum_append]
    omega
  case payees =>
    rw [joined]
    intro entry member
    cases List.mem_append.mp member with
    | inl old => exact left.payees entry old
    | inr new => exact right.payees entry new

theorem Posted.journaled {before after : Ledger} {slot : Slot} {receipt : Receipt}
    (posted : Posted before after ⟨slot, receipt⟩) :
    Journaled before after [slot] [receipt] where
  length := rfl
  balanced account := by simpa [entries] using posted.balanced account
  payees entry member := by
    rw [List.mem_singleton.mp member]
    exact posted.payees

theorem journaled_of_loop {slots : List Slot} {state finish : Ledger × List Receipt}
    (ran : slots.foldlM (settleSlot addresses context fixed bump) state = .ok finish) :
    ∃ receipts, finish.2 = state.2 ++ receipts ∧ Journaled state.1 finish.1 slots receipts := by
  induction slots generalizing state with
  | nil =>
      cases ran
      exact ⟨[], (List.append_nil _).symm, .nil _⟩
  | cons slot rest ih =>
      obtain ⟨middle, turn, later⟩ := foldlM_cons_eq_ok.mp ran
      simp only [settleSlot, bind_eq_ok, Prod.exists, Except.ok.injEq] at turn
      obtain ⟨_, passed, ledger, receipt, settled, rfl⟩ := turn
      obtain ⟨pool, pool', endpoint, endpoint', status, actual, effect⟩ :=
        settleEvent_spec (premium_pos passed) settled
      obtain ⟨receipts, appended, journaled⟩ := ih later
      refine ⟨receipt :: receipts, ?_, effect.posted.journaled.append journaled⟩
      rw [appended, List.append_assoc]
      rfl

structure Batch where
  context : Context
  fixed : FixedAccounts
  slots : List Slot
  small : slots.length ≤ 50

variable (addresses) in
def settleNextBatch (state : Ledger × List Receipt) (batch : Batch) :
    Except ProgramError (Ledger × List Receipt) := do
  let (ledger, receipts) ← settleBatch addresses batch.context batch.fixed batch.slots state.1
  .ok (ledger, state.2 ++ receipts)

theorem journaled_of_batches {batches : List Batch} {state finish : Ledger × List Receipt}
    (ran : batches.foldlM (settleNextBatch addresses) state = .ok finish) :
    ∃ receipts, finish.2 = state.2 ++ receipts ∧
      Journaled state.1 finish.1 (batches.flatMap Batch.slots) receipts := by
  induction batches generalizing state with
  | nil =>
      cases ran
      exact ⟨[], (List.append_nil _).symm, .nil _⟩
  | cons batch rest ih =>
      obtain ⟨middle, turn, later⟩ := foldlM_cons_eq_ok.mp ran
      simp only [settleNextBatch, bind_eq_ok, Prod.exists, Except.ok.injEq] at turn
      obtain ⟨ledger, receipts, accepted, rfl⟩ := turn
      rw [settleBatch_eq batch.small, bind_eq_ok] at accepted
      obtain ⟨bump, -, loop⟩ := accepted
      obtain ⟨own, produced, journaled⟩ := journaled_of_loop loop
      obtain ⟨others, appended, after⟩ := ih later
      simp only [List.nil_append] at produced
      subst produced
      exact ⟨receipts ++ others, by rw [appended, List.append_assoc], journaled.append after⟩

end Journal

/-! ## Conservation -/

/-- The accounts a slot names hold in `accounts`. -/
structure Slot.Inside (slot : Slot) (accounts : Finset Address) : Prop where
  agent : slot.accounts.agentAta ∈ accounts
  vault : slot.accounts.poolVault ∈ accounts
  fees : ∀ ata ∈ slot.accounts.feeAtas, ata ∈ accounts

theorem Entry.sum_debit_eq {entry : Entry} {accounts : Finset Address}
    (inside : entry.slot.Inside accounts)
    (payees : ∀ payout ∈ entry.receipt.fees, payout.1 ∈ entry.slot.accounts.feeAtas) :
    ∑ account ∈ accounts, entry.debit account = ∑ account ∈ accounts, entry.credit account := by
  have received := sum_received fun payout member => inside.fees _ (payees payout member)
  simp only [Entry.debit, Entry.credit, Finset.sum_add_distrib, Finset.sum_ite_eq', inside.agent,
    inside.vault, if_true, received, amounts]
  omega

theorem sum_entries {items : List Entry} {accounts : Finset Address}
    (inside : ∀ entry ∈ items, entry.slot.Inside accounts)
    (payees : ∀ entry ∈ items, ∀ payout ∈ entry.receipt.fees,
      payout.1 ∈ entry.slot.accounts.feeAtas) :
    ∑ account ∈ accounts, (items.map fun entry => entry.debit account).sum =
      ∑ account ∈ accounts, (items.map fun entry => entry.credit account).sum := by
  induction items with
  | nil => rfl
  | cons entry rest ih =>
      have one := Entry.sum_debit_eq (inside entry List.mem_cons_self)
        (payees entry List.mem_cons_self)
      have later := ih (fun other found => inside other (List.mem_cons_of_mem _ found))
        fun other found => payees other (List.mem_cons_of_mem _ found)
      simp only [List.map_cons, List.sum_cons, Finset.sum_add_distrib, one, later]

theorem slot_of_entry {slots : List Slot} {receipts : List Receipt} {entry : Entry}
    (member : entry ∈ entries slots receipts) : entry.slot ∈ slots := by
  induction slots generalizing receipts with
  | nil => exact absurd member List.not_mem_nil
  | cons slot rest ih =>
      cases receipts with
      | nil => exact absurd member List.not_mem_nil
      | cons receipt others =>
          cases List.mem_cons.mp member with
          | inl first =>
              rw [first]
              exact List.mem_cons_self
          | inr later => exact List.mem_cons_of_mem _ (ih later)

theorem Journaled.conserved {before after : Ledger} {slots : List Slot} {receipts : List Receipt}
    (journaled : Journaled before after slots receipts) {accounts : Finset Address}
    (inside : ∀ slot ∈ slots, slot.Inside accounts) :
    ∑ account ∈ accounts, balance (tokenAt after) account =
      ∑ account ∈ accounts, balance (tokenAt before) account := by
  have moved := sum_entries (fun entry member => inside _ (slot_of_entry member))
    journaled.payees
  have both := Finset.sum_congr rfl fun account (_ : account ∈ accounts) =>
    journaled.balanced account
  rw [Finset.sum_add_distrib, Finset.sum_add_distrib, moved] at both
  omega

/-- Over any batches that are accepted one after another, the receipts say of every token
account what it paid and received, and no token is lost or made. -/
theorem double_entry {addresses : Addresses} {batches : List Batch} {before after : Ledger}
    {receipts : List Receipt}
    (ran : batches.foldlM (settleNextBatch addresses) (before, []) = .ok (after, receipts)) :
    Journaled before after (batches.flatMap Batch.slots) receipts ∧
      ∀ accounts : Finset Address, (∀ batch ∈ batches, ∀ slot ∈ batch.slots,
          slot.Inside accounts) →
        ∑ account ∈ accounts, balance (tokenAt after) account =
          ∑ account ∈ accounts, balance (tokenAt before) account := by
  obtain ⟨produced, same, journaled⟩ := journaled_of_batches ran
  simp only [List.nil_append] at same
  subst same
  refine ⟨journaled, fun accounts inside => journaled.conserved fun slot listed => ?_⟩
  obtain ⟨batch, member, own⟩ := List.mem_flatMap.mp listed
  exact inside batch member slot own

/-- Two calls on one pool; the second refund hits the hourly cap. -/
theorem double_entry_demo : ∃ after receipts,
    [Batch.mk Demo.context Demo.fixed [Demo.slot 1 1000 1200] (by decide),
      ⟨Demo.context, Demo.fixed, [Demo.slot 2 1000 1500], by decide⟩].foldlM
        (settleNextBatch Demo.addresses) (Demo.ledger, []) = .ok (after, receipts) ∧
      Journaled Demo.ledger after [Demo.slot 1 1000 1200, Demo.slot 2 1000 1500] receipts ∧
      receipts.map (fun receipt => receipt.record.actualRefundLamports) = [1200, 800] := by
  have accepted : (([Batch.mk Demo.context Demo.fixed [Demo.slot 1 1000 1200] (by decide),
      ⟨Demo.context, Demo.fixed, [Demo.slot 2 1000 1500], by decide⟩].foldlM
        (settleNextBatch Demo.addresses) (Demo.ledger, [])).toOption.map fun state =>
          state.2.map fun receipt => receipt.record.actualRefundLamports) = some [1200, 800] := by
    decide +kernel
  obtain ⟨⟨after, receipts⟩, ran, refunds⟩ := Option.map_eq_some_iff.mp accepted
  rw [toOption_eq_some] at ran
  exact ⟨after, receipts, ran, (double_entry ran).1, refunds⟩

end V1.SettleBatch

end PactNetwork
