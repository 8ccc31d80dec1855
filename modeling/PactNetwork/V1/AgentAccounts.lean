import PactNetwork.V1.Guarantees

/-!
# Agents and their token accounts

What holds of each turn of a batch, and whose money an event moves: the premium
leaves the account in the event's slot and the refund goes back to it, but the
record names the agent of the event's bytes. Nothing compares the two.
-/

set_option autoImplicit false

namespace PactNetwork.V1

open Solana

/-! ## Turns -/

section Turns

variable {addresses : Addresses} {context : Context} {before after : Ledger}
  {list : List Address} {data : List UInt8} {receipts : List Receipt}

/-- Something about each event of a batch: the fixed accounts, the event and its
accounts, the ledgers its turn begins and ends with, and its receipt. -/
def EachTurn (addresses : Addresses) (context : Context) (before : Ledger) (list : List Address)
    (data : List UInt8) (claim : FixedAccounts → SettlementEvent → EventAccounts → Ledger →
      Ledger → Receipt → Prop) : Prop :=
  ∃ fixed rest bump events, SettleBatch.takeFixed list = .ok (fixed, rest) ∧
    SettleBatch.checkFixed addresses context before fixed = .ok bump ∧
    SettleBatch.parseEvents data = .ok events ∧
    ∀ index (inside : index < events.length), ∃ earlier later : SettleBatch.Progress,
      (events.take index).foldlM (SettleBatch.settleStep addresses context fixed bump)
        ⟨before, rest, []⟩ = .ok earlier ∧
      SettleBatch.settleStep addresses context fixed bump earlier events[index] = .ok later ∧
      ∃ accounts receipt,
        SettleBatch.takeEvent events[index].feeCountHint earlier.rest =
          .ok (accounts, later.rest) ∧
        later.receipts = earlier.receipts ++ [receipt] ∧
        claim fixed events[index] accounts earlier.ledger later.ledger receipt

/-- The batch is accepted turn by turn, each with an effect; what every effect keeps
holds from the start of the batch to the turn. -/
theorem eachTurn_of_process
    (accepted : SettleBatch.process addresses context before list data = .ok (after, receipts))
    (kept : Ledger → Prop) (start : kept before)
    (keeps : ∀ {fixed event accounts pool pool' endpoint endpoint' earlier later status actual
      receipt}, SettleBatch.Effect addresses context fixed event accounts pool pool' endpoint
        endpoint' earlier later status actual receipt → kept earlier → kept later)
    {claim : FixedAccounts → SettlementEvent → EventAccounts → Ledger → Ledger → Receipt → Prop}
    (each : ∀ {fixed event accounts pool pool' endpoint endpoint' earlier later status actual
      receipt}, kept earlier →
        SettleBatch.Effect addresses context fixed event accounts pool pool' endpoint endpoint'
          earlier later status actual receipt →
        claim fixed event accounts earlier later receipt) :
    EachTurn addresses context before list data claim := by
  obtain ⟨fixed, rest, bump, events, taken, checked, parsed, progress, loop, -, -⟩ :=
    SettleBatch.process_eq_ok accepted
  refine ⟨fixed, rest, bump, events, taken, checked, parsed, fun index inside => ?_⟩
  obtain ⟨earlier, later, front, stepped, -⟩ := foldlM_split loop index inside
  have sofar : kept earlier.ledger := by
    refine foldlM_invariant (fun progress => kept progress.ledger) front start ?_
    intro first event next _ holds moved
    obtain ⟨_, _, _, _, _, _, _, _, -, -, -, effect⟩ := SettleBatch.settleStep_spec moved
    exact keeps effect holds
  obtain ⟨accounts, receipt, pool, pool', endpoint, endpoint', status, actual, slots, appended, -,
    effect⟩ := SettleBatch.settleStep_spec stepped
  exact ⟨earlier, later, front, stepped, accounts, receipt, slots, appended, each sofar effect⟩

end Turns

/-! ## Owners -/

def holder (tokens : TokenLedger) (address : Address) : Option Address :=
  (tokens address).map TokenAccount.owner

section Owners

variable {before after : TokenLedger} {address : Address}

theorem holder_pays {payment : Payment} (paid : TokenLedger.Pays before payment after) :
    holder after address = holder before address := by
  unfold holder
  cases found : before address with
  | none => rw [(paid.none_iff address).mpr found]
  | some token =>
      obtain ⟨token', stays, moved⟩ := paid.moved address found
      have same : token'.owner = token.owner := by rw [moved.holder]
      rw [stays, Option.map_some, Option.map_some, same]

theorem holder_paysAll {payments : List Payment}
    (paid : TokenLedger.PaysAll before payments after) :
    holder after address = holder before address := by
  induction payments generalizing before with
  | nil =>
      cases paid
      rfl
  | cons payment rest ih =>
      obtain ⟨middle, first, later⟩ := paid
      exact (ih later).trans (holder_pays first)

theorem holder_moved {fixed : FixedAccounts} {event : SettlementEvent} {accounts : EventAccounts}
    {fees : List (Address × UInt64)} {actual : UInt64}
    (moved : TokensMoved fixed event accounts fees actual before after) :
    holder after address = holder before address := by
  obtain ⟨credited, spread, premium, shares, refund⟩ := moved
  have charged : holder spread address = holder before address :=
    (holder_paysAll shares).trans (holder_pays premium)
  rcases refund with ⟨-, rfl⟩ | refunded
  · exact charged
  · exact (holder_pays refunded).trans charged

end Owners

/-! ## Whom an event charges -/

section Charges

variable {addresses : Addresses} {context : Context} {fixed : FixedAccounts}
  {event : SettlementEvent} {accounts : EventAccounts} {pool pool' : CoveragePool}
  {endpoint endpoint' : EndpointConfig} {before after : Ledger} {status : SettlementStatus}
  {actual : UInt64} {receipt : Receipt}

theorem SettleBatch.Effect.holder_eq (effect : SettleBatch.Effect addresses context fixed event
      accounts pool pool' endpoint endpoint' before after status actual receipt)
    (address : Address) :
    holder (tokenAt after) address = holder (tokenAt before) address := by
  rcases effect.outcome with ⟨-, -, -, -, -, -, tokens, -⟩ | ⟨-, -, -, outcome, settled⟩
  · rw [tokens]
  · exact holder_moved settled.tokens

/-- Where the event moves money, it takes the premium from one token account and refunds
that same account, and the account is owned by the agent of the event's record. -/
def ChargesItsAgent (fixed : FixedAccounts) (event : SettlementEvent) (accounts : EventAccounts)
    (before after : Ledger) (receipt : Receipt) : Prop :=
  receipt.record.settlementStatus ≠ SettlementStatus.delegateFailed.toU8 →
    TokensMoved fixed event accounts receipt.fees receipt.record.actualRefundLamports
        (tokenAt before) (tokenAt after) ∧
      holder (tokenAt before) accounts.agentAta = some receipt.record.agent

/-- The record names the agent of the event's bytes, so that the account in the slot
has to be that agent's. -/
theorem SettleBatch.Effect.chargesItsAgent_iff (effect : SettleBatch.Effect addresses context fixed
      event accounts pool pool' endpoint endpoint' before after status actual receipt) :
    ChargesItsAgent fixed event accounts before after receipt ↔
      SettleBatch.delegateOk (before accounts.agentAta).data fixed.settlementAuth
          event.premiumLamports = false ∨
        holder (tokenAt before) accounts.agentAta = some event.agentOwner := by
  unfold ChargesItsAgent
  rw [effect.written]
  rcases effect.outcome with
    ⟨preflight, failed, -, -, -, -, -, -⟩ | ⟨preflight, -, -, outcome, settled⟩
  · subst failed
    exact ⟨fun _ => .inl preflight, fun _ charged => absurd rfl charged⟩
  · have charged : status ≠ .delegateFailed := by
      rintro rfl
      refine (Settlement.settle_status pool.ledger endpoint.counters context.now.toInt
        (event.call receipt.fees)).2.1 ?_
      rw [← settled.outcome_eq]
      exact settled.status.symm
    have moved : (event.record (addresses.bump (.callRecord event.callId)) status
        actual).settlementStatus ≠ SettlementStatus.delegateFailed.toU8 :=
      fun same => charged (status_of_record same)
    constructor
    · intro charges
      exact .inr (charges moved).2
    · rintro (stopped | owned)
      · rw [preflight] at stopped
        cases stopped
      · exact fun _ => ⟨settled.tokens, owned⟩

end Charges

/-- An event of an accepted batch charges the agent of its record exactly where its
pre-flight fails or the token account in its slot was, at the start of the batch,
owned by the agent of the event's bytes. -/
theorem charges_its_agent {addresses : Addresses} {context : Context} {before after : Ledger}
    {list : List Address} {data : List UInt8} {receipts : List Receipt}
    (accepted : SettleBatch.process addresses context before list data = .ok (after, receipts)) :
    EachTurn addresses context before list data
      fun fixed event accounts earlier later receipt =>
        ChargesItsAgent fixed event accounts earlier later receipt ↔
          SettleBatch.delegateOk (earlier accounts.agentAta).data fixed.settlementAuth
              event.premiumLamports = false ∨
            holder (tokenAt before) accounts.agentAta = some event.agentOwner := by
  refine eachTurn_of_process accepted
    (fun ledger => ∀ address, holder (tokenAt ledger) address = holder (tokenAt before) address)
    (fun _ => rfl) ?_ ?_
  · intro _ _ _ _ _ _ _ _ _ _ _ _ effect holds address
    exact (effect.holder_eq address).trans (holds address)
  · intro _ _ accounts _ _ _ _ _ _ _ _ _ holds effect
    rw [effect.chargesItsAgent_iff, holds]

/-- The call settled in a reachable state was charged to its agent. -/
theorem charges_its_agent_demo : ∃ after receipts,
    SettleBatch.process SettleBatch.Demo.addresses SettleBatch.Demo.context Demo.funded.ledger
        Demo.batchAccounts Demo.batchData = .ok (after, receipts) ∧
      EachTurn SettleBatch.Demo.addresses SettleBatch.Demo.context Demo.funded.ledger
        Demo.batchAccounts Demo.batchData fun fixed event accounts earlier later receipt =>
          ChargesItsAgent fixed event accounts earlier later receipt ↔
            SettleBatch.delegateOk (earlier accounts.agentAta).data fixed.settlementAuth
                event.premiumLamports = false ∨
              holder (tokenAt Demo.funded.ledger) accounts.agentAta = some event.agentOwner := by
  have accepted : accepts (SettleBatch.process SettleBatch.Demo.addresses
      SettleBatch.Demo.context Demo.funded.ledger Demo.batchAccounts Demo.batchData) := by
    decide +kernel
  obtain ⟨⟨after, receipts⟩, batch⟩ := accepted
  exact ⟨after, receipts, batch, charges_its_agent batch⟩

/-! ## Another agent's record -/

namespace Demo

open SettleBatch.Demo (addresses slot fixed named agentAta settler)

def misnamed : SettlementEvent := { (slot 1 1000 0).event with agentOwner := named 32 9 }

def misnamedData : List UInt8 := SettleBatch.encodeEvents [misnamed]

theorem misnamed_accepted : (SettleBatch.process addresses SettleBatch.Demo.context funded.ledger
      batchAccounts misnamedData).toOption.map (fun final =>
        (final.2.map fun receipt => (receipt.record.agent, receipt.record.premiumLamports),
          TokenLedger.balance (tokenAt final.1) agentAta)) = some ([(named 32 9, 1000)], 3500) ∧
    TokenLedger.balance (tokenAt funded.ledger) agentAta = 4500 ∧
    holder (tokenAt funded.ledger) agentAta = some settler := by
  decide +kernel

theorem misnamed_preflight : SettleBatch.delegateOk (funded.ledger agentAta).data
    fixed.settlementAuth misnamed.premiumLamports = true := by
  decide +kernel

theorem misnamed_charges {context : Context} {ledger : Ledger}
    (preflight : SettleBatch.delegateOk (ledger agentAta).data fixed.settlementAuth
      misnamed.premiumLamports = true)
    (owner : holder (tokenAt ledger) agentAta = some settler) :
    ¬EachTurn addresses context ledger batchAccounts misnamedData ChargesItsAgent := by
  rintro ⟨named, tail, bump, events, taken, -, parsed, each⟩
  have parses : SettleBatch.parseEvents misnamedData = .ok [misnamed] :=
    SettleBatch.parseEvents_encodeEvents (by decide)
  obtain ⟨rfl, rfl⟩ := Prod.mk.inj (Except.ok.inj taken)
  obtain rfl := Except.ok.inj (parses.symm.trans parsed)
  obtain ⟨earlier, later, front, stepped, accounts, receipt, slot, appended, charges⟩ :=
    each 0 Nat.zero_lt_one
  obtain rfl := Except.ok.inj front
  obtain ⟨accounts', receipt', _, _, _, _, _, _, slot', appended', -, effect⟩ :=
    SettleBatch.settleStep_spec stepped
  obtain ⟨rfl, -⟩ := Prod.mk.inj (Except.ok.inj (slot.symm.trans slot'))
  obtain ⟨rfl, -⟩ := List.cons.inj (List.append_cancel_left (appended.symm.trans appended'))
  have account : accounts.agentAta = agentAta :=
    (congrArg (fun taken => taken.1.agentAta) (Except.ok.inj slot)).symm
  have settled := effect.chargesItsAgent_iff.mp charges
  rw [account] at settled
  rcases settled with stopped | owned
  · exact Bool.false_ne_true (stopped.symm.trans preflight)
  · have same : SettleBatch.Demo.named 32 9 = settler :=
      Option.some.inj (owned.symm.trans owner)
    exact absurd same (by decide)

end Demo

/-- In a reachable state an accepted batch takes 1000 from the settler's token account
under the record of an agent that does not own it. -/
theorem charges_another_agent : Chain.Reached SettleBatch.Demo.addresses Demo.funded ∧
    ∃ after receipts, SettleBatch.process SettleBatch.Demo.addresses SettleBatch.Demo.context
        Demo.funded.ledger Demo.batchAccounts Demo.misnamedData = .ok (after, receipts) ∧
      receipts.map (·.record.agent) = [SettleBatch.Demo.named 32 9] ∧
      holder (tokenAt Demo.funded.ledger) SettleBatch.Demo.agentAta =
        some SettleBatch.Demo.settler ∧
      TokenLedger.balance (tokenAt after) SettleBatch.Demo.agentAta + 1000 =
        TokenLedger.balance (tokenAt Demo.funded.ledger) SettleBatch.Demo.agentAta ∧
      ¬EachTurn SettleBatch.Demo.addresses SettleBatch.Demo.context Demo.funded.ledger
        Demo.batchAccounts Demo.misnamedData ChargesItsAgent := by
  obtain ⟨played, balance, owner⟩ := Demo.misnamed_accepted
  obtain ⟨⟨after, receipts⟩, accepted, shown⟩ := Option.map_eq_some_iff.mp played
  obtain ⟨records, rest⟩ := Prod.mk.inj shown
  refine ⟨Demo.funded_reached, after, receipts, toOption_eq_some.mp accepted, ?_, owner, ?_, ?_⟩
  · have agents := congrArg (List.map Prod.fst) records
    rw [List.map_map] at agents
    exact agents
  · rw [rest, balance]
  · exact Demo.misnamed_charges Demo.misnamed_preflight owner

end PactNetwork.V1
