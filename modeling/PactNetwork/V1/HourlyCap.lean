import PactNetwork.Settlement.Exposure
import PactNetwork.V1.CallIds

/-!
# The hourly cap of the V1 program

Every instruction settles calls of an endpoint, registers it, or changes its
settings and leaves its window. With a clock that does not go back the refunds
of a run keep under the cap.
-/

set_option autoImplicit false

namespace PactNetwork.V1

open Solana Settlement

/-! ## Runs by the clock -/

def Chain.Clocked (addresses : Addresses) : Int × Chain → List (List Receipt × Int × Chain) → Prop :=
  Journal (fun first => Chain.Genesis addresses first.2) fun before receipts after =>
    before.1 ≤ after.1 ∧ Chain.Turn addresses after.1 before.2 receipts after.2

def countersOf (addresses : Addresses) (ledger : Ledger) (slug : Slug) :
    Option Settlement.Endpoint :=
  (structOf addresses ledger (.endpointConfig slug)).map EndpointConfig.counters

def refundsTo (slug : Slug) (receipts : List Receipt) : Nat :=
  tally (fun receipt => receipt.record.actualRefundLamports.toNat)
    (fun receipt => receipt.record.endpointSlug = slug) receipts

/-- An endpoint after every step of a run and the refunds of the step, latest first. -/
def exposure (addresses : Addresses) (slug : Slug) (log : List (List Receipt × Int × Chain)) :
    List Reading :=
  readings Prod.fst (fun state => countersOf addresses state.2.ledger slug) (refundsTo slug) log

section Meters

variable {addresses : Addresses} {context : Context} {ledger result : Ledger}
  {accounts : List Address} {data : List UInt8} {slug : Slug}

theorem countersOf_books (fees : Slug → Nat) : countersOf addresses ledger slug =
    ((Chain.books addresses ⟨ledger, fees⟩).structs (.endpointConfig slug)).map
      EndpointConfig.counters := rfl

theorem meters_of_same (fees fees' : Slug → Nat) (now : Int)
    (same : (Chain.books addresses ⟨result, fees'⟩).structs (.endpointConfig slug) =
      (Chain.books addresses ⟨ledger, fees⟩).structs (.endpointConfig slug)) :
    Meters now (countersOf addresses ledger slug) 0 (countersOf addresses result slug) := by
  rw [countersOf_books fees, countersOf_books fees', same]
  exact .refl _ now

theorem meters_of_saved {account : Address} {state state' : EndpointConfig} (now : Int)
    (shaped : Shaped addresses ledger)
    (found : structAt EndpointConfig.layout ledger account = some state)
    (saved : save EndpointConfig.layout programId context ledger account state' = .ok result)
    (start : state'.currentPeriodStart = state.currentPeriodStart)
    (refunds : state'.currentPeriodRefunds = state.currentPeriodRefunds) :
    Meters now (countersOf addresses ledger slug) 0 (countersOf addresses result slug) := by
  obtain ⟨-, ⟨other, stored, books⟩ | books⟩ :=
    endpoint_saved (fun _ => 0) shaped found saved
  · by_cases here : slug = other
    · subst here
      rw [countersOf, stored, countersOf_books (fun _ => 0), books, Books.put_self]
      refine .configured ?_ ?_
      · exact congrArg Int64.toInt start
      · exact congrArg UInt64.toNat refunds
    · refine meters_of_same (fun _ => 0) (fun _ => 0) now ?_
      rw [books, Books.put_of_ne _ _ (by simpa using here)]
  · exact meters_of_same (fun _ => 0) (fun _ => 0) now (congrFun (congrArg Books.structs books) _)

theorem RegisterEndpoint.meters (fees : Slug → Nat) (shaped : Shaped addresses ledger)
    (valid : (Chain.books addresses ⟨ledger, fees⟩).FeesValid)
    (accepted : RegisterEndpoint.process addresses context ledger accounts data = .ok result) :
    Meters context.now.toInt (countersOf addresses ledger slug) 0
      (countersOf addresses result slug) := by
  obtain ⟨named, args, entries, count, config, treasury, -, -, -, created, -⟩ :=
    process_created fees valid accepted
  obtain ⟨-, -, absent, -, token, -, books⟩ := create_spec fees shaped created
  by_cases here : slug = args.slug
  · subst here
    rw [countersOf, absent, countersOf_books fees, books, Books.withTokens_structs,
      Books.put_self]
    exact .registered rfl rfl
  · refine meters_of_same fees fees _ ?_
    rw [books, Books.withTokens_structs, Books.put_of_ne _ _ (by simpa using here),
      Books.put_of_ne _ _ (by simp)]

end Meters

/-! ## Batches -/

namespace SettleBatch

section Batch

variable {addresses : Addresses} {context : Context} {fixed : FixedAccounts} {bump : UInt8}
  {slug : Slug}

theorem refundsTo_append (front back : List Receipt) :
    refundsTo slug (front ++ back) = refundsTo slug front + refundsTo slug back :=
  tally_append _ _ front back

theorem Effect.settles {event : SettlementEvent} {accounts : EventAccounts}
    {pool pool' : CoveragePool} {endpoint endpoint' : EndpointConfig} {before after : Ledger}
    {status : SettlementStatus} {actual : UInt64} {receipt : Receipt}
    (effect : Effect addresses context fixed event accounts pool pool' endpoint endpoint' before
      after status actual receipt) (shaped : Shaped addresses before) :
    Settles context.now.toInt (countersOf addresses before slug) (refundsTo slug [receipt])
      (countersOf addresses after slug) := by
  have bound := effect.bound
  have paid : refundsTo slug [receipt] = if event.endpointSlug = slug then actual.toNat else 0 := by
    rw [refundsTo, tally_cons, tally_nil, Nat.add_zero, effect.written]
    rfl
  by_cases here : event.endpointSlug = slug
  · subst here
    have found := effect.bound.endpointFound
    have final := effect.endpointAfter
    rw [bound.endpointConfig] at found final
    rw [countersOf, countersOf, shaped.structOf_of_found found,
      (effect.shaped shaped).structOf_of_found final, paid, if_pos rfl]
    refine .accrued ?_
    rcases effect.outcome with ⟨-, -, rfl, -, -, rfl, -⟩ | ⟨-, -, -, outcome, settled⟩
    · exact .refl _ _
    · rw [settled.counters, settled.refund, settled.outcome_eq]
      exact settle_accrues _ _ _ _
  · have other : structOf addresses after (.endpointConfig slug) =
        structOf addresses before (.endpointConfig slug) := by
      obtain ⟨owner, data⟩ := effect.contents (addresses.of (.endpointConfig slug))
        (by rw [bound.callRecord]; simp) (by rw [bound.coveragePool]; simp)
        (by rw [bound.endpointConfig]; simpa using Ne.symm here) (shaped.foreign _)
      simp only [structOf, structAt, owner, data]
    rw [paid, if_neg here, countersOf, countersOf, other]
    exact .refl _ _

theorem process_settles {before after : Ledger} {list : List Address} {data : List UInt8}
    {receipts : List Receipt} (shaped : Shaped addresses before)
    (accepted : process addresses context before list data = .ok (after, receipts)) :
    Settles context.now.toInt (countersOf addresses before slug) (refundsTo slug receipts)
      (countersOf addresses after slug) := by
  obtain ⟨fixed, rest, bump, events, -, checked, -, progress, loop, rfl, rfl⟩ :=
    process_eq_ok accepted
  have whole := foldlM_invariant (fun progress : Progress => Shaped addresses progress.ledger ∧
    Settles context.now.toInt (countersOf addresses before slug)
      (refundsTo slug progress.receipts) (countersOf addresses progress.ledger slug)) loop
    ⟨shaped, .refl _ _⟩ ?_
  · exact whole.2
  · rintro earlier event later - ⟨sound, sofar⟩ stepped
    obtain ⟨named, receipt, pool, pool', endpoint, endpoint', status, actual, -, appended, -,
      effect⟩ := settleStep_spec stepped
    rw [appended, refundsTo_append]
    exact ⟨effect.shaped sound, sofar.trans (effect.settles sound)⟩

end Batch

end SettleBatch

/-! ## The chain -/

section Chain

variable {addresses : Addresses} {before after : Chain} {receipts : List Receipt} {slug : Slug}

theorem processInstruction_meters {instruction : Instruction} {ledger : Ledger}
    (sound : Chain.Sound addresses before)
    (unsigned : ∀ pda, instruction.context.signer (addresses.of pda) = false)
    (processed : processInstruction addresses before.ledger instruction = .ok (ledger, receipts)) :
    Meters instruction.context.now.toInt (countersOf addresses before.ledger slug)
      (refundsTo slug receipts) (countersOf addresses ledger slug) := by
  have shaped := sound.shaped
  unfold processInstruction at processed
  split at processed
  case h_1 => cases processed
  case h_2 tag data _ =>
    rw [bind_eq_ok] at processed
    obtain ⟨discriminator, -, accepted⟩ := processed
    have plain : ∀ {outcome : Except ProgramError Ledger},
        outcome.map (·, ([] : List Receipt)) = .ok (ledger, receipts) →
          outcome = .ok ledger ∧ receipts = [] := by
      intro outcome mapped
      cases outcome with
      | error => cases mapped
      | ok => cases mapped; exact ⟨rfl, rfl⟩
    cases discriminator with
    | settleBatch => exact .settled (SettleBatch.process_settles shaped accepted)
    | initializeSettlementAuthority =>
        obtain ⟨handled, rfl⟩ := plain accepted
        obtain ⟨-, -, authority, books⟩ :=
          InitializeSettlementAuthority.spec before.fees shaped handled
        refine meters_of_same before.fees before.fees _ ?_
        rw [books, Books.put_of_ne _ _ (by simp)]
    | registerEndpoint =>
        obtain ⟨handled, rfl⟩ := plain accepted
        exact RegisterEndpoint.meters before.fees shaped sound.books.fees handled
    | updateEndpointConfig =>
        obtain ⟨handled, rfl⟩ := plain accepted
        obtain ⟨account, state, args, found, saved⟩ := UpdateEndpointConfig.process_saved handled
        exact meters_of_saved _ shaped found saved rfl rfl
    | pauseEndpoint =>
        obtain ⟨handled, rfl⟩ := plain accepted
        obtain ⟨account, state, paused, found, saved⟩ := PauseEndpoint.process_saved handled
        exact meters_of_saved _ shaped found saved rfl rfl
    | topUpCoveragePool =>
        obtain ⟨handled, rfl⟩ := plain accepted
        obtain ⟨-, other, pool, pool', payment, tokens, -, -, -, -, -, -, books⟩ :=
          TopUpCoveragePool.spec before.fees shaped unsigned handled
        refine meters_of_same before.fees before.fees _ ?_
        rw [books, Books.withTokens_structs, Books.put_of_ne _ _ (by simp)]
    | initializeProtocolConfig =>
        obtain ⟨handled, rfl⟩ := plain accepted
        obtain ⟨-, -, config, -, -, -, books⟩ :=
          InitializeProtocolConfig.spec before.fees shaped handled
        refine meters_of_same before.fees before.fees _ ?_
        rw [books, Books.put_of_ne _ _ (by simp)]
    | initializeTreasury =>
        obtain ⟨handled, rfl⟩ := plain accepted
        obtain ⟨-, -, treasury, token, -, books⟩ :=
          InitializeTreasury.spec before.fees shaped handled
        refine meters_of_same before.fees before.fees _ ?_
        rw [books, Books.withTokens_structs, Books.put_of_ne _ _ (by simp)]
    | updateFeeRecipients =>
        obtain ⟨handled, rfl⟩ := plain accepted
        obtain ⟨other, state, entries, count, config, treasury, -, -, -, found, saved, -⟩ :=
          UpdateFeeRecipients.process_saved handled
        exact meters_of_saved _ shaped found saved rfl rfl
    | pauseProtocol =>
        obtain ⟨handled, rfl⟩ := plain accepted
        obtain ⟨-, config, paused, -, books⟩ := PauseProtocol.spec before.fees shaped handled
        refine meters_of_same before.fees before.fees _ ?_
        rw [books, Books.put_of_ne _ _ (by simp)]

theorem Chain.Turn.meters {now : Int} (sound : Sound addresses before)
    (turn : Turn addresses now before receipts after) :
    Meters now (countersOf addresses before.ledger slug) (refundsTo slug receipts)
      (countersOf addresses after.ledger slug) := by
  cases turn with
  | accepted instruction unsigned time processed =>
      rw [← time]
      exact processInstruction_meters sound unsigned processed
  | rejected => exact .refl _ now
  | @outside ledger outside =>
      have same : structOf addresses ledger (.endpointConfig slug) =
          structOf addresses before.ledger (.endpointConfig slug) := by
        obtain ⟨owner, data⟩ := outside.derived (.endpointConfig slug)
        simp only [structOf, structAt, owner, data]
      rw [countersOf, countersOf, same]
      exact .refl _ now

theorem Chain.Clocked.capped {state : Int × Chain} {log : List (List Receipt × Int × Chain)}
    (clocked : Clocked addresses state log) (slug : Slug) :
    Capped (exposure addresses slug log) := by
  refine capped_of_journal (fun state => Sound addresses state.2) clocked ?_ ?_ ?_
  · intro first genesis
    refine ⟨Chain.Genesis.sound genesis, ?_⟩
    have absent := genesis.vacant (.endpointConfig slug)
    rw [countersOf, structOf_eq_none_of_owner]
    · rfl
    · rw [absent.1]
      exact Ne.symm SettleBatch.programId_ne_systemProgram
  · rintro before receipts after sound ⟨-, turn⟩
    exact turn.next.sound sound
  · rintro before receipts after sound ⟨later, turn⟩
    exact ⟨later, turn.meters sound⟩

/-- Execute an instruction at its time, unless the clock is past it. -/
def Chain.tick (addresses : Addresses)
    (state : (Int × Chain) × List (List Receipt × Int × Chain)) (instruction : Instruction) :
    (Int × Chain) × List (List Receipt × Int × Chain) :=
  if state.1.1 ≤ instruction.context.now.toInt then
    let (receipts, chain) :=
      match processInstruction addresses state.1.2.ledger instruction with
      | .ok (ledger, receipts) => (receipts, ⟨ledger, chargeFees state.1.2.fees receipts⟩)
      | .error _ => ([], state.1.2)
    ((instruction.context.now.toInt, chain),
      (receipts, instruction.context.now.toInt, chain) :: state.2)
  else state

theorem Chain.clocked_of_tick {state : (Int × Chain) × List (List Receipt × Int × Chain)}
    (clocked : Clocked addresses state.1 state.2) (instructions : List Instruction)
    (unsigned : ∀ instruction ∈ instructions, ∀ pda,
      instruction.context.signer (addresses.of pda) = false) :
    Clocked addresses (instructions.foldl (tick addresses) state).1
      (instructions.foldl (tick addresses) state).2 := by
  induction instructions generalizing state with
  | nil => exact clocked
  | cons instruction rest ih =>
      refine ih ?_ fun later member => unsigned later (List.mem_cons_of_mem _ member)
      have alone := unsigned instruction List.mem_cons_self
      unfold tick
      split
      case isTrue later =>
        split
        case h_1 chain same =>
          split at same
          case h_1 processed =>
            cases same
            exact .next clocked ⟨later, .accepted instruction alone rfl processed⟩
          case h_2 failed =>
            cases same
            exact .next clocked ⟨later, .rejected instruction alone rfl failed⟩
      case isFalse => exact clocked

end Chain

end PactNetwork.V1
