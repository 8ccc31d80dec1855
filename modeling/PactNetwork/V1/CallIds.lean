import PactNetwork.Foundation.Journal
import PactNetwork.V1.Guarantees

/-!
# Call ids of the V1 program

A run with the receipts of its batches. The record of a call can be created
once, so a call id has at most one receipt.
-/

set_option autoImplicit false

namespace PactNetwork.V1

open Solana

/-! ## Runs with their receipts -/

/-- One step of the chain at a time, with the receipts of an accepted batch. -/
inductive Chain.Turn (addresses : Addresses) (now : Int) (before : Chain) :
    List Receipt → Chain → Prop
  | accepted (instruction : Instruction)
      (unsigned : ∀ pda, instruction.context.signer (addresses.of pda) = false)
      (time : instruction.context.now.toInt = now) {ledger : Ledger} {receipts : List Receipt}
      (processed : processInstruction addresses before.ledger instruction =
        .ok (ledger, receipts)) :
      Turn addresses now before receipts ⟨ledger, chargeFees before.fees receipts⟩
  | rejected (instruction : Instruction)
      (unsigned : ∀ pda, instruction.context.signer (addresses.of pda) = false)
      (time : instruction.context.now.toInt = now) {error : ProgramError}
      (failed : processInstruction addresses before.ledger instruction = .error error) :
      Turn addresses now before [] before
  | outside {ledger : Ledger} (outside : Outside addresses before.ledger ledger) :
      Turn addresses now before [] ⟨ledger, before.fees⟩

def Chain.Logged (addresses : Addresses) : Chain → List (List Receipt × Chain) → Prop :=
  Journal (Chain.Genesis addresses) fun before receipts after =>
    ∃ now, Chain.Turn addresses now before receipts after

section Turns

variable {addresses : Addresses} {now : Int} {before after : Chain} {receipts : List Receipt}

theorem Chain.Turn.next (turn : Turn addresses now before receipts after) :
    Next addresses before after := by
  cases turn with
  | accepted instruction unsigned time processed =>
      have next : Next addresses before (before.execute addresses instruction) :=
        .instruction instruction unsigned
      rw [Chain.execute, processed] at next
      exact next
  | rejected instruction unsigned time failed =>
      have next : Next addresses before (before.execute addresses instruction) :=
        .instruction instruction unsigned
      rw [Chain.execute, failed] at next
      exact next
  | outside outside => exact .outside outside

theorem Chain.Logged.reached {log : List (List Receipt × Chain)}
    (logged : Logged addresses after log) : Reached addresses after :=
  Journal.reachable logged fun _ _ _ moves => by
    obtain ⟨now, turn⟩ := moves
    exact turn.next

theorem processInstruction_receipts {ledger result : Ledger} {instruction : Instruction}
    (processed : processInstruction addresses ledger instruction = .ok (result, receipts)) :
    receipts = [] ∨ ∃ data, SettleBatch.process addresses instruction.context ledger
      instruction.accounts data = .ok (result, receipts) := by
  unfold processInstruction at processed
  split at processed
  case h_1 => cases processed
  case h_2 tag data _ =>
    rw [bind_eq_ok] at processed
    obtain ⟨discriminator, -, accepted⟩ := processed
    cases discriminator with
    | settleBatch => exact .inr ⟨data, accepted⟩
    | _ =>
        obtain ⟨_, -, same⟩ := (map_eq_ok _ _ _).mp accepted
        exact .inl (Prod.mk.inj same).2.symm

def Chain.record (addresses : Addresses) (state : Chain × List (List Receipt × Chain))
    (instruction : Instruction) : Chain × List (List Receipt × Chain) :=
  match processInstruction addresses state.1.ledger instruction with
  | .ok (ledger, receipts) =>
      let after : Chain := ⟨ledger, chargeFees state.1.fees receipts⟩
      (after, (receipts, after) :: state.2)
  | .error _ => (state.1, ([], state.1) :: state.2)

theorem Chain.logged_of_record {state : Chain × List (List Receipt × Chain)}
    (logged : Logged addresses state.1 state.2) (instructions : List Instruction)
    (unsigned : ∀ instruction ∈ instructions, ∀ pda,
      instruction.context.signer (addresses.of pda) = false) :
    Logged addresses (instructions.foldl (record addresses) state).1
      (instructions.foldl (record addresses) state).2 := by
  induction instructions generalizing state with
  | nil => exact logged
  | cons instruction rest ih =>
      refine ih ?_ fun later member => unsigned later (List.mem_cons_of_mem _ member)
      have alone := unsigned instruction List.mem_cons_self
      unfold record
      split
      case h_1 processed => exact .next logged ⟨_, .accepted instruction alone rfl processed⟩
      case h_2 failed => exact .next logged ⟨_, .rejected instruction alone rfl failed⟩

end Turns

/-! ## Records mark their calls -/

def Marked (addresses : Addresses) (ledger : Ledger) (id : CallId) : Prop :=
  (structOf addresses ledger (.callRecord id)).isSome = true

def callIds (receipts : List Receipt) : List CallId :=
  receipts.map fun receipt => receipt.record.callId

section Marks

variable {addresses : Addresses} {context : Context} {fixed : FixedAccounts} {bump : UInt8}
  {before after : Ledger} {receipts : List Receipt}

theorem Advances.keeps {first second : Chain} (advances : Advances addresses first second)
    (id : CallId) (marked : Marked addresses first.ledger id) :
    Marked addresses second.ledger id := by
  obtain ⟨record, stored⟩ := Option.isSome_iff_exists.mp marked
  exact Option.isSome_iff_exists.mpr ⟨record, Books.recordKept_of_steps advances.steps stored⟩

theorem SettleBatch.settleStep_marks {earlier later : Progress} {event : SettlementEvent}
    (authority : fixed.settlementAuth = addresses.of .settlementAuthority)
    (shaped : Shaped addresses earlier.ledger)
    (stepped : settleStep addresses context fixed bump earlier event = .ok later) :
    Shaped addresses later.ledger ∧ ∃ receipt, later.receipts = earlier.receipts ++ [receipt] ∧
      Marks (Marked addresses) earlier.ledger (callIds [receipt]) later.ledger := by
  obtain ⟨named, receipt, pool, pool', endpoint, endpoint', status, actual, -, appended, -,
    effect⟩ := settleStep_spec stepped
  have ids : callIds [receipt] = [event.callId] := by
    rw [callIds, List.map_singleton, effect.written]
    rfl
  obtain ⟨absent, written⟩ := effect.recordWritten
  refine ⟨effect.shaped shaped, receipt, appended, ?_⟩
  rw [ids]
  refine ⟨List.nodup_singleton _, ?_, ?_, ?_⟩
  · intro key member
    rw [List.mem_singleton.mp member, Marked, absent]
    exact nofun
  · intro key member
    rw [List.mem_singleton.mp member, Marked, written]
    rfl
  · exact (effect.advances (fun _ => 0) shaped authority).keeps

theorem SettleBatch.callIds_of_loop {events : List SettlementEvent} {start finish : Progress}
    (loop : events.foldlM (settleStep addresses context fixed bump) start = .ok finish) :
    callIds finish.receipts = callIds start.receipts ++ events.map (·.callId) := by
  induction events generalizing start with
  | nil =>
      cases loop
      exact (List.append_nil _).symm
  | cons event rest ih =>
      obtain ⟨middle, first, later⟩ := foldlM_cons_eq_ok.mp loop
      obtain ⟨_, receipt, _, _, _, _, _, _, -, appended, -, effect⟩ := settleStep_spec first
      have one : callIds [receipt] = [event.callId] := by
        rw [callIds, List.map_singleton, effect.written]
        rfl
      rw [ih later, appended, callIds, List.map_append]
      change callIds _ ++ callIds [receipt] ++ _ = _
      rw [one, List.append_assoc]
      rfl

theorem SettleBatch.process_marks {list : List Address} {data : List UInt8}
    (shaped : Shaped addresses before)
    (accepted : process addresses context before list data = .ok (after, receipts)) :
    Marks (Marked addresses) before (callIds receipts) after := by
  obtain ⟨fixed, rest, bump, events, -, checked, -, progress, loop, rfl, rfl⟩ :=
    process_eq_ok accepted
  have authority := (checkFixed_spec checked).2.1.1
  have whole := foldlM_invariant (fun progress : Progress => Shaped addresses progress.ledger ∧
    Marks (Marked addresses) before (callIds progress.receipts) progress.ledger) loop
    ⟨shaped, .of_keeps fun _ old => old⟩ ?_
  · exact whole.2
  · rintro earlier event later - ⟨sound, marked⟩ stepped
    obtain ⟨sound', receipt, appended, one⟩ := settleStep_marks authority sound stepped
    refine ⟨sound', ?_⟩
    rw [appended, callIds, List.map_append]
    exact marked.trans one

theorem Chain.Turn.marks {now : Int} {before after : Chain}
    (sound : Sound addresses before) (turn : Turn addresses now before receipts after) :
    Marks (fun chain => Marked addresses chain.ledger) before (callIds receipts) after := by
  have keeps := (turn.next.advances sound).keeps
  cases turn with
  | accepted instruction unsigned time processed =>
      rcases processInstruction_receipts processed with rfl | ⟨data, accepted⟩
      · exact .of_keeps keeps
      · have marks := SettleBatch.process_marks sound.shaped accepted
        exact ⟨marks.nodup, marks.fresh, marks.marks, keeps⟩
  | rejected => exact .of_keeps keeps
  | outside => exact .of_keeps keeps

end Marks

theorem callIds_nodup {addresses : Addresses} {chain : Chain} {log : List (List Receipt × Chain)}
    (logged : Chain.Logged addresses chain log) :
    (log.reverse.flatMap fun entry => callIds entry.1).Nodup := by
  refine Journal.nodup (fun chain => Marked addresses chain.ledger) (Chain.Sound addresses) logged
    (fun _ genesis => genesis.sound) ?_ ?_
  · rintro before receipts after sound ⟨now, turn⟩
    exact turn.next.sound sound
  · rintro before receipts after sound ⟨now, turn⟩
    exact turn.marks sound

end PactNetwork.V1
