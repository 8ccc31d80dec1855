import PactNetwork.Settler.Pipeline

/-!
# No lost settlement

A message is acked only once its own call is recorded on chain, in every run
in which no retry probe answers for a batch that is recorded only in part.
-/

set_option autoImplicit false

namespace PactNetwork.Settler

open Interaction

/-! ## Batches -/

theorem mem_addToGroup {message : Message}
    {groups : List ((String × String) × List Message)} {group : (String × String) × List Message}
    (member : group ∈ addToGroup message groups)
    (keyed : ∀ earlier ∈ groups, ∀ inside ∈ earlier.2, inside.key = earlier.1) :
    ∀ inside ∈ group.2, inside.key = group.1 := by
  induction groups with
  | nil =>
      rcases List.mem_singleton.mp member with rfl
      intro inside included
      rw [List.mem_singleton.mp included]
  | cons head rest ih =>
      unfold addToGroup at member
      split at member
      case isTrue same =>
        rcases List.mem_cons.mp member with rfl | later
        · intro inside included
          rcases List.mem_append.mp included with old | new
          · exact keyed head List.mem_cons_self inside old
          · rw [List.mem_singleton.mp new, same]
        · exact keyed group (List.mem_cons_of_mem _ later)
      case isFalse different =>
        rcases List.mem_cons.mp member with rfl | later
        · exact keyed group List.mem_cons_self
        · exact ih later fun earlier included => keyed earlier (List.mem_cons_of_mem _ included)

theorem sameKey_of_partition {messages batch : List Message}
    (member : batch ∈ partitionByKey messages) :
    ∃ key, ∀ message ∈ batch, message.key = key := by
  have keyed : ∀ (rest : List Message) (groups : List ((String × String) × List Message)),
      (∀ group ∈ groups, ∀ inside ∈ group.2, inside.key = group.1) →
        ∀ group ∈ rest.foldl (fun groups message => addToGroup message groups) groups,
          ∀ inside ∈ group.2, inside.key = group.1 := by
    intro rest
    induction rest with
    | nil => exact fun _ holds => holds
    | cons message rest ih =>
        intro groups holds
        exact ih _ fun group included => mem_addToGroup included holds
  obtain ⟨group, included, rfl⟩ := List.mem_map.mp member
  exact ⟨group.1, keyed messages [] nofun group included⟩

theorem callId_of_event {message : Message} {call : CallId}
    (built : message.eventCallId = some call) : message.callId = some call := by
  simp only [Message.eventCallId, Option.bind_eq_bind, Option.bind_eq_some_iff] at built
  obtain ⟨parsed, found, _, -, _, -, _, -, same⟩ := built
  cases same
  exact found

theorem mem_callIds {batch : List Message} {calls : List CallId}
    (parsed : callIds batch = some calls) :
    ∀ message ∈ batch, ∃ call ∈ calls, message.callId = some call := by
  induction batch generalizing calls with
  | nil => exact nofun
  | cons head rest ih =>
      simp only [callIds, List.mapM_cons, Option.bind_eq_bind, Option.bind_eq_some_iff,
        Option.pure_def, Option.some.injEq] at parsed
      obtain ⟨first, found, others, tail, rfl⟩ := parsed
      intro message member
      rcases List.mem_cons.mp member with rfl | later
      · exact ⟨first, List.mem_cons_self, callId_of_event found⟩
      · obtain ⟨call, included, same⟩ := ih tail message later
        exact ⟨call, List.mem_cons_of_mem _ included, same⟩

/-! ## Submitting -/

def AllRecorded (chain : Chain) (target : Target) (batch : List Message) : Prop :=
  ∀ message ∈ batch, ∃ call, message.callId = some call ∧ Recorded chain target call

theorem AllRecorded.later {before after : Chain} {target : Target} {batch : List Message}
    (recorded : AllRecorded before target batch) (grows : Grows before after) :
    AllRecorded after target batch := by
  intro message member
  obtain ⟨call, parsed, found⟩ := recorded message member
  exact ⟨call, parsed, found.later grows⟩

instance (chain : Chain) (target : Target) (batch : List Message) :
    Decidable (AllRecorded chain target batch) :=
  decidable_of_iff (∀ message ∈ batch,
      (message.callId.any fun call => decide (Recorded chain target call)) = true) <| by
    simp only [AllRecorded, Option.any_eq_true, decide_eq_true_eq]

/-- A probe that finds the first call's record speaks for the whole batch: the
records of the others exist too. -/
def Unsplit (batch : List Message) (chain : Chain) : Question → Answer → Prop
  | .probe target call, .found _ => Recorded chain target call → AllRecorded chain target batch
  | _, _ => True

instance (batch : List Message) (chain : Chain) :
    (question : Question) → (answer : Answer) → Decidable (Unsplit batch chain question answer)
  | .probe target call, .found _ =>
      inferInstanceAs (Decidable (Recorded chain target call → AllRecorded chain target batch))
  | .load _, _ | .send _ _, _ | .push _ _, _ => .isTrue trivial
  | .probe _ _, .loaded _ | .probe _ _, .sent _ | .probe _ _, .missing | .probe _ _, .pushed
  | .probe _ _, .pushRejected | .probe _ _, .failed => .isTrue trivial

def Fair (batch : List Message) (chain : Chain) (question : Question) (answer : Answer) : Prop :=
  Truthful chain question answer ∧ Unsplit batch chain question answer

def Covered (settings : Settings) (chain : Chain) (batch : List Message) : Prop :=
  ∀ message ∈ batch, ∀ target, settings.target message.networkName = some target →
    ∃ call, message.callId = some call ∧ Recorded chain target call

theorem Covered.later {settings : Settings} {before after : Chain} {batch : List Message}
    (covered : Covered settings before batch) (grows : Grows before after) :
    Covered settings after batch := by
  intro message member target served
  obtain ⟨call, parsed, found⟩ := covered message member target served
  exact ⟨call, parsed, found.later grows⟩

section Submit

variable {batch : List Message} {calls : List CallId} {target : Target} {chain : Chain}

theorem allRecorded_of_sent {signature : Signature} (parsed : callIds batch = some calls)
    (landed : (⟨target, calls, signature⟩ : Tx) ∈ chain) : AllRecorded chain target batch := by
  intro message member
  obtain ⟨call, named, same⟩ := mem_callIds parsed message member
  exact ⟨call, same, _, landed, rfl, named⟩

theorem probeFirst_ensures :
    Ensures Grows (Fair batch)
      (fun later result => ∀ signature, result = some (some signature) →
        AllRecorded later target batch) (probeFirst target calls) chain := by
  cases calls with
  | nil => exact nofun
  | cons first rest =>
      intro later _ answer fair
      cases answer with
      | found signature => exact fun _ _ => fair.2 fair.1
      | _ => exact nofun

theorem send_ensures (parsed : callIds batch = some calls) :
    Ensures Grows (Fair batch)
      (fun later result => ∀ signature, result = some signature →
        AllRecorded later target batch) (send target calls) chain := by
  intro later _ answer fair
  cases answer with
  | sent signature => exact fun _ _ => allRecorded_of_sent parsed fair.1
  | _ => exact nofun

theorem attempt_ensures (retry : Bool) (parsed : callIds batch = some calls) :
    Ensures Grows (Fair batch)
      (fun later result => ∀ signature, result = some signature →
        AllRecorded later target batch) (attempt target calls retry) chain := by
  unfold attempt
  rw [ensures_bind]
  cases retry with
  | false => exact send_ensures parsed
  | true =>
      refine probeFirst_ensures.mono fun later result recorded => ?_
      match result with
      | none => exact nofun
      | some (some signature) => exact fun _ _ => recorded signature rfl
      | some none => exact send_ensures parsed

theorem attempts_ensures (left : Nat) (retry : Bool) (parsed : callIds batch = some calls) :
    Ensures Grows (Fair batch)
      (fun later result => ∀ signature, result = some signature →
        AllRecorded later target batch) (attempts target calls left retry) chain := by
  induction left generalizing retry chain with
  | zero => exact nofun
  | succ left ih =>
      unfold attempts
      rw [ensures_bind]
      refine (attempt_ensures retry parsed).mono fun later result recorded => ?_
      cases result with
      | none => exact ih true
      | some signature => exact fun _ _ => recorded signature rfl

def Delivered {α : Type} (target : Target) (batch : List Message) (chain : Chain) :
    Except SubmitError α → Prop
  | .ok _ => AllRecorded chain target batch
  | .error (.skipBatch _) => False
  | .error _ => True

theorem sendWithRetry_ensures (maxAttempts : Nat) (parsed : callIds batch = some calls) :
    Ensures Grows (Fair batch) (Delivered target batch)
      (sendWithRetry target calls maxAttempts) chain := by
  unfold sendWithRetry
  rw [ensures_bind]
  refine (attempts_ensures maxAttempts false parsed).mono fun later result recorded => ?_
  cases result with
  | some signature => exact recorded signature rfl
  | none =>
      rw [ensures_bind]
      refine probeFirst_ensures.mono fun final found recordedFinal => ?_
      match found with
      | none => trivial
      | some none => trivial
      | some (some signature) => exact recordedFinal signature rfl

theorem submitLegacyDirect_ensures :
    Ensures Grows (Fair batch) (Delivered .legacyDirect batch) (submitLegacyDirect batch)
      chain := by
  unfold submitLegacyDirect
  split
  · trivial
  · intro later _ answer _
    cases answer with
    | loaded shares =>
        cases parsed : callIds batch with
        | none => trivial
        | some calls =>
            change Ensures _ _ _ (sendWithRetry .legacyDirect calls 3 >>= _) _
            rw [ensures_bind]
            refine (sendWithRetry_ensures 3 parsed).mono fun final result recorded => ?_
            match result with
            | .ok signature => exact recorded
            | .error (.skipBatch network) => exact recorded.elim
            | .error .batchSubmit => trivial
            | .error .other => trivial
    | _ => trivial

theorem submitViaAdapter_ensures (network : String) :
    Ensures Grows (Fair batch) (Delivered (.adapter network) batch)
      (submitViaAdapter batch network) chain := by
  unfold submitViaAdapter
  split
  · trivial
  · intro later _ answer _
    cases answer with
    | loaded shares =>
        cases parsed : callIds batch with
        | none => trivial
        | some calls =>
            intro sending _ confirmation fair
            cases confirmation with
            | sent signature =>
                have recorded := allRecorded_of_sent parsed fair.1
                intro final grows reload _
                cases reload with
                | loaded shares => exact recorded.later grows
                | _ => trivial
            | _ => trivial
    | _ => trivial

end Submit

/-! ## Processing -/

section Process

variable {settings : Settings} {batch : List Message} {chain : Chain}

def Concludes (settings : Settings) (batch : List Message) (chain : Chain) :
    Except SubmitError SettlementOutcome → Prop
  | .ok _ => Covered settings chain batch
  | .error (.skipBatch _) => ∀ message ∈ batch, settings.target message.networkName = none
  | .error _ => True

theorem Delivered.concludes {target : Target} {result : Except SubmitError SettlementOutcome}
    (delivered : Delivered target batch chain result)
    (sameNetwork : ∀ message ∈ batch, message.networkName = batchNetwork batch)
    (route : settings.target (batchNetwork batch) = some target) :
    Concludes settings batch chain result := by
  match result with
  | .ok outcome =>
      intro message member other served
      rw [sameNetwork message member, route] at served
      cases served
      exact delivered message member
  | .error (.skipBatch network) => exact delivered.elim
  | .error .batchSubmit => trivial
  | .error .other => trivial

theorem submit_ensures
    (sameNetwork : ∀ message ∈ batch, message.networkName = batchNetwork batch) :
    Ensures Grows (Fair batch) (Concludes settings batch) (submit settings batch) chain := by
  unfold submit
  dsimp only
  split
  case isTrue legacy =>
    exact submitLegacyDirect_ensures.mono fun _ _ delivered =>
      delivered.concludes sameNetwork (if_pos legacy)
  case isFalse direct =>
    split
    case isTrue unserved =>
      intro message member
      rw [Bool.not_eq_true'] at unserved
      rw [sameNetwork message member, Settings.target, if_neg direct, unserved]
      rfl
    case isFalse served =>
      rw [Bool.not_eq_true', Bool.not_eq_false] at served
      exact (submitViaAdapter_ensures _).mono fun _ _ delivered =>
        delivered.concludes sameNetwork (by rw [Settings.target, if_neg direct, if_pos served])

def AckSound (settings : Settings) (batch : List Message) (chain : Chain)
    (disposition : Disposition) : Prop :=
  disposition = .ack → Covered settings chain batch

theorem processBatch_ensures
    (sameNetwork : ∀ message ∈ batch, message.networkName = batchNetwork batch) :
    Ensures Grows (Fair batch) (AckSound settings batch) (processBatch settings batch)
      chain := by
  unfold processBatch
  rw [ensures_bind]
  refine (submit_ensures sameNetwork).mono fun later result concludes => ?_
  match result with
  | .error (.skipBatch network) =>
      intro _ message member target served
      rw [concludes message member] at served
      cases served
  | .error .batchSubmit => exact nofun
  | .error .other => exact nofun
  | .ok outcome =>
      intro final grows answer _
      cases answer with
      | pushed => exact fun _ => Covered.later concludes grows
      | _ => exact nofun

end Process

/-! ## Runs -/

/-- An answered probe does not split the batch of the job that asked. -/
def System.Unsplit (system : System) : Event → Prop
  | .answer index answer =>
      match system.jobs[index]? with
      | some ⟨messages, .ask question _⟩ =>
          Settler.Unsplit messages system.chain question answer
      | _ => True
  | _ => True

instance (system : System) (event : Event) : Decidable (system.Unsplit event) := by
  unfold System.Unsplit
  repeat' split
  all_goals infer_instance

def System.stepUnsplit (settings : Settings) (system : System) (event : Event) : Option System :=
  if system.Unsplit event then system.step settings event else none

def Moves (step : System → Event → Option System) (before after : System) : Prop :=
  ∃ event, step before event = some after

/-- Every job will only ack a covered batch, and every ack so far was right. -/
structure Sound (settings : Settings) (system : System) : Prop where
  jobs : ∀ job ∈ system.jobs, Ensures Grows (Fair job.messages)
    (AckSound settings job.messages) job.rest system.chain
  acked : ∀ message ∈ system.acked, message.premiumLamports ≠ 0 →
    Covered settings system.chain [message]

section Runs

variable {settings : Settings} {before after : System}

theorem covered_of_disposed (job : Job) {chain : Chain} {message : Message}
    (sound : Ensures Grows (Fair job.messages) (AckSound settings job.messages) job.rest chain)
    (member : message ∈ job.disposed .ack) : Covered settings chain [message] := by
  unfold Job.disposed at member
  split at member
  case h_1 final ended =>
    split at member
    case isTrue acked =>
      rw [ended] at sound
      intro other single target served
      rw [List.mem_singleton.mp single] at served ⊢
      exact sound acked message member target served
    case isFalse => cases member
  case h_2 => cases member

theorem Sound.dispatch (sound : Sound settings before) (batcher : Batcher)
    (pending : List Message) :
    Sound settings (before.dispatch settings (batcher, partitionByKey pending)) := by
  have started : ∀ job ∈ (partitionByKey pending).map fun batch =>
      Job.mk batch (processBatch settings batch), Ensures Grows (Fair job.messages)
        (AckSound settings job.messages) job.rest before.chain := by
    intro job member
    obtain ⟨batch, dispatched, rfl⟩ := List.mem_map.mp member
    obtain ⟨key, sameKey⟩ := sameKey_of_partition dispatched
    refine processBatch_ensures fun message inside => ?_
    cases batch with
    | nil => cases inside
    | cons head rest =>
        have same := (sameKey message inside).trans (sameKey head List.mem_cons_self).symm
        exact congrArg Prod.fst same
  refine ⟨?_, ?_⟩
  · intro job member
    rcases List.mem_append.mp member with old | new
    · exact sound.jobs job old
    · exact started job new
  · intro message member paid
    rcases List.mem_append.mp member with old | new
    · exact sound.acked message old paid
    · obtain ⟨job, isNew, disposed⟩ := List.mem_flatMap.mp new
      exact covered_of_disposed job (started job isNew) disposed

theorem Sound.push (sound : Sound settings before) (message : Message) :
    Sound settings (before.dispatch settings (before.batcher.push message)) := by
  unfold Batcher.push
  dsimp only
  split
  · exact sound.dispatch _ _
  · exact sound.dispatch _ []

theorem Sound.deliver (sound : Sound settings before) (message : Message) :
    Sound settings (before.deliver settings message) := by
  unfold System.deliver
  split
  case isTrue free =>
    refine ⟨sound.jobs, fun other member paid => ?_⟩
    rcases List.mem_append.mp member with old | new
    · exact sound.acked other old paid
    · rw [List.mem_singleton.mp new] at paid
      exact (paid free).elim
  case isFalse => exact sound.push message

theorem Sound.answer (sound : Sound settings before) {index : Nat} {answer : Answer}
    (answered : before.answer index answer = some after)
    (unsplit : before.Unsplit (.answer index answer)) : Sound settings after := by
  unfold System.answer at answered
  unfold System.Unsplit at unsplit
  cases found : before.jobs[index]? with
  | none => simp [found] at answered
  | some job =>
      obtain ⟨messages, rest⟩ := job
      cases rest with
      | done final => simp [found] at answered
      | ask question next =>
          simp only [found] at answered unsplit
          obtain ⟨truthful, same⟩ := Option.ite_none_right_eq_some.mp answered
          cases same
          have resumed := sound.jobs _ (List.mem_of_getElem? found) before.chain .refl answer
            ⟨truthful, unsplit⟩
          refine ⟨fun other included => ?_, fun message included paid => ?_⟩
          · rcases List.mem_or_eq_of_mem_set included with old | rfl
            · exact sound.jobs other old
            · exact resumed
          · rcases List.mem_append.mp included with old | new
            · exact sound.acked message old paid
            · exact covered_of_disposed ⟨messages, next answer⟩ resumed new

theorem Sound.land (sound : Sound settings before) {tx : Tx} (lands : CanLand before.chain tx) :
    Sound settings { before with chain := tx :: before.chain } where
  jobs job member := (sound.jobs job member).later (.land .refl lands) Grows.trans
    fun grows acked ended => (acked ended).later grows
  acked message member paid := (sound.acked message member paid).later (.land .refl lands)

theorem Sound.moves (sound : Sound settings before)
    (moves : Moves (System.stepUnsplit settings) before after) : Sound settings after := by
  obtain ⟨event, moved⟩ := moves
  obtain ⟨unsplit, stepped⟩ := Option.ite_none_right_eq_some.mp moved
  cases event with
  | deliver message =>
      cases stepped
      exact sound.deliver message
  | timer =>
      obtain ⟨-, same⟩ := Option.ite_none_right_eq_some.mp stepped
      cases same
      exact sound.dispatch _ _
  | answer index answer => exact sound.answer stepped unsplit
  | land tx =>
      obtain ⟨lands, same⟩ := Option.ite_none_right_eq_some.mp stepped
      cases same
      exact sound.land lands

end Runs

def System.play (step : System → Event → Option System) (system : System)
    (events : List Event) : Option System :=
  events.foldlM step system

theorem System.reachable_of_play {step : System → Event → Option System}
    {start system : System} {events : List Event}
    (reached : Reachable (· = System.empty) (Moves step) start)
    (played : start.play step events = some system) :
    Reachable (· = System.empty) (Moves step) system := by
  induction events generalizing start with
  | nil =>
      cases played
      exact reached
  | cons event events ih =>
      obtain ⟨middle, first, rest⟩ := Option.bind_eq_some_iff.mp played
      exact ih (.next reached ⟨event, first⟩) rest

namespace Redelivered

def settings : Settings := ⟨true, fun _ => none⟩

def call (tag : UInt8) : CallId := List.Vector.replicate 16 tag

def message (id : Nat) (tag : UInt8) : Message :=
  ⟨id, some "solana-devnet", some "helius", some (call tag), some "agent", 1000, some 0, 12, "ok",
    some 7⟩

/-- The first message settles alone but its push to the indexer fails, so it is
nacked and comes back in a batch with a second, new message. The send is
rejected, the probe finds the record of the first, and both are acked. -/
def events : List Event :=
  [.deliver (message 1 1), .timer, .answer 0 (.loaded []),
   .land ⟨.legacyDirect, [call 1], 77⟩, .answer 0 (.sent 77), .answer 0 .pushRejected,
   .deliver (message 1 1), .deliver (message 2 2), .timer, .answer 1 (.loaded []),
   .answer 1 .failed, .answer 1 (.found 77), .answer 1 .pushed]

/-- Two messages in one transaction whose confirmation is lost; the probe of
the retry finds the record, and both are recorded. -/
def unsplitEvents : List Event :=
  [.deliver (message 1 1), .deliver (message 2 2), .timer, .answer 0 (.loaded []),
   .land ⟨.legacyDirect, [call 1, call 2], 77⟩, .answer 0 .failed, .answer 0 (.found 77),
   .answer 0 .pushed]

end Redelivered

end PactNetwork.Settler
