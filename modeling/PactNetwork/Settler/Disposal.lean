import PactNetwork.Settler.NoLostSettlement

/-!
# Disposal

A finished batch has acked or nacked each of its messages exactly when no
exception but the three that `processBatch` matches was thrown on the way.
-/

set_option autoImplicit false

namespace PactNetwork.Settler

open Interaction

/-- Each message of the job is acked as often as the job holds it and never
nacked, or the other way round. -/
def Job.DisposedOnce (job : Job) : Prop :=
  ∀ message ∈ job.messages,
    ((job.disposed .ack).count message = job.messages.count message ∧
        message ∉ job.disposed .nack) ∨
      ((job.disposed .nack).count message = job.messages.count message ∧
        message ∉ job.disposed .ack)

instance (job : Job) : Decidable job.DisposedOnce := by
  unfold Job.DisposedOnce
  infer_instance

theorem disposedOnce_done {batch : List Message} {disposition : Disposition} :
    (Job.mk batch (.done disposition)).DisposedOnce ↔ batch = [] ∨ disposition ≠ .escaped := by
  cases batch with
  | nil =>
      constructor
      · exact fun _ => .inl rfl
      · exact fun _ message member => absurd member List.not_mem_nil
  | cons head rest =>
      cases disposition with
      | ack =>
          constructor
          · exact fun _ => .inr nofun
          · exact fun _ message member => .inl ⟨rfl, List.not_mem_nil⟩
      | nack =>
          constructor
          · exact fun _ => .inr nofun
          · exact fun _ message member => .inr ⟨rfl, List.not_mem_nil⟩
      | escaped =>
          constructor
          · intro disposed
            have present : (head :: rest).count head ≠ 0 :=
              (List.count_pos_iff.mpr List.mem_cons_self).ne'
            rcases disposed head List.mem_cons_self with ⟨same, -⟩ | ⟨same, -⟩
            · exact absurd same.symm present
            · exact absurd same.symm present
          · rintro (empty | other)
            · cases empty
            · exact absurd rfl other

/-! ## What is caught -/

/-- The answer is a success, or a failure that becomes a `BatchSubmitError` or
an `IndexerPushError`. -/
def Caught : Question × Answer → Prop
  | (.load _, .loaded _) => True
  | (.send .legacyDirect _, _) => True
  | (.send (.adapter _) _, .sent _) => True
  | (.probe _ _, _) => True
  | (.push _ _, .pushed) => True
  | (.push _ _, .pushRejected) => True
  | _ => False

instance (exchange : Question × Answer) : Decidable (Caught exchange) := by
  unfold Caught
  split <;> infer_instance

/-- Nothing throws while the events of the batch are built: the slugs that are
read are there, and every field parses. A batch of an unserved network is not
looked at. -/
def Manageable (settings : Settings) (batch : List Message) : Prop :=
  match settings.target (batchNetwork batch) with
  | none => True
  | some .legacyDirect =>
      (∀ message ∈ batch, message.hasSlug = true) ∧ (callIds batch).isSome = true
  | some (.adapter _) =>
      batch.head?.any Message.hasSlug = true ∧ (callIds batch).isSome = true

instance (settings : Settings) (batch : List Message) :
    Decidable (Manageable settings batch) := by
  unfold Manageable
  split <;> infer_instance

def Matched {α : Type} (result : Except SubmitError α) : Prop := result ≠ .error .other

theorem matched_error {α : Type} {error : SubmitError} :
    Matched (.error error : Except SubmitError α) ↔ error ≠ .other :=
  not_congr (by rw [Except.error.injEq])

/-- The questions of the retry loop of the direct path, on any answer to which
it goes on. -/
def Retried : Question → Prop
  | .send .legacyDirect _ => True
  | .probe _ _ => True
  | _ => False

theorem Retried.caught {question : Question} (retried : Retried question) (answer : Answer) :
    Caught (question, answer) := by
  cases question with
  | load messages => exact retried.elim
  | send target calls =>
      cases target with
      | legacyDirect => trivial
      | adapter network => exact retried.elim
  | probe target call => trivial
  | push signature shares => exact retried.elim

section Retry

variable {calls : List CallId}

theorem probeFirst_asks (target : Target) :
    (probeFirst target calls).Asks Retried fun _ => True := by
  cases calls with
  | nil => trivial
  | cons first rest =>
      refine ⟨trivial, fun answer => ?_⟩
      cases answer with
      | _ => trivial

theorem attempt_asks (retry : Bool) :
    (attempt .legacyDirect calls retry).Asks Retried fun _ => True := by
  have probes : (retryProbe .legacyDirect calls retry).Asks Retried fun _ => True := by
    cases retry with
    | false => trivial
    | true => exact probeFirst_asks .legacyDirect
  refine probes.bind fun found _ => ?_
  match found with
  | none => trivial
  | some (some signature) => trivial
  | some none =>
      refine ⟨trivial, fun answer => ?_⟩
      cases answer with
      | _ => trivial

theorem attempts_asks (left : Nat) (retry : Bool) :
    (attempts .legacyDirect calls left retry).Asks Retried fun _ => True := by
  induction left generalizing retry with
  | zero => trivial
  | succ left ih =>
      refine (attempt_asks retry).bind fun sent _ => ?_
      cases sent with
      | none => exact ih true
      | some signature => trivial

theorem sendWithRetry_asks (maxAttempts : Nat) :
    (sendWithRetry .legacyDirect calls maxAttempts).Asks Retried Matched := by
  refine (attempts_asks maxAttempts false).bind fun sent _ => ?_
  cases sent with
  | some signature => exact nofun
  | none =>
      refine (probeFirst_asks .legacyDirect).bind fun found _ => ?_
      match found with
      | none => exact nofun
      | some none => exact nofun
      | some (some signature) => exact nofun

end Retry

/-! ## Processing a batch -/

section Process

variable {settings : Settings} {batch : List Message}

theorem submitLegacyDirect_tracks (slugged : ∀ message ∈ batch, message.hasSlug = true)
    (parsed : (callIds batch).isSome = true) :
    (submitLegacyDirect batch).Tracks Caught Matched := by
  obtain ⟨calls, parsed⟩ := Option.isSome_iff_exists.mp parsed
  have present : ¬(batch.any fun message => !message.hasSlug) = true := by
    simpa using slugged
  rw [submitLegacyDirect, if_neg present]
  intro answer
  cases answer with
  | loaded shares =>
      refine ⟨fun _ => ?_, fun bad => absurd trivial bad⟩
      dsimp only
      rw [parsed]
      refine ((sendWithRetry_asks 3).tracks fun _ answer kind => kind.caught answer).bind ?_ ?_
      · intro result matched
        cases result with
        | ok signature => exact nofun
        | error error => exact matched_error.mpr (matched_error.mp matched)
      · intro result unmatched
        cases result with
        | ok signature => exact absurd nofun unmatched
        | error error =>
            exact fun matched => unmatched (matched_error.mpr (matched_error.mp matched))
  | _ => exact ⟨False.elim, fun _ matched => matched rfl⟩

theorem submitLegacyDirect_throws
    (unmanageable : ¬((∀ message ∈ batch, message.hasSlug = true) ∧
      (callIds batch).isSome = true)) :
    (submitLegacyDirect batch).Asks (fun _ => True) fun result => ¬Matched result := by
  unfold submitLegacyDirect
  split
  case isTrue => exact fun matched => matched rfl
  case isFalse present =>
    have slugged : ∀ message ∈ batch, message.hasSlug = true := by
      simpa using present
    refine ⟨trivial, fun answer => ?_⟩
    cases answer with
    | loaded shares =>
        dsimp only
        cases parsed : callIds batch with
        | none => exact fun matched => matched rfl
        | some calls => exact absurd ⟨slugged, Option.isSome_of_eq_some parsed⟩ unmanageable
    | _ => exact fun matched => matched rfl

theorem submitViaAdapter_tracks (network : String)
    (slugged : batch.head?.any Message.hasSlug = true) (parsed : (callIds batch).isSome = true) :
    (submitViaAdapter batch network).Tracks Caught Matched := by
  obtain ⟨calls, parsed⟩ := Option.isSome_iff_exists.mp parsed
  rw [submitViaAdapter, slugged, if_neg (by decide)]
  intro answer
  cases answer with
  | loaded shares =>
      refine ⟨fun _ => ?_, fun bad => absurd trivial bad⟩
      dsimp only
      rw [parsed]
      intro confirmation
      cases confirmation with
      | sent signature =>
          refine ⟨fun _ => ?_, fun bad => absurd trivial bad⟩
          intro reload
          cases reload with
          | loaded perEventShares => exact ⟨fun _ => nofun, fun bad => absurd trivial bad⟩
          | _ => exact ⟨False.elim, fun _ matched => matched rfl⟩
      | _ => exact ⟨False.elim, fun _ matched => matched rfl⟩
  | _ => exact ⟨False.elim, fun _ matched => matched rfl⟩

theorem submitViaAdapter_throws (network : String)
    (unmanageable : ¬(batch.head?.any Message.hasSlug = true ∧
      (callIds batch).isSome = true)) :
    (submitViaAdapter batch network).Asks (fun _ => True) fun result => ¬Matched result := by
  unfold submitViaAdapter
  split
  case isTrue => exact fun matched => matched rfl
  case isFalse present =>
    have slugged : batch.head?.any Message.hasSlug = true := by
      simpa using present
    refine ⟨trivial, fun answer => ?_⟩
    cases answer with
    | loaded shares =>
        dsimp only
        cases parsed : callIds batch with
        | none => exact fun matched => matched rfl
        | some calls => exact absurd ⟨slugged, Option.isSome_of_eq_some parsed⟩ unmanageable
    | _ => exact fun matched => matched rfl

theorem submit_tracks (manageable : Manageable settings batch) :
    (submit settings batch).Tracks Caught Matched := by
  unfold Manageable Settings.target at manageable
  unfold submit
  dsimp only
  split
  case isTrue legacy =>
    rw [if_pos legacy] at manageable
    exact submitLegacyDirect_tracks manageable.1 manageable.2
  case isFalse direct =>
    rw [if_neg direct] at manageable
    split
    case isTrue unserved => exact nofun
    case isFalse served =>
      rw [Bool.not_eq_true', Bool.not_eq_false] at served
      rw [if_pos served] at manageable
      exact submitViaAdapter_tracks _ manageable.1 manageable.2

theorem submit_throws (unmanageable : ¬Manageable settings batch) :
    (submit settings batch).Asks (fun _ => True) fun result => ¬Matched result := by
  unfold Manageable Settings.target at unmanageable
  unfold submit
  dsimp only
  split
  case isTrue legacy =>
    rw [if_pos legacy] at unmanageable
    exact submitLegacyDirect_throws unmanageable
  case isFalse direct =>
    rw [if_neg direct] at unmanageable
    split
    case isTrue unserved =>
      rw [Bool.not_eq_true'] at unserved
      rw [if_neg (by rw [unserved]; exact nofun)] at unmanageable
      exact absurd trivial unmanageable
    case isFalse served =>
      rw [Bool.not_eq_true', Bool.not_eq_false] at served
      rw [if_pos served] at unmanageable
      exact submitViaAdapter_throws _ unmanageable

theorem processBatch_tracks (manageable : Manageable settings batch) :
    (processBatch settings batch).Tracks Caught (· ≠ .escaped) := by
  refine (submit_tracks manageable).bind ?_ ?_
  · intro result matched
    match result with
    | .error (.skipBatch network) => exact nofun
    | .error .batchSubmit => exact nofun
    | .error .other => exact absurd rfl matched
    | .ok outcome =>
        intro answer
        cases answer with
        | pushed => exact ⟨fun _ => nofun, fun bad => absurd trivial bad⟩
        | pushRejected => exact ⟨fun _ => nofun, fun bad => absurd trivial bad⟩
        | _ => exact ⟨False.elim, fun _ other => other rfl⟩
  · intro result unmatched
    cases not_not.mp unmatched
    exact fun other => other rfl

theorem processBatch_throws (unmanageable : ¬Manageable settings batch) :
    (processBatch settings batch).Asks (fun _ => True) fun final => ¬final ≠ .escaped := by
  refine (submit_throws unmanageable).bind fun result unmatched => ?_
  cases not_not.mp unmatched
  exact fun other => other rfl

end Process

namespace Escape

def settings : Settings := ⟨false, fun network => if network = "arc-testnet" then some .evm else none⟩

def batch : List Message :=
  [⟨1, some "arc-testnet", some "helius", some (Redelivered.call 1), some "0xa9e7", 1000, some 0,
    12, "ok", some 7⟩]

def rejected : List (Question × Answer) :=
  [(.load batch, .loaded []), (.send (.adapter "arc-testnet") [Redelivered.call 1], .failed)]

def settled : List (Question × Answer) :=
  [(.load batch, .loaded []), (.send (.adapter "arc-testnet") [Redelivered.call 1], .sent 77),
    (.load batch, .loaded [[]]), (.push 77 [[]], .pushed)]

end Escape

end PactNetwork.Settler
