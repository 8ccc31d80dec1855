import PactNetwork.Settler.Submitter

/-!
# Redelivery of a settled batch

What becomes of a batch that is submitted again after one transaction settled
all of it. Only the legacy path can answer with that transaction, and it does
exactly when its first probe to find the record names it.
-/

set_option autoImplicit false

namespace PactNetwork.Settler

open Interaction

/-- An answer given while the chain grows from `chain`. A send confirms the
transaction it has just signed, so not one that had landed before. -/
def Honest (chain : Chain) (exchange : Question × Answer) : Prop :=
  (∃ later, Grows chain later ∧ Truthful later exchange.1 exchange.2) ∧
    ∀ signature, exchange.2 = .sent signature → ∀ tx ∈ chain, tx.signature ≠ signature

def firstFound (transcript : List (Question × Answer)) : Option Signature :=
  transcript.findSome? fun exchange =>
    match exchange.2 with
    | .found signature => some signature
    | _ => none

/-- No transaction naming a call of the batch can land from here on, so no
money moves for it. -/
def Blocked (chain : Chain) (target : Target) (batch : List Message) : Prop :=
  ∀ later tx, Grows chain later → CanLand later tx → tx.target = target →
    ∀ message ∈ batch, ∀ call, message.callId = some call → call ∉ tx.calls

/-- The submission succeeded with the signature of the earlier transaction and
without moving money. -/
def Idempotent (chain : Chain) (batch : List Message) (earlier : Tx)
    (result : Except SubmitError SettlementOutcome) : Prop :=
  (∃ shares, result = .ok ⟨earlier.signature, shares⟩) ∧ Blocked chain earlier.target batch

def SettledBy (earlier : Tx) (batch : List Message) : Prop :=
  ∀ message ∈ batch, ∃ call ∈ earlier.calls, message.callId = some call

theorem blocked_of_settled {chain : Chain} {earlier : Tx} {batch : List Message}
    (landed : earlier ∈ chain) (settled : SettledBy earlier batch) :
    Blocked chain earlier.target batch := by
  intro later tx grows lands same message member call parsed named
  obtain ⟨settledCall, included, found⟩ := settled message member
  rw [parsed] at found
  cases found
  exact lands.2.1 call named ⟨earlier, grows.subset landed, same.symm, included⟩

section Transcripts

variable {chain : Chain} {earlier : Tx} {target : Target} {calls : List CallId}
  {transcript : List (Question × Answer)}

/-- The signature a path returns is the first one a probe found; without one it
is not the earlier transaction's. -/
def Follows (earlier : Tx) (transcript : List (Question × Answer)) (result : Option Signature) :
    Prop :=
  match firstFound transcript with
  | some signature => result = some signature
  | none => result ≠ some earlier.signature

theorem firstFound_append (front back : List (Question × Answer)) :
    firstFound (front ++ back) = (firstFound front).or (firstFound back) :=
  List.findSome?_append

theorem Follows.silent {front : List (Question × Answer)} (follows : Follows earlier front none) :
    firstFound front = none := by
  unfold Follows at follows
  cases found : firstFound front with
  | none => rfl
  | some signature =>
      rw [found] at follows
      cases follows

theorem Follows.append {front back : List (Question × Answer)} {result : Option Signature}
    (silent : firstFound front = none) (follows : Follows earlier back result) :
    Follows earlier (front ++ back) result := by
  unfold Follows at follows ⊢
  rwa [firstFound_append, silent, Option.none_or]

theorem send_follows {result : Option Signature} (landed : earlier ∈ chain)
    (yields : (send target calls).Yields transcript result)
    (honest : ∀ exchange ∈ transcript, Honest chain exchange) :
    Follows earlier transcript result := by
  cases transcript with
  | nil => exact yields.elim
  | cons exchange rest =>
      obtain ⟨question, answer⟩ := exchange
      obtain ⟨rfl, yields⟩ := yields
      have true_ := honest _ List.mem_cons_self
      cases answer with
      | sent signature =>
          obtain ⟨rfl, rfl⟩ := yields
          exact fun same => true_.2 signature rfl earlier landed (Option.some.inj same).symm
      | found signature =>
          obtain ⟨⟨later, -, impossible⟩, -⟩ := true_
          exact impossible.elim
      | _ =>
          obtain ⟨rfl, rfl⟩ := yields
          exact nofun

theorem probeFirst_found {result : Option (Option Signature)}
    (yields : (probeFirst target calls).Yields transcript result) :
    firstFound transcript = result.join := by
  cases calls with
  | nil =>
      obtain ⟨rfl, rfl⟩ := yields
      rfl
  | cons first rest =>
      cases transcript with
      | nil => exact yields.elim
      | cons exchange rest =>
          obtain ⟨question, answer⟩ := exchange
          obtain ⟨rfl, yields⟩ := yields
          cases answer <;> obtain ⟨rfl, rfl⟩ := yields <;> rfl

theorem attempt_follows {retry : Bool} {result : Option Signature} (landed : earlier ∈ chain)
    (yields : (attempt target calls retry).Yields transcript result)
    (honest : ∀ exchange ∈ transcript, Honest chain exchange) :
    Follows earlier transcript result := by
  obtain ⟨front, back, middle, rfl, probed, yields⟩ := yields_bind.mp yields
  have looked : firstFound front = middle.join := by
    cases retry with
    | false =>
        obtain ⟨rfl, rfl⟩ := probed
        rfl
    | true => exact probeFirst_found probed
  match middle with
  | none =>
      obtain ⟨rfl, rfl⟩ := yields
      exact Follows.append looked nofun
  | some (some signature) =>
      obtain ⟨rfl, rfl⟩ := yields
      unfold Follows
      rw [List.append_nil, looked]
      rfl
  | some none =>
      exact Follows.append looked (send_follows landed yields fun exchange member =>
        honest exchange (List.mem_append_right _ member))

theorem attempts_follows {left : Nat} {retry : Bool} {result : Option Signature}
    (landed : earlier ∈ chain)
    (yields : (attempts target calls left retry).Yields transcript result)
    (honest : ∀ exchange ∈ transcript, Honest chain exchange) :
    Follows earlier transcript result := by
  induction left generalizing retry transcript with
  | zero =>
      obtain ⟨rfl, rfl⟩ := yields
      exact nofun
  | succ left ih =>
      obtain ⟨front, back, middle, rfl, first, yields⟩ := yields_bind.mp yields
      have follows := attempt_follows landed first fun exchange member =>
        honest exchange (List.mem_append_left _ member)
      cases middle with
      | none =>
          exact Follows.append follows.silent (ih yields fun exchange member =>
            honest exchange (List.mem_append_right _ member))
      | some signature =>
          obtain ⟨rfl, rfl⟩ := yields
          rwa [List.append_nil]

theorem sendWithRetry_follows {maxAttempts : Nat} {result : Except SubmitError Signature}
    (landed : earlier ∈ chain)
    (yields : (sendWithRetry target calls maxAttempts).Yields transcript result)
    (honest : ∀ exchange ∈ transcript, Honest chain exchange) :
    Follows earlier transcript result.toOption := by
  obtain ⟨front, back, middle, rfl, tried, yields⟩ := yields_bind.mp yields
  have follows := attempts_follows landed tried fun exchange member =>
    honest exchange (List.mem_append_left _ member)
  cases middle with
  | some signature =>
      obtain ⟨rfl, rfl⟩ := yields
      rwa [List.append_nil]
  | none =>
      refine Follows.append follows.silent ?_
      obtain ⟨last, rest, found, rfl, probed, yields⟩ := yields_bind.mp yields
      have looked := probeFirst_found probed
      match found with
      | none =>
          obtain ⟨rfl, rfl⟩ := yields
          exact Follows.append looked nofun
      | some none =>
          obtain ⟨rfl, rfl⟩ := yields
          exact Follows.append looked nofun
      | some (some signature) =>
          obtain ⟨rfl, rfl⟩ := yields
          unfold Follows
          rw [List.append_nil, looked]
          rfl

def signatureOf (result : Except SubmitError SettlementOutcome) : Option Signature :=
  result.toOption.map SettlementOutcome.signature

theorem submitLegacyDirect_follows {batch : List Message}
    {result : Except SubmitError SettlementOutcome} (landed : earlier ∈ chain)
    (yields : (submitLegacyDirect batch).Yields transcript result)
    (honest : ∀ exchange ∈ transcript, Honest chain exchange) :
    Follows earlier transcript (signatureOf result) := by
  unfold submitLegacyDirect at yields
  split at yields
  · obtain ⟨rfl, rfl⟩ := yields
    exact nofun
  · cases transcript with
    | nil => exact yields.elim
    | cons exchange rest =>
        obtain ⟨question, answer⟩ := exchange
        obtain ⟨rfl, yields⟩ := yields
        have true_ := honest _ List.mem_cons_self
        have silent : ∀ shares, firstFound [(Question.load batch, Answer.loaded shares)] = none :=
          fun _ => rfl
        cases answer with
        | loaded shares =>
            refine Follows.append (silent shares) ?_
            cases parsed : callIds batch with
            | none =>
                simp only [parsed] at yields
                obtain ⟨rfl, rfl⟩ := yields
                exact nofun
            | some calls =>
                simp only [parsed] at yields
                change Interaction.Yields (sendWithRetry .legacyDirect calls 3 >>= _) rest result
                  at yields
                obtain ⟨front, back, sent, rfl, tried, yields⟩ := yields_bind.mp yields
                have follows := sendWithRetry_follows landed tried fun exchange member =>
                  honest exchange (List.mem_cons_of_mem _ (List.mem_append_left _ member))
                cases sent <;> obtain ⟨rfl, rfl⟩ := yields <;> rwa [List.append_nil]
        | found signature =>
            obtain ⟨⟨later, -, impossible⟩, -⟩ := true_
            exact impossible.elim
        | _ =>
            obtain ⟨rfl, rfl⟩ := yields
            exact nofun

theorem submitViaAdapter_ne {batch : List Message} {network : String}
    {result : Except SubmitError SettlementOutcome} (landed : earlier ∈ chain)
    (yields : (submitViaAdapter batch network).Yields transcript result)
    (honest : ∀ exchange ∈ transcript, Honest chain exchange) :
    signatureOf result ≠ some earlier.signature := by
  unfold submitViaAdapter at yields
  split at yields
  · obtain ⟨rfl, rfl⟩ := yields
    exact nofun
  · obtain ⟨front, back, first, rfl, loading, yields⟩ := yields_bind.mp yields
    cases first with
    | loaded shares =>
        cases parsed : callIds batch with
        | none =>
            simp only [parsed] at yields
            obtain ⟨rfl, rfl⟩ := yields
            exact nofun
        | some calls =>
            simp only [parsed] at yields
            obtain ⟨sending, rest, confirmation, rfl, asked, yields⟩ := yields_bind.mp yields
            cases confirmation with
            | sent signature =>
                obtain ⟨last, done, reload, rfl, -, yields⟩ := yields_bind.mp yields
                cases reload with
                | loaded shares =>
                    obtain ⟨rfl, rfl⟩ := yields
                    cases sending with
                    | nil => exact asked.elim
                    | cons exchange sending =>
                        obtain ⟨question, answer⟩ := exchange
                        obtain ⟨rfl, rfl, rfl⟩ := asked
                        have true_ := honest (.send (.adapter network) calls, .sent signature)
                          (by simp)
                        exact fun same =>
                          true_.2 signature rfl earlier landed (Option.some.inj same).symm
                | _ =>
                    obtain ⟨rfl, rfl⟩ := yields
                    exact nofun
            | _ =>
                obtain ⟨rfl, rfl⟩ := yields
                exact nofun
    | _ =>
        obtain ⟨rfl, rfl⟩ := yields
        exact nofun

end Transcripts

/-! ## Resubmission -/

/-- A batch all of whose calls one earlier transaction settled is submitted
again, through whichever path serves its network. It is answered with that
transaction exactly when the path is the legacy one and the first probe that
finds the record names that transaction. -/
theorem resubmit_idempotent_iff (settings : Settings) (batch : List Message) (chain : Chain)
    (earlier : Tx) (transcript : List (Question × Answer))
    (result : Except SubmitError SettlementOutcome)
    (served : settings.target (batchNetwork batch) = some earlier.target)
    (landed : earlier ∈ chain) (settled : SettledBy earlier batch)
    (yields : (submit settings batch).Yields transcript result)
    (honest : ∀ exchange ∈ transcript, Honest chain exchange) :
    Idempotent chain batch earlier result ↔
      earlier.target = .legacyDirect ∧ firstFound transcript = some earlier.signature := by
  have blocked := blocked_of_settled landed settled
  have named : Idempotent chain batch earlier result ↔
      signatureOf result = some earlier.signature := by
    unfold Idempotent signatureOf
    match result with
    | .ok ⟨signature, shares⟩ => simp [blocked, Except.toOption]
    | .error error => simp [Except.toOption]
  rw [named]
  unfold submit at yields
  dsimp only at yields
  split at yields
  case isTrue legacy =>
    rw [Settings.target, if_pos legacy, Option.some.injEq] at served
    have follows := submitLegacyDirect_follows landed yields honest
    unfold Follows at follows
    cases found : firstFound transcript with
    | none =>
        rw [found] at follows
        simp [follows]
    | some signature =>
        rw [found] at follows
        simp [follows, ← served]
  case isFalse direct =>
    rw [Settings.target, if_neg direct] at served
    split at yields
    case isTrue unserved =>
      rw [Bool.not_eq_true'] at unserved
      rw [unserved] at served
      cases served
    case isFalse booted =>
      rw [Bool.not_eq_true', Bool.not_eq_false] at booted
      rw [if_pos booted, Option.some.injEq] at served
      have never := submitViaAdapter_ne landed yields honest
      simp [never, ← served]

namespace Settled

def call : CallId := List.Vector.replicate 16 1

def batch : List Message :=
  [⟨1, some "solana-devnet", some "helius", some call, some "agent", 1000, some 0, 12, "ok", some 7⟩]

def settings (legacy : Bool) : Settings where
  legacyDirectSolana := legacy
  adapter network := if network = "solana-devnet" ∧ legacy = false then some .solana else none

def earlier (target : Target) : Tx := ⟨target, [call], 77⟩

theorem settledBy (target : Target) : SettledBy (earlier target) batch := by
  intro message member
  rw [List.mem_singleton.mp member]
  exact ⟨call, List.mem_singleton.mpr rfl, rfl⟩

def recovered : List (Question × Answer) :=
  [(.load batch, .loaded []), (.send .legacyDirect [call], .failed),
   (.probe .legacyDirect call, .found 77)]

def rejected : List (Question × Answer) :=
  [(.load batch, .loaded []), (.send (.adapter "solana-devnet") [call], .failed)]

end Settled

/-- On the legacy path a rejected send and a probe that names the transaction
recover the batch. -/
theorem resubmit_idempotent_legacy :
    Idempotent [Settled.earlier .legacyDirect] Settled.batch (Settled.earlier .legacyDirect)
      (.ok ⟨77, []⟩) := by
  refine (resubmit_idempotent_iff (Settled.settings true) Settled.batch
    [Settled.earlier .legacyDirect] (Settled.earlier .legacyDirect) Settled.recovered
    (.ok ⟨77, []⟩) (by decide +kernel) (by decide) (Settled.settledBy _) ?_ ?_).mpr ⟨rfl, rfl⟩
  · have legacy : ((Settled.settings true).legacyDirectSolana &&
        (batchNetwork Settled.batch).startsWith "solana-") = true := by decide +kernel
    rw [submit, if_pos legacy]
    exact ⟨rfl, rfl, rfl, rfl, rfl⟩
  · intro exchange member
    simp only [Settled.recovered, List.mem_cons, List.not_mem_nil, or_false] at member
    rcases member with rfl | rfl | rfl
    · exact ⟨⟨_, .refl, trivial⟩, nofun⟩
    · exact ⟨⟨_, .refl, trivial⟩, nofun⟩
    · exact ⟨⟨_, .refl, by decide⟩, nofun⟩

/-- On the Solana adapter path the same batch ends in an exception. -/
theorem resubmit_adapter_fails :
    (Settled.settings false).target (batchNetwork Settled.batch) =
        some (Settled.earlier (.adapter "solana-devnet")).target ∧
      SettledBy (Settled.earlier (.adapter "solana-devnet")) Settled.batch ∧
      (submit (Settled.settings false) Settled.batch).Yields Settled.rejected
        (.error .other) ∧
      (∀ exchange ∈ Settled.rejected,
        Honest [Settled.earlier (.adapter "solana-devnet")] exchange) ∧
      ¬Idempotent [Settled.earlier (.adapter "solana-devnet")] Settled.batch
        (Settled.earlier (.adapter "solana-devnet")) (.error .other) := by
  refine ⟨by decide +kernel, Settled.settledBy _, ⟨rfl, rfl, rfl, rfl⟩, ?_, ?_⟩
  · intro exchange member
    simp only [Settled.rejected, List.mem_cons, List.not_mem_nil, or_false] at member
    rcases member with rfl | rfl
    · exact ⟨⟨_, .refl, trivial⟩, nofun⟩
    · exact ⟨⟨_, .refl, trivial⟩, nofun⟩
  · rintro ⟨⟨shares, impossible⟩, -⟩
    cases impossible

end PactNetwork.Settler
