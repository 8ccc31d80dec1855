import Mathlib.Logic.Function.Basic
import PactNetwork.Backend.KeyIssuance

/-!
# Issuance transactions

The issuance route statement by statement. A transaction takes the lock of its
pubkey, deletes the challenge, counts the keys and inserts one; the others see
none of it until it commits. Whatever the interleaving, the tables go through
whole issuances that the law of issuance allows.
-/

set_option autoImplicit false

namespace PactNetwork.Backend.Keys

open Requests (encode)

inductive Phase
  | received
  | opening (redemption : Redemption)
  | locked (redemption : Redemption)
  /-- The challenge is deleted, if there was one. -/
  | consumed (redemption : Redemption) (row : Option Challenge)
  | counting (redeemed : Redeemed)
  | counted (redeemed : Redeemed)
  | inserted (mint : Mint)
  | refusing (redemption : Redemption) (row : Option Challenge) (reply : Reply)
  | rejected (reply : Reply)
  | issued (key : ApiKey)
  | failed
  deriving DecidableEq

namespace Phase

def holder : Phase → Option Redemption
  | .locked redemption | .consumed redemption _ | .refusing redemption _ _ => some redemption
  | .counting redeemed | .counted redeemed => some redeemed.redemption
  | .inserted mint => some mint.redeemed.redemption
  | _ => none

def row : Phase → Option (String × Challenge)
  | .consumed redemption row | .refusing redemption row _ => row.map (redemption.nonce, ·)
  | .counting redeemed | .counted redeemed => some (redeemed.redemption.nonce, redeemed.challenge)
  | .inserted mint => some (mint.nonce, mint.redeemed.challenge)
  | _ => none

def key : Phase → Option ApiKey
  | .inserted mint => some mint.key
  | _ => none

def counter : Phase → Option String
  | .counted redeemed => some redeemed.redemption.agentPubkey
  | .inserted mint => some mint.agentPubkey
  | _ => none

def isOpen : Phase → Bool
  | .rejected _ | .issued _ | .failed => false
  | _ => true

end Phase

/-! ## The checks inside the transaction -/

def unknownNonce : Reply :=
  ⟨401, [("error", "UnknownOrConsumedNonce"),
    ("message", "Nonce is unknown, already used, or expired. Request a fresh challenge.")]⟩

def pubkeyMismatch : Reply :=
  ⟨401, [("error", "NonceAgentPubkeyMismatch"),
    ("message", "Nonce was issued for a different agent_pubkey.")]⟩

def expiredNonce : Reply :=
  ⟨401, [("error", "ExpiredNonce"), ("message", "Challenge expired. Request a fresh one.")]⟩

def tooManyKeys (agentPubkey : String) (count : Nat) : Reply :=
  ⟨429, [("error", "TooManyKeysForPubkey"),
    ("message", "agent_pubkey already has " ++ toString count ++ " active self-serve keys (max " ++
      toString maxSelfServeKeysPerAgent ++
      "). Reuse an existing key or contact ops to revoke older ones."),
    ("agentPubkey", agentPubkey)]⟩

/-- The checks of the deleted row, with the clock they read. -/
def checkRow (redemption : Redemption) (row : Option Challenge) (now : Nat) :
    Except Reply Redeemed :=
  match row with
  | none => .error unknownNonce
  | some row =>
      if row.agentPubkey ≠ redemption.agentPubkey then .error pubkeyMismatch
      else if row.expiresAt < now then .error expiredNonce
      else .ok ⟨redemption, row, now⟩

theorem checkRow_eq_ok {redemption : Redemption} {row : Option Challenge} {now : Nat}
    {redeemed : Redeemed} (checked : checkRow redemption row now = .ok redeemed) :
    redeemed.redemption = redemption ∧ row = some redeemed.challenge ∧
      redeemed.challenge.agentPubkey = redemption.agentPubkey ∧
      redeemed.checkedAt ≤ redeemed.challenge.expiresAt := by
  unfold checkRow at checked
  split at checked
  case h_1 => cases checked
  case h_2 row =>
    split at checked
    case isTrue => cases checked
    case isFalse same =>
      split at checked
      case isTrue => cases checked
      case isFalse unexpired =>
        cases checked
        exact ⟨rfl, rfl, not_not.mp same, Nat.le_of_not_lt unexpired⟩

/-! ## Interleavings -/

variable {ι : Type}

/-- The committed tables, what has happened to them, and where each request stands. -/
structure System (ι : Type) where
  db : Database
  history : List (Event ι)
  requests : ι → Phase

def System.start (db : Database) : System ι := ⟨db, [], fun _ => .received⟩

def System.record (system : System ι) (event : Event ι) : System ι :=
  { system with db := system.db.apply event, history := system.history ++ [event] }

/-- The processes share the database, the network they detected and the bodies
that the requests come with. -/
structure Deployment (ι : Type) where
  library : Library
  network : SolanaNetwork
  bodies : ι → SelfServeBody

variable (deployment : Deployment ι)

namespace System

def Unlocked (system : System ι) (i : ι) (agentPubkey : String) : Prop :=
  ∀ other, other ≠ i → ∀ redemption, (system.requests other).holder = some redemption →
    pubkeyLockId deployment.library redemption.agentPubkey ≠
      pubkeyLockId deployment.library agentPubkey

def Untaken (system : System ι) (i : ι) (nonce : String) : Prop :=
  ∀ other, other ≠ i → ∀ row, (system.requests other).row = some row → row.1 ≠ nonce

/-- The hash and the label are in no committed key, and in none that another
transaction has inserted. -/
def Unused (system : System ι) (i : ι) (key : ApiKey) : Prop :=
  (∀ old ∈ system.db.keys, old.keyHash ≠ key.keyHash ∧ old.label ≠ key.label) ∧
    ∀ other, other ≠ i → ∀ old, (system.requests other).key = some old →
      old.keyHash ≠ key.keyHash ∧ old.label ≠ key.label

end System

/-- One step of a request: the phase before it, what it commits, the phase after. -/
inductive Advance (system : System ι) (i : ι) : Phase → Option Mint → Phase → Prop
  /-- The limits on pubkeys and addresses are kept in memory. -/
  | limited {reply : Reply} (limit : reply.code = 429) :
      Advance system i .received none (.rejected reply)
  | refused {reply : Reply}
      (invalid : checkBody deployment.library deployment.network (deployment.bodies i) =
        .error reply) : Advance system i .received none (.rejected reply)
  | opened {redemption : Redemption}
      (valid : checkBody deployment.library deployment.network (deployment.bodies i) =
        .ok redemption) : Advance system i .received none (.opening redemption)
  | locked {redemption : Redemption}
      (free : system.Unlocked deployment i redemption.agentPubkey) :
      Advance system i (.opening redemption) none (.locked redemption)
  | consumed {redemption : Redemption} (free : system.Untaken i redemption.nonce) :
      Advance system i (.locked redemption) none
        (.consumed redemption (system.db.challenges.lookup redemption.nonce))
  | turned {redemption : Redemption} {row : Option Challenge} {reply : Reply} (now : Nat)
      (invalid : checkRow redemption row now = .error reply) :
      Advance system i (.consumed redemption row) none (.refusing redemption row reply)
  | checked {redemption : Redemption} {row : Option Challenge} {redeemed : Redeemed} (now : Nat)
      (valid : checkRow redemption row now = .ok redeemed) :
      Advance system i (.consumed redemption row) none (.counting redeemed)
  | capped {redeemed : Redeemed}
      (full : maxSelfServeKeysPerAgent ≤ system.db.count redeemed.redemption.agentPubkey) :
      Advance system i (.counting redeemed) none
        (.refusing redeemed.redemption redeemed.challenge
          (tooManyKeys redeemed.redemption.agentPubkey
            (system.db.count redeemed.redemption.agentPubkey)))
  | counted {redeemed : Redeemed}
      (below : system.db.count redeemed.redemption.agentPubkey < maxSelfServeKeysPerAgent) :
      Advance system i (.counting redeemed) none (.counted redeemed)
  | inserted {redeemed : Redeemed} (apiKey : String) (now : Nat)
      (unused : system.Unused i
        (newKey deployment.library redeemed.redemption.agentPubkey apiKey now)) :
      Advance system i (.counted redeemed) none
        (.inserted ⟨redeemed, newKey deployment.library redeemed.redemption.agentPubkey apiKey now⟩)
  | committed {mint : Mint} :
      Advance system i (.inserted mint) (some mint) (.issued mint.key)
  /-- The commit happens, and its answer is lost. -/
  | unanswered {mint : Mint} : Advance system i (.inserted mint) (some mint) .failed
  | rolledBack {redemption : Redemption} {row : Option Challenge} {reply : Reply} :
      Advance system i (.refusing redemption row reply) none (.rejected reply)
  /-- A statement fails, and the transaction is rolled back. -/
  | broken {phase : Phase} (isOpen : phase.isOpen = true) : Advance system i phase none .failed

section Steps

variable [DecidableEq ι]

def System.advance (system : System ι) (i : ι) (mint : Option Mint) (next : Phase) : System ι :=
  let after := mint.elim system fun mint => system.record (.minted i mint)
  { after with requests := Function.update system.requests i next }

inductive Step (before : System ι) : System ι → Prop
  | challenge {agentPubkey : Option String} {pubkey nonce : String} (now : Nat)
      (valid : checkAgent deployment.library deployment.network agentPubkey = .ok pubkey)
      (unused : nonce ∉ before.db.challenges) :
      Step before (before.record (.challenged nonce (newChallenge pubkey now)))
  | suspend (label : String) : Step before (before.record (.suspended label))
  | request {i : ι} {mint : Option Mint} {next : Phase}
      (moves : Advance deployment before i (before.requests i) mint next) :
      Step before (before.advance i mint next)

end Steps

/-! ## What one party holds -/

section Holdings

variable {π α : Type}

def Exclusive (held : ι → Option α) (apart : α → α → Prop) : Prop :=
  ∀ i j a b, i ≠ j → held i = some a → held j = some b → apart a b

theorem Exclusive.update [DecidableEq ι] {holds : π → Option α} {apart : α → α → Prop}
    {parties : ι → π} (exclusive : Exclusive (fun j => holds (parties j)) apart)
    (symmetric : ∀ a b, apart a b → apart b a) (i : ι) (next : π)
    (free : ∀ a, holds next = some a → holds (parties i) = some a ∨
      ∀ j, j ≠ i → ∀ b, holds (parties j) = some b → apart b a) :
    Exclusive (fun j => holds (Function.update parties i next j)) apart := by
  have beside : ∀ a, holds next = some a → ∀ j, j ≠ i → ∀ b, holds (parties j) = some b →
      apart b a := by
    intro a here j other b there
    rcases free a here with held | unheld
    · exact exclusive j i b a other there held
    · exact unheld j other b there
  intro j k a b distinct first second
  dsimp only at first second
  by_cases left : j = i
  · subst left
    rw [Function.update_self] at first
    rw [Function.update_of_ne distinct.symm] at second
    exact symmetric b a (beside a first k distinct.symm b second)
  · rw [Function.update_of_ne left] at first
    by_cases right : k = i
    · subst right
      rw [Function.update_self] at second
      exact beside b second j left a first
    · rw [Function.update_of_ne right] at second
      exact exclusive j k a b distinct first second

end Holdings

/-! ## One issuance at a time -/

section Phases

variable {deployment} {system : System ι} {i : ι} {phase next : Phase} {mint : Option Mint}

def Phase.Lawful (library : Library) : Phase → Prop
  | .opening redemption | .locked redemption | .consumed redemption _ => redemption.Verifies library
  | .counting redeemed | .counted redeemed => redeemed.Lawful library
  | .inserted mint => mint.Lawful library
  | _ => True

theorem Phase.holder_of_counter {pubkey : String} (counted : phase.counter = some pubkey) :
    ∃ redemption, phase.holder = some redemption ∧ redemption.agentPubkey = pubkey := by
  cases phase with
  | counted redeemed =>
      cases counted
      exact ⟨redeemed.redemption, rfl, rfl⟩
  | inserted mint =>
      cases counted
      exact ⟨mint.redeemed.redemption, rfl, rfl⟩
  | _ => cases counted

namespace Advance

theorem isOpen (moves : Advance deployment system i phase mint next) : phase.isOpen = true := by
  cases moves with
  | broken isOpen => exact isOpen
  | _ => rfl

theorem holder (moves : Advance deployment system i phase mint next) {redemption : Redemption}
    (holds : next.holder = some redemption) :
    phase.holder = some redemption ∨ system.Unlocked deployment i redemption.agentPubkey := by
  cases moves with
  | locked free =>
      cases holds
      exact .inr free
  | consumed free => exact .inl holds
  | turned now invalid => exact .inl holds
  | checked now valid =>
      obtain ⟨same, -⟩ := checkRow_eq_ok valid
      cases holds
      exact .inl (congrArg some same.symm)
  | capped full => exact .inl holds
  | counted below => exact .inl holds
  | inserted apiKey now unused => exact .inl holds
  | _ => cases holds

theorem row (moves : Advance deployment system i phase mint next) {row : String × Challenge}
    (takes : next.row = some row) :
    phase.row = some row ∨
      system.db.challenges.lookup row.1 = some row.2 ∧ system.Untaken i row.1 := by
  cases moves with
  | consumed free =>
      obtain ⟨challenge, found, rfl⟩ := Option.map_eq_some_iff.mp takes
      exact .inr ⟨found, free⟩
  | turned now invalid => exact .inl takes
  | checked now valid =>
      obtain ⟨same, found, -⟩ := checkRow_eq_ok valid
      subst found same
      exact .inl takes
  | capped full => exact .inl takes
  | counted below => exact .inl takes
  | inserted apiKey now unused => exact .inl takes
  | _ => cases takes

theorem counter (moves : Advance deployment system i phase mint next) {pubkey : String}
    (counts : next.counter = some pubkey) :
    phase.counter = some pubkey ∨ system.db.count pubkey < maxSelfServeKeysPerAgent := by
  cases moves with
  | counted below =>
      cases counts
      exact .inr below
  | inserted apiKey now unused => exact .inl counts
  | _ => cases counts

theorem lawful (moves : Advance deployment system i phase mint next)
    (before : phase.Lawful deployment.library) : next.Lawful deployment.library := by
  cases moves with
  | opened valid => exact verifies_of_checkBody valid
  | locked free => exact before
  | consumed free => exact before
  | checked now valid =>
      obtain ⟨same, -, issuedTo, unexpired⟩ := checkRow_eq_ok valid
      subst same
      exact ⟨before, issuedTo, unexpired⟩
  | counted below => exact before
  | inserted apiKey now unused => exact ⟨before, apiKey, now, rfl⟩
  | _ => trivial

theorem commits {minted : Mint} (moves : Advance deployment system i phase (some minted) next) :
    phase = .inserted minted ∧ (next = .issued minted.key ∨ next = .failed) := by
  cases moves with
  | committed => exact ⟨rfl, .inl rfl⟩
  | unanswered => exact ⟨rfl, .inr rfl⟩

end Advance

end Phases

/-- The tables have gone through issuances the law allows, and the open
transactions keep out of each other's way. -/
structure Sound (start : Database) (system : System ι) : Prop where
  replayed : system.db = system.history.foldl Database.apply start
  allows : Allows Database.apply (Database.Clear deployment.library) start system.history
  lawful : ∀ i, (system.requests i).Lawful deployment.library
  settled : ∀ i mint, Event.minted i mint ∈ system.history →
    (∃ key, system.requests i = .issued key) ∨ system.requests i = .failed
  locks : Exclusive (fun i => (system.requests i).holder) fun left right =>
    pubkeyLockId deployment.library left.agentPubkey ≠
      pubkeyLockId deployment.library right.agentPubkey
  rows : Exclusive (fun i => (system.requests i).row) fun left right => left.1 ≠ right.1
  held : ∀ i row, (system.requests i).row = some row →
    system.db.challenges.lookup row.1 = some row.2
  below : ∀ i pubkey, (system.requests i).counter = some pubkey →
    system.db.count pubkey < maxSelfServeKeysPerAgent

section Runs

variable {deployment} {start : Database} {system : System ι}

theorem sound_start : Sound deployment start (System.start start : System ι) where
  replayed := rfl
  allows := trivial
  lawful _ := trivial
  settled i mint member := by cases member
  locks i j left right distinct holds := by cases holds
  rows i j left right distinct takes := by cases takes
  held i row takes := by cases takes
  below i pubkey counts := by cases counts

theorem Sound.record (sound : Sound deployment start system) {event : Event ι}
    (clear : system.db.Clear deployment.library event)
    (unsettled : ∀ i mint, event ≠ .minted i mint)
    (kept : ∀ nonce challenge, system.db.challenges.lookup nonce = some challenge →
      (system.db.apply event).challenges.lookup nonce = some challenge)
    (fewer : ∀ pubkey, (system.db.apply event).count pubkey ≤ system.db.count pubkey) :
    Sound deployment start (system.record event) where
  replayed := by
    change system.db.apply event = (system.history ++ [event]).foldl Database.apply start
    rw [List.foldl_append, ← sound.replayed]
    rfl
  allows := by
    refine sound.allows.append ⟨?_, trivial⟩
    rw [← sound.replayed]
    exact clear
  lawful := sound.lawful
  settled i mint member := by
    rcases List.mem_append.mp member with earlier | now
    · exact sound.settled i mint earlier
    · exact absurd (List.mem_singleton.mp now).symm (unsettled i mint)
  locks := sound.locks
  rows := sound.rows
  held i row takes := kept row.1 row.2 (sound.held i row takes)
  below i pubkey counts := (fewer pubkey).trans_lt (sound.below i pubkey counts)

variable [DecidableEq ι]

theorem Sound.locks_update (sound : Sound deployment start system) {i : ι} {mint : Option Mint}
    {next : Phase} (moves : Advance deployment system i (system.requests i) mint next) :
    Exclusive (fun j => (Function.update system.requests i next j).holder) fun left right =>
      pubkeyLockId deployment.library left.agentPubkey ≠
        pubkeyLockId deployment.library right.agentPubkey := by
  refine sound.locks.update (fun _ _ => Ne.symm) i next fun redemption holds => ?_
  exact moves.holder holds

theorem Sound.rows_update (sound : Sound deployment start system) {i : ι} {mint : Option Mint}
    {next : Phase} (moves : Advance deployment system i (system.requests i) mint next) :
    Exclusive (fun j => (Function.update system.requests i next j).row) fun left right =>
      left.1 ≠ right.1 := by
  refine sound.rows.update (fun _ _ => Ne.symm) i next fun row takes => ?_
  exact (moves.row takes).imp_right And.right

theorem Sound.lawful_update (sound : Sound deployment start system) {i : ι} {mint : Option Mint}
    {next : Phase} (moves : Advance deployment system i (system.requests i) mint next) :
    ∀ j, (Function.update system.requests i next j).Lawful deployment.library :=
  (Function.forall_update_iff system.requests fun _ phase =>
      phase.Lawful deployment.library).mpr
    ⟨moves.lawful (sound.lawful i), fun j _ => sound.lawful j⟩

omit [DecidableEq ι] in
theorem Sound.unsettled (sound : Sound deployment start system) {i : ι} {mint : Option Mint}
    {next : Phase} (moves : Advance deployment system i (system.requests i) mint next)
    (minted : Mint) : Event.minted i minted ∉ system.history := by
  intro member
  have opened := moves.isOpen
  rcases sound.settled i minted member with ⟨key, issued⟩ | failed
  · rw [issued] at opened
    cases opened
  · rw [failed] at opened
    cases opened

theorem Sound.quiet (sound : Sound deployment start system) {i : ι} {next : Phase}
    (moves : Advance deployment system i (system.requests i) none next) :
    Sound deployment start (system.advance i none next) where
  replayed := sound.replayed
  allows := sound.allows
  lawful := sound.lawful_update moves
  settled := (Function.forall_update_iff system.requests fun j phase =>
      ∀ mint, Event.minted j mint ∈ system.history →
        (∃ key, phase = .issued key) ∨ phase = .failed).mpr
    ⟨fun mint member => absurd member (sound.unsettled moves mint), fun j _ => sound.settled j⟩
  locks := sound.locks_update moves
  rows := sound.rows_update moves
  held := by
    refine (Function.forall_update_iff system.requests fun j phase => ∀ row,
      phase.row = some row → system.db.challenges.lookup row.1 = some row.2).mpr
      ⟨fun row takes => ?_, fun j _ => sound.held j⟩
    rcases moves.row takes with before | ⟨found, -⟩
    · exact sound.held i row before
    · exact found
  below := by
    refine (Function.forall_update_iff system.requests fun j phase => ∀ pubkey,
      phase.counter = some pubkey → system.db.count pubkey < maxSelfServeKeysPerAgent).mpr
      ⟨fun pubkey counts => ?_, fun j _ => sound.below j⟩
    rcases moves.counter counts with before | below
    · exact sound.below i pubkey before
    · exact below

theorem Sound.commit (sound : Sound deployment start system) {i : ι} {mint : Mint} {next : Phase}
    (moves : Advance deployment system i (system.requests i) (some mint) next) :
    Sound deployment start (system.advance i (some mint) next) := by
  obtain ⟨here, ends⟩ := moves.commits
  have lawful : mint.Lawful deployment.library := by
    have before := sound.lawful i
    rw [here] at before
    exact before
  have takes : (system.requests i).row = some (mint.nonce, mint.redeemed.challenge) := by rw [here]; rfl
  have holds : (system.requests i).holder = some mint.redeemed.redemption := by rw [here]; rfl
  have counts : (system.requests i).counter = some mint.agentPubkey := by rw [here]; rfl
  have idle : next.row = none ∧ next.counter = none := by
    rcases ends with rfl | rfl <;> exact ⟨rfl, rfl⟩
  have clear : system.db.Clear deployment.library (.minted i mint) :=
    ⟨lawful, sound.held i _ takes, sound.below i _ counts⟩
  refine
    { replayed := ?_, allows := ?_, lawful := sound.lawful_update moves, settled := ?_,
      locks := sound.locks_update moves, rows := sound.rows_update moves, held := ?_, below := ?_ }
  · change system.db.apply (.minted i mint) =
      (system.history ++ [Event.minted i mint]).foldl Database.apply start
    rw [List.foldl_append, ← sound.replayed]
    rfl
  · refine sound.allows.append ⟨?_, trivial⟩
    rw [← sound.replayed]
    exact clear
  · refine (Function.forall_update_iff system.requests fun j phase =>
      ∀ minted, Event.minted j minted ∈ system.history ++ [.minted i mint] →
        (∃ key, phase = .issued key) ∨ phase = .failed).mpr
      ⟨fun minted _ => ends.imp_left fun issued => ⟨mint.key, issued⟩, fun j other => ?_⟩
    intro minted member
    rcases List.mem_append.mp member with earlier | now
    · exact sound.settled j minted earlier
    · cases List.mem_singleton.mp now
      exact absurd rfl other
  · refine (Function.forall_update_iff system.requests fun j phase => ∀ row,
      phase.row = some row →
        (system.db.apply (.minted i mint)).challenges.lookup row.1 = some row.2).mpr
      ⟨fun row taken => ?_, fun j other row taken => ?_⟩
    · rw [idle.1] at taken
      cases taken
    · have apart := sound.rows j i row _ other taken takes
      change (system.db.challenges.erase mint.nonce).lookup row.1 = some row.2
      rw [AList.lookup_erase_ne apart]
      exact sound.held j row taken
  · refine (Function.forall_update_iff system.requests fun j phase => ∀ pubkey,
      phase.counter = some pubkey →
        (system.db.apply (.minted i mint)).count pubkey < maxSelfServeKeysPerAgent).mpr
      ⟨fun pubkey counted => ?_, fun j other pubkey counted => ?_⟩
    · rw [idle.2] at counted
      cases counted
    · obtain ⟨redemption, held, same⟩ := Phase.holder_of_counter counted
      have apart := sound.locks j i redemption _ other held holds
      rw [count_minted_of_ne lawful]
      · exact sound.below j pubkey counted
      · rintro rfl
        exact apart (congrArg _ same)

theorem Sound.step (sound : Sound deployment start system) {after : System ι}
    (moves : Step deployment system after) : Sound deployment start after := by
  cases moves with
  | challenge now valid unused =>
      refine sound.record unused (fun i mint same => by cases same) ?_ fun pubkey => le_rfl
      intro nonce challenge found
      refine (AList.lookup_insert_ne ?_).trans found
      rintro rfl
      exact unused (AList.lookup_isSome.mp (Option.isSome_of_eq_some found))
  | suspend label =>
      exact sound.record trivial (fun i mint same => by cases same)
        (fun nonce challenge found => found) fun pubkey => count_suspend_le label pubkey
  | request moves =>
      rename_i i mint next
      cases mint with
      | none => exact sound.quiet moves
      | some mint => exact sound.commit moves

theorem sound_of_reachable
    (reached : Reachable (· = System.start start) (Step deployment) system) :
    Sound deployment start system := by
  refine reached.invariant (Sound deployment start) ?_ fun before after sound => sound.step
  rintro first rfl
  exact sound_start

/-- Every reachable state: what was minted, for whom and how often, what a rejection
leaves, and how many keys a pubkey has. -/
structure Guaranteed (deployment : Deployment ι) (start : Database) (system : System ι) : Prop where
  /-- The tables are what the issued challenges, the suspensions and the mints made. -/
  replayed : system.db = system.history.foldl Database.apply start
  /-- Every nonce still waits or was used up by one mint. -/
  conserved : (nonces start system.history).Perm
    ((mints system.history).map Mint.nonce ++ system.db.challenges.keys)
  /-- The nonces are random: where none is drawn twice, each mints at most one key. -/
  once : (nonces start system.history).Nodup → ((mints system.history).map Mint.nonce).Nodup
  keys : system.db.keys.map ApiKey.identity =
    start.keys.map ApiKey.identity ++ (mints system.history).map (·.key.identity)
  /-- The key is an active one of the pubkey its nonce was issued to, that pubkey signed for
  it, and the clock read while the nonce was held had not passed its expiry. -/
  lawful : ∀ mint ∈ mints system.history,
    Issued start system.history mint.nonce mint.redeemed.challenge ∧
      mint.key.countsFor mint.redeemed.challenge.agentPubkey = true ∧
      mint.redeemed.redemption.agentPubkey = mint.redeemed.challenge.agentPubkey ∧
      mint.redeemed.redemption.Verifies deployment.library ∧
      mint.redeemed.checkedAt ≤ mint.redeemed.challenge.expiresAt
  /-- Only a request that commits changes the tables, and none that is rejected does. -/
  rejected : ∀ i reply, system.requests i = .rejected reply → ∀ mint,
    Event.minted i mint ∉ system.history
  capped : ∀ pubkey, system.db.count pubkey ≤ maxSelfServeKeysPerAgent

omit [DecidableEq ι] in
theorem Sound.guaranteed (sound : Sound deployment start system)
    (capped : ∀ pubkey, start.count pubkey ≤ maxSelfServeKeysPerAgent) :
    Guaranteed deployment start system where
  replayed := sound.replayed
  conserved := by
    rw [sound.replayed]
    exact Keys.conserved sound.allows
  once fresh := by
    have parts := (Keys.conserved sound.allows).nodup_iff.mp fresh
    exact parts.of_append_left
  keys := by
    rw [sound.replayed]
    exact identities start system.history
  lawful mint member := by
    obtain ⟨lawful, issued⟩ := lawful_of_mem sound.allows member
    refine ⟨issued, ?_, lawful.redeemed.issuedTo.symm, lawful.redeemed.verifies,
      lawful.redeemed.unexpired⟩
    rw [lawful.redeemed.issuedTo]
    exact lawful.counts
  rejected i reply rejected mint member := by
    rcases sound.settled i mint member with ⟨key, issued⟩ | failed
    · cases rejected.symm.trans issued
    · cases rejected.symm.trans failed
  capped := by
    rw [sound.replayed]
    exact capped_of_allows sound.allows capped

theorem issuance_guaranteed (capped : ∀ pubkey, start.count pubkey ≤ maxSelfServeKeysPerAgent)
    (reached : Reachable (· = System.start start) (Step deployment) system) :
    Guaranteed deployment start system :=
  (sound_of_reachable reached).guaranteed capped

end Runs

namespace Demo

def agent : String := "GmaDrppBC7P5ARKV8g3djiwP89vz1jLK23V2GBjuAEGB"

def agentBytes : List UInt8 :=
  [234, 74, 108, 99, 226, 156, 82, 10, 190, 245, 80, 123, 19, 46, 197, 249, 149, 71, 118, 174,
    190, 190, 123, 146, 66, 30, 234, 105, 20, 70, 210, 44]

def nonce : String := "0102030405060708090a0b0c0d0e0f101112131415161718191a1b1c1d1e1f20"

def signature : String :=
  "+BG9M5CybxngJOtfuOgEVG48V4mcDwcqpFb5CBA3nWGlsiiRNlzG65nzNvla6UbEnbR9mKYcAJ32pav7nZPYCg=="

def signatureBytes : List UInt8 :=
  [248, 17, 189, 51, 144, 178, 111, 25, 224, 36, 235, 95, 184, 232, 4, 84, 110, 60, 87, 137, 156,
    15, 7, 42, 164, 86, 249, 8, 16, 55, 157, 97, 165, 178, 40, 145, 54, 92, 198, 235, 153, 243, 54,
    249, 90, 233, 70, 196, 157, 180, 125, 152, 166, 28, 0, 157, 246, 165, 171, 251, 157, 147, 216,
    10]

def apiKey : String := "pact_0102030405060708090a0b0c0d0e0f101112131415161718"

/-- The agent signed the challenge of one nonce. -/
def library : Library where
  crypto :=
    { sha256 := fun bytes =>
        if bytes = encode agent then
          [207, 210, 170, 5, 135, 97, 58, 199, 86, 78, 45, 162, 92, 150, 245, 91, 186, 57, 186, 178,
            209, 198, 211, 121, 155, 67, 38, 166, 128, 162, 28, 88]
        else
          [31, 63, 130, 254, 56, 160, 124, 195, 35, 177, 137, 18, 229, 11, 36, 78, 131, 185, 36, 39,
            8, 56, 166, 253, 233, 193, 88, 6, 141, 17, 242, 253]
      bs58Encode := fun _ => agent
      bs58Decode := fun text => if text = agent then some agentBytes else none
      detachedVerify := fun message sig pubkey =>
        message = encode (buildChallengeMessage nonce agent) && sig = signatureBytes &&
          pubkey = agentBytes }
  publicKey text := if text = agent then .ok agentBytes else .error "Invalid public key input"
  isOnCurve bytes := bytes = agentBytes
  bufferFromBase64 text := if text = signature then signatureBytes else []

def backend : Deployment Unit where
  library := library
  network := .devnet
  bodies _ := ⟨some agent, some nonce, some signature⟩

def redemption : Redemption := ⟨agent, nonce, signatureBytes⟩

def redeemed : Redeemed := ⟨redemption, newChallenge agent 1735689600000, 1735689605000⟩

def mint : Mint := ⟨redeemed, newKey library agent apiKey 1735689605004⟩

def tables : Database := ⟨∅, []⟩

def challenged : System Unit :=
  (System.start tables).record (.challenged nonce (newChallenge agent 1735689600000))

def settled : System Unit := ⟨challenged.db.apply (.minted () mint),
  challenged.history ++ [.minted () mint], fun _ => .issued mint.key⟩

theorem valid : checkBody library .devnet ⟨some agent, some nonce, some signature⟩ =
    .ok redemption := by decide +kernel

def standing (phase : Phase) : System Unit := { challenged with requests := fun _ => phase }

theorem goes {phase next : Phase}
    (earlier : Reachable (· = System.start tables) (Step backend) (standing phase))
    (moves : Advance backend (standing phase) () phase none next) :
    Reachable (· = System.start tables) (Step backend) (standing next) := by
  have same : (standing phase).advance () none next = standing next := by
    unfold System.advance standing
    congr 1
  exact same ▸ earlier.next (.request moves)

theorem reached : Reachable (· = System.start tables) (Step backend) settled := by
  have issued : Step backend (System.start tables) (standing .received) :=
    Step.challenge 1735689600000
      (by decide +kernel : checkAgent library .devnet (some agent) = Except.ok agent)
      (AList.notMem_empty _)
  have received : Reachable (· = System.start tables) (Step backend) (standing .received) :=
    Reachable.next (.start rfl) issued
  have opened := goes received (.opened valid)
  have locked := goes opened (.locked fun other apart => absurd rfl apart)
  have consumed := goes locked (.consumed fun other apart => absurd rfl apart)
  have passes : checkRow redemption (some redeemed.challenge) 1735689605000 = .ok redeemed := by
    decide +kernel
  have checked := goes consumed (.checked 1735689605000 passes)
  have counted := goes checked (.counted (by decide +kernel))
  have inserted := goes counted (.inserted apiKey 1735689605004
    ⟨List.forall_mem_nil _, fun other apart => absurd rfl apart⟩)
  have same : (standing (.inserted mint)).advance () (some mint) (.issued mint.key) = settled := by
    unfold System.advance settled
    congr 1
  exact same ▸ inserted.next (.request .committed)

end Demo

/-- The run in which one request redeems its challenge. -/
theorem issuance_guaranteed_once : mints Demo.settled.history = [Demo.mint] ∧
    Guaranteed Demo.backend Demo.tables Demo.settled :=
  ⟨rfl, issuance_guaranteed (fun _ => Nat.zero_le _) Demo.reached⟩

end PactNetwork.Backend.Keys
