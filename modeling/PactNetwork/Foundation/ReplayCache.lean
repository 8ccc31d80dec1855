import PactNetwork.Foundation.Table

/-!
# Replay caches

A map from keys to expiry times that remembers a key for a while after it was
first seen and sweeps out what has expired once it has grown. A checker that
asks such a cache accepts no key twice within the cache's memory.
-/

set_option autoImplicit false

namespace PactNetwork

namespace ReplayCache

variable {κ τ : Type} [DecidableEq κ] [LinearOrder τ]

def sweep (store : Table κ τ) (now : τ) : Table κ τ :=
  store.entries.foldl (fun kept entry => if entry.2 ≤ now then kept.erase entry.1 else kept) store

def live (store : Table κ τ) (key : κ) (now : τ) : Bool :=
  match store.lookup key with
  | some expires => decide (now < expires)
  | none => false

def tidied (limit : Nat) (store : Table κ τ) (now : τ) : Table κ τ :=
  if limit < store.entries.length then sweep store now else store

def seen [Add τ] (limit : Nat) (ttl : τ) (store : Table κ τ) (key : κ) (now : τ) :
    Bool × Table κ τ :=
  if live (tidied limit store now) key now then (true, tidied limit store now)
  else (false, (tidied limit store now).insert key (now + ttl))

/-- Answer one thing for a key that was seen and another for one that was not. -/
def unlessSeen [Add τ] {ω : Type} (limit : Nat) (ttl : τ) (store : Table κ τ) (key : κ) (now : τ)
    (repeated fresh : ω) : ω × Table κ τ :=
  (if (seen limit ttl store key now).1 then repeated else fresh,
    (seen limit ttl store key now).2)

variable {store : Table κ τ} {key other : κ} {now expires : τ}

theorem lookup_sweep (found : store.lookup key = some expires) (later : now < expires) :
    (sweep store now).lookup key = some expires := by
  have lasting : ∀ entry ∈ store.entries, entry.1 = key → now < entry.2 := by
    rintro ⟨name, value⟩ member rfl
    rw [Option.some.inj (found.symm.trans (AList.mem_lookup_iff.mpr member))] at later
    exact later
  -- The entries still to be visited are among the ones the sweep started from.
  have kept : ∀ (entries : List (Sigma fun _ : κ => τ)) (left : Table κ τ),
      (∀ entry ∈ entries, entry.1 = key → now < entry.2) → left.lookup key = some expires →
      (entries.foldl (fun kept entry => if entry.2 ≤ now then kept.erase entry.1 else kept)
        left).lookup key = some expires := by
    intro entries
    induction entries with
    | nil => exact fun _ _ held => held
    | cons entry entries ih =>
        intro left lasting held
        refine ih _ (fun later member => lasting later (List.mem_cons_of_mem _ member)) ?_
        dsimp only
        split
        case isTrue expired =>
          have apart : key ≠ entry.1 := fun same =>
            absurd expired (not_le.mpr (lasting entry List.mem_cons_self same.symm))
          rw [AList.lookup_erase_ne apart]
          exact held
        case isFalse => exact held
  exact kept store.entries store lasting found

theorem lookup_tidied (limit : Nat) (found : store.lookup key = some expires)
    (later : now < expires) : (tidied limit store now).lookup key = some expires := by
  unfold tidied
  split
  case isTrue => exact lookup_sweep found later
  case isFalse => exact found

theorem lookup_of_sweep (found : (sweep store now).lookup key = some expires) :
    store.lookup key = some expires := by
  have kept : ∀ (entries : List (Sigma fun _ : κ => τ)) (left : Table κ τ),
      (entries.foldl (fun kept entry => if entry.2 ≤ now then kept.erase entry.1 else kept)
        left).lookup key = some expires → left.lookup key = some expires := by
    intro entries
    induction entries with
    | nil => exact fun _ held => held
    | cons entry entries ih =>
        intro left held
        have before := ih _ held
        dsimp only at before
        split at before
        case isTrue =>
          by_cases same : key = entry.1
          · rw [same, AList.lookup_erase] at before
            cases before
          · rwa [AList.lookup_erase_ne same] at before
        case isFalse => exact before
  exact kept _ _ found

theorem lookup_of_tidied {limit : Nat}
    (found : (tidied limit store now).lookup key = some expires) :
    store.lookup key = some expires := by
  unfold tidied at found
  split at found
  case isTrue => exact lookup_of_sweep found
  case isFalse => exact found

theorem live_iff : live store key now = true ↔
    ∃ expires, store.lookup key = some expires ∧ now < expires := by
  unfold live
  split
  case h_1 expires found => simp [found]
  case h_2 absent => simp [absent]

theorem live_tidied (limit : Nat) : live (tidied limit store now) key now = live store key now := by
  rw [Bool.eq_iff_iff, live_iff, live_iff]
  constructor
  · rintro ⟨expires, found, later⟩
    exact ⟨expires, lookup_of_tidied found, later⟩
  · rintro ⟨expires, found, later⟩
    exact ⟨expires, lookup_tidied limit found later, later⟩

theorem live_of_lookup (found : store.lookup key = some expires) (later : now < expires) :
    live store key now = true := by
  simp only [live, found, later, decide_true]

section Seen

variable [Add τ] {limit : Nat} {ttl : τ}

theorem seen_of_lookup (found : store.lookup key = some expires) (later : now < expires) :
    (seen limit ttl store key now).1 = true := by
  rw [seen, if_pos (live_of_lookup (lookup_tidied limit found later) later)]

theorem lookup_seen (found : store.lookup key = some expires) (later : now < expires) :
    (seen limit ttl store other now).2.lookup key = some expires := by
  have held := lookup_tidied limit found later
  unfold seen
  split
  case isTrue => exact held
  case isFalse absent =>
    by_cases same : key = other
    · subst same
      exact absurd (live_of_lookup held later) absent
    · rw [AList.lookup_insert_ne same]
      exact held

theorem seen_fst : (seen limit ttl store key now).1 = live store key now := by
  rw [← live_tidied limit]
  unfold seen
  split
  case isTrue found => exact found.symm
  case isFalse absent => exact (Bool.eq_false_iff.mpr absent).symm

theorem unlessSeen_fst {ω : Type} {repeated fresh : ω} :
    (unlessSeen limit ttl store key now repeated fresh).1 =
      if live store key now then repeated else fresh := by
  rw [unlessSeen, seen_fst]

theorem lookup_of_seen (found : (seen limit ttl store other now).2.lookup key = some expires) :
    store.lookup key = some expires ∨
      key = other ∧ expires = now + ttl ∧ live store other now = false := by
  unfold seen at found
  split at found
  case isTrue => exact .inl (lookup_of_tidied found)
  case isFalse absent =>
    by_cases same : key = other
    · subst same
      rw [AList.lookup_insert] at found
      rw [live_tidied, Bool.not_eq_true] at absent
      exact .inr ⟨rfl, (Option.some.inj found).symm, absent⟩
    · rw [AList.lookup_insert_ne same] at found
      exact .inl (lookup_of_tidied found)

theorem lookup_of_unseen (unseen : (seen limit ttl store key now).1 = false) :
    (seen limit ttl store key now).2.lookup key = some (now + ttl) := by
  unfold seen at unseen ⊢
  split at unseen
  case isTrue => cases unseen
  case isFalse absent =>
    rw [if_neg absent]
    exact AList.lookup_insert _

end Seen

/-! ## Checkers -/

section Checkers

variable {ρ ω : Type} (check : Table κ τ → ρ → ω × Table κ τ)

def answers (store : Table κ τ) : List ρ → List (ρ × ω)
  | [] => []
  | request :: rest => (request, (check store request).1) :: answers (check store request).2 rest

omit [DecidableEq κ] [LinearOrder τ] in
@[simp] theorem map_fst_answers (store : Table κ τ) (requests : List ρ) :
    (answers check store requests).map Prod.fst = requests := by
  induction requests generalizing store with
  | nil => rfl
  | cons request rest ih => rw [answers, List.map_cons, ih]

omit [DecidableEq κ] [LinearOrder τ] in
theorem forall_answers (property : ρ → ω → Prop)
    (each : ∀ store request, property request (check store request).1) {store : Table κ τ}
    {requests : List ρ} :
    ∀ answered ∈ answers check store requests, property answered.1 answered.2 := by
  induction requests generalizing store with
  | nil => exact fun _ member => absurd member List.not_mem_nil
  | cons request rest ih =>
      intro answered member
      rcases List.mem_cons.mp member with rfl | member
      · exact each store request
      · exact ih answered member

variable [Add τ] (limit : Nat) (ttl : τ) (key : ρ → κ) (time : ρ → τ) (accepted : ω → Prop)

/-- A checker that asks the cache once before it accepts, or leaves it alone. -/
inductive Asks (store : Table κ τ) (request : ρ) : ω × Table κ τ → Prop
  | early (answer : ω) (rejected : ¬ accepted answer) : Asks store request (answer, store)
  | asked (answer : ω)
      (unseen : accepted answer → (seen limit ttl store (key request) (time request)).1 = false) :
      Asks store request (answer, (seen limit ttl store (key request) (time request)).2)

def Prompt (same : ρ → ρ → Prop) (valid : ρ → Prop) (requests : List ρ) : Prop :=
  requests.Pairwise fun first second =>
    same first second → valid first → valid second → time second < time first + ttl

def SingleUse (same : ρ → ρ → Prop) (run : List (ρ × ω)) : Prop :=
  run.Pairwise fun first second => same first.1 second.1 → accepted first.2 → ¬ accepted second.2

variable {check limit ttl key time accepted}

theorem asks_unlessSeen {store : Table κ τ} {request : ρ} {name : κ} {repeated fresh : ω}
    (named : key request = name) (rejected : ¬ accepted repeated) :
    Asks limit ttl key time accepted store request
      (unlessSeen limit ttl store name (time request) repeated fresh) := by
  subst named
  refine .asked _ fun passed => ?_
  split at passed
  case isTrue => exact absurd passed rejected
  case isFalse unseen => exact Bool.eq_false_iff.mpr unseen

variable
  (asks : ∀ store request, Asks limit ttl key time accepted store request (check store request))

include asks

theorem blocked {name : κ} {requests : List ρ} {store : Table κ τ}
    (ordered : requests.Pairwise fun first second => time first ≤ time second)
    (found : store.lookup name = some expires) :
    ∀ answered ∈ answers check store requests, key answered.1 = name →
      accepted answered.2 → expires ≤ time answered.1 := by
  induction requests generalizing store with
  | nil => exact fun _ member => absurd member List.not_mem_nil
  | cons request rest ih =>
      intro answered member named passed
      rw [List.pairwise_cons] at ordered
      rcases le_or_gt expires (time request) with passing | passing
      -- Once the entry has expired, everything that follows is late enough.
      · rcases List.mem_cons.mp member with rfl | member
        · exact passing
        · refine passing.trans (ordered.1 _ ?_)
          rw [← map_fst_answers check (check store request).2 rest]
          exact List.mem_map_of_mem member
      · have step := asks store request
        rcases List.mem_cons.mp member with rfl | member
        · generalize check store request = result at step passed
          cases step with
          | early answer rejected => exact absurd passed rejected
          | asked answer unseen =>
              have hit : (seen limit ttl store (key request) (time request)).1 = true := by
                rw [named]
                exact seen_of_lookup found passing
              rw [unseen passed] at hit
              cases hit
        · refine ih ordered.2 ?_ answered member named passed
          generalize check store request = result at step
          cases step with
          | early => exact found
          | asked => exact lookup_seen found passing

theorem apart {requests : List ρ} (store : Table κ τ)
    (ordered : requests.Pairwise fun first second => time first ≤ time second) :
    (answers check store requests).Pairwise fun first second =>
      accepted first.2 → accepted second.2 → key first.1 = key second.1 →
        time first.1 + ttl ≤ time second.1 := by
  induction requests generalizing store with
  | nil => exact List.Pairwise.nil
  | cons request rest ih =>
      rw [List.pairwise_cons] at ordered
      refine List.Pairwise.cons ?_ (ih _ ordered.2)
      intro second member passedFirst passedSecond same
      refine blocked asks ordered.2 ?_ second member same.symm passedSecond
      have step := asks store request
      generalize check store request = result at step passedFirst
      cases step with
      | early answer rejected => exact absurd passedFirst rejected
      | asked answer unseen => exact lookup_of_unseen (unseen passedFirst)

omit [DecidableEq κ] [LinearOrder τ] [Add τ] asks in
theorem not_singleUse_pair {same : ρ → ρ → Prop} {store : Table κ τ} {first second : ρ}
    (alike : same first second) (one : accepted (check store first).1)
    (two : accepted (check (check store first).2 second).1) :
    ¬ SingleUse accepted same (answers check store [first, second]) := by
  intro single
  rw [SingleUse, answers, answers, answers, List.pairwise_pair] at single
  exact single alike one two

/-- A checker that asks the cache under a key that same requests share, and
accepts valid requests only, accepts a prompt request once. -/
theorem singleUse_of_prompt {same : ρ → ρ → Prop} {valid : ρ → Prop}
    (window : ∀ store request, accepted (check store request).1 → valid request)
    (shared : ∀ first second, same first second → valid first → valid second →
      key first = key second)
    {requests : List ρ} (store : Table κ τ)
    (ordered : requests.Pairwise fun first second => time first ≤ time second)
    (prompt : Prompt ttl time same valid requests) :
    SingleUse accepted same (answers check store requests) := by
  have remembered := apart asks store ordered
  have validated : ∀ answered ∈ answers check store requests, accepted answered.2 →
      valid answered.1 :=
    forall_answers check (fun request answer => accepted answer → valid request) window
  rw [← map_fst_answers check store requests, Prompt, List.pairwise_map] at prompt
  refine (remembered.and prompt).imp_of_mem ?_
  rintro first second firstMember secondMember ⟨late, soon⟩ alike passedFirst passedSecond
  have validFirst := validated _ firstMember passedFirst
  have validSecond := validated _ secondMember passedSecond
  have apart := late passedFirst passedSecond (shared _ _ alike validFirst validSecond)
  exact absurd apart (not_le.mpr (soon alike validFirst validSecond))

end Checkers

end ReplayCache

end PactNetwork
