import Mathlib.Data.Fintype.Basic
import PactNetwork.Foundation.Agreement
import PactNetwork.Foundation.Transition

/-!
# Transactions under row locks

Transactions interleave statement by statement. A statement sees what is
committed and what its own transaction wrote, a write waits until no other
transaction holds its row, and rows are held until the transaction ends.
Transactions that all write to one common row first take effect one at a time.
-/

set_option autoImplicit false

namespace PactNetwork.RowLocks

/-- The statements of a transaction. What a query sees decides what follows. -/
inductive Script (σ ω ε : Type) where
  | done
  | throws (error : ε)
  | query (next : σ → Script σ ω ε)
  | write (statement : ω) (next : Script σ ω ε)

structure Store (σ ω ε ρ : Type) where
  check : σ → ω → Except ε Unit
  apply : σ → ω → σ
  /-- The row that a write holds. -/
  row : ω → ρ

variable {ι σ ω ε ρ : Type}

def Script.writes : List ω → Script σ ω ε
  | [] => .done
  | statement :: rest => .write statement (.writes rest)

section Store

variable (store : Store σ ω ε ρ)

def Store.replay (state : σ) (log : List ω) : σ := log.foldl store.apply state

def Store.perform (state : σ) (statement : ω) : Except ε σ := do
  store.check state statement
  .ok (store.apply state statement)

def Script.run : Script σ ω ε → σ → Except ε σ
  | .done, state => .ok state
  | .throws error, _ => .error error
  | .query next, state => (next state).run state
  | .write statement next, state => do
      store.check state statement
      next.run (store.apply state statement)

theorem Script.run_writes (statements : List ω) (state : σ) :
    (Script.writes statements).run store state = statements.foldlM store.perform state := by
  induction statements generalizing state with
  | nil => rfl
  | cons statement rest ih =>
      rw [Script.writes, Script.run, List.foldlM_cons, Store.perform]
      cases store.check state statement with
      | error failure => rfl
      | ok checked => exact ih (store.apply state statement)

end Store

/-! ## Interleavings -/

inductive Job (σ ω ε : Type) where
  | running (script : Script σ ω ε) (log : List ω)
  | committed
  | failed (error : ε)

structure System (ι σ ω ε : Type) where
  committed : σ
  jobs : ι → Job σ ω ε

def System.start (state : σ) (initial : ι → Script σ ω ε) : System ι σ ω ε :=
  ⟨state, fun i => .running (initial i) []⟩

def System.set [DecidableEq ι] (system : System ι σ ω ε) (i : ι) (job : Job σ ω ε) :
    System ι σ ω ε :=
  { system with jobs := Function.update system.jobs i job }

def Job.Holds (store : Store σ ω ε ρ) (job : Job σ ω ε) (row : ρ) : Prop :=
  match job with
  | .running _ log => ∃ statement ∈ log, store.row statement = row
  | _ => False

section Steps

variable [DecidableEq ι] (store : Store σ ω ε ρ)

def System.Free (system : System ι σ ω ε) (i : ι) (row : ρ) : Prop :=
  ∀ other, other ≠ i → ¬(system.jobs other).Holds store row

inductive Step (before : System ι σ ω ε) : System ι σ ω ε → Prop
  | query {i : ι} {next : σ → Script σ ω ε} {log : List ω}
      (here : before.jobs i = .running (.query next) log) :
      Step before (before.set i (.running (next (store.replay before.committed log)) log))
  | write {i : ι} {statement : ω} {next : Script σ ω ε} {log : List ω}
      (here : before.jobs i = .running (.write statement next) log)
      (free : before.Free store i (store.row statement))
      (passes : store.check (store.replay before.committed log) statement = .ok ()) :
      Step before (before.set i (.running next (log ++ [statement])))
  | refused {i : ι} {statement : ω} {next : Script σ ω ε} {log : List ω} {error : ε}
      (here : before.jobs i = .running (.write statement next) log)
      (free : before.Free store i (store.row statement))
      (refused : store.check (store.replay before.committed log) statement = .error error) :
      Step before (before.set i (.failed error))
  | throws {i : ι} {error : ε} {log : List ω}
      (here : before.jobs i = .running (.throws error) log) :
      Step before (before.set i (.failed error))
  | commit {i : ι} {log : List ω} (here : before.jobs i = .running .done log) :
      Step before ⟨store.replay before.committed log, (before.set i .committed).jobs⟩

instance [DecidableEq ρ] (job : Job σ ω ε) (row : ρ) : Decidable (job.Holds store row) :=
  match job with
  | .running _ log => inferInstanceAs (Decidable (∃ statement ∈ log, store.row statement = row))
  | .committed | .failed _ => .isFalse nofun

/-- The next statement of a transaction, unless it waits or has ended. -/
def System.act [Fintype ι] [DecidableEq ρ] (before : System ι σ ω ε) (i : ι) :
    Option (System ι σ ω ε) :=
  match before.jobs i with
  | .running (.query next) log =>
      some (before.set i (.running (next (store.replay before.committed log)) log))
  | .running (.write statement next) log =>
      if ∀ other, other ≠ i → ¬(before.jobs other).Holds store (store.row statement) then
        match store.check (store.replay before.committed log) statement with
        | .ok _ => some (before.set i (.running next (log ++ [statement])))
        | .error error => some (before.set i (.failed error))
      else none
  | .running (.throws error) _ => some (before.set i (.failed error))
  | .running .done log => some ⟨store.replay before.committed log, (before.set i .committed).jobs⟩
  | .committed | .failed _ => none

variable {store} in
theorem step_of_act [Fintype ι] [DecidableEq ρ] {before after : System ι σ ω ε} {i : ι}
    (acted : before.act store i = some after) : Step store before after := by
  unfold System.act at acted
  cases here : before.jobs i with
  | committed =>
      rw [here] at acted
      cases acted
  | failed error =>
      rw [here] at acted
      cases acted
  | running script log =>
      rw [here] at acted
      cases script with
      | done =>
          cases acted
          exact .commit here
      | throws error =>
          cases acted
          exact .throws here
      | query next =>
          cases acted
          exact .query here
      | write statement next =>
          dsimp only at acted
          split at acted
          case isFalse waits => cases acted
          case isTrue free =>
            cases checked : store.check (store.replay before.committed log) statement with
            | ok passes =>
                rw [checked] at acted
                cases acted
                exact .write here free checked
            | error failure =>
                rw [checked] at acted
                cases acted
                exact .refused here free checked

def System.play [Fintype ι] [DecidableEq ρ] (system : System ι σ ω ε) (schedule : List ι) :
    Option (System ι σ ω ε) :=
  schedule.foldlM (System.act store) system

variable {store} in
theorem reachable_of_play [Fintype ι] [DecidableEq ρ] {initial before after : System ι σ ω ε}
    {schedule : List ι} (reached : Reachable (· = initial) (Step store) before)
    (played : before.play store schedule = some after) :
    Reachable (· = initial) (Step store) after := by
  induction schedule generalizing before with
  | nil =>
      cases played
      exact reached
  | cons i rest ih =>
      rw [System.play, List.foldlM_cons] at played
      obtain ⟨middle, first, later⟩ := Option.bind_eq_some_iff.mp played
      exact ih (reached.next (step_of_act first)) later

/-! ## One at a time -/

inductive Status where
  | pending
  | committed
  | failed
  deriving DecidableEq

def Job.status : Job σ ω ε → Status
  | .running _ _ => .pending
  | .committed => .committed
  | .failed _ => .failed

structure Serial (ι σ : Type) where
  state : σ
  status : ι → Status

inductive Serial.Step (initial : ι → Script σ ω ε) (before : Serial ι σ) : Serial ι σ → Prop
  | commit {i : ι} {after : σ} (pending : before.status i = .pending)
      (ran : (initial i).run store before.state = .ok after) :
      Serial.Step initial before ⟨after, Function.update before.status i .committed⟩
  | fail {i : ι} {error : ε} (pending : before.status i = .pending)
      (ran : (initial i).run store before.state = .error error) :
      Serial.Step initial before ⟨before.state, Function.update before.status i .failed⟩

def System.serial (system : System ι σ ω ε) : Serial ι σ :=
  ⟨system.committed, fun i => (system.jobs i).status⟩

variable {store}

@[simp] theorem System.jobs_set_self (system : System ι σ ω ε) (i : ι) (job : Job σ ω ε) :
    (system.set i job).jobs i = job := by
  simp only [System.set, Function.update_self]

theorem System.jobs_set_of_ne {system : System ι σ ω ε} {i other : ι} (job : Job σ ω ε)
    (apart : other ≠ i) : (system.set i job).jobs other = system.jobs other := by
  simp only [System.set, Function.update_of_ne apart]

theorem System.serial_set (system : System ι σ ω ε) (i : ι) (job : Job σ ω ε) :
    (system.set i job).serial =
      ⟨system.committed, Function.update system.serial.status i job.status⟩ :=
  congrArg (Serial.mk system.committed) (Function.comp_update Job.status system.jobs i job)

omit [DecidableEq ι] in
theorem System.serial_pending {system : System ι σ ω ε} {i : ι} {script : Script σ ω ε}
    {log : List ω} (here : system.jobs i = .running script log) :
    system.serial.status i = .pending :=
  congrArg Job.status here

theorem System.serial_running {system : System ι σ ω ε} {i : ι} {script next : Script σ ω ε}
    {log log' : List ω} (here : system.jobs i = .running script log) :
    (system.set i (.running next log')).serial = system.serial := by
  have pending := System.serial_pending here
  rw [System.serial_set, Job.status, ← pending, Function.update_eq_self]
  rfl

/-- Transactions whose first write is to one common row. Until then a transaction
has read nothing that another one would make it read differently. -/
structure Guarded (store : Store σ ω ε ρ) (initial : ι → Script σ ω ε) (guard : ρ)
    (Inv : σ → Prop) (Ready : ι → σ → Script σ ω ε → Prop) : Prop where
  query : ∀ i state next, Inv state → Ready i state (.query next) → Ready i state (next state)
  first : ∀ i state statement next, Ready i state (.write statement next) →
    store.row statement = guard
  agrees : ∀ i state script, Inv state → Ready i state script →
    Agree (fun left right => left = right) (script.run store state) ((initial i).run store state)
  stable : ∀ i other state after script, other ≠ i → Inv state → Ready i state script →
    (initial other).run store state = .ok after → Ready i after script
  kept : ∀ i state after, Inv state → (initial i).run store state = .ok after → Inv after

variable {initial : ι → Script σ ω ε} {guard : ρ} {Inv : σ → Prop}
  {Ready : ι → σ → Script σ ω ε → Prop}

/-- Only one transaction has written, and it goes on as it would alone. -/
structure Sound (store : Store σ ω ε ρ) (initial : ι → Script σ ω ε) (guard : ρ)
    (Inv : σ → Prop) (Ready : ι → σ → Script σ ω ε → Prop) (system : System ι σ ω ε) : Prop where
  inv : Inv system.committed
  waiting : ∀ i script, system.jobs i = .running script [] → Ready i system.committed script
  holding : ∀ i script log, system.jobs i = .running script log → log ≠ [] →
    (system.jobs i).Holds store guard
  agrees : ∀ i script log, system.jobs i = .running script log →
    Agree (fun left right => left = right) (script.run store (store.replay system.committed log))
      ((initial i).run store system.committed)
  single : ∀ i j script script' log log', system.jobs i = .running script log →
    system.jobs j = .running script' log' → log ≠ [] → log' ≠ [] → i = j

omit [DecidableEq ι] in
theorem sound_start {state : σ} (holds : Inv state) (ready : ∀ i, Ready i state (initial i)) :
    Sound store initial guard Inv Ready (System.start state initial) where
  inv := holds
  waiting i script here := by
    cases here
    exact ready i
  holding i script log here nonempty := by
    cases here
    exact absurd rfl nonempty
  agrees i script log here := by
    cases here
    exact .same _
  single i j script script' log log' here _ nonempty := by
    cases here
    exact absurd rfl nonempty

variable (guarded : Guarded store initial guard Inv Ready)

theorem Sound.set {system : System ι σ ω ε} (sound : Sound store initial guard Inv Ready system)
    (i : ι) (job : Job σ ω ε)
    (waiting : ∀ script, job = .running script [] → Ready i system.committed script)
    (agrees : ∀ script log, job = .running script log →
      Agree (fun left right => left = right)
        (script.run store (store.replay system.committed log))
        ((initial i).run store system.committed))
    (holding : ∀ script log, job = .running script log → log ≠ [] → job.Holds store guard ∧
      ∀ other, other ≠ i → ∀ script' log', system.jobs other = .running script' log' → log' = []) :
    Sound store initial guard Inv Ready (system.set i job) where
  inv := sound.inv
  waiting other script here := by
    by_cases same : other = i
    · subst same
      rw [System.jobs_set_self] at here
      exact waiting script here
    · rw [System.jobs_set_of_ne job same] at here
      exact sound.waiting other script here
  holding other script log here nonempty := by
    by_cases same : other = i
    · subst same
      rw [System.jobs_set_self] at here ⊢
      exact (holding script log here nonempty).1
    · rw [System.jobs_set_of_ne job same] at here ⊢
      exact sound.holding other script log here nonempty
  agrees other script log here := by
    by_cases same : other = i
    · subst same
      rw [System.jobs_set_self] at here
      exact agrees script log here
    · rw [System.jobs_set_of_ne job same] at here
      exact sound.agrees other script log here
  single left right script script' log log' here there nonempty nonempty' := by
    by_cases first : left = i
    · by_cases second : right = i
      · rw [first, second]
      · subst first
        rw [System.jobs_set_self] at here
        rw [System.jobs_set_of_ne job second] at there
        exact absurd ((holding script log here nonempty).2 right second script' log' there)
          nonempty'
    · rw [System.jobs_set_of_ne job first] at here
      by_cases second : right = i
      · subst second
        rw [System.jobs_set_self] at there
        exact absurd ((holding script' log' there nonempty').2 left first script log here)
          nonempty
      · rw [System.jobs_set_of_ne job second] at there
        exact sound.single left right script script' log log' here there nonempty nonempty'

omit [DecidableEq ι] in
theorem Sound.alone {system : System ι σ ω ε} (sound : Sound store initial guard Inv Ready system)
    {i other : ι} {script script' : Script σ ω ε} {log log' : List ω}
    (here : system.jobs i = .running script log) (nonempty : log ≠ []) (apart : other ≠ i)
    (there : system.jobs other = .running script' log') : log' = [] := by
  by_contra written
  exact apart (sound.single other i script' script log' log there here written nonempty)

omit [DecidableEq ι] in
include guarded in
theorem Sound.alone_of_free {system : System ι σ ω ε}
    (sound : Sound store initial guard Inv Ready system) {i other : ι} {statement : ω}
    {next script' : Script σ ω ε} {log' : List ω}
    (here : system.jobs i = .running (.write statement next) [])
    (free : system.Free store i (store.row statement)) (apart : other ≠ i)
    (there : system.jobs other = .running script' log') : log' = [] := by
  by_contra written
  rw [guarded.first i _ _ _ (sound.waiting i _ here)] at free
  exact free other apart (sound.holding other script' log' there written)

include guarded in
theorem Sound.commit {system : System ι σ ω ε}
    (sound : Sound store initial guard Inv Ready system) {i : ι} {log : List ω}
    (here : system.jobs i = .running .done log) :
    (initial i).run store system.committed = .ok (store.replay system.committed log) ∧
      Sound store initial guard Inv Ready
        ⟨store.replay system.committed log, (system.set i .committed).jobs⟩ := by
  have ran : (initial i).run store system.committed =
      .ok (store.replay system.committed log) := by
    have agree := sound.agrees i _ log here
    rw [Script.run] at agree
    generalize (initial i).run store system.committed = result at agree
    cases agree with
    | ok same => rw [same]
  have final := guarded.kept i _ _ sound.inv ran
  have silent : ∀ other script' log', (system.set i .committed).jobs other = .running script' log' →
      log' ≠ [] → log = [] ∧ other ≠ i ∧ system.jobs other = .running script' log' := by
    intro other script' log' there written
    have apart : other ≠ i := by
      intro same
      subst same
      rw [System.jobs_set_self] at there
      cases there
    rw [System.jobs_set_of_ne _ apart] at there
    refine ⟨?_, apart, there⟩
    by_contra nonempty
    exact written (sound.alone here nonempty apart there)
  have waits : ∀ other script', (system.set i .committed).jobs other = .running script' [] →
      Ready other (store.replay system.committed log) script' := by
    intro other script' there
    have apart : other ≠ i := by
      intro same
      subst same
      rw [System.jobs_set_self] at there
      cases there
    rw [System.jobs_set_of_ne _ apart] at there
    exact guarded.stable other i _ _ script' apart.symm sound.inv
      (sound.waiting other script' there) ran
  refine ⟨ran, final, waits, ?_, ?_, ?_⟩
  · intro other script' log' there written
    obtain ⟨-, apart, before⟩ := silent other script' log' there written
    dsimp only at there ⊢
    rw [there, ← before]
    exact sound.holding other script' log' before written
  · intro other script' log' there
    by_cases written : log' = []
    · subst written
      exact guarded.agrees other _ script' final (waits other script' there)
    · obtain ⟨rfl, -, before⟩ := silent other script' log' there written
      exact sound.agrees other script' log' before
  · intro left right script script' log' log'' first second written written'
    obtain ⟨-, -, before⟩ := silent left script log' first written
    obtain ⟨-, -, before'⟩ := silent right script' log'' second written'
    exact sound.single left right script script' log' log'' before before' written written'

include guarded in
theorem Sound.write {system : System ι σ ω ε}
    (sound : Sound store initial guard Inv Ready system) {i : ι} {statement : ω}
    {next : Script σ ω ε} {log : List ω}
    (here : system.jobs i = .running (.write statement next) log)
    (free : system.Free store i (store.row statement))
    (passes : store.check (store.replay system.committed log) statement = .ok ()) :
    Sound store initial guard Inv Ready (system.set i (.running next (log ++ [statement]))) := by
  refine sound.set i _ ?_ ?_ ?_
  · intro script same
    simp at same
  · intro script log' same
    cases same
    have agree := sound.agrees i _ log here
    rw [Script.run, passes, ok_bind] at agree
    rw [Store.replay, List.foldl_append]
    exact agree
  · intro script log' same _
    cases same
    by_cases nonempty : log = []
    · subst nonempty
      have guards := guarded.first i _ _ _ (sound.waiting i _ here)
      exact ⟨⟨statement, List.mem_append_right _ (List.mem_singleton.mpr rfl), guards⟩,
        fun other apart script' log' there => sound.alone_of_free guarded here free apart there⟩
    · have holds := sound.holding i _ log here nonempty
      rw [here] at holds
      obtain ⟨held, member, row⟩ := holds
      exact ⟨⟨held, List.mem_append_left _ member, row⟩,
        fun other apart script' log' there => sound.alone here nonempty apart there⟩

theorem Sound.fail {system : System ι σ ω ε} (sound : Sound store initial guard Inv Ready system)
    (i : ι) (error : ε) :
    Sound store initial guard Inv Ready (system.set i (.failed error)) :=
  sound.set i _ nofun nofun nofun

omit [DecidableEq ι] in
theorem Sound.fails {system : System ι σ ω ε} (sound : Sound store initial guard Inv Ready system)
    {i : ι} {script : Script σ ω ε} {log : List ω} {error : ε}
    (here : system.jobs i = .running script log)
    (ran : script.run store (store.replay system.committed log) = .error error) :
    ∃ error', (initial i).run store system.committed = .error error' := by
  have agree := sound.agrees i script log here
  rw [ran] at agree
  generalize (initial i).run store system.committed = result at agree
  cases agree with
  | error _ error' => exact ⟨error', rfl⟩

include guarded in
theorem Sound.step {before after : System ι σ ω ε}
    (sound : Sound store initial guard Inv Ready before) (moves : Step store before after) :
    Sound store initial guard Inv Ready after ∧
      (after.serial = before.serial ∨ Serial.Step store initial before.serial after.serial) := by
  cases moves with
  | @query i next log here =>
      refine ⟨sound.set i _ ?_ ?_ ?_, .inl (System.serial_running here)⟩
      · intro script same
        cases same
        exact guarded.query i _ next sound.inv (sound.waiting i _ here)
      · intro script log' same
        cases same
        have agree := sound.agrees i _ log here
        exact agree
      · intro script log' same nonempty
        cases same
        have holds := sound.holding i _ log here nonempty
        rw [here] at holds
        exact ⟨holds, fun other apart script' log' there => sound.alone here nonempty apart there⟩
  | write here free passes =>
      exact ⟨sound.write guarded here free passes, .inl (System.serial_running here)⟩
  | @refused i statement next log error here free refused =>
      refine ⟨sound.fail i error, .inr ?_⟩
      obtain ⟨error', ran⟩ := sound.fails here (by rw [Script.run, refused, error_bind])
      rw [System.serial_set]
      exact .fail (System.serial_pending here) ran
  | @throws i error log here =>
      refine ⟨sound.fail i error, .inr ?_⟩
      obtain ⟨error', ran⟩ := sound.fails here rfl
      rw [System.serial_set]
      exact .fail (System.serial_pending here) ran
  | @commit i log here =>
      obtain ⟨ran, final⟩ := sound.commit guarded here
      refine ⟨final, .inr ?_⟩
      have status : (before.set i .committed).serial.status =
          Function.update before.serial.status i .committed :=
        congrArg Serial.status (System.serial_set before i .committed)
      have moved := Serial.Step.commit (System.serial_pending here) ran
      rw [← status] at moved
      exact moved

include guarded in
theorem Guarded.serializes {state : σ} (holds : Inv state)
    (ready : ∀ i, Ready i state (initial i)) {system : System ι σ ω ε}
    (reached : Reachable (· = System.start state initial) (Step store) system) :
    Sound store initial guard Inv Ready system ∧
      Reachable (· = (System.start state initial).serial) (Serial.Step store initial)
        system.serial := by
  induction reached with
  | start begins =>
      subst begins
      exact ⟨sound_start holds ready, .start rfl⟩
  | next earlier moves ih =>
      obtain ⟨sound, serial⟩ := ih
      obtain ⟨kept, same | step⟩ := sound.step guarded moves
      · rw [same]
        exact ⟨kept, serial⟩
      · exact ⟨kept, serial.next step⟩

theorem step_of_free {system : System ι σ ω ε} {i : ι} {script : Script σ ω ε} {log : List ω}
    (here : system.jobs i = .running script log) (free : ∀ row, system.Free store i row) :
    ∃ after, Step store system after := by
  cases script with
  | done => exact ⟨_, .commit here⟩
  | throws error => exact ⟨_, .throws here⟩
  | query next => exact ⟨_, .query here⟩
  | write statement next =>
      cases checked : store.check (store.replay system.committed log) statement with
      | error failure => exact ⟨_, .refused here (free _) checked⟩
      | ok passes => exact ⟨_, .write here (free _) checked⟩

theorem Sound.progress {system : System ι σ ω ε}
    (sound : Sound store initial guard Inv Ready system) {i : ι} {script : Script σ ω ε}
    {log : List ω} (here : system.jobs i = .running script log) :
    ∃ after, Step store system after := by
  have quiet : ∀ {j : ι} {script' : Script σ ω ε} {log' : List ω},
      system.jobs j = .running script' log' →
      (∀ other, other ≠ j → ∀ script log, system.jobs other = .running script log → log = []) →
      ∃ after, Step store system after := by
    intro j script' log' there alone
    refine step_of_free there fun row other apart holds => ?_
    cases job : system.jobs other with
    | running script log =>
        rw [job] at holds
        obtain ⟨statement, member, -⟩ := holds
        rw [alone other apart script log job] at member
        cases member
    | committed =>
        rw [job] at holds
        exact holds
    | failed error =>
        rw [job] at holds
        exact holds
  by_cases writes : ∃ j script' log', system.jobs j = .running script' log' ∧ log' ≠ []
  · obtain ⟨j, script', log', there, nonempty⟩ := writes
    exact quiet there fun other apart script log job => sound.alone there nonempty apart job
  · refine quiet here fun other _ script' log' there => ?_
    by_contra nonempty
    exact writes ⟨other, script', log', there, nonempty⟩

end Steps

end PactNetwork.RowLocks
