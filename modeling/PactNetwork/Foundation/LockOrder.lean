import Mathlib.Data.Finset.Lattice.Basic
import Mathlib.Data.Fintype.Card
import Mathlib.Logic.Relation
import Mathlib.Order.WellFounded
import PactNetwork.Foundation.RowLocks

/-!
# Lock order

Transactions whose statements lock the rows they write, one row after another,
until the transaction ends. Where every transaction asks for its rows in one
order, none waits in a cycle. A row that is only ever locked under the lock of
another row, its guard, needs no place in the order.
-/

set_option autoImplicit false

namespace PactNetwork.LockOrder

open RowLocks

/-- The statements of a transaction that may go on after a failed one. -/
inductive Program (σ ω ε α : Type) : Type where
  | done (result : α)
  | throws (error : ε)
  | query (next : σ → Program σ ω ε α)
  /-- One statement, which writes these rows or none of them. -/
  | write (writes : List ω) (next : Program σ ω ε α)
  /-- A statement whose failure is caught. -/
  | attempt (change : ω) (next : Except ε Unit → Program σ ω ε α)

namespace Program

variable {σ ω ε α β : Type}

def bind (program : Program σ ω ε α) (next : α → Program σ ω ε β) : Program σ ω ε β :=
  match program with
  | .done result => next result
  | .throws error => .throws error
  | .query rest => .query fun state => (rest state).bind next
  | .write writes rest => .write writes (rest.bind next)
  | .attempt change rest => .attempt change fun answer => (rest answer).bind next

instance : Monad (Program σ ω ε) where
  pure := .done
  bind := Program.bind

@[simp] theorem pure_eq (result : α) : (pure result : Program σ ω ε α) = .done result := rfl

@[simp] theorem done_bind (result : α) (next : α → Program σ ω ε β) :
    (Program.done result >>= next) = next result := rfl

@[simp] theorem write_bind (writes : List ω) (rest : Program σ ω ε α)
    (next : α → Program σ ω ε β) :
    (Program.write writes rest >>= next) = .write writes (rest >>= next) := rfl

def statement (writes : List ω) : Program σ ω ε Unit := .write writes (.done ())

def read (query : σ → α) : Program σ ω ε α := .query fun state => .done (query state)

def emit : List ω → Program σ ω ε Unit
  | [] => .done ()
  | change :: rest => .write [change] (emit rest)

theorem emit_append (front back : List ω) :
    (emit (front ++ back) : Program σ ω ε Unit) = emit front >>= fun _ => emit back := by
  induction front with
  | nil => rfl
  | cons change rest ih => exact congrArg (Program.write [change]) ih

theorem forM_eq_emit {items : List β} {step : β → Program σ ω ε Unit} (writes : β → List ω)
    (steps : ∀ item ∈ items, step item = emit (writes item)) :
    items.forM step = emit (items.flatMap writes) := by
  induction items with
  | nil => rfl
  | cons item rest ih =>
      have later := ih fun other member => steps other (List.mem_cons_of_mem _ member)
      rw [List.forM_eq_forM] at later ⊢
      rw [List.forM_cons, steps item List.mem_cons_self, later, List.flatMap_cons, emit_append]

end Program

/-! ## Orders on rows -/

section Orders

variable {σ ω ε ρ κ α β : Type} [DecidableEq ρ]

structure Order (ρ κ : Type) where
  /-- The row under whose lock a row is locked. -/
  guard : ρ → Option ρ
  rank : ρ → κ

variable [LinearOrder κ] (order : Order ρ κ)

/-- A new row may be asked for: its guard is held, or it comes after all that is. -/
def Order.Admits (held : Finset ρ) (row : ρ) : Prop :=
  match order.guard row with
  | some key => key ∈ held
  | none => ∀ other ∈ held, order.guard other = none → order.rank other < order.rank row

def Order.Takes (held : Finset ρ) : List ρ → Prop
  | [] => True
  | row :: rest => (row ∈ held ∨ order.Admits held row) ∧ Order.Takes (insert row held) rest

variable {order}

omit [DecidableEq ρ] in
theorem Order.Admits.guarded {held : Finset ρ} {row key : ρ} (admits : order.Admits held row)
    (guards : order.guard row = some key) : key ∈ held := by
  rw [Order.Admits, guards] at admits
  exact admits

omit [DecidableEq ρ] in
theorem Order.Admits.after {held : Finset ρ} {row other : ρ} (admits : order.Admits held row)
    (free : order.guard row = none) (member : other ∈ held) (unguarded : order.guard other = none) :
    order.rank other < order.rank row := by
  rw [Order.Admits, free] at admits
  exact admits other member unguarded

theorem Order.takes_of_held {held : Finset ρ} {rows : List ρ} (holds : ∀ row ∈ rows, row ∈ held) :
    order.Takes held rows := by
  induction rows with
  | nil => trivial
  | cons row rest ih =>
      have here := holds row List.mem_cons_self
      refine ⟨.inl here, ?_⟩
      rw [Finset.insert_eq_of_mem here]
      exact ih fun other member => holds other (List.mem_cons_of_mem _ member)

theorem Order.takes_of_guarded {held : Finset ρ} {rows : List ρ}
    (guarded : ∀ row ∈ rows, ∃ key ∈ held, order.guard row = some key) :
    order.Takes held rows := by
  induction rows generalizing held with
  | nil => trivial
  | cons row rest ih =>
      obtain ⟨key, holds, guards⟩ := guarded row List.mem_cons_self
      refine ⟨.inr ?_, ih fun other member => ?_⟩
      · rw [Order.Admits, guards]
        exact holds
      · obtain ⟨key, holds, guards⟩ := guarded other (List.mem_cons_of_mem _ member)
        exact ⟨key, Finset.mem_insert_of_mem holds, guards⟩

def Order.Upto (order : Order ρ κ) (row other : ρ) : Prop :=
  row = other ∨ order.rank row < order.rank other

theorem Order.takes_of_sorted {held : Finset ρ} {rows : List ρ} (sorted : rows.Pairwise order.Upto)
    (free : ∀ row ∈ rows, order.guard row = none)
    (after : ∀ row ∈ rows, ∀ other ∈ held, order.guard other = none → order.Upto other row) :
    order.Takes held rows := by
  induction rows generalizing held with
  | nil => trivial
  | cons row rest ih =>
      obtain ⟨first, later⟩ := List.pairwise_cons.mp sorted
      refine ⟨?_, ih later (fun other member => free other (List.mem_cons_of_mem _ member)) ?_⟩
      · by_cases holds : row ∈ held
        · exact .inl holds
        · refine .inr ?_
          rw [Order.Admits, free row List.mem_cons_self]
          intro other member unguarded
          rcases after row List.mem_cons_self other member unguarded with same | before
          · exact absurd (same ▸ member) holds
          · exact before
      · intro item inside other member unguarded
        rcases Finset.mem_insert.mp member with rfl | member
        · exact first item inside
        · exact after item (List.mem_cons_of_mem _ inside) other member unguarded

theorem Order.takes_append {held : Finset ρ} {front back : List ρ} :
    order.Takes held (front ++ back) ↔
      order.Takes held front ∧ order.Takes (held ∪ front.toFinset) back := by
  induction front generalizing held with
  | nil =>
      rw [List.nil_append, List.toFinset_nil, Finset.union_empty]
      exact ⟨fun takes => ⟨trivial, takes⟩, fun takes => takes.2⟩
  | cons row rest ih =>
      rw [List.cons_append, Order.Takes, Order.Takes, ih, List.toFinset_cons, Finset.insert_union,
        ← Finset.union_insert]
      exact and_assoc.symm

def missing (held : Finset ρ) (rows : List ρ) : Option ρ := rows.find? (· ∉ held)

theorem Order.Takes.missing {held : Finset ρ} {rows : List ρ} {row : ρ}
    (takes : order.Takes held rows) (wanted : missing held rows = some row) :
    row ∉ held ∧ order.Admits held row ∧ order.Takes (insert row held) rows := by
  induction rows with
  | nil => cases wanted
  | cons first rest ih =>
      obtain ⟨admitted, later⟩ := takes
      by_cases holds : first ∈ held
      · rw [Finset.insert_eq_of_mem holds] at later
        rw [LockOrder.missing, List.find?_cons_of_neg (by simpa using holds)] at wanted
        obtain ⟨absent, admits, kept⟩ := ih later wanted
        refine ⟨absent, admits, .inl (Finset.mem_insert_of_mem holds), ?_⟩
        rw [Finset.insert_eq_of_mem (Finset.mem_insert_of_mem holds)]
        exact kept
      · rw [LockOrder.missing, List.find?_cons_of_pos (by simpa using holds)] at wanted
        cases wanted
        refine ⟨holds, admitted.resolve_left holds, .inl (Finset.mem_insert_self _ _), ?_⟩
        rw [Finset.insert_eq_of_mem (Finset.mem_insert_self _ _)]
        exact later

theorem union_of_missing {held : Finset ρ} {rows : List ρ} (ready : missing held rows = none) :
    held ∪ rows.toFinset = held := by
  rw [Finset.union_eq_left]
  intro row member
  have holds := List.find?_eq_none.mp ready row (List.mem_toFinset.mp member)
  simpa using holds

/-! ## Programs that keep to an order -/

variable (order) (rowOf : ω → ρ)

/-- Whatever the statements answer, the rows are asked for in order, and `post`
holds of the result and the rows held in the end. -/
def Program.Follows (held : Finset ρ) :
    Program σ ω ε α → (post : α → Finset ρ → Prop) → Prop
  | .done result, post => post result held
  | .throws _, _ => True
  | .query next, post => ∀ state, Program.Follows held (next state) post
  | .write writes next, post => order.Takes held (writes.map rowOf) ∧
      Program.Follows (held ∪ (writes.map rowOf).toFinset) next post
  | .attempt change next, post => order.Takes held [rowOf change] ∧
      ∀ answer, Program.Follows (held ∪ [rowOf change].toFinset) (next answer) post

variable {order rowOf}

theorem Program.follows_bind {held : Finset ρ} {program : Program σ ω ε α}
    {next : α → Program σ ω ε β} {post : β → Finset ρ → Prop} :
    (program >>= next).Follows order rowOf held post ↔
      program.Follows order rowOf held fun result later =>
        (next result).Follows order rowOf later post := by
  induction program generalizing held with
  | done result => exact Iff.rfl
  | throws error => exact Iff.rfl
  | query rest ih => exact forall_congr' fun state => ih state
  | write writes rest ih => exact and_congr_right' ih
  | attempt change rest ih => exact and_congr_right' (forall_congr' fun answer => ih answer)

theorem Program.Follows.mono {held : Finset ρ} {program : Program σ ω ε α}
    {post wider : α → Finset ρ → Prop} (follows : program.Follows order rowOf held post)
    (implies : ∀ result later, post result later → wider result later) :
    program.Follows order rowOf held wider := by
  induction program generalizing held with
  | done result => exact implies result held follows
  | throws error => trivial
  | query rest ih => exact fun state => ih state (follows state)
  | write writes rest ih => exact ⟨follows.1, ih follows.2⟩
  | attempt change rest ih => exact ⟨follows.1, fun answer => ih answer (follows.2 answer)⟩

theorem Program.follows_emit {held : Finset ρ} {writes : List ω} {post : Unit → Finset ρ → Prop} :
    (Program.emit writes : Program σ ω ε Unit).Follows order rowOf held post ↔
      order.Takes held (writes.map rowOf) ∧ post () (held ∪ (writes.map rowOf).toFinset) := by
  induction writes generalizing held with
  | nil =>
      rw [List.map_nil, List.toFinset_nil, Finset.union_empty]
      exact ⟨fun holds => ⟨trivial, holds⟩, fun holds => holds.2⟩
  | cons change rest ih =>
      have parts : (change :: rest).map rowOf = [change].map rowOf ++ rest.map rowOf := rfl
      rw [Program.emit, Program.Follows, ih, parts, Order.takes_append, List.toFinset_append,
        ← Finset.union_assoc, and_assoc]

end Orders

/-! ## Interleavings -/

section Systems

variable {ι σ ω ε ρ κ α : Type}

structure Engine (σ ω ε ρ : Type) extends Store σ ω ε ρ where
  /-- The answer to statements after a failed one, where that aborts the transaction. -/
  aborts : Option ε

structure Session (ω ε ρ : Type) where
  log : List ω
  held : Finset ρ
  aborted : Option ε

inductive Job (σ ω ε ρ α : Type) where
  | running (program : Program σ ω ε α) (session : Session ω ε ρ)
  | committed (result : α)
  | failed (error : ε)
  /-- Rolled back from outside, as by a timeout. -/
  | abandoned

structure System (ι σ ω ε ρ α : Type) where
  committed : σ
  jobs : ι → Job σ ω ε ρ α

def System.start (state : σ) (programs : ι → Program σ ω ε α) : System ι σ ω ε ρ α :=
  ⟨state, fun i => .running (programs i) ⟨[], ∅, none⟩⟩

def Job.held : Job σ ω ε ρ α → Finset ρ
  | .running _ session => session.held
  | .committed _ | .failed _ | .abandoned => ∅

def Program.rows (rowOf : ω → ρ) : Program σ ω ε α → List ρ
  | .write writes _ => writes.map rowOf
  | .attempt change _ => [rowOf change]
  | .done _ | .throws _ | .query _ => []

variable [DecidableEq ρ] (engine : Engine σ ω ε ρ)

def Job.wants : Job σ ω ε ρ α → Option ρ
  | .running program session =>
      match session.aborted with
      | some _ => none
      | none => missing session.held (program.rows engine.row)
  | .committed _ | .failed _ | .abandoned => none

def Session.lock (session : Session ω ε ρ) (row : ρ) : Session ω ε ρ :=
  { session with held := insert row session.held }

omit [DecidableEq ρ] in
def Session.perform (committed : σ) (session : Session ω ε ρ) (writes : List ω) :
    Except ε Unit × Session ω ε ρ :=
  match session.aborted with
  | some error => (.error error, session)
  | none =>
      match writes.foldlM engine.perform (engine.replay committed session.log) with
      | .ok _ => (.ok (), { session with log := session.log ++ writes })
      | .error error => (.error error, { session with aborted := engine.aborts })

omit [DecidableEq ρ] in
/-- The next statement of a transaction that holds its rows. -/
def Program.resume (committed : σ) (session : Session ω ε ρ) :
    Program σ ω ε α → σ × Job σ ω ε ρ α
  | .done result =>
      (if session.aborted.isSome then committed else engine.replay committed session.log,
        .committed result)
  | .throws error => (committed, .failed error)
  | .query next =>
      match session.aborted with
      | some error => (committed, .failed error)
      | none => (committed, .running (next (engine.replay committed session.log)) session)
  | .write writes next =>
      match session.perform engine committed writes with
      | (.ok _, later) => (committed, .running next later)
      | (.error error, _) => (committed, .failed error)
  | .attempt change next =>
      let (answer, later) := session.perform engine committed [change]
      (committed, .running (next answer) later)

def System.WaitsFor (system : System ι σ ω ε ρ α) (i j : ι) : Prop :=
  i ≠ j ∧ ∃ row, (system.jobs i).wants engine = some row ∧ row ∈ (system.jobs j).held

/-! ## No cycles -/

variable [LinearOrder κ] (order : Order ρ κ)

def Job.Follows : Job σ ω ε ρ α → Prop
  | .running program session => session.aborted = none →
      program.Follows order engine.row session.held fun _ _ => True
  | .committed _ | .failed _ | .abandoned => True

def Job.Guarded (job : Job σ ω ε ρ α) : Prop :=
  ∀ row ∈ job.held, ∀ key, order.guard row = some key → key ∈ job.held

structure System.Ordered (system : System ι σ ω ε ρ α) : Prop where
  exclusive : ∀ i j row, row ∈ (system.jobs i).held → row ∈ (system.jobs j).held → i = j
  guarded : ∀ i, (system.jobs i).Guarded order
  follows : ∀ i, (system.jobs i).Follows engine order

variable {engine order}

theorem Ordered.start {state : σ} {programs : ι → Program σ ω ε α}
    (follow : ∀ i, (programs i).Follows order engine.row ∅ fun _ _ => True) :
    (System.start state programs).Ordered engine order where
  exclusive _ _ _ holds _ := absurd holds (Finset.notMem_empty _)
  guarded _ _ holds := absurd holds (Finset.notMem_empty _)
  follows i _ := follow i

theorem insert_union_of_missing {held : Finset ρ} {rows : List ρ} {row : ρ}
    (wanted : missing held rows = some row) :
    insert row held ∪ rows.toFinset = held ∪ rows.toFinset := by
  have among : row ∈ rows.toFinset := List.mem_toFinset.mpr (List.mem_of_find?_eq_some wanted)
  rw [Finset.insert_union, Finset.insert_eq_of_mem (Finset.mem_union_right _ among)]

theorem Program.Follows.lock {rowOf : ω → ρ} {held : Finset ρ} {program : Program σ ω ε α}
    {post : α → Finset ρ → Prop} {row : ρ} (follows : program.Follows order rowOf held post)
    (wanted : missing held (program.rows rowOf) = some row) :
    row ∉ held ∧ order.Admits held row ∧ program.Follows order rowOf (insert row held) post := by
  cases program with
  | done result => cases wanted
  | throws error => cases wanted
  | query next => cases wanted
  | write writes next =>
      obtain ⟨takes, later⟩ := follows
      rw [Program.rows] at wanted
      obtain ⟨absent, admits, kept⟩ := takes.missing wanted
      refine ⟨absent, admits, kept, ?_⟩
      rw [insert_union_of_missing wanted]
      exact later
  | attempt change next =>
      obtain ⟨takes, later⟩ := follows
      rw [Program.rows] at wanted
      obtain ⟨absent, admits, kept⟩ := takes.missing wanted
      refine ⟨absent, admits, kept, ?_⟩
      rw [insert_union_of_missing wanted]
      exact later

omit [DecidableEq ρ] in
theorem Program.held_resume (committed : σ) (program : Program σ ω ε α)
    (session : Session ω ε ρ) :
    (program.resume engine committed session).2.held = session.held ∨
      (program.resume engine committed session).2.held = ∅ := by
  cases program with
  | done result => exact .inr rfl
  | throws error => exact .inr rfl
  | query next =>
      rw [Program.resume]
      cases session.aborted with
      | some error => exact .inr rfl
      | none => exact .inl rfl
  | write writes next =>
      rw [Program.resume, Session.perform]
      cases session.aborted with
      | some error => exact .inr rfl
      | none =>
          dsimp only
          cases writes.foldlM engine.perform (engine.replay committed session.log) with
          | error failure => exact .inr rfl
          | ok state => exact .inl rfl
  | attempt change next =>
      rw [Program.resume, Session.perform]
      cases session.aborted with
      | some error => exact .inl rfl
      | none =>
          dsimp only
          cases [change].foldlM engine.perform (engine.replay committed session.log) with
          | error failure => exact .inl rfl
          | ok state => exact .inl rfl

theorem Program.follows_resume {committed : σ} {program : Program σ ω ε α}
    {session : Session ω ε ρ} (follows : (Job.running program session).Follows engine order)
    (ready : (Job.running program session).wants engine = none) :
    (program.resume engine committed session).2.Follows engine order := by
  cases aborted : session.aborted with
  | some error =>
      -- Nothing is asked for once the transaction is aborted.
      cases program with
      | done result => trivial
      | throws error => trivial
      | query next =>
          rw [Program.resume, aborted]
          trivial
      | write writes next =>
          rw [Program.resume, Session.perform, aborted]
          trivial
      | attempt change next =>
          rw [Program.resume, Session.perform, aborted]
          intro live
          rw [aborted] at live
          cases live
  | none =>
      have kept := follows aborted
      rw [Job.wants, aborted] at ready
      dsimp only at ready
      cases program with
      | done result => trivial
      | throws error => trivial
      | query next =>
          rw [Program.resume, aborted]
          exact fun _ => kept _
      | write writes next =>
          rw [Program.resume, Session.perform, aborted]
          dsimp only
          cases writes.foldlM engine.perform (engine.replay committed session.log) with
          | error failure => trivial
          | ok state =>
              intro _
              have later := kept.2
              rw [Program.rows] at ready
              rw [union_of_missing ready] at later
              exact later
      | attempt change next =>
          have later := kept.2
          rw [Program.rows] at ready
          rw [union_of_missing ready] at later
          rw [Program.resume, Session.perform, aborted]
          dsimp only
          cases [change].foldlM engine.perform (engine.replay committed session.log) with
          | error failure => exact fun _ => later _
          | ok state => exact fun _ => later _

theorem System.Ordered.admits {system : System ι σ ω ε ρ α}
    (ordered : system.Ordered engine order) {i : ι} {row : ρ}
    (wanted : (system.jobs i).wants engine = some row) :
    row ∉ (system.jobs i).held ∧ order.Admits (system.jobs i).held row := by
  have follows := ordered.follows i
  cases job : system.jobs i with
  | committed result =>
      rw [job] at wanted
      cases wanted
  | failed error =>
      rw [job] at wanted
      cases wanted
  | abandoned =>
      rw [job] at wanted
      cases wanted
  | running program session =>
      rw [job] at wanted follows
      cases aborted : session.aborted with
      | some error =>
          rw [Job.wants, aborted] at wanted
          cases wanted
      | none =>
          rw [Job.wants, aborted] at wanted
          obtain ⟨absent, admits, -⟩ := (follows aborted).lock wanted
          exact ⟨absent, admits⟩

theorem System.Ordered.unguarded {system : System ι σ ω ε ρ α}
    (ordered : system.Ordered engine order) {i j : ι} {row : ρ} (apart : i ≠ j)
    (wanted : (system.jobs i).wants engine = some row) (holds : row ∈ (system.jobs j).held) :
    order.guard row = none := by
  cases guards : order.guard row with
  | none => rfl
  | some key =>
      have mine := (ordered.admits wanted).2.guarded guards
      have theirs := ordered.guarded j row holds key guards
      exact absurd (ordered.exclusive i j key mine theirs) apart

theorem System.Ordered.rank_lt {system : System ι σ ω ε ρ α}
    (ordered : system.Ordered engine order) {i j : ι} {row : ρ}
    (waits : Relation.TransGen (system.WaitsFor engine) i j)
    (wanted : (system.jobs j).wants engine = some row) (free : order.guard row = none) :
    ∃ first, (system.jobs i).wants engine = some first ∧ order.rank first < order.rank row := by
  induction waits generalizing row with
  | single waits =>
      obtain ⟨apart, first, asked, holds⟩ := waits
      exact ⟨first, asked, (ordered.admits wanted).2.after free holds
        (ordered.unguarded apart asked holds)⟩
  | tail _ waits ih =>
      obtain ⟨apart, middle, asked, holds⟩ := waits
      have unguarded := ordered.unguarded apart asked holds
      obtain ⟨first, begins, before⟩ := ih asked unguarded
      exact ⟨first, begins, before.trans ((ordered.admits wanted).2.after free holds unguarded)⟩

theorem System.Ordered.acyclic {system : System ι σ ω ε ρ α}
    (ordered : system.Ordered engine order) (i : ι) :
    ¬Relation.TransGen (system.WaitsFor engine) i i := by
  intro cycle
  have wants : ∃ row, (system.jobs i).wants engine = some row ∧ order.guard row = none := by
    obtain ⟨j, ⟨apart, row, asked, holds⟩, -⟩ := Relation.TransGen.head'_iff.mp cycle
    exact ⟨row, asked, ordered.unguarded apart asked holds⟩
  obtain ⟨row, wanted, free⟩ := wants
  obtain ⟨first, again, before⟩ := ordered.rank_lt cycle wanted free
  rw [wanted] at again
  cases again
  exact lt_irrefl _ before

def Job.Runs : Job σ ω ε ρ α → Prop
  | .running _ _ => True
  | .committed _ | .failed _ | .abandoned => False

omit [DecidableEq ρ] in
theorem Job.runs_of_held {job : Job σ ω ε ρ α} {row : ρ} (holds : row ∈ job.held) : job.Runs := by
  cases job with
  | running program session => trivial
  | committed result => exact absurd holds (Finset.notMem_empty _)
  | failed error => exact absurd holds (Finset.notMem_empty _)
  | abandoned => exact absurd holds (Finset.notMem_empty _)

theorem System.Ordered.exists_unblocked [Finite ι] {system : System ι σ ω ε ρ α}
    (ordered : system.Ordered engine order) {i : ι} (runs : (system.jobs i).Runs) :
    ∃ j, (system.jobs j).Runs ∧ ∀ k, ¬system.WaitsFor engine j k := by
  let blocks (k j : ι) : Prop := Relation.TransGen (system.WaitsFor engine) j k
  have trans : IsTrans ι blocks := ⟨fun _ _ _ first second => second.trans first⟩
  have irrefl : Std.Irrefl blocks := ⟨ordered.acyclic⟩
  have wellFounded : WellFounded blocks := Finite.wellFounded_of_trans_of_irrefl blocks
  obtain ⟨j, there, last⟩ := wellFounded.has_min {j | (system.jobs j).Runs} ⟨i, runs⟩
  refine ⟨j, there, fun k waits => ?_⟩
  have held := waits.2.choose_spec.2
  exact last k (Job.runs_of_held held) (.single waits)

/-! ## Runs -/

variable [DecidableEq ι]

def System.set (system : System ι σ ω ε ρ α) (committed : σ) (i : ι) (job : Job σ ω ε ρ α) :
    System ι σ ω ε ρ α :=
  ⟨committed, Function.update system.jobs i job⟩

variable (engine) in
inductive Step (before : System ι σ ω ε ρ α) : System ι σ ω ε ρ α → Prop
  | lock {i : ι} {program : Program σ ω ε α} {session : Session ω ε ρ} {row : ρ}
      (here : before.jobs i = .running program session)
      (wanted : (before.jobs i).wants engine = some row)
      (free : ∀ other, other ≠ i → row ∉ (before.jobs other).held) :
      Step before (before.set before.committed i (.running program (session.lock row)))
  | resume {i : ι} {program : Program σ ω ε α} {session : Session ω ε ρ}
      (here : before.jobs i = .running program session)
      (ready : (before.jobs i).wants engine = none) :
      Step before (before.set (program.resume engine before.committed session).1 i
        (program.resume engine before.committed session).2)
  | abandon {i : ι} {program : Program σ ω ε α} {session : Session ω ε ρ}
      (here : before.jobs i = .running program session) :
      Step before (before.set before.committed i .abandoned)

omit [DecidableEq ρ] in
@[simp] theorem System.jobs_set_self (system : System ι σ ω ε ρ α) (committed : σ) (i : ι)
    (job : Job σ ω ε ρ α) : (system.set committed i job).jobs i = job :=
  Function.update_self ..

omit [DecidableEq ρ] in
theorem System.jobs_set_of_ne {system : System ι σ ω ε ρ α} {committed : σ} {i other : ι}
    {job : Job σ ω ε ρ α} (apart : other ≠ i) :
    (system.set committed i job).jobs other = system.jobs other :=
  Function.update_of_ne apart ..

theorem System.Ordered.set {system : System ι σ ω ε ρ α} (ordered : system.Ordered engine order)
    {committed : σ} {i : ι} {job : Job σ ω ε ρ α}
    (free : ∀ row ∈ job.held, ∀ other, other ≠ i → row ∉ (system.jobs other).held)
    (guarded : job.Guarded order) (follows : job.Follows engine order) :
    (system.set committed i job).Ordered engine order where
  exclusive left right row first second := by
    by_cases same : left = i
    · subst same
      by_cases same : right = left
      · exact same.symm
      · rw [System.jobs_set_self] at first
        rw [System.jobs_set_of_ne same] at second
        exact absurd second (free row first right same)
    · rw [System.jobs_set_of_ne same] at first
      by_cases here : right = i
      · subst here
        rw [System.jobs_set_self] at second
        exact absurd first (free row second left same)
      · rw [System.jobs_set_of_ne here] at second
        exact ordered.exclusive left right row first second
  guarded other := by
    by_cases same : other = i
    · subst same
      rw [System.jobs_set_self]
      exact guarded
    · rw [System.jobs_set_of_ne same]
      exact ordered.guarded other
  follows other := by
    by_cases same : other = i
    · subst same
      rw [System.jobs_set_self]
      exact follows
    · rw [System.jobs_set_of_ne same]
      exact ordered.follows other

theorem System.Ordered.keep {system : System ι σ ω ε ρ α} (ordered : system.Ordered engine order)
    {committed : σ} {i : ι} {job : Job σ ω ε ρ α}
    (held : job.held = (system.jobs i).held ∨ job.held = ∅) (follows : job.Follows engine order) :
    (system.set committed i job).Ordered engine order := by
  rcases held with same | nothing
  · refine ordered.set ?_ ?_ follows
    · rw [same]
      exact fun row here other apart there => apart (ordered.exclusive other i row there here)
    · rw [Job.Guarded, same]
      exact ordered.guarded i
  · refine ordered.set ?_ ?_ follows
    · rw [nothing]
      exact fun row here => absurd here (Finset.notMem_empty _)
    · rw [Job.Guarded, nothing]
      exact fun row here => absurd here (Finset.notMem_empty _)

theorem System.Ordered.step {before after : System ι σ ω ε ρ α}
    (ordered : before.Ordered engine order) (moves : Step engine before after) :
    after.Ordered engine order := by
  cases moves with
  | @lock i program session row here wanted free =>
      obtain ⟨-, admits⟩ := ordered.admits wanted
      have follows := ordered.follows i
      have guarded := ordered.guarded i
      rw [here] at wanted follows guarded admits
      refine ordered.set ?_ ?_ ?_
      · intro other member j apart there
        rcases Finset.mem_insert.mp member with rfl | holds
        · exact free j apart there
        · refine apart (ordered.exclusive j i other there ?_)
          rw [here]
          exact holds
      · intro other member key guards
        rcases Finset.mem_insert.mp member with rfl | holds
        · exact Finset.mem_insert_of_mem (admits.guarded guards)
        · exact Finset.mem_insert_of_mem (guarded other holds key guards)
      · intro live
        have live : session.aborted = none := live
        rw [Job.wants, live] at wanted
        exact ((follows live).lock wanted).2.2
  | @resume i program session here ready =>
      have follows := ordered.follows i
      rw [here] at follows ready
      refine ordered.keep ?_ (Program.follows_resume follows ready)
      rw [here]
      exact Program.held_resume before.committed program session
  | abandon here => exact ordered.keep (.inr rfl) trivial

theorem ordered_of_follows {state : σ} {programs : ι → Program σ ω ε α}
    (follow : ∀ i, (programs i).Follows order engine.row ∅ fun _ _ => True)
    {system : System ι σ ω ε ρ α}
    (reached : Reachable (· = System.start state programs) (Step engine) system) :
    system.Ordered engine order := by
  refine reached.invariant (fun system => system.Ordered engine order) ?_ ?_
  · rintro first rfl
    exact Ordered.start follow
  · intro before after ordered moves
    exact ordered.step moves

end Systems

end PactNetwork.LockOrder
