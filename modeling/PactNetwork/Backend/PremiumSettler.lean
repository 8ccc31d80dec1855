import Mathlib.Logic.Function.Basic
import Mathlib.Data.List.Basic
import PactNetwork.Foundation.Traces

/-!
# Premium settler

The crank that charges the premiums of recorded calls: it reads a policy's
watermark, sums the calls after it, settles the sum on chain and moves the
watermark, in separate steps between which calls are recorded, other passes run
and processes stop.
-/

set_option autoImplicit false

namespace PactNetwork.Backend.Crank

/-- A policy, whose address follows from the agent and the pool's hostname. -/
structure Policy where
  agent : String
  hostname : String
  deriving DecidableEq

/-- An insert sees the time of its start and is seen by others from its end on. -/
inductive RowStatus
  | inserting
  | visible
  | aborted
  deriving DecidableEq

/-- A row of `call_records`; times are microseconds of the database's clock. -/
structure CallRow where
  agentPubkey : Option String
  baseUrl : String
  paymentAmount : Option Int
  createdAt : Nat
  status : RowStatus
  deriving DecidableEq

def CallRow.Billed (policy : Policy) (row : CallRow) : Prop :=
  row.agentPubkey = some policy.agent ∧ row.baseUrl = policy.hostname ∧
    row.paymentAmount.isSome = true

instance (policy : Policy) (row : CallRow) : Decidable (row.Billed policy) :=
  inferInstanceAs (Decidable (_ ∧ _ ∧ _))

theorem CallRow.Billed.unique {first second : Policy} {row : CallRow} (one : row.Billed first)
    (other : row.Billed second) : first = second := by
  obtain ⟨agent, hostname⟩ := first
  obtain ⟨agent', hostname'⟩ := second
  cases one.1.symm.trans other.1
  cases one.2.1.symm.trans other.2.1
  rfl

/-- A `settle_premium` that landed, with the calls it was summed over. -/
structure Settlement where
  policy : Policy
  callValue : Int
  counted : List Nat

/-- Where a pass stands with the policy it is at. Behind the sum it carries the
watermark it read and the calls it settles: none where the sum is nothing. What it
sent may land until it fails, also when the process that sent it has stopped. -/
inductive Phase
  | idle
  | read (policy : Policy) (watermark : Option Nat)
  | summed (policy : Policy) (watermark : Option Nat) (counted : List Nat) (callValue : Int)
  | marking (policy : Policy) (watermark : Option Nat) (counted : List Nat)

/-- The tables, the passes under way, and what landed; `firstMark` keeps the first
watermark of each policy. -/
structure State where
  now : Nat
  rows : List CallRow
  watermarks : Policy → Option Nat
  firstMark : Policy → Option Nat
  passes : Nat → Phase
  settled : List Settlement

inductive Event
  | tick (elapsed : Nat)
  | insert (agentPubkey : Option String) (baseUrl : String) (paymentAmount : Option Int)
  | commit (index : Nat)
  | abort (index : Nat)
  | read (pass : Nat) (policy : Policy)
  | sum (pass : Nat)
  | land (pass : Nat)
  | fail (pass : Nat)
  | mark (pass : Nat)
  | stop (pass : Nat)

def initialWatermarkInterval : Nat := 900000000

def toDate (time : Nat) : Nat := time / 1000 * 1000

def State.cutoff (state : State) : Option Nat → Nat
  | some watermark => toDate watermark
  | none => state.now - initialWatermarkInterval

def State.found (state : State) (policy : Policy) (watermark : Option Nat) : List Nat :=
  (List.range state.rows.length).filter fun index =>
    (state.rows[index]?).any fun row =>
      row.Billed policy && row.status = .visible && state.cutoff watermark < row.createdAt

def State.total (state : State) (counted : List Nat) : Int :=
  (counted.map fun index => ((state.rows[index]?).bind CallRow.paymentAmount).getD 0).sum

def CallRow.finish (status : RowStatus) (row : CallRow) : CallRow :=
  if row.status = .inserting then { row with status := status } else row

def State.setPhase (state : State) (pass : Nat) (phase : Phase) : State :=
  { state with passes := Function.update state.passes pass phase }

@[simp] theorem State.setPhase_self (state : State) (pass : Nat) (phase : Phase) :
    (state.setPhase pass phase).passes pass = phase := by
  simp [setPhase]

theorem State.setPhase_of_ne (state : State) {pass other : Nat} (differ : other ≠ pass)
    (phase : Phase) : (state.setPhase pass phase).passes other = state.passes other := by
  simp [setPhase, differ]

def State.setMark (state : State) (policy : Policy) : State :=
  { state with
    watermarks := Function.update state.watermarks policy (some state.now)
    firstMark := Function.update state.firstMark policy
      (some ((state.firstMark policy).getD state.now)) }

def State.log (state : State) (settlement : Settlement) : State :=
  { state with settled := settlement :: state.settled }

def State.apply (state : State) : Event → State
  | .tick elapsed => { state with now := state.now + elapsed }
  | .insert agentPubkey baseUrl paymentAmount =>
      { state with rows := state.rows ++
          [⟨agentPubkey, baseUrl, paymentAmount, state.now, .inserting⟩] }
  | .commit index => { state with rows := state.rows.modify index (CallRow.finish .visible) }
  | .abort index => { state with rows := state.rows.modify index (CallRow.finish .aborted) }
  | .read pass policy =>
      match state.passes pass with
      | .idle => state.setPhase pass (.read policy (state.watermarks policy))
      | .read _ _ | .summed _ _ _ _ | .marking _ _ _ => state
  | .sum pass =>
      match state.passes pass with
      | .read policy watermark =>
          let counted := state.found policy watermark
          if state.total counted = 0 then state.setPhase pass (.marking policy watermark [])
          else state.setPhase pass (.summed policy watermark counted (state.total counted))
      | .idle | .summed _ _ _ _ | .marking _ _ _ => state
  | .land pass =>
      match state.passes pass with
      | .summed policy watermark counted callValue =>
          if 0 < callValue then
            (state.setPhase pass (.marking policy watermark counted)).log ⟨policy, callValue, counted⟩
          else state
      | .idle | .read _ _ | .marking _ _ _ => state
  | .fail pass =>
      match state.passes pass with
      | .summed _ _ _ _ => state.setPhase pass .idle
      | .idle | .read _ _ | .marking _ _ _ => state
  | .mark pass =>
      match state.passes pass with
      | .marking policy _ _ => (state.setMark policy).setPhase pass .idle
      | .idle | .read _ _ | .summed _ _ _ _ => state
  | .stop pass =>
      match state.passes pass with
      | .read _ _ | .marking _ _ _ => state.setPhase pass .idle
      | .idle | .summed _ _ _ _ => state

def State.count (state : State) (index : Nat) : Nat :=
  state.settled.countP fun settlement => index ∈ settlement.counted

/-- A call that became visible after the first watermark of its policy is counted at
most once, and once if the watermark has reached it. -/
def State.ChargedOnce (state : State) : Prop :=
  ∀ (index : Nat) (row : CallRow) policy first, state.rows[index]? = some row → row.status = .visible →
    row.Billed policy → state.firstMark policy = some first → first < row.createdAt →
      state.count index ≤ 1 ∧ ∀ watermark, state.watermarks policy = some watermark →
        row.createdAt ≤ watermark → state.count index = 1

/-! ## Runs -/

/-- A pass that has summed the calls of a policy and not moved its watermark yet. -/
def Phase.Holds (policy : Policy) (watermark : Option Nat) (counted : List Nat) : Phase → Prop
  | .summed policy' watermark' counted' _ | .marking policy' watermark' counted' =>
      policy' = policy ∧ watermark' = watermark ∧ counted' = counted
  | .idle | .read _ _ => False

/-- What no event of a clear run does: start an insert in the microsecond of the
watermark; sum a call up to the watermark or that another pass has summed; move the
watermark past a call that the pass did not settle; stop between the settlement and the
watermark. -/
def State.Clear (state : State) : Event → Prop
  | .insert agentPubkey baseUrl _ => ∀ agent, agentPubkey = some agent →
      ∀ watermark, state.watermarks ⟨agent, baseUrl⟩ = some watermark → watermark < state.now
  | .sum pass => ∀ policy watermark, state.passes pass = .read policy watermark →
      ∀ index ∈ state.found policy watermark, ∀ (row : CallRow) first last,
        state.rows[index]? = some row → state.firstMark policy = some first →
          first < row.createdAt → state.watermarks policy = some last →
            last < row.createdAt ∧ ∀ other watermark' counted,
              (state.passes other).Holds policy watermark' counted → index ∉ counted
  | .mark pass => ∀ policy watermark counted last,
      state.passes pass = .marking policy watermark counted →
        state.watermarks policy = some last → ∀ (index : Nat) (row : CallRow),
          state.rows[index]? = some row → row.Billed policy → row.status ≠ .aborted →
            last < row.createdAt → index ∈ counted
  | .stop pass => ∀ policy watermark counted, state.passes pass = .marking policy watermark counted →
      ∀ index ∈ counted, ∀ (row : CallRow) first, state.rows[index]? = some row →
        state.firstMark policy = some first → row.createdAt ≤ first
  | .tick _ | .commit _ | .abort _ | .read _ _ | .land _ | .fail _ => True

def State.Initial (state : State) : Prop :=
  state = ⟨state.now, [], fun _ => none, fun _ => none, fun _ => .idle, []⟩

def State.Reached (clear : State → Event → Prop) : State → Prop :=
  Reachable State.Initial (Fires State.apply clear)

/-! ## What holds in clear runs -/

def Phase.Marking (policy : Policy) (counted : List Nat) : Phase → Prop
  | .marking policy' _ counted' => policy' = policy ∧ counted' = counted
  | .idle | .read _ _ | .summed _ _ _ _ => False

def State.Pending (state : State) (policy : Policy) (index : Nat) : Prop :=
  ∃ pass counted, (state.passes pass).Marking policy counted ∧ index ∈ counted

/-- A call up to the watermark is counted; one behind it is counted exactly if a pass
that settled it is to move the watermark. -/
structure State.Tracked (state : State) (policy : Policy) (index : Nat) (row : CallRow)
    (watermark : Nat) : Prop where
  behind : row.createdAt ≤ watermark → row.status ≠ .aborted →
    row.status = .visible ∧ state.count index = 1
  ahead : watermark < row.createdAt → state.count index = 0 ∧ ¬state.Pending policy index ∨
    state.count index = 1 ∧ state.Pending policy index
  recent : ∀ pass watermark' counted, (state.passes pass).Holds policy watermark' counted →
    index ∈ counted → watermark < row.createdAt
  sole : ∀ pass other watermark' watermark'' counted counted',
    (state.passes pass).Holds policy watermark' counted → index ∈ counted →
      (state.passes other).Holds policy watermark'' counted' → index ∈ counted' → pass = other

structure State.Sound (state : State) : Prop where
  past : ∀ (index : Nat) (row : CallRow), state.rows[index]? = some row →
    row.createdAt ≤ state.now
  marked : ∀ policy first, state.firstMark policy = some first →
    ∃ watermark, state.watermarks policy = some watermark
  timely : ∀ policy watermark, state.watermarks policy = some watermark → watermark ≤ state.now
  seen : ∀ pass policy watermark counted, (state.passes pass).Holds policy watermark counted →
    ∀ index ∈ counted, ∃ row, state.rows[index]? = some row ∧ row.Billed policy ∧
      row.status = .visible
  logged : ∀ settlement ∈ state.settled, ∀ index ∈ settlement.counted, ∃ row,
    state.rows[index]? = some row ∧ row.status = .visible
  tracked : ∀ (index : Nat) (row : CallRow) policy first watermark,
    state.rows[index]? = some row → row.Billed policy → state.firstMark policy = some first →
      first < row.createdAt → state.watermarks policy = some watermark →
        state.Tracked policy index row watermark

theorem Phase.Marking.holds {phase : Phase} {policy : Policy} {counted : List Nat}
    (marking : phase.Marking policy counted) : ∃ watermark, phase.Holds policy watermark counted := by
  cases phase with
  | marking policy' watermark counted' => exact ⟨watermark, marking.1, rfl, marking.2⟩
  | idle => cases marking
  | read policy' watermark => cases marking
  | summed policy' watermark counted' callValue => cases marking

theorem State.Sound.charged {state : State} (sound : state.Sound) : state.ChargedOnce := by
  intro index row policy first found visible billed marked late
  obtain ⟨watermark, current⟩ := sound.marked policy first marked
  have tracked := sound.tracked index row policy first watermark found billed marked late current
  refine ⟨?_, fun other same reached => ?_⟩
  · rcases Nat.lt_or_ge watermark row.createdAt with ahead | behind
    · rcases tracked.ahead ahead with ⟨none, -⟩ | ⟨one, -⟩
      · exact none ▸ Nat.zero_le 1
      · exact one.le
    · exact (tracked.behind behind (by rw [visible]; decide)).2.le
  · cases current.symm.trans same
    exact (tracked.behind reached (by rw [visible]; decide)).2

theorem State.setPhase_cases {state : State} {pass other : Nat} {phase : Phase}
    (property : Phase → Prop) (holds : property ((state.setPhase pass phase).passes other)) :
    other = pass ∧ property phase ∨ other ≠ pass ∧ property (state.passes other) := by
  by_cases same : other = pass
  · rw [same, setPhase_self] at holds
    exact .inl ⟨same, holds⟩
  · rw [setPhase_of_ne state same] at holds
    exact .inr ⟨same, holds⟩

theorem State.Sound.quiet {state : State} (sound : state.Sound) {pass : Nat} {phase : Phase}
    (before : ∀ policy counted, (state.passes pass).Marking policy counted → ∀ index ∈ counted,
      ∀ (row : CallRow) first, state.rows[index]? = some row →
        state.firstMark policy = some first → row.createdAt ≤ first)
    (after : ∀ policy watermark counted, ¬phase.Holds policy watermark counted) :
    (state.setPhase pass phase).Sound := by
  have held : ∀ other policy watermark counted,
      ((state.setPhase pass phase).passes other).Holds policy watermark counted →
        (state.passes other).Holds policy watermark counted := by
    intro other policy watermark counted holds
    rcases setPhase_cases (Phase.Holds policy watermark counted) holds with ⟨-, new⟩ | ⟨-, old⟩
    · exact absurd new (after policy watermark counted)
    · exact old
  refine ⟨sound.past, sound.marked, sound.timely, ?_, sound.logged, ?_⟩
  · intro other policy watermark counted holds
    exact sound.seen other policy watermark counted (held _ _ _ _ holds)
  intro index row policy first watermark found billed marked late current
  have tracked := sound.tracked index row policy first watermark found billed marked late current
  have pending : (state.setPhase pass phase).Pending policy index ↔ state.Pending policy index := by
    constructor
    · rintro ⟨other, counted, marking, member⟩
      rcases setPhase_cases (Phase.Marking policy counted) marking with ⟨-, new⟩ | ⟨-, old⟩
      · obtain ⟨watermark, holds⟩ := new.holds
        exact absurd holds (after policy watermark counted)
      · exact ⟨other, counted, old, member⟩
    · rintro ⟨other, counted, marking, member⟩
      have differ : other ≠ pass := by
        rintro rfl
        exact absurd (before policy counted marking index member row first found marked) late.not_ge
      exact ⟨other, counted, by rwa [setPhase_of_ne state differ], member⟩
  refine ⟨tracked.behind, ?_, ?_, ?_⟩
  · intro ahead
    rw [pending]
    exact tracked.ahead ahead
  · intro other watermark' counted holds
    exact tracked.recent other watermark' counted (held _ _ _ _ holds)
  · intro one other watermark' watermark'' counted counted' holds member holds'
    exact tracked.sole one other watermark' watermark'' counted counted' (held _ _ _ _ holds) member
      (held _ _ _ _ holds')

/-! ## The steps -/

theorem State.Sound.tick {state : State} (sound : state.Sound) (elapsed : Nat) :
    (state.apply (.tick elapsed)).Sound := by
  refine ⟨?_, sound.marked, ?_, sound.seen, sound.logged, ?_⟩
  · intro index row found
    exact (sound.past index row found).trans (Nat.le_add_right _ _)
  · intro policy watermark current
    exact (sound.timely policy watermark current).trans (Nat.le_add_right _ _)
  · intro index row policy first watermark found billed marked late current
    have tracked := sound.tracked index row policy first watermark found billed marked late current
    exact ⟨tracked.behind, tracked.ahead, tracked.recent, tracked.sole⟩

theorem State.count_eq_zero {state : State} {index : Nat}
    (none : ∀ settlement ∈ state.settled, index ∉ settlement.counted) : state.count index = 0 := by
  rw [count, List.countP_eq_zero]
  intro settlement member
  simpa using none settlement member

theorem State.Sound.insert {state : State} (sound : state.Sound) {agentPubkey : Option String}
    {baseUrl : String} {paymentAmount : Option Int}
    (clear : state.Clear (.insert agentPubkey baseUrl paymentAmount)) :
    (state.apply (.insert agentPubkey baseUrl paymentAmount)).Sound := by
  have kept : ∀ (index : Nat) (row : CallRow), state.rows[index]? = some row →
      (state.apply (.insert agentPubkey baseUrl paymentAmount)).rows[index]? = some row := by
    intro index row found
    obtain ⟨inside, -⟩ := List.getElem?_eq_some_iff.mp found
    rw [← found]
    exact List.getElem?_append_left inside
  have fresh : ∀ (index : Nat) (row : CallRow),
      (state.apply (.insert agentPubkey baseUrl paymentAmount)).rows[index]? = some row →
        state.rows[index]? = some row ∨ state.rows[index]? = none ∧
          row = ⟨agentPubkey, baseUrl, paymentAmount, state.now, .inserting⟩ := by
    intro index row found
    rcases Nat.lt_or_ge index state.rows.length with inside | outside
    · left
      rw [← found]
      exact (List.getElem?_append_left inside).symm
    · right
      refine ⟨List.getElem?_eq_none outside, ?_⟩
      replace found := (List.getElem?_append_right outside).symm.trans found
      obtain ⟨inside, same⟩ := List.getElem?_eq_some_iff.mp found
      exact same.symm.trans (List.getElem_singleton inside)
  refine ⟨?_, sound.marked, sound.timely, ?_, ?_, ?_⟩
  · intro index row found
    rcases fresh index row found with old | ⟨-, rfl⟩
    · exact sound.past index row old
    · exact Nat.le_refl _
  · intro pass policy watermark counted holds index member
    obtain ⟨row, found, billed, visible⟩ := sound.seen pass policy watermark counted holds index member
    exact ⟨row, kept index row found, billed, visible⟩
  · intro settlement member index counted
    obtain ⟨row, found, visible⟩ := sound.logged settlement member index counted
    exact ⟨row, kept index row found, visible⟩
  · intro index row policy first watermark found billed marked late current
    rcases fresh index row found with old | ⟨absent, rfl⟩
    · have tracked := sound.tracked index row policy first watermark old billed marked late current
      exact ⟨tracked.behind, tracked.ahead, tracked.recent, tracked.sole⟩
    have recent : watermark < state.now := by
      obtain ⟨agent, hostname, -⟩ := billed
      refine clear policy.agent agent watermark (Eq.trans ?_ current)
      exact congrArg state.watermarks (congrArg (Policy.mk policy.agent) hostname)
    have unheld : ∀ pass watermark' counted,
        (state.passes pass).Holds policy watermark' counted → index ∉ counted := by
      intro pass watermark' counted holds member
      obtain ⟨row, found, -⟩ := sound.seen pass policy watermark' counted holds index member
      rw [absent] at found
      cases found
    refine ⟨fun behind => absurd behind recent.not_ge, fun _ => .inl ⟨?_, ?_⟩,
      fun _ _ _ _ _ => recent, ?_⟩
    · refine count_eq_zero fun settlement member counted => ?_
      obtain ⟨row, found, -⟩ := sound.logged settlement member index counted
      rw [absent] at found
      cases found
    · rintro ⟨pass, counted, marking, member⟩
      obtain ⟨watermark', holds⟩ := marking.holds
      exact unheld pass watermark' counted holds member
    · intro pass other watermark' watermark'' counted counted' holds member
      exact absurd member (unheld pass watermark' counted holds)

theorem CallRow.finish_cases (status : RowStatus) (row : CallRow) :
    row.finish status = row ∨
      row.status = .inserting ∧ row.finish status = { row with status := status } := by
  unfold finish
  split
  · rename_i inserting
    exact .inr ⟨inserting, rfl⟩
  · exact .inl rfl

theorem State.Sound.finish {state : State} (sound : state.Sound) (index : Nat) (status : RowStatus) :
    { state with rows := state.rows.modify index (CallRow.finish status) : State }.Sound := by
  have kept : ∀ (other : Nat) (row : CallRow), state.rows[other]? = some row → row.status = .visible →
      (state.rows.modify index (CallRow.finish status))[other]? = some row := by
    intro other row found visible
    have same : row.finish status = row := by simp [CallRow.finish, visible]
    rw [List.getElem?_modify, found]
    split <;> simp [same]
  have former : ∀ (other : Nat) (row : CallRow),
      (state.rows.modify index (CallRow.finish status))[other]? = some row →
        ∃ old, state.rows[other]? = some old ∧ (row = old ∨
          old.status = .inserting ∧ row = { old with status := status }) := by
    intro other row found
    rw [List.getElem?_modify] at found
    cases present : state.rows[other]? with
    | none => simp [present] at found
    | some old =>
        refine ⟨old, rfl, ?_⟩
        rw [present] at found
        split at found
        · cases found
          exact CallRow.finish_cases status old
        · cases found
          exact .inl rfl
  refine ⟨?_, sound.marked, sound.timely, ?_, ?_, ?_⟩
  · intro other row found
    obtain ⟨old, present, rfl | ⟨-, rfl⟩⟩ := former other row found
    · exact sound.past other row present
    · exact sound.past other old present
  · intro pass policy watermark counted holds other member
    obtain ⟨row, found, billed, visible⟩ := sound.seen pass policy watermark counted holds other member
    exact ⟨row, kept other row found visible, billed, visible⟩
  · intro settlement member other counted
    obtain ⟨row, found, visible⟩ := sound.logged settlement member other counted
    exact ⟨row, kept other row found visible, visible⟩
  · intro other row policy first watermark found billed marked late current
    obtain ⟨old, present, rfl | ⟨inserting, rfl⟩⟩ := former other row found
    · have tracked := sound.tracked other row policy first watermark present billed marked late current
      exact ⟨tracked.behind, tracked.ahead, tracked.recent, tracked.sole⟩
    · have tracked := sound.tracked other old policy first watermark present billed marked late current
      refine ⟨fun behind _ => ?_, tracked.ahead, tracked.recent, tracked.sole⟩
      have seen := (tracked.behind behind (by rw [inserting]; decide)).1
      rw [inserting] at seen
      cases seen

theorem State.mem_found {state : State} {policy : Policy} {watermark : Option Nat} {index : Nat} :
    index ∈ state.found policy watermark ↔ ∃ row, state.rows[index]? = some row ∧
      row.Billed policy ∧ row.status = .visible ∧ state.cutoff watermark < row.createdAt := by
  rw [found, List.mem_filter, List.mem_range]
  constructor
  · rintro ⟨inside, passes⟩
    refine ⟨state.rows[index], List.getElem?_eq_getElem inside, ?_⟩
    simpa [List.getElem?_eq_getElem inside, and_assoc] using passes
  · rintro ⟨row, present, billed, visible, recent⟩
    obtain ⟨inside, -⟩ := List.getElem?_eq_some_iff.mp present
    exact ⟨inside, by simp [present, billed, visible, recent]⟩

theorem State.Sound.summed {state : State} (sound : state.Sound) {pass : Nat} {policy : Policy}
    {watermark : Option Nat} {phase : Phase} {counted : List Nat}
    (stands : state.passes pass = .read policy watermark) (clear : state.Clear (.sum pass))
    (holds : ∀ policy' watermark' counted', phase.Holds policy' watermark' counted' →
      policy' = policy ∧ counted' = counted)
    (settled : ∀ policy' counted', phase.Marking policy' counted' → counted' = [])
    (sums : ∀ index ∈ counted, index ∈ state.found policy watermark) :
    (state.setPhase pass phase).Sound := by
  refine ⟨sound.past, sound.marked, sound.timely, ?_, sound.logged, ?_⟩
  · intro other policy' watermark' counted' held index member
    rcases setPhase_cases (Phase.Holds policy' watermark' counted') held with ⟨-, new⟩ | ⟨-, old⟩
    · obtain ⟨rfl, rfl⟩ := holds _ _ _ new
      obtain ⟨row, found, billed, visible, -⟩ := mem_found.mp (sums index member)
      exact ⟨row, found, billed, visible⟩
    · exact sound.seen other policy' watermark' counted' old index member
  intro index row policy' first last found billed marked late current
  have tracked := sound.tracked index row policy' first last found billed marked late current
  have pending : (state.setPhase pass phase).Pending policy' index ↔ state.Pending policy' index := by
    constructor
    · rintro ⟨other, counted', marking, member⟩
      rcases setPhase_cases (Phase.Marking policy' counted') marking with ⟨-, new⟩ | ⟨-, old⟩
      · rw [settled policy' counted' new] at member
        cases member
      · exact ⟨other, counted', old, member⟩
    · rintro ⟨other, counted', marking, member⟩
      have differ : other ≠ pass := by
        rintro rfl
        rw [stands] at marking
        cases marking
      exact ⟨other, counted', by rwa [setPhase_of_ne state differ], member⟩
  refine ⟨tracked.behind, ?_, ?_, ?_⟩
  · intro ahead
    rw [pending]
    exact tracked.ahead ahead
  · intro other watermark' counted' held member
    rcases setPhase_cases (Phase.Holds policy' watermark' counted') held with ⟨-, new⟩ | ⟨-, old⟩
    · obtain ⟨rfl, rfl⟩ := holds _ _ _ new
      exact (clear _ _ stands index (sums index member) row first last found marked late current).1
    · exact tracked.recent other watermark' counted' old member
  · intro one other watermark' watermark'' counted' counted'' held member held' member'
    rcases setPhase_cases (Phase.Holds policy' watermark' counted') held with ⟨here, new⟩ | ⟨-, old⟩
    · rcases setPhase_cases (Phase.Holds policy' watermark'' counted'') held' with
        ⟨there, -⟩ | ⟨-, old⟩
      · rw [here, there]
      · obtain ⟨rfl, rfl⟩ := holds _ _ _ new
        exact absurd member' ((clear _ _ stands index (sums index member) row first last found
          marked late current).2 other watermark'' counted'' old)
    · rcases setPhase_cases (Phase.Holds policy' watermark'' counted'') held' with
        ⟨-, new⟩ | ⟨-, old'⟩
      · obtain ⟨rfl, rfl⟩ := holds _ _ _ new
        exact absurd member ((clear _ _ stands index (sums index member') row first last found
          marked late current).2 one watermark' counted' old)
      · exact tracked.sole one other watermark' watermark'' counted' counted'' old member old' member'

theorem State.count_log (state : State) (settlement : Settlement) (index : Nat) :
    (state.log settlement).count index =
      state.count index + if index ∈ settlement.counted then 1 else 0 := by
  simp [count, log, List.countP_cons]

theorem State.Sound.land {state : State} (sound : state.Sound) {pass : Nat} {policy : Policy}
    {watermark : Option Nat} {counted : List Nat} {callValue : Int}
    (stands : state.passes pass = .summed policy watermark counted callValue) :
    ((state.setPhase pass (.marking policy watermark counted)).log
      ⟨policy, callValue, counted⟩).Sound := by
  have here : (state.passes pass).Holds policy watermark counted := by
    rw [stands]
    exact ⟨rfl, rfl, rfl⟩
  have held : ∀ other policy' watermark' counted',
      ((state.setPhase pass (.marking policy watermark counted)).passes other).Holds policy'
          watermark' counted' → (state.passes other).Holds policy' watermark' counted' := by
    intro other policy' watermark' counted' holds
    rcases setPhase_cases (Phase.Holds policy' watermark' counted') holds with ⟨rfl, new⟩ | ⟨-, old⟩
    · obtain ⟨rfl, rfl, rfl⟩ := new
      exact here
    · exact old
  refine ⟨sound.past, sound.marked, sound.timely, ?_, ?_, ?_⟩
  · intro other policy' watermark' counted' holds
    exact sound.seen other policy' watermark' counted' (held _ _ _ _ holds)
  · intro settlement member index inside
    rcases List.mem_cons.mp member with rfl | member
    · obtain ⟨row, found, -, visible⟩ := sound.seen pass policy watermark counted here index inside
      exact ⟨row, found, visible⟩
    · exact sound.logged settlement member index inside
  · intro index row policy' first last found billed marked late current
    have tracked := sound.tracked index row policy' first last found billed marked late current
    have sole := fun one other watermark' watermark'' counted' counted'' holds member holds' =>
      tracked.sole one other watermark' watermark'' counted' counted'' (held _ _ _ _ holds) member
        (held _ _ _ _ holds')
    by_cases member : index ∈ counted
    · obtain ⟨row', found', billed', -⟩ := sound.seen pass policy watermark counted here index member
      cases found.symm.trans found'
      obtain rfl : policy' = policy := billed.unique billed'
      have ahead : last < row.createdAt := tracked.recent pass watermark counted here member
      have unsettled : state.count index = 0 := by
        rcases tracked.ahead ahead with ⟨zero, -⟩ | ⟨-, other, counted', marking, inside⟩
        · exact zero
        obtain ⟨watermark', holds⟩ := marking.holds
        rw [tracked.sole other pass watermark' watermark counted' counted holds inside here member,
          stands] at marking
        cases marking
      refine ⟨fun behind => absurd behind ahead.not_ge, fun _ => .inr ⟨?_, ?_⟩,
        fun _ _ _ _ _ => ahead, sole⟩
      · rw [count_log, if_pos member]
        exact congrArg (· + 1) unsettled
      · refine ⟨pass, counted, ?_, member⟩
        change ((state.setPhase pass (.marking policy' watermark counted)).passes pass).Marking _ _
        rw [setPhase_self]
        exact ⟨rfl, rfl⟩
    · have same : ((state.setPhase pass (.marking policy watermark counted)).log
          ⟨policy, callValue, counted⟩).count index = state.count index := by
        rw [count_log, if_neg member]
        rfl
      have pending : ((state.setPhase pass (.marking policy watermark counted)).log
          ⟨policy, callValue, counted⟩).Pending policy' index ↔ state.Pending policy' index := by
        constructor
        · rintro ⟨other, counted', marking, inside⟩
          rcases setPhase_cases (Phase.Marking policy' counted') marking with ⟨-, new⟩ | ⟨-, old⟩
          · rw [← new.2] at inside
            exact absurd inside member
          · exact ⟨other, counted', old, inside⟩
        · rintro ⟨other, counted', marking, inside⟩
          have differ : other ≠ pass := by
            rintro rfl
            rw [stands] at marking
            cases marking
          exact ⟨other, counted', (setPhase_of_ne state differ _).symm ▸ marking, inside⟩
      refine ⟨?_, ?_, ?_, sole⟩
      · rw [same]
        exact tracked.behind
      · rw [same, pending]
        exact tracked.ahead
      · intro other watermark' counted' holds
        exact tracked.recent other watermark' counted' (held _ _ _ _ holds)

@[simp] theorem State.setMark_self (state : State) (policy : Policy) :
    (state.setMark policy).watermarks policy = some state.now := by
  simp [setMark]

theorem State.setMark_of_ne (state : State) {policy other : Policy} (differ : other ≠ policy) :
    (state.setMark policy).watermarks other = state.watermarks other := by
  simp [setMark, differ]

@[simp] theorem State.setMark_first (state : State) (policy : Policy) :
    (state.setMark policy).firstMark policy = some ((state.firstMark policy).getD state.now) := by
  simp [setMark]

theorem State.setMark_first_of_ne (state : State) {policy other : Policy} (differ : other ≠ policy) :
    (state.setMark policy).firstMark other = state.firstMark other := by
  simp [setMark, differ]

theorem State.Sound.mark {state : State} (sound : state.Sound) {pass : Nat} {policy : Policy}
    {watermark : Option Nat} {counted : List Nat}
    (stands : state.passes pass = .marking policy watermark counted)
    (clear : state.Clear (.mark pass)) : ((state.setMark policy).setPhase pass .idle).Sound := by
  have here : (state.passes pass).Holds policy watermark counted := by
    rw [stands]
    exact ⟨rfl, rfl, rfl⟩
  have held : ∀ other policy' watermark' counted',
      (((state.setMark policy).setPhase pass .idle).passes other).Holds policy' watermark' counted' →
        other ≠ pass ∧ (state.passes other).Holds policy' watermark' counted' := by
    intro other policy' watermark' counted' holds
    rcases setPhase_cases (Phase.Holds policy' watermark' counted') holds with ⟨-, new⟩ | old
    · cases new
    · exact old
  refine ⟨sound.past, ?_, ?_, ?_, sound.logged, ?_⟩
  · intro policy' first marked
    by_cases same : policy' = policy
    · exact ⟨state.now, same ▸ state.setMark_self policy⟩
    · obtain ⟨last, current⟩ := sound.marked policy' first
        ((state.setMark_first_of_ne same).symm.trans marked)
      exact ⟨last, (state.setMark_of_ne same).trans current⟩
  · intro policy' last current
    by_cases same : policy' = policy
    · cases same
      cases (state.setMark_self policy).symm.trans current
      exact Nat.le_refl _
    · exact sound.timely policy' last ((state.setMark_of_ne same).symm.trans current)
  · intro other policy' watermark' counted' holds
    exact sound.seen other policy' watermark' counted' (held _ _ _ _ holds).2
  · intro index row policy' first last found billed marked late current
    by_cases same : policy' = policy
    · cases same
      cases (state.setMark_self policy).symm.trans current
      have past : row.createdAt ≤ state.now := sound.past index row found
      replace marked := (state.setMark_first policy).symm.trans marked
      cases former : state.firstMark policy with
      | none =>
          rw [former] at marked
          cases marked
          exact absurd past late.not_ge
      | some first' =>
          rw [former] at marked
          cases marked
          obtain ⟨last, before⟩ := sound.marked policy first' former
          have tracked := sound.tracked index row policy first' last found billed former late before
          have settles : row.status ≠ .aborted → last < row.createdAt → index ∈ counted :=
            clear policy watermark counted last stands before index row found billed
          have unheld : ∀ other watermark' counted',
              (((state.setMark policy).setPhase pass .idle).passes other).Holds policy watermark'
                counted' → index ∉ counted' := by
            intro other watermark' counted' holds member
            obtain ⟨differ, old⟩ := held _ _ _ _ holds
            obtain ⟨row', found', -, visible⟩ := sound.seen other policy watermark' counted' old index member
            cases found.symm.trans found'
            have mine := settles (by rw [visible]; decide)
              (tracked.recent other watermark' counted' old member)
            exact differ (tracked.sole other pass watermark' watermark counted' counted old member
              here mine)
          refine ⟨fun _ present => ?_, fun ahead => absurd past ahead.not_ge,
            fun other watermark' counted' holds member =>
              absurd member (unheld other watermark' counted' holds),
            fun one _ watermark' _ counted' _ holds member =>
              absurd member (unheld one watermark' counted' holds)⟩
          rcases Nat.lt_or_ge last row.createdAt with ahead | behind
          · have member : index ∈ counted := settles present ahead
            obtain ⟨row', found', -, visible⟩ :=
              sound.seen pass policy watermark counted here index member
            cases found.symm.trans found'
            rcases tracked.ahead ahead with ⟨-, unpending⟩ | ⟨one, -⟩
            · exact absurd ⟨pass, counted, by simp [stands, Phase.Marking], member⟩ unpending
            · exact ⟨visible, one⟩
          · exact tracked.behind behind present
    · have tracked := sound.tracked index row policy' first last found billed
        ((state.setMark_first_of_ne same).symm.trans marked) late
        ((state.setMark_of_ne same).symm.trans current)
      have pending : ((state.setMark policy).setPhase pass .idle).Pending policy' index ↔
          state.Pending policy' index := by
        constructor
        · rintro ⟨other, counted', marking, inside⟩
          rcases setPhase_cases (Phase.Marking policy' counted') marking with ⟨-, new⟩ | ⟨-, old⟩
          · cases new
          · exact ⟨other, counted', old, inside⟩
        · rintro ⟨other, counted', marking, inside⟩
          have differ : other ≠ pass := by
            rintro rfl
            rw [stands] at marking
            exact same marking.1.symm
          exact ⟨other, counted', (setPhase_of_ne (state.setMark policy) differ _).symm ▸ marking,
            inside⟩
      refine ⟨tracked.behind, ?_, ?_, ?_⟩
      · rw [pending]
        exact tracked.ahead
      · intro other watermark' counted' holds
        exact tracked.recent other watermark' counted' (held _ _ _ _ holds).2
      · intro one other watermark' watermark'' counted' counted'' holds member holds'
        exact tracked.sole one other watermark' watermark'' counted' counted'' (held _ _ _ _ holds).2
          member (held _ _ _ _ holds').2

theorem State.Sound.apply {state : State} (sound : state.Sound) {event : Event}
    (clear : state.Clear event) : (state.apply event).Sound := by
  cases event with
  | tick elapsed => exact sound.tick elapsed
  | insert agentPubkey baseUrl paymentAmount => exact sound.insert clear
  | commit index => exact sound.finish index .visible
  | abort index => exact sound.finish index .aborted
  | read pass policy =>
      cases stands : state.passes pass with
      | idle =>
          simp only [State.apply, stands]
          refine sound.quiet (fun policy' counted marking => ?_) (fun _ _ _ holds => holds)
          rw [stands] at marking
          cases marking
      | read policy' watermark => simpa only [State.apply, stands] using sound
      | summed policy' watermark counted callValue => simpa only [State.apply, stands] using sound
      | marking policy' watermark counted => simpa only [State.apply, stands] using sound
  | sum pass =>
      cases stands : state.passes pass with
      | read policy watermark =>
          simp only [State.apply, stands]
          split
          · exact sound.summed stands clear
              (fun _ _ _ holds => ⟨holds.1.symm, holds.2.2.symm⟩)
              (fun _ _ marking => marking.2.symm) (fun _ member => by cases member)
          · exact sound.summed stands clear
              (fun _ _ _ holds => ⟨holds.1.symm, holds.2.2.symm⟩)
              (fun _ _ marking => by cases marking) (fun _ member => member)
      | idle => simpa only [State.apply, stands] using sound
      | summed policy' watermark counted callValue => simpa only [State.apply, stands] using sound
      | marking policy' watermark counted => simpa only [State.apply, stands] using sound
  | land pass =>
      cases stands : state.passes pass with
      | summed policy watermark counted callValue =>
          simp only [State.apply, stands]
          split
          · exact sound.land stands
          · exact sound
      | idle => simpa only [State.apply, stands] using sound
      | read policy' watermark => simpa only [State.apply, stands] using sound
      | marking policy' watermark counted => simpa only [State.apply, stands] using sound
  | fail pass =>
      cases stands : state.passes pass with
      | summed policy watermark counted callValue =>
          simp only [State.apply, stands]
          refine sound.quiet (fun policy' counted marking => ?_) (fun _ _ _ holds => holds)
          rw [stands] at marking
          cases marking
      | idle => simpa only [State.apply, stands] using sound
      | read policy' watermark => simpa only [State.apply, stands] using sound
      | marking policy' watermark counted => simpa only [State.apply, stands] using sound
  | mark pass =>
      cases stands : state.passes pass with
      | marking policy watermark counted =>
          simp only [State.apply, stands]
          exact sound.mark stands clear
      | idle => simpa only [State.apply, stands] using sound
      | read policy' watermark => simpa only [State.apply, stands] using sound
      | summed policy' watermark counted callValue => simpa only [State.apply, stands] using sound
  | stop pass =>
      cases stands : state.passes pass with
      | read policy watermark =>
          simp only [State.apply, stands]
          refine sound.quiet (fun policy' counted marking => ?_) (fun _ _ _ holds => holds)
          rw [stands] at marking
          cases marking
      | marking policy watermark counted =>
          simp only [State.apply, stands]
          refine sound.quiet (fun policy' counted' marking => ?_) (fun _ _ _ holds => holds)
          rw [stands] at marking
          obtain ⟨rfl, rfl⟩ := marking
          exact clear policy watermark counted stands
      | idle => simpa only [State.apply, stands] using sound
      | summed policy' watermark counted callValue => simpa only [State.apply, stands] using sound

theorem State.Sound.start {state : State} (initial : state.Initial) : state.Sound := by
  rw [State.Initial] at initial
  have empty : ∀ index : Nat, state.rows[index]? = none := by
    rw [initial]
    exact fun _ => rfl
  have idle : ∀ pass policy watermark counted, ¬(state.passes pass).Holds policy watermark counted := by
    rw [initial]
    exact fun _ _ _ _ holds => holds
  refine ⟨?_, ?_, ?_, ?_, ?_, ?_⟩
  · intro index row found
    rw [empty] at found
    cases found
  · intro policy first marked
    rw [initial] at marked
    cases marked
  · intro policy watermark current
    rw [initial] at current
    cases current
  · intro pass policy watermark counted holds
    exact absurd holds (idle pass policy watermark counted)
  · intro settlement member
    rw [initial] at member
    cases member
  · intro index row policy first watermark found
    rw [empty] at found
    cases found

/-- In every run whose events are clear, every call is charged once. -/
theorem charged_once {state : State} (reached : State.Reached State.Clear state) :
    state.ChargedOnce := by
  have sound : state.Sound :=
    reached.fires State.Sound (fun _ initial => .start initial) fun _ _ sound clear =>
      sound.apply clear
  exact sound.charged

/-! ## Traces -/

def State.replay (state : State) (events : List Event) : State :=
  events.foldl State.apply state

namespace Demo

def policy : Policy := ⟨"agent", "api.example.com"⟩

def start : State := ⟨0, [], fun _ => none, fun _ => none, fun _ => .idle, []⟩

def opening : List Event :=
  [.tick 1000000000, .read 0 policy, .sum 0, .mark 0, .tick 1000000,
    .insert (some "agent") "api.example.com" (some 10), .commit 0]

def settled : State := start.replay (opening ++ [.read 0 policy, .sum 0, .land 0, .mark 0])

def skipped : State :=
  start.replay (opening ++ [.read 0 policy, .sum 0, .tick 1000000,
    .insert (some "agent") "api.example.com" (some 20), .commit 1, .land 0, .mark 0])

example : settled.count 0 = 1 := by decide +kernel

/-- Two passes sum the same call before either moves the watermark. -/
example : (start.replay (opening ++ [.read 0 policy, .sum 0, .read 1 policy, .sum 1, .land 0,
    .mark 0, .land 1, .mark 1])).count 0 = 2 := by decide +kernel

theorem settled_allowed :
    Allows State.apply State.Clear start (opening ++ [.read 0 policy, .sum 0, .land 0, .mark 0]) := by
  refine ⟨trivial, trivial, ?_, ?_, trivial, ?_, trivial, trivial, ?_, trivial, ?_, trivial⟩
  · intro policy' watermark stands index member row first last found marked
    cases marked
  · intro policy' watermark counted last stands current
    cases stands
    cases current
  · intro agent same watermark current
    cases same
    cases current
    decide
  · intro policy' watermark stands index member row first last found marked late current
    cases stands
    cases current
    refine ⟨?_, fun other watermark' counted holds => ?_⟩
    · cases index with
      | zero =>
          cases found
          decide
      | succ index => cases found
    · rcases State.setPhase_cases (Phase.Holds policy watermark' counted) holds with
        ⟨-, new⟩ | ⟨differ, old⟩
      · cases new
      · change Phase.Holds policy _ _ (Function.update (Function.update (Function.update
          (fun _ : Nat => Phase.idle) 0 _) 0 _) 0 _ other) at old
        simp only [Function.update_of_ne differ] at old
        cases old
  · intro policy' watermark counted last stands current index row found billed present ahead
    cases stands
    cases index with
    | zero => decide +kernel
    | succ index => cases found

theorem charged_once_settled : State.ChargedOnce settled :=
  charged_once (Reachable.replay _ (.start rfl) settled_allowed)

theorem charged_once_fails : ¬∀ state, State.Reached (fun _ _ => True) state → state.ChargedOnce := by
  intro holds
  have reached : State.Reached (fun _ _ => True) skipped :=
    Reachable.replay _ (.start rfl) (allows_all _ _)
  have charged := (holds skipped reached 1
    ⟨some "agent", "api.example.com", some 20, 1002000000, .visible⟩ policy 1000000000 (by rfl) rfl
    (by decide) (by rfl) (by decide)).2 1002000000 (by rfl) (by decide)
  have uncharged : skipped.count 1 = 0 := by decide +kernel
  rw [uncharged] at charged
  cases charged

end Demo

end PactNetwork.Backend.Crank
