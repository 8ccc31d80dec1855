import PactNetwork.Foundation.Journal
import PactNetwork.Foundation.Tally
import PactNetwork.Settlement.Core

/-!
# The hourly exposure window

An endpoint read after every step of a run: what was paid since the last
reset stays under what was reserved, and that under the largest cap in force
since then. Any hour of the clock meets at most two windows.
-/

set_option autoImplicit false

namespace PactNetwork.Settlement

/-- What a step leaves of an endpoint, and the refunds paid in the step. -/
structure Reading where
  time : Int
  endpoint : Endpoint
  paid : Nat

abbrev Reading.start (reading : Reading) : Int := reading.endpoint.periodStart

/-! ## One step -/

/-- Settling any number of calls at one time: nothing is paid and the window
stays, or the window is rolled and what is paid has been reserved. -/
def Endpoint.Accrues (before : Endpoint) (now : Int) (paid : Nat) (after : Endpoint) : Prop :=
  after.cap = before.cap ∧
    ((paid = 0 ∧ after.periodStart = before.periodStart ∧
        after.periodRefunds = before.periodRefunds) ∨
      (after.periodStart = (before.roll now).periodStart ∧
        (before.roll now).periodRefunds + paid ≤ after.periodRefunds ∧
        after.periodRefunds ≤ max (before.roll now).periodRefunds before.cap))

section Accrues

variable {first second third endpoint : Endpoint} {now : Int} {paid more : Nat}

theorem Endpoint.Accrues.refl (endpoint : Endpoint) (now : Int) : endpoint.Accrues now 0 endpoint :=
  ⟨rfl, .inl ⟨rfl, rfl, rfl⟩⟩

theorem roll_cap (endpoint : Endpoint) (now : Int) : (endpoint.roll now).cap = endpoint.cap := by
  unfold Endpoint.roll
  split <;> rfl

theorem roll_of_rolled (same : second.periodStart = (first.roll now).periodStart) :
    second.roll now = second := by
  unfold Endpoint.roll at same ⊢
  split at same
  case isTrue =>
    dsimp only at same
    exact if_neg (by omega)
  case isFalse current =>
    rw [same]
    exact if_neg current

theorem Endpoint.Accrues.trans (left : first.Accrues now paid second)
    (right : second.Accrues now more third) : first.Accrues now (paid + more) third := by
  obtain ⟨cap, left⟩ := left
  obtain ⟨cap', right⟩ := right
  refine ⟨cap'.trans cap, ?_⟩
  rcases left with ⟨rfl, start, refunds⟩ | ⟨start, reserved, bounded⟩
  · rw [Nat.zero_add]
    have rolled : (second.roll now).periodStart = (first.roll now).periodStart ∧
        (second.roll now).periodRefunds = (first.roll now).periodRefunds := by
      unfold Endpoint.roll
      rw [start]
      split
      · exact ⟨rfl, rfl⟩
      · exact ⟨start, refunds⟩
    rcases right with ⟨rfl, start', refunds'⟩ | right
    · exact .inl ⟨rfl, start'.trans start, refunds'.trans refunds⟩
    · rw [rolled.1, rolled.2, cap] at right
      exact .inr right
  · rw [roll_of_rolled start, cap] at right
    rcases right with ⟨rfl, start', refunds'⟩ | ⟨start', reserved', bounded'⟩
    · exact .inr ⟨start'.trans start, by omega, by omega⟩
    · exact .inr ⟨start'.trans start, by omega, by omega⟩

theorem settle_accrues (pool : Pool) (endpoint : Endpoint) (now : Int) (call : Call) :
    endpoint.Accrues now (settle pool endpoint now call).refund
      (settle pool endpoint now call).endpoint := by
  have window : ((endpoint.roll now).periodRefunds + (endpoint.roll now).payable call.refund) ≤
      max (endpoint.roll now).periodRefunds endpoint.cap := by
    have same := roll_cap endpoint now
    unfold Endpoint.payable
    omega
  rcases Nat.lt_or_ge (pool.collect call).balance
    ((endpoint.roll now).payable call.refund) with short | covered
  · rw [settle_of_short short]
    exact ⟨roll_cap endpoint now, .inr ⟨rfl, Nat.le_add_right _ _, window⟩⟩
  · rw [settle_of_covered rfl covered]
    exact ⟨roll_cap endpoint now, .inr ⟨rfl, Nat.le_refl _, window⟩⟩

end Accrues

/-! ## Runs -/

/-- The readings of a run with a clock that does not go back, latest first: the
endpoint is registered, settles calls and has its settings changed. -/
inductive Metered : List Reading → Prop
  | registered {time : Int} {endpoint : Endpoint} (start : endpoint.periodStart = time)
      (empty : endpoint.periodRefunds = 0) : Metered [⟨time, endpoint, 0⟩]
  | accrued {last : Reading} {earlier : List Reading} {now : Int} {paid : Nat} {after : Endpoint}
      (sofar : Metered (last :: earlier)) (clock : last.time ≤ now)
      (accrues : last.endpoint.Accrues now paid after) :
      Metered (⟨now, after, paid⟩ :: last :: earlier)
  | configured {last : Reading} {earlier : List Reading} {now : Int} {after : Endpoint}
      (sofar : Metered (last :: earlier)) (clock : last.time ≤ now)
      (start : after.periodStart = last.start)
      (refunds : after.periodRefunds = last.endpoint.periodRefunds) :
      Metered (⟨now, after, 0⟩ :: last :: earlier)

/-- The refunds paid while the window that began at `start` was current. -/
def paidSince (start : Int) (readings : List Reading) : Nat :=
  tally Reading.paid (fun reading => reading.start = start) readings

def peakSince (start : Int) (readings : List Reading) : Nat :=
  ((readings.filter fun reading => reading.start = start).map fun reading =>
    reading.endpoint.cap).foldr max 0

def paidWithin (first last : Int) (readings : List Reading) : Nat :=
  tally Reading.paid (fun reading => first ≤ reading.time ∧ reading.time ≤ last) readings

structure Capped (readings : List Reading) : Prop where
  reserved : ∀ latest earlier, readings = latest :: earlier →
    paidSince latest.start readings ≤ latest.endpoint.periodRefunds
  bounded : ∀ latest earlier, readings = latest :: earlier →
    latest.endpoint.periodRefunds ≤ peakSince latest.start readings
  apart : readings.Pairwise fun later earlier =>
    earlier.start = later.start ∨ earlier.start + 3600 < later.start
  hourly : ∀ cap, (∀ reading ∈ readings, reading.endpoint.cap = cap) →
    ∀ first, paidWithin first (first + 3600) readings ≤ 2 * cap

section Metered

variable {readings earlier : List Reading} {latest : Reading}

theorem paidSince_cons (start : Int) :
    paidSince start (latest :: earlier) =
      (if latest.start = start then latest.paid else 0) + paidSince start earlier :=
  tally_cons _ _ latest earlier

theorem peakSince_cons (start : Int) :
    peakSince start (latest :: earlier) =
      if latest.start = start then max latest.endpoint.cap (peakSince start earlier)
      else peakSince start earlier := by
  by_cases same : latest.start = start <;> simp [peakSince, same]

theorem peakSince_le {cap : Nat} (constant : ∀ reading ∈ readings, reading.endpoint.cap = cap)
    (start : Int) : peakSince start readings ≤ cap := by
  induction readings with
  | nil => exact Nat.zero_le cap
  | cons reading rest ih =>
      have tail := ih fun later member => constant later (List.mem_cons_of_mem _ member)
      rw [peakSince_cons, constant reading List.mem_cons_self]
      split
      · exact Nat.max_le.mpr ⟨Nat.le_refl cap, tail⟩
      · exact tail

/-- What holds of the readings of a run, by its latest reading. -/
structure Windowed (latest : Reading) (earlier : List Reading) : Prop where
  begun : latest.start ≤ latest.time
  timely : ∀ reading ∈ latest :: earlier, reading.paid ≠ 0 →
    reading.start ≤ reading.time ∧ reading.time ≤ reading.start + 3600
  reserved : paidSince latest.start (latest :: earlier) ≤ latest.endpoint.periodRefunds
  bounded : latest.endpoint.periodRefunds ≤ peakSince latest.start (latest :: earlier)
  covered : ∀ start, paidSince start (latest :: earlier) ≤ peakSince start (latest :: earlier)
  apart : (latest :: earlier).Pairwise fun later earlier =>
    earlier.start = later.start ∨ earlier.start + 3600 < later.start

theorem Windowed.registered {time : Int} {endpoint : Endpoint}
    (start : endpoint.periodStart = time) (empty : endpoint.periodRefunds = 0) :
    Windowed ⟨time, endpoint, 0⟩ [] where
  begun := start.le
  timely reading member paid := by
    rw [List.mem_singleton.mp member] at paid
    exact absurd rfl paid
  reserved := by
    rw [paidSince_cons, ite_self]
    exact Nat.zero_le _
  bounded := empty.le.trans (Nat.zero_le _)
  covered other := by
    rw [paidSince_cons, ite_self]
    exact Nat.zero_le _
  apart := List.pairwise_singleton _ _

theorem Windowed.latest_apart (windowed : Windowed latest earlier) {reading : Reading}
    (member : reading ∈ latest :: earlier) :
    reading.start = latest.start ∨ reading.start + 3600 < latest.start := by
  rcases List.mem_cons.mp member with rfl | before
  · exact .inl rfl
  · exact (List.pairwise_cons.mp windowed.apart).1 reading before

theorem Windowed.next {next : Reading} (windowed : Windowed latest earlier)
    (begun : next.start ≤ next.time)
    (timely : next.paid ≠ 0 → next.time ≤ next.start + 3600)
    (reserved : paidSince next.start (next :: latest :: earlier) ≤ next.endpoint.periodRefunds)
    (bounded : next.endpoint.periodRefunds ≤ peakSince next.start (next :: latest :: earlier))
    (apart : next.start = latest.start ∨ latest.start + 3600 < next.start) :
    Windowed next (latest :: earlier) where
  begun := begun
  timely reading member paid := by
    rcases List.mem_cons.mp member with rfl | before
    · exact ⟨begun, timely paid⟩
    · exact windowed.timely reading before paid
  reserved := reserved
  bounded := bounded
  covered start := by
    by_cases same : next.start = start
    · subst same
      exact reserved.trans bounded
    · rw [paidSince_cons, peakSince_cons, if_neg same, if_neg same, Nat.zero_add]
      exact windowed.covered start
  apart := by
    refine List.pairwise_cons.mpr ⟨fun reading member => ?_, windowed.apart⟩
    have before := windowed.latest_apart member
    omega

theorem Windowed.stays {next : Reading} (windowed : Windowed latest earlier)
    (start : next.start = latest.start) (clock : latest.time ≤ next.time)
    (timely : next.paid ≠ 0 → next.time ≤ next.start + 3600)
    (reserves : latest.endpoint.periodRefunds + next.paid ≤ next.endpoint.periodRefunds)
    (bounded : next.endpoint.periodRefunds ≤
      max latest.endpoint.periodRefunds next.endpoint.cap) :
    Windowed next (latest :: earlier) := by
  have held := windowed.reserved
  have peak := windowed.bounded
  refine windowed.next ?_ timely ?_ ?_ (.inl start)
  · have begun := windowed.begun
    omega
  · rw [paidSince_cons, if_pos rfl, start]
    omega
  · rw [peakSince_cons, if_pos rfl, start]
    omega

theorem Windowed.opens {next : Reading} (windowed : Windowed latest earlier)
    (start : next.start = next.time) (late : latest.start + 3600 < next.time)
    (reserves : next.paid ≤ next.endpoint.periodRefunds)
    (bounded : next.endpoint.periodRefunds ≤ next.endpoint.cap) :
    Windowed next (latest :: earlier) := by
  have unpaid : paidSince next.start (latest :: earlier) = 0 := by
    refine tally_eq_zero fun reading member same => ?_
    have before := windowed.latest_apart member
    omega
  refine windowed.next start.le (fun _ => by omega) ?_ ?_ (.inr (by omega))
  · rw [paidSince_cons, if_pos rfl, unpaid]
    exact reserves
  · rw [peakSince_cons, if_pos rfl]
    exact bounded.trans (Nat.le_max_left _ _)

theorem Windowed.accrued {now : Int} {paid : Nat} {after : Endpoint}
    (windowed : Windowed latest earlier) (clock : latest.time ≤ now)
    (accrues : latest.endpoint.Accrues now paid after) :
    Windowed ⟨now, after, paid⟩ (latest :: earlier) := by
  obtain ⟨cap, ⟨rfl, start, refunds⟩ | ⟨start, reserves, bounded⟩⟩ := accrues
  · refine windowed.stays start clock (fun paid => absurd rfl paid) ?_ ?_
    · exact refunds.ge
    · exact refunds.le.trans (Nat.le_max_left _ _)
  · unfold Endpoint.roll at start reserves bounded
    split at start
    case isTrue late =>
      rw [if_pos late] at reserves bounded
      dsimp only at reserves bounded
      refine windowed.opens start late ?_ ?_
      · dsimp only
        omega
      · dsimp only
        omega
    case isFalse current =>
      rw [if_neg current] at reserves bounded
      refine windowed.stays start clock (fun _ => ?_) reserves ?_
      · show now ≤ after.periodStart + 3600
        omega
      · rw [← cap] at bounded
        exact bounded

theorem Metered.windowed (metered : Metered readings) :
    ∃ latest earlier, readings = latest :: earlier ∧ Windowed latest earlier := by
  induction metered with
  | registered start empty => exact ⟨_, _, rfl, .registered start empty⟩
  | accrued sofar clock accrues ih =>
      obtain ⟨latest, earlier, same, windowed⟩ := ih
      cases same
      exact ⟨_, _, rfl, windowed.accrued clock accrues⟩
  | configured sofar clock start refunds ih =>
      obtain ⟨latest, earlier, same, windowed⟩ := ih
      cases same
      refine ⟨_, _, rfl, windowed.stays start clock (fun paid => absurd rfl paid) ?_ ?_⟩
      · exact refunds.ge
      · exact refunds.le.trans (Nat.le_max_left _ _)

/-! ## Any hour -/

theorem Windowed.tally_le {cap : Nat} (windowed : Windowed latest earlier)
    (constant : ∀ reading ∈ latest :: earlier, reading.endpoint.cap = cap)
    {keep : Reading → Prop} [DecidablePred keep]
    (together : ∀ left ∈ latest :: earlier, ∀ right ∈ latest :: earlier, keep left → keep right →
      left.paid ≠ 0 → right.paid ≠ 0 → left.start = right.start) :
    tally Reading.paid keep (latest :: earlier) ≤ cap := by
  by_cases pays : ∃ reading ∈ latest :: earlier, keep reading ∧ reading.paid ≠ 0
  · obtain ⟨reading, member, kept, paid⟩ := pays
    calc
      tally Reading.paid keep (latest :: earlier)
          ≤ paidSince reading.start (latest :: earlier) :=
        tally_le_of_ne_zero fun other inside also pays =>
          together other inside reading member also kept pays paid
      _ ≤ peakSince reading.start (latest :: earlier) := windowed.covered reading.start
      _ ≤ cap := peakSince_le constant reading.start
  · refine (tally_eq_zero fun reading member kept => ?_).trans_le (Nat.zero_le cap)
    by_contra paid
    exact pays ⟨reading, member, kept, paid⟩

theorem Windowed.hourly {cap : Nat} (windowed : Windowed latest earlier)
    (constant : ∀ reading ∈ latest :: earlier, reading.endpoint.cap = cap) (first : Int) :
    paidWithin first (first + 3600) (latest :: earlier) ≤ 2 * cap := by
  have separate : ∀ left ∈ latest :: earlier, ∀ right ∈ latest :: earlier,
      left.start = right.start ∨ left.start + 3600 < right.start ∨
        right.start + 3600 < left.start := by
    refine List.Pairwise.forall_of_forall_of_flip (fun _ _ => .inl rfl)
      (windowed.apart.imp fun either => ?_) (windowed.apart.imp fun either => ?_)
    · omega
    · simp only [flip]
      omega
  have before : tally Reading.paid (fun reading => (first ≤ reading.time ∧
      reading.time ≤ first + 3600) ∧ reading.start ≤ first) (latest :: earlier) ≤ cap := by
    refine windowed.tally_le constant ?_
    rintro left inLeft right inRight ⟨hourLeft, oldLeft⟩ ⟨hourRight, oldRight⟩ paidLeft paidRight
    have timelyLeft := windowed.timely left inLeft paidLeft
    have timelyRight := windowed.timely right inRight paidRight
    have either := separate left inLeft right inRight
    omega
  have inside : tally Reading.paid (fun reading => (first ≤ reading.time ∧
      reading.time ≤ first + 3600) ∧ first < reading.start) (latest :: earlier) ≤ cap := by
    refine windowed.tally_le constant ?_
    rintro left inLeft right inRight ⟨hourLeft, newLeft⟩ ⟨hourRight, newRight⟩ paidLeft paidRight
    have timelyLeft := windowed.timely left inLeft paidLeft
    have timelyRight := windowed.timely right inRight paidRight
    have either := separate left inLeft right inRight
    omega
  have both : paidWithin first (first + 3600) (latest :: earlier) ≤
      tally Reading.paid (fun reading => (first ≤ reading.time ∧
        reading.time ≤ first + 3600) ∧ reading.start ≤ first) (latest :: earlier) +
      tally Reading.paid (fun reading => (first ≤ reading.time ∧
        reading.time ≤ first + 3600) ∧ first < reading.start) (latest :: earlier) := by
    refine tally_le_add fun reading _ hour => ?_
    rcases Int.lt_or_le first reading.start with new | old
    · exact .inr ⟨hour, new⟩
    · exact .inl ⟨hour, old⟩
  omega

theorem Metered.capped (metered : Metered readings) : Capped readings := by
  obtain ⟨latest, earlier, rfl, windowed⟩ := metered.windowed
  exact {
    reserved := by
      rintro _ _ ⟨rfl, rfl⟩
      exact windowed.reserved
    bounded := by
      rintro _ _ ⟨rfl, rfl⟩
      exact windowed.bounded
    apart := windowed.apart
    hourly := fun cap constant first => windowed.hourly constant first }

theorem capped_nil : Capped [] where
  reserved := nofun
  bounded := nofun
  apart := .nil
  hourly _ _ _ := Nat.zero_le _

end Metered

/-! ## Endpoints of a system -/

/-- Settling calls of an endpoint that may not exist: without it nothing is paid. -/
inductive Settles (now : Int) : Option Endpoint → Nat → Option Endpoint → Prop
  | absent : Settles now none 0 none
  | accrued {before after : Endpoint} {paid : Nat} (accrues : before.Accrues now paid after) :
      Settles now (some before) paid (some after)

theorem Settles.refl (endpoint : Option Endpoint) (now : Int) : Settles now endpoint 0 endpoint := by
  cases endpoint with
  | none => exact .absent
  | some endpoint => exact .accrued (.refl endpoint now)

theorem Settles.trans {now : Int} {first second third : Option Endpoint} {paid more : Nat}
    (left : Settles now first paid second) (right : Settles now second more third) :
    Settles now first (paid + more) third := by
  cases left with
  | absent =>
      cases right with
      | absent => exact .absent
  | accrued accrues =>
      cases right with
      | accrued accrues' => exact .accrued (accrues.trans accrues')

inductive Meters (now : Int) : Option Endpoint → Nat → Option Endpoint → Prop
  | settled {before after : Option Endpoint} {paid : Nat} (settles : Settles now before paid after) :
      Meters now before paid after
  | registered {endpoint : Endpoint} (start : endpoint.periodStart = now)
      (empty : endpoint.periodRefunds = 0) : Meters now none 0 (some endpoint)
  | configured {before after : Endpoint} (start : after.periodStart = before.periodStart)
      (refunds : after.periodRefunds = before.periodRefunds) :
      Meters now (some before) 0 (some after)

theorem Meters.refl (endpoint : Option Endpoint) (now : Int) : Meters now endpoint 0 endpoint :=
  .settled (.refl endpoint now)

/-- The readings of a run that ends with `endpoint` at time `now`. -/
inductive MeteredTo (now : Int) : Option Endpoint → List Reading → Prop
  | absent : MeteredTo now none []
  | present {endpoint : Endpoint} {paid : Nat} {earlier : List Reading}
      (metered : Metered (⟨now, endpoint, paid⟩ :: earlier)) :
      MeteredTo now (some endpoint) (⟨now, endpoint, paid⟩ :: earlier)

def takeReading (now : Int) (endpoint : Option Endpoint) (paid : Nat) : Option Reading :=
  endpoint.map fun endpoint => ⟨now, endpoint, paid⟩

section MeteredTo

variable {time now : Int} {before after : Option Endpoint} {paid : Nat} {readings : List Reading}

theorem MeteredTo.next (sofar : MeteredTo time before readings) (clock : time ≤ now)
    (meters : Meters now before paid after) :
    MeteredTo now after ((takeReading now after paid).toList ++ readings) := by
  cases meters with
  | settled settles =>
      cases settles with
      | absent =>
          cases sofar with
          | absent => exact .absent
      | accrued accrues =>
          cases sofar with
          | present metered => exact .present (metered.accrued clock accrues)
  | registered start empty =>
      cases sofar with
      | absent => exact .present (.registered start empty)
  | configured start refunds =>
      cases sofar with
      | present metered => exact .present (metered.configured clock start refunds)

theorem MeteredTo.capped (sofar : MeteredTo time before readings) : Capped readings := by
  cases sofar with
  | absent => exact capped_nil
  | present metered => exact metered.capped

end MeteredTo

section Journal

variable {σ ρ : Type} (clock : σ → Int) (endpoint : σ → Option Endpoint) (paid : ρ → Nat)

def readings (log : List (ρ × σ)) : List Reading :=
  log.filterMap fun entry => takeReading (clock entry.2) (endpoint entry.2) (paid entry.1)

theorem readings_cons (entry : ρ × σ) (log : List (ρ × σ)) :
    readings clock endpoint paid (entry :: log) =
      (takeReading (clock entry.2) (endpoint entry.2) (paid entry.1)).toList ++
        readings clock endpoint paid log := by
  unfold readings
  rw [List.filterMap_cons]
  split
  case h_1 absent => rw [absent, Option.toList_none, List.nil_append]
  case h_2 present => rw [present, Option.toList_some, List.singleton_append]

variable {clock endpoint paid} {initial : σ → Prop} {step : σ → ρ → σ → Prop} {state : σ}
  {log : List (ρ × σ)}

theorem capped_of_journal (good : σ → Prop) (journal : Journal initial step state log)
    (base : ∀ first, initial first → good first ∧ endpoint first = none)
    (stays : ∀ before label after, good before → step before label after → good after)
    (meters : ∀ before label after, good before → step before label after →
      clock before ≤ clock after ∧
        Meters (clock after) (endpoint before) (paid label) (endpoint after)) :
    Capped (readings clock endpoint paid log) := by
  have whole := journal.invariant (fun state log => good state ∧
    MeteredTo (clock state) (endpoint state) (readings clock endpoint paid log)) ?_ ?_
  · exact whole.2.capped
  · intro first begins
    obtain ⟨sound, absent⟩ := base first begins
    rw [absent]
    exact ⟨sound, .absent⟩
  · rintro before label after log ⟨sound, sofar⟩ moves
    obtain ⟨later, metered⟩ := meters before label after sound moves
    rw [readings_cons]
    exact ⟨stays before label after sound moves, sofar.next later metered⟩

end Journal

end PactNetwork.Settlement
