import Mathlib.Data.List.Forall2
import PactNetwork.Foundation.Checked

/-!
# Programs that agree

Two failing programs agree when both fail, or both succeed with related
results. Which error either fails with does not matter, so the two may check
the same things in different words.
-/

set_option autoImplicit false

namespace PactNetwork

variable {ε ε' α β γ δ : Type}

/-- Both fail, or both succeed with related results. -/
inductive Agree (related : α → β → Prop) : Except ε α → Except ε' β → Prop
  | ok {left : α} {right : β} (results : related left right) :
      Agree related (.ok left) (.ok right)
  | error (left : ε) (right : ε') : Agree related (.error left) (.error right)

namespace Agree

variable {related weaker : α → β → Prop} {left : Except ε α} {right : Except ε' β}

theorem mono (agree : Agree related left right)
    (implies : ∀ first second, related first second → weaker first second) :
    Agree weaker left right := by
  cases agree with
  | ok results => exact .ok (implies _ _ results)
  | error first second => exact .error first second

theorem trans {ε'' γ : Type} {middle : Except ε'' γ} {first : α → γ → Prop} {second : γ → β → Prop}
    (agree : Agree first left middle) (agree' : Agree second middle right) :
    Agree (fun start final => ∃ value, first start value ∧ second value final) left right := by
  cases agree with
  | ok results =>
      cases agree' with
      | ok results' => exact .ok ⟨_, results, results'⟩
  | error failure failure' =>
      cases agree' with
      | error _ failure'' => exact .error failure failure''

theorem accepts_iff (agree : Agree related left right) : accepts left ↔ accepts right := by
  cases agree with
  | ok results => exact ⟨fun _ => ⟨_, rfl⟩, fun _ => ⟨_, rfl⟩⟩
  | error first second => exact ⟨nofun, nofun⟩

theorem results {first : α} {second : β} (agree : Agree related left right)
    (accepted : left = .ok first) (accepted' : right = .ok second) : related first second := by
  subst accepted accepted'
  cases agree with
  | ok results => exact results

theorem bind {following : γ → δ → Prop} {next : α → Except ε γ} {next' : β → Except ε' δ}
    (agree : Agree related left right)
    (later : ∀ first second, related first second → Agree following (next first) (next' second)) :
    Agree following (left >>= next) (right >>= next') := by
  cases agree with
  | ok results => exact later _ _ results
  | error first second => exact .error first second

theorem same (source : Except ε α) : Agree (fun first second => first = second) source source := by
  cases source with
  | ok value => exact .ok rfl
  | error failure => exact .error failure failure

theorem of_iff {left : Except ε α} {right : Except ε' α}
    (together : ∀ result, left = .ok result ↔ right = .ok result) :
    Agree (fun first second => first = second) left right := by
  cases left with
  | ok first =>
      rw [(together first).mp rfl]
      exact .ok rfl
  | error failure =>
      cases right with
      | ok second => cases (together second).mpr rfl
      | error failure' => exact .error failure failure'

theorem guard {condition condition' : Prop} [Decidable condition] [Decidable condition']
    {first : ε} {second : ε'} {next : Unit → Except ε α} {next' : Unit → Except ε' β}
    (same : condition ↔ condition')
    (later : ¬condition → Agree related (next ()) (next' ())) :
    Agree related (failIf condition first >>= next) (failIf condition' second >>= next') := by
  by_cases fails : condition
  · rw [failIf_of fails, failIf_of (same.mp fails)]
    exact .error first second
  · rw [failIf_of_not fails, failIf_of_not (same.not.mp fails)]
    exact later fails

theorem failIf {condition condition' : Prop} [Decidable condition] [Decidable condition']
    {first : ε} {second : ε'} {related : Unit → Unit → Prop} (same : condition ↔ condition')
    (results : related () ()) :
    Agree related (failIf condition first) (PactNetwork.failIf condition' second) := by
  by_cases fails : condition
  · rw [failIf_of fails, failIf_of (same.mp fails)]
    exact .error first second
  · rw [failIf_of_not fails, failIf_of_not (same.not.mp fails)]
    exact .ok results

end Agree

theorem mapM_eq_ok {read : α → Except ε β} {items : List α} {results : List β} :
    items.mapM read = .ok results ↔
      List.Forall₂ (fun item result => read item = .ok result) items results := by
  induction items generalizing results with
  | nil =>
      rw [List.mapM_nil, pure_eq_ok, List.forall₂_nil_left_iff]
      exact eq_comm
  | cons item items ih =>
      rw [List.mapM_cons, bind_eq_ok]
      constructor
      · intro accepted
        obtain ⟨first, read, rest⟩ := accepted
        obtain ⟨others, later, same⟩ := (bind_eq_ok _ _ _).mp rest
        rw [← (pure_eq_ok _ _).mp same]
        exact .cons read (ih.mp later)
      · intro results
        cases results with
        | cons read later => exact ⟨_, read, (bind_eq_ok _ _ _).mpr ⟨_, ih.mpr later, rfl⟩⟩

theorem forall₂_comp {first : α → β → Prop} {second : β → γ → Prop} {items : List α}
    {results : List γ} :
    (∃ middle, List.Forall₂ first items middle ∧ List.Forall₂ second middle results) ↔
      List.Forall₂ (fun item result => ∃ value, first item value ∧ second value result)
        items results := by
  constructor
  · intro both
    obtain ⟨middle, early, late⟩ := both
    induction early generalizing results with
    | nil =>
        cases late
        exact .nil
    | cons head _ ih =>
        cases late with
        | cons head' tail' => exact .cons ⟨_, head, head'⟩ (ih tail')
  · intro joined
    induction joined with
    | nil => exact ⟨[], .nil, .nil⟩
    | cons head _ ih =>
        obtain ⟨value, first, second⟩ := head
        obtain ⟨middle, early, late⟩ := ih
        exact ⟨value :: middle, .cons first early, .cons second late⟩

theorem accepts_of_mapM {read : α → Except ε β} {items : List α} {results : List β} {item : α}
    (accepted : items.mapM read = .ok results) (member : item ∈ items) : accepts (read item) := by
  have each := mapM_eq_ok.mp accepted
  induction each with
  | nil => cases member
  | cons head _ ih =>
      cases member with
      | head => exact ⟨_, head⟩
      | tail _ later => exact ih (mapM_eq_ok.mpr ‹_›) later

end PactNetwork
