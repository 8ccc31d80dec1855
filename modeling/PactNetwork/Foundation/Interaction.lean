/-!
# Interactive programs

A program that asks its surroundings questions and goes on with the answers.
`Ensures` is the precondition under which every run ends well while the world
around the program moves on between question and answer.
-/

set_option autoImplicit false

namespace PactNetwork

inductive Interaction (Q A α : Type) : Type where
  | done (result : α)
  | ask (question : Q) (next : A → Interaction Q A α)

namespace Interaction

variable {Q A α β : Type}

def bind (program : Interaction Q A α) (next : α → Interaction Q A β) : Interaction Q A β :=
  match program with
  | .done result => next result
  | .ask question rest => .ask question fun answer => (rest answer).bind next

instance : Monad (Interaction Q A) where
  pure := .done
  bind := Interaction.bind

def query (question : Q) : Interaction Q A A := .ask question .done

@[simp] theorem pure_eq (result : α) : (pure result : Interaction Q A α) = .done result := rfl

@[simp] theorem done_bind (result : α) (next : α → Interaction Q A β) :
    (Interaction.done result >>= next) = next result := rfl

@[simp] theorem ask_bind (question : Q) (rest : A → Interaction Q A α)
    (next : α → Interaction Q A β) :
    (Interaction.ask question rest >>= next) =
      .ask question fun answer => rest answer >>= next := rfl

@[simp] theorem query_bind (question : Q) (next : A → Interaction Q A β) :
    (query question >>= next) = .ask question next := rfl

/-! ## Transcripts -/

/-- The program gives `result` after exactly these questions and answers. -/
def Yields : Interaction Q A α → List (Q × A) → α → Prop
  | .done result, transcript, final => transcript = [] ∧ result = final
  | .ask _ _, [], _ => False
  | .ask question next, (asked, answer) :: rest, final =>
      asked = question ∧ (next answer).Yields rest final

theorem yields_bind {program : Interaction Q A α} {next : α → Interaction Q A β}
    {transcript : List (Q × A)} {final : β} :
    (program >>= next).Yields transcript final ↔ ∃ front back middle,
      transcript = front ++ back ∧ program.Yields front middle ∧
        (next middle).Yields back final := by
  induction program generalizing transcript with
  | done result =>
      constructor
      · intro yields
        exact ⟨[], transcript, result, rfl, ⟨rfl, rfl⟩, yields⟩
      · rintro ⟨front, back, middle, rfl, ⟨rfl, rfl⟩, yields⟩
        exact yields
  | ask question rest ih =>
      rw [ask_bind]
      cases transcript with
      | nil =>
          constructor
          · exact False.elim
          · rintro ⟨front, back, middle, split, yields, -⟩
            obtain ⟨rfl, rfl⟩ := List.append_eq_nil_iff.mp split.symm
            exact yields
      | cons exchange transcript =>
          constructor
          · rintro ⟨same, yields⟩
            obtain ⟨front, back, middle, rfl, first, second⟩ := (ih _).mp yields
            exact ⟨exchange :: front, back, middle, rfl, ⟨same, first⟩, second⟩
          · rintro ⟨front, back, middle, split, first, second⟩
            cases front with
            | nil => exact first.elim
            | cons head front =>
                obtain ⟨rfl, rfl⟩ := List.cons_eq_cons.mp split
                exact ⟨first.1, (ih _).mpr ⟨front, back, middle, rfl, first.2, second⟩⟩

/-! ## Questions -/

/-- Whatever the answers, the program asks questions of one kind and ends well. -/
def Asks (kind : Q → Prop) (post : α → Prop) : Interaction Q A α → Prop
  | .done result => post result
  | .ask question next => kind question ∧ ∀ answer, Asks kind post (next answer)

section Asks

variable {kind : Q → Prop}

theorem Asks.bind {post : β → Prop} {middle : α → Prop} {program : Interaction Q A α}
    {next : α → Interaction Q A β} (first : program.Asks kind middle)
    (rest : ∀ result, middle result → (next result).Asks kind post) :
    (program >>= next).Asks kind post := by
  induction program with
  | done result => exact rest result first
  | ask question later ih => exact ⟨first.1, fun answer => ih answer (first.2 answer)⟩

theorem Asks.yields {post : α → Prop} {program : Interaction Q A α} {transcript : List (Q × A)}
    {final : α} (asks : program.Asks kind post) (yields : program.Yields transcript final) :
    (∀ exchange ∈ transcript, kind exchange.1) ∧ post final := by
  induction program generalizing transcript with
  | done result =>
      obtain ⟨rfl, rfl⟩ := yields
      exact ⟨nofun, asks⟩
  | ask question next ih =>
      cases transcript with
      | nil => exact yields.elim
      | cons exchange transcript =>
          obtain ⟨same, later⟩ := yields
          obtain ⟨rest, ends⟩ := ih _ (asks.2 _) later
          refine ⟨fun other member => ?_, ends⟩
          rcases List.mem_cons.mp member with rfl | inRest
          · exact same ▸ asks.1
          · exact rest other inRest

end Asks

/-! ## Accounting for failure -/

/-- The program ends well as long as every answer is a good one, and badly
after the first that is not. -/
def Tracks (good : Q × A → Prop) (post : α → Prop) : Interaction Q A α → Prop
  | .done result => post result
  | .ask question next => ∀ answer,
      (good (question, answer) → Tracks good post (next answer)) ∧
        (¬good (question, answer) →
          Asks (fun _ => True) (fun result => ¬post result) (next answer))

section Tracks

variable {good : Q × A → Prop}

theorem Tracks.bind {post : β → Prop} {middle : α → Prop} {program : Interaction Q A α}
    {next : α → Interaction Q A β} (first : program.Tracks good middle)
    (well : ∀ result, middle result → (next result).Tracks good post)
    (badly : ∀ result, ¬middle result →
      (next result).Asks (fun _ => True) fun final => ¬post final) :
    (program >>= next).Tracks good post := by
  induction program with
  | done result => exact well result first
  | ask question later ih =>
      intro answer
      constructor
      · exact fun fine => ih answer ((first answer).1 fine)
      · exact fun bad => ((first answer).2 bad).bind badly

theorem Asks.tracks {kind : Q → Prop} {post : α → Prop} {program : Interaction Q A α}
    (asks : program.Asks kind post)
    (always : ∀ question answer, kind question → good (question, answer)) :
    program.Tracks good post := by
  induction program with
  | done result => exact asks
  | ask question next ih =>
      intro answer
      constructor
      · exact fun _ => ih answer (asks.2 answer)
      · exact fun bad => absurd (always question answer asks.1) bad

theorem Tracks.yields {post : α → Prop} {program : Interaction Q A α}
    {transcript : List (Q × A)} {final : α} (tracks : program.Tracks good post)
    (yields : program.Yields transcript final) :
    post final ↔ ∀ exchange ∈ transcript, good exchange := by
  induction program generalizing transcript with
  | done result =>
      obtain ⟨rfl, rfl⟩ := yields
      constructor
      · exact fun _ => nofun
      · exact fun _ => tracks
  | ask question next ih =>
      cases transcript with
      | nil => exact yields.elim
      | cons exchange transcript =>
          obtain ⟨asked, answer⟩ := exchange
          obtain ⟨rfl, later⟩ := yields
          rw [List.forall_mem_cons]
          by_cases fine : good (asked, answer)
          · rw [ih answer ((tracks answer).1 fine) later, and_iff_right fine]
          · have ends := (((tracks answer).2 fine).yields later).2
            exact ⟨fun holds => absurd holds ends, fun both => absurd both.1 fine⟩

end Tracks

/-! ## Preconditions -/

section Ensures

variable {W : Type} {future : W → W → Prop} {allowed : W → Q → A → Prop}

/-- Every run from `world` ends with `post`, whatever the world becomes before
each answer and whichever allowed answer comes. -/
def Ensures (future : W → W → Prop) (allowed : W → Q → A → Prop) (post : W → α → Prop) :
    Interaction Q A α → W → Prop
  | .done result, world => post world result
  | .ask question next, world => ∀ later, future world later →
      ∀ answer, allowed later question answer → Ensures future allowed post (next answer) later

theorem ensures_bind {post : W → β → Prop} {program : Interaction Q A α}
    {next : α → Interaction Q A β} {world : W} :
    Ensures future allowed post (program >>= next) world ↔
      Ensures future allowed (fun later result => Ensures future allowed post (next result) later)
        program world := by
  induction program generalizing world with
  | done result => rfl
  | ask question rest ih =>
      exact forall_congr' fun later => forall_congr' fun _ => forall_congr' fun answer =>
        forall_congr' fun _ => ih answer

theorem Ensures.mono {post weaker : W → α → Prop} {program : Interaction Q A α} {world : W}
    (holds : Ensures future allowed post program world)
    (implies : ∀ later result, post later result → weaker later result) :
    Ensures future allowed weaker program world := by
  induction program generalizing world with
  | done result => exact implies _ _ holds
  | ask question rest ih =>
      exact fun later after answer permitted => ih answer (holds later after answer permitted)

theorem Ensures.later {post : W → α → Prop} {program : Interaction Q A α} {world after : W}
    (holds : Ensures future allowed post program world) (passes : future world after)
    (transitive : ∀ {first second third}, future first second → future second third →
      future first third)
    (stable : ∀ {first second result}, future first second → post first result →
      post second result) : Ensures future allowed post program after := by
  cases program with
  | done result => exact stable passes holds
  | ask question next =>
      exact fun final reaches answer permitted =>
        holds final (transitive passes reaches) answer permitted

end Ensures

end Interaction

end PactNetwork
