import PactNetwork.Adapters.EvmAdapter

/-!
# What the tail delivers

On a chain that stops growing, the tail delivers the events of every block from
its start to the finalized head once and in order, and then polls for ever.
-/

set_option autoImplicit false

namespace PactNetwork.Adapters

open Chunks

/-! ## Iterations -/

namespace Tick

variable {α : Type}

def values : Tick α → List α
  | .yields value => [value]
  | _ => []

def Running : Tick α → Prop
  | .yields _ | .waits => True
  | .ends | .throws _ => False

def delivered (tail : Nat → Tick α) : Nat → List α
  | 0 => []
  | turns + 1 => delivered tail turns ++ (tail turns).values

/-- The iteration delivers these values, and then it ends or waits for ever. -/
structure Scans (tail : Nat → Tick α) (values : List α) (ends : Bool) (turns : Nat) : Prop where
  delivered : Tick.delivered tail turns = values
  running : ∀ turn < turns, (tail turn).Running
  rest : if ends then tail turns = .ends else ∀ turn, turns ≤ turn → tail turn = .waits

end Tick

/-! ## A chain that stops growing -/

/-- A node that answers every request about a chain's logs, whose finalized block
goes no further than `head` and stays there. -/
structure PublicClient.Settles {Log : Type} (client : PublicClient Log) (chain : Nat → List Log)
    (head start : Nat) : Prop where
  logs : ∀ turn window, client.getContractEvents turn window = .ok (window.numbers.flatMap chain)
  block : ∀ turn, ∃ number, client.getBlock turn = .ok number ∧ ∀ block ∈ number, block ≤ head
  settled : ∀ turn, start ≤ turn → client.getBlock turn = .ok (some head)

/-- The ids of the events in the blocks from `first` up to but without `next`. -/
def tailIds (chain : Nat → List CallSettledLog) (first next : Nat) : List String :=
  ((List.range' first (next - first)).flatMap chain).map fun log => hexText log.callId.toList

section Tail

variable {adapter : EvmAdapter} {client : PublicClient CallSettledLog}
  {chain : Nat → List CallSettledLog} {fromBlock head start : Nat}

theorem tailIds_self (first : Nat) : tailIds chain first first = [] := by
  rw [tailIds, Nat.sub_self]
  rfl

theorem tailIds_append {first middle next : Nat} (start : first ≤ middle) (stop : middle ≤ next) :
    tailIds chain first middle ++ tailIds chain middle next = tailIds chain first next := by
  have joined : List.range' first (middle - first) ++ List.range' middle (next - middle) =
      List.range' first (next - first) := by
    have whole := List.range'_append_1 (s := first) (m := middle - first) (n := next - middle)
    have total : middle - first + (next - middle) = next - first := by omega
    rwa [Nat.add_sub_of_le start, total] at whole
  rw [tailIds, tailIds, tailIds, ← List.map_append, ← List.flatMap_append, joined]

/-- The ids delivered so far, where the generator stands. -/
inductive Read (chain : Nat → List CallSettledLog) (fromBlock head : Nat) :
    List String → TailState → Prop where
  | polling {next : Nat} (started : fromBlock ≤ next) (bounded : next ≤ max fromBlock (head + 1)) :
      Read chain fromBlock head (tailIds chain fromBlock next) (.polling next)
  | scanning {first finalized : Nat} (started : fromBlock ≤ first) (below : fromBlock ≤ finalized)
      (bounded : finalized ≤ head) :
      Read chain fromBlock head (tailIds chain fromBlock (min first (finalized + 1)))
        (.scanning first finalized)
  | yielding {front : List String} {logs : List CallSettledLog} {next finalized : Nat}
      (started : fromBlock ≤ next) (below : fromBlock ≤ finalized) (bounded : finalized ≤ head)
      (pending : front ++ (logs.map fun log => hexText log.callId.toList) =
        tailIds chain fromBlock (min next (finalized + 1))) :
      Read chain fromBlock head front (.yielding logs next finalized)

theorem window_ids (adapter : EvmAdapter) {first finalized : Nat} (inside : first ≤ finalized) :
    ((Window.starting adapter.logRangeChunk finalized first).numbers.flatMap chain).map
      (fun log => hexText log.callId.toList) =
      tailIds chain first (min (first + adapter.logRangeChunk) (finalized + 1)) := by
  have positive := adapter.chunkPositive
  have stop : (Window.starting adapter.logRangeChunk finalized first).last + 1 - first =
      min (first + adapter.logRangeChunk) (finalized + 1) - first := by
    simp only [Window.starting]
    omega
  rw [Window.numbers, span, tailIds]
  exact congrArg (fun count => ((List.range' first count).flatMap chain).map _) stop

theorem Read.step {front : List String} {state : TailState}
    (read : Read chain fromBlock head front state) (settles : client.Settles chain head start)
    (adapter : EvmAdapter) (turn : Nat) :
    (adapter.tailStep client turn state).1.Running ∧
      Read chain fromBlock head
        (front ++ (adapter.tailStep client turn state).1.values.map (·.callId))
        (adapter.tailStep client turn state).2 := by
  cases read with
  | @polling next started bounded =>
      obtain ⟨number, answered, within⟩ := settles.block turn
      cases number with
      | none =>
          rw [EvmAdapter.tailStep, answered]
          exact ⟨trivial, (List.append_nil _).symm ▸ .polling started bounded⟩
      | some finalized =>
          rw [EvmAdapter.tailStep, answered]
          refine ⟨trivial, (List.append_nil _).symm ▸ ?_⟩
          by_cases reached : next ≤ finalized
          · simp only [if_pos reached]
            have scanning : Read chain fromBlock head
                (tailIds chain fromBlock (min next (finalized + 1))) (.scanning next finalized) :=
              .scanning started (Nat.le_trans started reached) (within finalized rfl)
            rwa [Nat.min_eq_left (Nat.le_succ_of_le reached)] at scanning
          · simp only [if_neg reached]
            exact .polling started bounded
  | @scanning first finalized started below bounded =>
      by_cases inside : first ≤ finalized
      · rw [EvmAdapter.tailStep, if_pos inside, settles.logs]
        refine ⟨trivial, (List.append_nil _).symm ▸ ?_⟩
        refine .yielding (by omega) below bounded ?_
        rw [window_ids adapter inside, Nat.min_eq_left (Nat.le_succ_of_le inside)]
        exact tailIds_append started (by omega)
      · rw [EvmAdapter.tailStep, if_neg inside]
        refine ⟨trivial, (List.append_nil _).symm ▸ ?_⟩
        rw [Nat.min_eq_right (by omega)]
        exact .polling (by omega) (by omega)
  | @yielding front logs next finalized started below bounded pending =>
      cases logs with
      | nil =>
          rw [EvmAdapter.tailStep]
          refine ⟨trivial, (List.append_nil _).symm ▸ ?_⟩
          rw [← List.append_nil front, ← List.map_nil, pending]
          exact .scanning started below bounded
      | cons log rest =>
          rw [EvmAdapter.tailStep]
          refine ⟨trivial, .yielding started below bounded ?_⟩
          rw [← pending, List.append_assoc]
          rfl

theorem read_tailState (fromBlock : Nat) (settles : client.Settles chain head start)
    (deployed : adapter.settler.isSome = true) (turns : Nat) :
    (∀ turn < turns, (adapter.tailSettlementEvents client fromBlock turn).Running) ∧
      Read chain fromBlock head
        ((Tick.delivered (adapter.tailSettlementEvents client fromBlock) turns).map (·.callId))
        (adapter.tailState client fromBlock turns) := by
  obtain ⟨settler, known⟩ := Option.isSome_iff_exists.mp deployed
  induction turns with
  | zero =>
      refine ⟨nofun, ?_⟩
      have polling : Read chain fromBlock head (tailIds chain fromBlock fromBlock)
          (.polling fromBlock) := .polling (Nat.le_refl fromBlock) (Nat.le_max_left _ _)
      rwa [tailIds_self] at polling
  | succ turns ih =>
      obtain ⟨running, next⟩ := ih.2.step settles adapter turns
      have tick : adapter.tailSettlementEvents client fromBlock turns =
          (adapter.tailStep client turns (adapter.tailState client fromBlock turns)).1 := by
        rw [EvmAdapter.tailSettlementEvents, known]
      constructor
      · intro turn earlier
        rcases Nat.lt_succ_iff_lt_or_eq.mp earlier with before | rfl
        · exact ih.1 turn before
        · rw [tick]
          exact running
      · rw [Tick.delivered, List.map_append, tick]
        exact next

theorem tailState_yielding {logs : List CallSettledLog} {next finalized turn : Nat}
    (stands : adapter.tailState client fromBlock turn = .yielding logs next finalized) :
    adapter.tailState client fromBlock (turn + logs.length + 1) = .scanning next finalized := by
  induction logs generalizing turn with
  | nil => rw [List.length_nil, Nat.add_zero, EvmAdapter.tailState, stands, EvmAdapter.tailStep]
  | cons log rest ih =>
      have advanced : adapter.tailState client fromBlock (turn + 1) =
          .yielding rest next finalized := by
        rw [EvmAdapter.tailState, stands, EvmAdapter.tailStep]
      have later := ih advanced
      rwa [Nat.add_right_comm turn 1, Nat.add_assoc turn] at later

theorem tailState_scanning (settles : client.Settles chain head start) {first finalized turn : Nat}
    (stands : adapter.tailState client fromBlock turn = .scanning first finalized) :
    ∃ later, turn ≤ later ∧
      adapter.tailState client fromBlock later = .polling (finalized + 1) := by
  have positive := adapter.chunkPositive
  generalize same : finalized + 1 - first = left
  induction left using Nat.strongRecOn generalizing first turn with
  | ind left ih =>
      by_cases inside : first ≤ finalized
      · have fetched : adapter.tailState client fromBlock (turn + 1) = .yielding
            ((Window.starting adapter.logRangeChunk finalized first).numbers.flatMap chain)
            (first + adapter.logRangeChunk) finalized := by
          rw [EvmAdapter.tailState, stands, EvmAdapter.tailStep, if_pos inside, settles.logs]
        obtain ⟨later, after, polling⟩ := ih (finalized + 1 - (first + adapter.logRangeChunk))
          (by omega) (tailState_yielding fetched) rfl
        exact ⟨later, by omega, polling⟩
      · refine ⟨turn + 1, Nat.le_succ turn, ?_⟩
        rw [EvmAdapter.tailState, stands, EvmAdapter.tailStep, if_neg inside]

theorem tailState_settled (fromBlock : Nat) (settles : client.Settles chain head start)
    (deployed : adapter.settler.isSome = true) : ∃ turn next,
      start ≤ turn ∧ head < next ∧
        adapter.tailState client fromBlock turn = .polling next := by
  have polled : ∃ turn next, start ≤ turn ∧
      adapter.tailState client fromBlock turn = .polling next := by
    have read := (read_tailState fromBlock settles deployed start).2
    generalize stands : adapter.tailState client fromBlock start = state at read
    generalize (Tick.delivered (adapter.tailSettlementEvents client fromBlock) start).map
      (·.callId) = front at read
    cases read with
    | polling => exact ⟨start, _, Nat.le_refl start, stands⟩
    | scanning =>
        obtain ⟨later, after, polling⟩ := tailState_scanning settles stands
        exact ⟨later, _, after, polling⟩
    | yielding =>
        obtain ⟨later, after, polling⟩ := tailState_scanning settles (tailState_yielding stands)
        exact ⟨later, _, by omega, polling⟩
  obtain ⟨turn, next, late, stands⟩ := polled
  by_cases past : head < next
  · exact ⟨turn, next, late, past, stands⟩
  · have scanning : adapter.tailState client fromBlock (turn + 1) = .scanning next head := by
      rw [EvmAdapter.tailState, stands, EvmAdapter.tailStep, settles.settled turn late]
      exact if_pos (Nat.le_of_not_lt past)
    obtain ⟨later, after, polling⟩ := tailState_scanning settles scanning
    exact ⟨later, head + 1, by omega, Nat.lt_succ_self head, polling⟩

theorem tailState_polling (settles : client.Settles chain head start) {next turn later : Nat}
    (late : start ≤ turn) (past : head < next)
    (stands : adapter.tailState client fromBlock turn = .polling next) (after : turn ≤ later) :
    adapter.tailState client fromBlock later = .polling next := by
  induction later, after using Nat.le_induction with
  | base => exact stands
  | succ later after ih =>
      rw [EvmAdapter.tailState, ih, EvmAdapter.tailStep, settles.settled later (by omega)]
      exact if_neg (Nat.not_le_of_lt past)

theorem tail_scans (fromBlock : Nat) (settles : client.Settles chain head start)
    (deployed : adapter.settler.isSome = true) :
    ∃ events turns, Tick.Scans (adapter.tailSettlementEvents client fromBlock) events false turns ∧
      events.map (·.callId) =
        ((span fromBlock head).flatMap chain).map fun log => hexText log.callId.toList := by
  obtain ⟨turn, next, late, past, stands⟩ :=
    tailState_settled fromBlock settles deployed
  obtain ⟨running, read⟩ := read_tailState fromBlock settles deployed turn
  refine ⟨_, turn, ⟨rfl, running, ?_⟩, ?_⟩
  · intro later after
    obtain ⟨settler, known⟩ := Option.isSome_iff_exists.mp deployed
    rw [EvmAdapter.tailSettlementEvents, known]
    dsimp only
    rw [tailState_polling settles late past stands after, EvmAdapter.tailStep,
      settles.settled later (by omega)]
  · rw [stands] at read
    generalize (Tick.delivered (adapter.tailSettlementEvents client fromBlock) turn).map
      (·.callId) = ids at read ⊢
    cases read with
    | polling started bounded =>
        have whole : next - fromBlock = head + 1 - fromBlock := by omega
        rw [tailIds, whole, span]

end Tail

end PactNetwork.Adapters
