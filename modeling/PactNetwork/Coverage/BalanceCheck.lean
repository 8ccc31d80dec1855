import PactNetwork.Coverage.WrapFetch
import PactNetwork.Foundation.Traces

/-!
# The default balance check

Calls of `check` share a cache of wallets' budgets. A call that finds a fresh
entry decides at once; any other loads one, and decides against what it loaded
when that comes back, whatever the cache holds by then.
-/

set_option autoImplicit false

namespace PactNetwork.Coverage.BalanceChecks

/-! ## Loading -/

structure CacheEntry where
  expiresAt : Int
  ataBalance : Int
  allowance : Int
  noAta : Bool
  deriving DecidableEq

structure RpcError where
  code : Int
  message : Option String

/-- How a call of `rpc` ends: it throws, or answers with an error or a result. -/
inductive RpcReply (result : Type) where
  | thrown (message : String)
  | error (error : RpcError)
  | result (value : result)

def includes (msg part : String) : Bool := decide (part.toList <:+: msg.toList)

def RpcError.missing (error : RpcError) : Bool :=
  let msg := String.ofList ((error.message.getD "").toList.map Char.toLower)
  error.code == -32602 || includes msg "could not find" || includes msg "not found" ||
    includes msg "invalid"

def RpcError.text (error : RpcError) : String := error.message.getD "undefined"

def absentEntry (now ttl : Int) : CacheEntry := ⟨now + ttl, 0, 0, true⟩

/-! ## Calls -/

/-- Where a call of `check` is. Each constructor but the last awaits something. -/
inductive Phase where
  | idle
  | resolving (wallet : String) (required : Int)
  | balance (wallet : String) (required : Int)
  | account (wallet : String) (required ataBalance : Int)
  | loaded (wallet : String) (required : Int) (entry : CacheEntry)
  | done (result : Except String BalanceCheckResult)

/-- What the latest load found of a wallet's budget, and what has been admitted
of it. An overlapping load renews the budget, not the lifetime. -/
structure Lifetime where
  balance : Int
  allowance : Int
  admitted : Int

structure State where
  now : Int
  cache : String → Option CacheEntry
  calls : Nat → Phase
  lifetimes : String → Lifetime

/-- What can happen next: time passes, a call begins, or what a call awaits
comes back. Amounts on chain are natural numbers. -/
inductive Event where
  | tick (elapsed : Nat)
  | check (call : Nat) (wallet : String) (required : Int)
  | resolved (call : Nat) (failure : Option String)
  | balance (call : Nat) (reply : RpcReply (Option Nat))
  | account (call : Nat) (reply : RpcReply (Option (Option Nat)))
  | resume (call : Nat)

def State.setCall (state : State) (call : Nat) (phase : Phase) : State :=
  { state with calls := Function.update state.calls call phase }

def State.fresh (state : State) (wallet : String) : Option CacheEntry :=
  (state.cache wallet).filter fun entry => entry.expiresAt > state.now

def State.store (state : State) (wallet : String) (entry : CacheEntry) : State :=
  { state with
    cache := Function.update state.cache wallet (some entry)
    lifetimes := Function.update state.lifetimes wallet ⟨entry.ataBalance, entry.allowance,
      if (state.fresh wallet).isSome then (state.lifetimes wallet).admitted else 0⟩ }

def State.debit (state : State) (wallet : String) (entry : CacheEntry) (required : Int) : State :=
  { state with
    cache := Function.update state.cache wallet (some { entry with
      ataBalance := entry.ataBalance - required, allowance := entry.allowance - required })
    lifetimes := Function.update state.lifetimes wallet
      { state.lifetimes wallet with
        admitted := (state.lifetimes wallet).admitted + required } }

/-- The rest of `check` once it has an entry. Nothing is awaited in it. -/
def State.settle (state : State) (call : Nat) (wallet : String) (required : Int)
    (entry : CacheEntry) : State :=
  if entry.noAta then state.setCall call (.done (.ok (.ineligible .noAta none none)))
  else if entry.ataBalance < required then
    state.setCall call (.done (.ok (.ineligible .insufficientBalance (some entry.ataBalance)
      (some entry.allowance))))
  else if entry.allowance < required then
    state.setCall call (.done (.ok (.ineligible .insufficientAllowance (some entry.ataBalance)
      (some entry.allowance))))
  else
    (state.debit wallet entry required).setCall call
      (.done (.ok (.eligible entry.ataBalance entry.allowance)))

/-- What a call goes on with when `getTokenAccountBalance` ends. -/
def afterBalance (now ttl : Int) (wallet : String) (required : Int) :
    RpcReply (Option Nat) → Phase
  | .thrown message => .done (.error message)
  | .error error =>
      if error.missing then .loaded wallet required (absentEntry now ttl)
      else .done (.error s!"wrap.balanceCheck: getTokenAccountBalance failed: {error.text}")
  | .result amount => .account wallet required (amount.getD 0 : Nat)

/-- What a call goes on with when `getAccountInfo` ends. -/
def afterAccount (now ttl : Int) (wallet : String) (required ataBalance : Int) :
    RpcReply (Option (Option Nat)) → Phase
  | .thrown message => .done (.error message)
  | .error error => .done (.error s!"wrap.balanceCheck: getAccountInfo failed: {error.text}")
  | .result none => .loaded wallet required (absentEntry now ttl)
  | .result (some delegated) =>
      .loaded wallet required ⟨now + ttl, ataBalance, (delegated.getD 0 : Nat), false⟩

section Runs

variable (ttl : Int)

/-- An event whose call is not where the event finds it changes nothing. -/
def State.apply (state : State) : Event → State
  | .tick elapsed => { state with now := state.now + elapsed }
  | .check call wallet required =>
      match state.calls call with
      | .idle =>
          match state.fresh wallet with
          | some entry => state.settle call wallet required entry
          | none => state.setCall call (.resolving wallet required)
      | _ => state
  | .resolved call failure =>
      match state.calls call with
      | .resolving wallet required =>
          match failure with
          | some message => state.setCall call (.done (.error message))
          | none => state.setCall call (.balance wallet required)
      | _ => state
  | .balance call reply =>
      match state.calls call with
      | .balance wallet required =>
          state.setCall call (afterBalance state.now ttl wallet required reply)
      | _ => state
  | .account call reply =>
      match state.calls call with
      | .account wallet required ataBalance =>
          state.setCall call (afterAccount state.now ttl wallet required ataBalance reply)
      | _ => state
  | .resume call =>
      match state.calls call with
      | .loaded wallet required entry =>
          (state.store wallet entry).settle call wallet required entry
      | _ => state

/-- No load comes back to a fresh entry that something was admitted from. -/
def State.Clear (state : State) : Event → Prop
  | .resume call =>
      match state.calls call with
      | .loaded wallet _ _ =>
          (state.fresh wallet).isSome → (state.lifetimes wallet).admitted = 0
      | _ => True
  | _ => True

def start (now : Int) : State := ⟨now, fun _ => none, fun _ => .idle, fun _ => ⟨0, 0, 0⟩⟩

def State.Covered (state : State) : Prop :=
  ∀ wallet, (state.lifetimes wallet).admitted ≤
    min (state.lifetimes wallet).balance (state.lifetimes wallet).allowance

end Runs

/-! ## The invariant -/

def Phase.Nonneg : Phase → Prop
  | .account _ _ ataBalance => 0 ≤ ataBalance
  | .loaded _ _ entry => 0 ≤ entry.ataBalance ∧ 0 ≤ entry.allowance
  | _ => True

structure State.Sound (state : State) : Prop where
  left : ∀ wallet entry, state.cache wallet = some entry →
    entry.ataBalance = (state.lifetimes wallet).balance - (state.lifetimes wallet).admitted ∧
    entry.allowance = (state.lifetimes wallet).allowance - (state.lifetimes wallet).admitted
  covered : state.Covered
  found : ∀ call, (state.calls call).Nonneg

section Steps

variable {state : State} {wallet : String} {entry : CacheEntry} {call : Nat} {required : Int}

theorem start_sound (now : Int) : (start now).Sound where
  left := fun _ _ missing => by cases missing
  covered := fun _ => le_min (le_refl _) (le_refl _)
  found := fun _ => trivial

theorem State.cache_of_fresh (found : state.fresh wallet = some entry) :
    state.cache wallet = some entry := (Option.filter_eq_some_iff.mp found).1

theorem State.Sound.setCall (sound : state.Sound) {phase : Phase} (nonneg : phase.Nonneg) :
    (state.setCall call phase).Sound where
  left := sound.left
  covered := sound.covered
  found := by
    intro other
    by_cases same : other = call
    · subst same
      simp only [State.setCall, Function.update_self]
      exact nonneg
    · simp only [State.setCall, Function.update_of_ne same]
      exact sound.found other

theorem State.Sound.debit (sound : state.Sound) (cached : state.cache wallet = some entry)
    (balance : required ≤ entry.ataBalance) (allowance : required ≤ entry.allowance) :
    (state.debit wallet entry required).Sound where
  left := by
    intro other entry' cached'
    obtain ⟨before, before'⟩ := sound.left wallet entry cached
    by_cases same : other = wallet
    · subst same
      simp only [State.debit, Function.update_self, Option.some.injEq] at cached' ⊢
      subst cached'
      exact ⟨by dsimp only; omega, by dsimp only; omega⟩
    · simp only [State.debit, Function.update_of_ne same] at cached' ⊢
      exact sound.left other entry' cached'
  covered := by
    intro other
    obtain ⟨before, before'⟩ := sound.left wallet entry cached
    by_cases same : other = wallet
    · subst same
      simp only [State.debit, Function.update_self]
      exact le_min (by omega) (by omega)
    · simp only [State.debit, Function.update_of_ne same]
      exact sound.covered other
  found := sound.found

theorem State.Sound.settle (sound : state.Sound) (cached : state.cache wallet = some entry) :
    (state.settle call wallet required entry).Sound := by
  unfold State.settle
  split
  case isTrue => exact sound.setCall trivial
  case isFalse =>
    split
    case isTrue => exact sound.setCall trivial
    case isFalse balance =>
      split
      case isTrue => exact sound.setCall trivial
      case isFalse allowance =>
        exact (sound.debit cached (Int.not_lt.mp balance) (Int.not_lt.mp allowance)).setCall trivial

theorem State.Sound.store (sound : state.Sound)
    (nonneg : 0 ≤ entry.ataBalance ∧ 0 ≤ entry.allowance)
    (clear : (state.fresh wallet).isSome → (state.lifetimes wallet).admitted = 0) :
    (state.store wallet entry).Sound := by
  have none_admitted : (if (state.fresh wallet).isSome then (state.lifetimes wallet).admitted
      else 0) = 0 := by
    split
    case isTrue present => exact clear present
    case isFalse => rfl
  refine ⟨fun other entry' cached => ?_, fun other => ?_, sound.found⟩
  · by_cases same : other = wallet
    · subst same
      simp only [State.store, Function.update_self, Option.some.injEq, none_admitted,
        Int.sub_zero] at cached ⊢
      subst cached
      exact ⟨rfl, rfl⟩
    · simp only [State.store, Function.update_of_ne same] at cached ⊢
      exact sound.left other entry' cached
  · by_cases same : other = wallet
    · subst same
      simp only [State.store, Function.update_self, none_admitted]
      exact le_min nonneg.1 nonneg.2
    · simp only [State.store, Function.update_of_ne same]
      exact sound.covered other

theorem cache_store : (state.store wallet entry).cache wallet = some entry :=
  Function.update_self _ _ _

theorem nonneg_afterBalance (now ttl : Int) (reply : RpcReply (Option Nat)) :
    (afterBalance now ttl wallet required reply).Nonneg := by
  cases reply with
  | thrown message => trivial
  | error error =>
      by_cases absent : error.missing = true
      · rw [afterBalance, if_pos absent]
        exact ⟨le_refl _, le_refl _⟩
      · rw [afterBalance, if_neg absent]
        trivial
  | result amount => exact Int.natCast_nonneg _

theorem nonneg_afterAccount (now ttl : Int) {ataBalance : Int} (nonneg : 0 ≤ ataBalance)
    (reply : RpcReply (Option (Option Nat))) :
    (afterAccount now ttl wallet required ataBalance reply).Nonneg := by
  cases reply with
  | thrown message => trivial
  | error error => trivial
  | result value =>
      cases value with
      | none => exact ⟨le_refl _, le_refl _⟩
      | some delegated => exact ⟨nonneg, Int.natCast_nonneg _⟩

theorem State.Sound.apply (ttl : Int) {event : Event} (sound : state.Sound)
    (clear : state.Clear event) : (state.apply ttl event).Sound := by
  cases event with
  | tick elapsed => exact ⟨sound.left, sound.covered, sound.found⟩
  | check call wallet required =>
      simp only [State.apply]
      split
      case h_1 =>
        split
        case h_1 entry found => exact sound.settle (State.cache_of_fresh found)
        case h_2 => exact sound.setCall trivial
      case h_2 => exact sound
  | resolved call failure =>
      simp only [State.apply]
      split
      case h_1 => split <;> exact sound.setCall trivial
      case h_2 => exact sound
  | balance call reply =>
      simp only [State.apply]
      split
      case h_1 => exact sound.setCall (nonneg_afterBalance _ _ _)
      case h_2 => exact sound
  | account call reply =>
      simp only [State.apply]
      split
      case h_1 wallet required ataBalance awaited =>
        have nonneg := sound.found call
        rw [awaited] at nonneg
        exact sound.setCall (nonneg_afterAccount _ _ nonneg _)
      case h_2 => exact sound
  | resume call =>
      simp only [State.apply]
      split
      case h_1 wallet required entry awaited =>
        have nonneg := sound.found call
        rw [awaited] at nonneg
        rw [State.Clear, awaited] at clear
        exact (sound.store nonneg clear).settle cache_store
      case h_2 => exact sound

end Steps

/-- In a run where no load comes back to a budget in use, what is admitted of a
wallet stays within the budget loaded. -/
theorem admissions_covered (ttl now : Int) (state : State)
    (reached : Reachable (· = start now) (Fires (State.apply ttl) State.Clear) state) :
    state.Covered := by
  have sound : state.Sound := by
    refine reached.fires State.Sound ?_ fun before event sound clear => sound.apply ttl clear
    rintro _ rfl
    exact start_sound now
  exact sound.covered

/-! ## Overlapping loads -/

namespace Demo

def loads (call : Nat) : List Event :=
  [.resolved call none, .balance call (.result (some 100)),
    .account call (.result (some (some 100)))]

def sequential : List Event :=
  .check 0 "agent" 60 :: loads 0 ++ [.resume 0, .check 1 "agent" 40]

def overlapping : List Event :=
  [.check 0 "agent" 100, .check 1 "agent" 100] ++ loads 0 ++ loads 1 ++ [.resume 0, .resume 1]

end Demo

open BalanceChecks.Demo in
/-- Two calls in a row spend the whole budget and no more. -/
theorem admissions_covered_sequential :
    ((sequential.foldl (State.apply 3000) (start 0)).lifetimes "agent").admitted = 100 ∧
      (sequential.foldl (State.apply 3000) (start 0)).Covered := by
  have allowed : Allows (State.apply 3000) State.Clear (start 0) sequential := by
    refine ⟨trivial, trivial, trivial, trivial, ?_, trivial, trivial⟩
    intro _
    rfl
  exact ⟨by decide +kernel,
    admissions_covered 3000 0 _ (Reachable.replay _ (.start rfl) allowed)⟩

open BalanceChecks.Demo in
/-- Two loads overlap, and the second call is admitted against the whole budget again. -/
theorem overlapping_overspends :
    ¬∀ state, Reachable (· = start 0) (Fires (State.apply 3000) fun _ _ => True) state →
      state.Covered := by
  intro holds
  have covered := holds (overlapping.foldl (State.apply 3000) (start 0))
    (Reachable.replay _ (.start rfl) (allows_all _ _)) "agent"
  have admitted : ((overlapping.foldl (State.apply 3000) (start 0)).lifetimes "agent").admitted =
      200 := by decide +kernel
  have balance : ((overlapping.foldl (State.apply 3000) (start 0)).lifetimes "agent").balance =
      100 := by decide +kernel
  rw [admitted, balance] at covered
  omega

end PactNetwork.Coverage.BalanceChecks
