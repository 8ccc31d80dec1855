import PactNetwork.Foundation.Tally
import PactNetwork.V2.Guarantees

/-!
# The aggregate claim cap

What the window counter of a pool counts, and that the claims it counts stay
under the cap, as long as no window restarts at the clock value of a claim
already paid.
-/

set_option autoImplicit false

namespace PactNetwork.V2

open Solana SubmitClaim

/-! ## What pools have paid -/

def refundsSince (account : Address) (start : Int64) (payouts : List Payout) : Nat :=
  tally (fun payout => payout.refund.toNat)
    (fun payout => payout.pool = account ∧ start ≤ payout.now) payouts

def refundsAt (account : Address) (clock : Int64) (payouts : List Payout) : Nat :=
  tally (fun payout => payout.refund.toNat)
    (fun payout => payout.pool = account ∧ payout.now = clock) payouts

def refundsSinceReset (account : Address) : List Payout → Nat
  | [] => 0
  | payout :: earlier =>
      if payout.pool = account then
        payout.refund.toNat + if payout.reset then 0 else refundsSinceReset account earlier
      else refundsSinceReset account earlier

/-- Each claim met the cap with everything paid since the last restart, and
with everything paid at its own clock value. -/
def Capped (payouts : List Payout) : Prop :=
  ∀ history ∈ payouts.tails, ∀ payout ∈ history.head?,
    refundsSinceReset payout.pool history ≤ payout.capLimit.toNat ∧
      refundsAt payout.pool payout.now history ≤ payout.capLimit.toNat

instance (payouts : List Payout) : Decidable (Capped payouts) :=
  inferInstanceAs (Decidable (∀ history ∈ payouts.tails, ∀ payout ∈ history.head?, _ ∧ _))

theorem Capped.cons {payout : Payout} {earlier : List Payout} (capped : Capped earlier)
    (window : refundsSinceReset payout.pool (payout :: earlier) ≤ payout.capLimit.toNat)
    (clock : refundsAt payout.pool payout.now (payout :: earlier) ≤ payout.capLimit.toNat) :
    Capped (payout :: earlier) := by
  intro history suffix latest member
  rw [List.tails_cons, List.mem_cons] at suffix
  rcases suffix with rfl | before
  · cases member
    exact ⟨window, clock⟩
  · exact capped history before latest member

structure Windows (books : Books) (clock : Int64) (payouts : List Payout) : Prop where
  past : ∀ payout ∈ payouts, payout.now ≤ clock ∧
    ∃ pool, books.pools payout.pool = some pool
  started : ∀ account pool, books.pools account = some pool → pool.windowStart ≤ clock
  counted : ∀ account pool, books.pools account = some pool →
    pool.payoutsThisWindow.toNat = refundsSince account pool.windowStart payouts ∧
      pool.payoutsThisWindow.toNat = refundsSinceReset account payouts
  capped : Capped payouts

/-! ## One step -/

section Steps

variable {crypto : Crypto} {now clock : Int64} {books books' : Books} {label : Option Payout}
  {payouts : List Payout}

theorem window_of_update {changed account : Address} {pool rewritten pool' : CoveragePool}
    (found : books.pools changed = some pool)
    (stored : Function.update books.pools changed (some rewritten) account = some pool')
    (start : rewritten.windowStart = pool.windowStart)
    (paid : rewritten.payoutsThisWindow = pool.payoutsThisWindow) :
    ∃ pool, books.pools account = some pool ∧ pool'.windowStart = pool.windowStart ∧
      pool'.payoutsThisWindow = pool.payoutsThisWindow := by
  by_cases same : account = changed
  · rw [same, Function.update_self] at stored
    cases stored
    exact ⟨pool, same ▸ found, start, paid⟩
  · rw [Function.update_of_ne same] at stored
    exact ⟨pool', stored, rfl, rfl⟩

theorem Step.window (step : Step crypto now books none books') {account : Address}
    {pool' : CoveragePool} (stored : books'.pools account = some pool') :
    (∃ pool, books.pools account = some pool ∧ pool'.windowStart = pool.windowStart ∧
        pool'.payoutsThisWindow = pool.payoutsThisWindow) ∨
      books.pools account = none ∧ pool'.windowStart = now ∧ pool'.payoutsThisWindow = 0 := by
  cases step with
  | initializeProtocol => exact .inl ⟨pool', stored, rfl, rfl⟩
  | updateConfig => exact .inl ⟨pool', stored, rfl, rfl⟩
  | updateOracle => exact .inl ⟨pool', stored, rfl, rfl⟩
  | outside => exact .inl ⟨pool', stored, rfl, rfl⟩
  | @createPool _ created _ _ _ _ _ _ _ _ _ _ vacant =>
      by_cases same : account = created
      · subst same
        cases (Function.update_self account _ books.pools).symm.trans stored
        exact .inr ⟨vacant, rfl, rfl⟩
      · exact .inl ⟨pool', (Function.update_of_ne same _ _).symm.trans stored, rfl, rfl⟩
  | updateRates found => exact .inl (window_of_update found stored rfl rfl)
  | deposit _ _ found _ _ _ _ _ _ credits =>
      obtain ⟨_, _, -, -, rfl⟩ := Deposit.creditPool_eq_ok.mp credits
      exact .inl (window_of_update found stored rfl rfl)
  | withdraw found _ _ _ _ _ _ _ debits =>
      obtain ⟨_, _, -, -, rfl⟩ := Withdraw.debitPool_eq_ok.mp debits
      exact .inl (window_of_update found stored rfl rfl)
  | enableInsurance _ _ found _ _ _ counts =>
      obtain ⟨-, rfl⟩ := EnableInsurance.countPolicy_eq_ok.mp counts
      exact .inl (window_of_update found stored rfl rfl)
  | disablePolicy found => exact .inl (window_of_update found stored rfl rfl)
  | settlePremium found _ _ _ _ _ _ _ credits =>
      obtain ⟨_, _, -, -, rfl⟩ := SettlePremium.creditPool_eq_ok.mp credits
      exact .inl (window_of_update found stored rfl rfl)

theorem Step.pool_stays (step : Step crypto now books label books') {account : Address}
    {pool : CoveragePool} (stored : books.pools account = some pool) :
    ∃ pool', books'.pools account = some pool' := by
  have updated (changed : Address) (rewritten : CoveragePool) :
      ∃ pool', Function.update books.pools changed (some rewritten) account = some pool' := by
    by_cases same : account = changed
    · exact ⟨rewritten, by rw [same, Function.update_self]⟩
    · exact ⟨pool, by rw [Function.update_of_ne same, stored]⟩
  cases step with
  | initializeProtocol => exact ⟨pool, stored⟩
  | updateConfig => exact ⟨pool, stored⟩
  | updateOracle => exact ⟨pool, stored⟩
  | outside => exact ⟨pool, stored⟩
  | _ => exact updated _ _

theorem refundsSinceReset_eq_zero {account : Address}
    (nothing : ∀ payout ∈ payouts, payout.pool ≠ account) :
    refundsSinceReset account payouts = 0 := by
  induction payouts with
  | nil => rfl
  | cons payout earlier ih =>
      rw [refundsSinceReset, if_neg (nothing payout List.mem_cons_self)]
      exact ih fun later member => nothing later (List.mem_cons_of_mem _ member)

theorem Windows.quiet (windows : Windows books clock payouts) (forward : clock ≤ now)
    (step : Step crypto now books none books') : Windows books' now payouts where
  past payout member := by
    obtain ⟨before, pool, stored⟩ := windows.past payout member
    exact ⟨Int64.le_trans before forward, step.pool_stays stored⟩
  started account pool' stored := by
    rcases step.window stored with ⟨pool, found, start, -⟩ | ⟨-, start, -⟩
    · rw [start]
      exact Int64.le_trans (windows.started account pool found) forward
    · rw [start]
      exact Int64.le_refl now
  counted account pool' stored := by
    rcases step.window stored with ⟨pool, found, start, paid⟩ | ⟨vacant, -, paid⟩
    · rw [start, paid]
      exact windows.counted account pool found
    · have nothing : ∀ payout ∈ payouts, payout.pool ≠ account := by
        rintro payout member rfl
        obtain ⟨-, pool, found⟩ := windows.past payout member
        cases vacant.symm.trans found
      rw [paid, refundsSinceReset_eq_zero nothing, refundsSince,
        tally_eq_zero fun payout member own => (nothing payout member own.1).elim]
      exact ⟨rfl, rfl⟩
  capped := windows.capped

theorem Windows.claim {payout : Payout} (windows : Windows books clock payouts)
    (forward : clock ≤ now) (step : Step crypto now books (some payout) books')
    (fresh : payout.reset = true → refundsAt payout.pool payout.now payouts = 0) :
    Windows books' now (payout :: payouts) := by
  have whole := step
  cases step with
  | @submitClaim accounts config pool debited _ _ args refund reset _ tokens stored _ _ _ _
      assessed debits =>
      obtain ⟨_, _, payoutsThisWindow, -, -, counter, rfl⟩ := payPool_eq_ok.mp debits
      have started := windows.started _ _ stored
      obtain ⟨timed, reseted⟩ := windows.counted _ _ stored
      obtain ⟨-, -, bound⟩ := assess_spec assessed
      rw [← counter] at bound
      have start : (if reset then now else pool.windowStart) ≤ now := by
        split
        · exact Int64.le_refl now
        · exact Int64.le_trans started forward
      have since : payoutsThisWindow.toNat = refundsSince accounts.pool
          (if reset then now else pool.windowStart)
          (⟨accounts.pool, refund, now, reset, capLimit config pool⟩ :: payouts) := by
        rw [refundsSince, tally_cons, if_pos ⟨rfl, start⟩, counter, Nat.add_comm]
        congr 1
        cases reset with
        | false => exact timed
        | true =>
            -- Nothing was paid after this clock value.
            refine (fresh rfl).symm.trans (tally_congr fun earlier member => ?_)
            have past := Int64.le_trans (windows.past earlier member).1 forward
            exact and_congr_right fun _ =>
              ⟨fun clock => clock ▸ Int64.le_refl _, fun later => Int64.le_antisymm past later⟩
      have sinceReset : payoutsThisWindow.toNat = refundsSinceReset accounts.pool
          (⟨accounts.pool, refund, now, reset, capLimit config pool⟩ :: payouts) := by
        rw [refundsSinceReset, if_pos rfl, counter, Nat.add_comm, reseted]
      refine ⟨?_, ?_, ?_, windows.capped.cons (sinceReset ▸ bound) ?_⟩
      · intro earlier member
        rcases List.mem_cons.mp member with rfl | before
        · exact ⟨Int64.le_refl now, whole.pool_stays stored⟩
        · obtain ⟨past, other, found⟩ := windows.past earlier before
          exact ⟨Int64.le_trans past forward, whole.pool_stays found⟩
      · intro account pool' found
        by_cases same : account = accounts.pool
        · subst same
          cases (Function.update_self _ _ books.pools).symm.trans found
          exact start
        · replace found := (Function.update_of_ne same _ _).symm.trans found
          exact Int64.le_trans (windows.started account pool' found) forward
      · intro account pool' found
        by_cases same : account = accounts.pool
        · subst same
          cases (Function.update_self _ _ books.pools).symm.trans found
          exact ⟨since, sinceReset⟩
        · replace found := (Function.update_of_ne same _ _).symm.trans found
          rw [refundsSince, tally_cons, if_neg fun own => same own.1.symm, Nat.zero_add,
            refundsSinceReset, if_neg (Ne.symm same)]
          exact windows.counted account pool' found
      · refine Nat.le_trans (tally_mono ?_) (since ▸ bound)
        rintro earlier - ⟨own, clock⟩
        exact ⟨own, clock ▸ start⟩

end Steps

/-! ## Runs -/

/-- A claim does not find its window expired at the clock value of a refund its
pool has already paid. -/
def WindowOpen (chain : Chain) (instruction : Instruction) : Prop :=
  instruction.data.head? = some 10 →
    ∀ configAccount account rest config pool,
      instruction.accounts = configAccount :: account :: rest →
      load ProtocolConfig chain.ledger configAccount = .ok config →
      load CoveragePool chain.ledger account = .ok pool →
      windowReset config pool instruction.context.now = .ok true →
      refundsAt account instruction.context.now chain.payouts = 0

section Runs

variable {crypto : Crypto} {chain before after : Chain}

theorem Discriminator.tryFrom_submitClaim {value : UInt8}
    (parsed : Discriminator.tryFrom value = some .submitClaim) : value = 10 := by
  unfold Discriminator.tryFrom at parsed
  split at parsed <;> cases parsed
  case h_11 same => exact UInt8.toNat_inj.mp same

theorem processInstruction_payout {ledger result : Ledger} {instruction : Instruction}
    {payout : Payout}
    (processed : processInstruction crypto ledger instruction = .ok (result, some payout)) :
    instruction.data.head? = some 10 ∧ payout.now = instruction.context.now ∧
      ∃ configAccount rest config pool,
        instruction.accounts = configAccount :: payout.pool :: rest ∧
        load ProtocolConfig ledger configAccount = .ok config ∧
        load CoveragePool ledger payout.pool = .ok pool ∧
        windowReset config pool instruction.context.now = .ok payout.reset := by
  unfold processInstruction at processed
  split at processed
  case h_1 => cases processed
  case h_2 value data found =>
    simp only [bind_eq_ok, okOr_eq_ok] at processed
    obtain ⟨discriminator, parsed, dispatched⟩ := processed
    cases discriminator <;> simp only [dispatch, map_eq_ok, Prod.mk.injEq, reduceCtorEq, and_false,
      exists_false, Prod.exists, Option.some.injEq] at dispatched
    obtain ⟨_, _, accepted, rfl, rfl⟩ := dispatched
    rw [found, Discriminator.tryFrom_submitClaim parsed]
    refine ⟨rfl, ?_⟩
    unfold SubmitClaim.process at accepted
    split at accepted
    case h_1 config pool vault policy claim agentToken oracle token system rest listed =>
      simp only [submit, bind_eq_ok, failIf_eq_ok, exists_const, Prod.exists, Except.ok.injEq,
        Prod.mk.injEq] at accepted
      obtain ⟨-, -, _, -, args, -, -, config', configLoaded, -, -, policy', -, _, -, pool',
        poolLoaded, _, -, _, _, -, -, -, refund, reset, assessed, final, -, rfl, rfl⟩ := accepted
      exact ⟨rfl, config, _, config', pool', listed, configLoaded, poolLoaded,
        (assess_spec assessed).1⟩
    case h_2 => cases accepted

theorem Chain.Genesis.windows (genesis : Genesis crypto chain) :
    Windows (booksOf chain.ledger) chain.clock chain.payouts := by
  have none (account : Address) : (booksOf chain.ledger).pools account = none :=
    genesis.no_record (by decide) account
  rw [genesis.unpaid]
  refine ⟨nofun, fun account pool stored => ?_, fun account pool stored => ?_, ?_⟩
  · cases (none account).symm.trans stored
  · cases (none account).symm.trans stored
  · intro history suffix latest member
    cases List.mem_singleton.mp suffix
    cases member

theorem Advances.windows {now clock : Int64} {ledger result : Ledger} {label : Option Payout}
    {payouts : List Payout} (advances : Advances crypto now ledger label result)
    (windows : Windows (booksOf ledger) clock payouts) (forward : clock ≤ now)
    (fresh : ∀ payout, label = some payout → payout.reset = true →
      refundsAt payout.pool payout.now payouts = 0) :
    Windows (booksOf result) now (label.toList ++ payouts) := by
  rcases advances.step with step | ⟨rfl, same⟩
  · cases label with
    | none => exact windows.quiet forward step
    | some payout => exact windows.claim forward step (fresh payout rfl)
  · rw [same]
    exact ⟨fun payout member => ⟨Int64.le_trans (windows.past payout member).1 forward,
        (windows.past payout member).2⟩,
      fun account pool stored => Int64.le_trans (windows.started account pool stored) forward,
      windows.counted, windows.capped⟩

theorem Chain.NextWhen.windows (step : NextWhen crypto WindowOpen before after)
    (sound : Sound crypto before)
    (windows : Windows (booksOf before.ledger) before.clock before.payouts) :
    Windows (booksOf after.ledger) after.clock after.payouts := by
  cases step with
  | instruction instruction unsigned forward met =>
      unfold execute
      split
      case h_1 ledger label processed =>
        have advances := processInstruction_advances sound.shaped unsigned processed
        refine advances.windows windows forward ?_
        rintro payout rfl reset
        obtain ⟨claim, now, configAccount, rest, config, pool, listed, configLoaded, poolLoaded,
          expired⟩ := processInstruction_payout processed
        rw [reset] at expired
        rw [now]
        exact met claim configAccount payout.pool rest config pool listed configLoaded poolLoaded
          expired
      case h_2 =>
        exact (Advances.mk sound.shaped (.inr ⟨rfl, rfl⟩)).windows windows forward nofun
  | outside outside =>
      exact (outside.advances before.clock sound.shaped).windows windows (Int64.le_refl _) nofun

/-- Every pool's window counter is what it has paid since its window started,
and every claim was under the cap it met with all that its pool paid since the
last restart, and with all that it paid at the claim's clock value. -/
theorem claims_capped
    (reached : Reachable (Chain.Genesis crypto) (Chain.NextWhen crypto WindowOpen) chain) :
    (∀ account pool, recordAt CoveragePool chain.ledger account = some pool →
      pool.payoutsThisWindow.toNat = refundsSince account pool.windowStart chain.payouts) ∧
      Capped chain.payouts := by
  have both : Chain.Sound crypto chain ∧
      Windows (booksOf chain.ledger) chain.clock chain.payouts := by
    refine Reachable.invariant (fun chain => Chain.Sound crypto chain ∧
      Windows (booksOf chain.ledger) chain.clock chain.payouts) reached
      (fun _ genesis => ⟨genesis.sound, genesis.windows⟩) ?_
    rintro before after ⟨sound, windows⟩ step
    exact ⟨step.next.sound sound, step.windows sound windows⟩
  exact ⟨fun account pool stored => (both.2.counted account pool stored).1, both.2.capped⟩

end Runs

/-! ## With and without the condition -/

namespace Demo

theorem windowOpen_of_head {chain : Chain} {instruction : Instruction}
    (other : instruction.data.head? ≠ some 10) : WindowOpen chain instruction :=
  fun claim => (other claim).elim

theorem insured_windowed :
    Reachable (Chain.Genesis crypto) (Chain.NextWhen crypto WindowOpen) insured :=
  Reachable.trans (.start genesis_begins) (Chain.runWhen_execute genesis setup setup_inOrder
    fun instruction member before => windowOpen_of_head (by
      have others : ∀ instruction ∈ setup, instruction.data.head? ≠ some 10 := by decide
      exact others instruction member))

theorem insured_unpaid : insured.payouts = [] :=
  List.length_eq_zero_iff.mp (by decide +kernel)

def claimed : Chain := run [submitClaim (key 100) oracle (key 105) 1 500000] insured

theorem claimed_windowed :
    Reachable (Chain.Genesis crypto) (Chain.NextWhen crypto WindowOpen) claimed := by
  have forward : insured.clock ≤ 20 := by
    rw [insured_clock]
    decide
  unfold claimed run
  simp only [List.foldl_cons, List.foldl_nil]
  refine .next insured_windowed (.instruction _ (unsigned 20 (by decide)) forward ?_)
  intro _ configAccount account rest config pool _ _ _ _
  rw [insured_unpaid]
  rfl

end Demo

theorem claims_capped_demo : Capped Demo.claimed.payouts ∧
    ∃ pool : CoveragePool, pool.payoutsThisWindow = 500000 ∧ pool.payoutsThisWindow.toNat =
      refundsSince (Demo.key 101) pool.windowStart Demo.claimed.payouts := by
  obtain ⟨counted, capped⟩ := claims_capped Demo.claimed_windowed
  have stored : (recordAt CoveragePool Demo.claimed.ledger (Demo.key 101)).map
      CoveragePool.payoutsThisWindow = some 500000 := by decide +kernel
  obtain ⟨pool, found, paid⟩ := Option.map_eq_some_iff.mp stored
  exact ⟨capped, pool, paid, counted _ _ found⟩

namespace Demo

def dropWindow : Instruction :=
  instruction authority 0 [key 100, authority]
    ([1, 0, 0, 0, 0, 0, 0, 0, 1] ++ Layout.i64.encode (-1) ++ [0, 0, 0, 0, 0])

def drained : Chain :=
  run [dropWindow, submitClaim (key 100) oracle (key 105) 1 30000000,
    submitClaim (key 100) oracle (key 106) 2 30000000] insured

theorem drained_reached : Chain.Reached crypto drained :=
  Reachable.trans insured_reached (Chain.run_execute insured _
    ⟨by rw [insured_clock]; decide, unsigned 0 (by decide), by decide, unsigned 20 (by decide), by decide,
      unsigned 20 (by decide), trivial⟩)

end Demo

/-- With a negative window every claim restarts it: a pool pays 60 USDC at one
clock value under a cap of 30, and its counter shows 30. -/
theorem claims_uncapped : ¬ ∀ (crypto : Crypto) (chain : Chain), Chain.Reached crypto chain →
    (∀ account pool, recordAt CoveragePool chain.ledger account = some pool →
      pool.payoutsThisWindow.toNat = refundsSince account pool.windowStart chain.payouts) ∧
      Capped chain.payouts := by
  intro always
  have exceeded : ¬ Capped Demo.drained.payouts := by decide +kernel
  exact exceeded (always Demo.crypto Demo.drained Demo.drained_reached).2

end PactNetwork.V2
