import PactNetwork.V2.OracleAuthority

/-!
# Deposits and withdrawals over a run

What a run moves into and out of each position, and when a withdrawal is
accepted.
-/

set_option autoImplicit false

namespace PactNetwork.V2

open Solana TokenLedger

/-! ## Movements -/

inductive Direction where
  | deposit
  | withdraw
  deriving DecidableEq, Repr

structure Movement where
  direction : Direction
  accounts : UnderwriterAccounts
  amount : UInt64
  now : Int64

def Movement.read (direction : Direction) (now : Int64) (data : List UInt8) :
    List Address → Option Movement
  | config :: pool :: vault :: position :: underwriterToken :: underwriter :: _ =>
      (decodeU64 data).toOption.map fun amount =>
        ⟨direction, ⟨config, pool, vault, position, underwriterToken, underwriter⟩, amount, now⟩
  | _ => none

/-- What an instruction asks to move, if it is a deposit or a withdrawal. -/
def Instruction.movement (instruction : Instruction) : Option Movement :=
  match instruction.data with
  | [] => none
  | discriminator :: rest =>
      match Discriminator.tryFrom discriminator with
      | some .deposit => Movement.read .deposit instruction.context.now rest instruction.accounts
      | some .withdraw => Movement.read .withdraw instruction.context.now rest instruction.accounts
      | _ => none

def moved (crypto : Crypto) (entry : Chain × Instruction) : Option Movement :=
  if (processInstruction crypto entry.1.ledger entry.2).isOk then entry.2.movement else none

def movements (crypto : Crypto) (log : List (Chain × Instruction)) : List Movement :=
  log.filterMap (moved crypto)

def total (direction : Direction) (position : Address) (movements : List Movement) : Nat :=
  ((movements.filter fun movement =>
    movement.direction = direction ∧ movement.accounts.position = position).map
      fun movement => movement.amount.toNat).sum

theorem total_cons (direction : Direction) (position : Address) (movement : Movement)
    (earlier : List Movement) :
    total direction position (movement :: earlier) =
      (if movement.direction = direction ∧ movement.accounts.position = position then
        movement.amount.toNat else 0) + total direction position earlier := by
  by_cases counts : movement.direction = direction ∧ movement.accounts.position = position
  · simp [total, counts]
  · rw [if_neg counts, Nat.zero_add, total, total, List.filter_cons_of_neg]
    exact fun taken => counts (of_decide_eq_true taken)

/-! ## What an accepted instruction moves -/

section Accepted

variable {crypto : Crypto} {ledger result : Ledger} {instruction : Instruction}
  {label : Option SubmitClaim.Payout}

theorem Movement.read_eq_some {direction : Direction} {now : Int64} {data : List UInt8}
    {accounts : List Address} {named : UnderwriterAccounts} {rest : List Address}
    {amount : UInt64}
    (listed : accounts = named.config :: named.pool :: named.vault :: named.position ::
      named.underwriterToken :: named.underwriter :: rest)
    (decoded : decodeU64 data = .ok amount) :
    read direction now data accounts = some ⟨direction, named, amount, now⟩ := by
  rw [listed, read, decoded]
  rfl

theorem processInstruction_moves (shaped : Shaped crypto ledger)
    (unsigned : ∀ address, crypto.Derived address → instruction.context.signer address = false)
    (accepted : processInstruction crypto ledger instruction = .ok (result, label)) :
    (∃ accounts amount config pool credited before after,
      instruction.movement = some ⟨.deposit, accounts, amount, instruction.context.now⟩ ∧
      Deposits crypto instruction.context ledger accounts amount config pool credited before after
        result) ∨
    (∃ accounts amount config pool debited before after,
      instruction.movement = some ⟨.withdraw, accounts, amount, instruction.context.now⟩ ∧
      Withdraws crypto instruction.context ledger accounts amount config pool debited before after
        result) ∨
    instruction.movement = none ∧
      (booksOf result).positions = (booksOf ledger).positions := by
  obtain ⟨head, rest, discriminator, found, parsed, dispatched⟩ :=
    processInstruction_dispatched shaped unsigned accepted
  rw [Instruction.movement, found]
  dsimp only
  rw [parsed]
  cases dispatched with
  | initializeProtocol processed =>
      obtain ⟨_, _, -, -, -, books⟩ := InitializeProtocol.process_spec shaped processed
      exact .inr (.inr ⟨rfl, by rw [books]; rfl⟩)
  | createPool processed =>
      obtain ⟨_, _, _, _, _, _, _, _, _, -, -, -, -, -, -, -, -, -, -, -, books⟩ :=
        CreatePool.process_spec shaped processed
      exact .inr (.inr ⟨rfl, by rw [books]; rfl⟩)
  | deposit processed =>
      obtain ⟨accounts, _, amount, config, pool, credited, before, after, listed, decoded,
        deposits⟩ := Deposit.process_spec shaped processed
      exact .inl ⟨accounts, amount, config, pool, credited, before, after,
        Movement.read_eq_some listed decoded, deposits⟩
  | withdraw processed =>
      obtain ⟨accounts, _, amount, config, pool, debited, before, after, listed, decoded,
        withdraws⟩ := Withdraw.process_spec shaped processed
      exact .inr (.inl ⟨accounts, amount, config, pool, debited, before, after,
        Movement.read_eq_some listed decoded, withdraws⟩)
  | rest other rests =>
      refine .inr (.inr ⟨?_, rests.positions⟩)
      cases discriminator with
      | deposit => exact (other.1 rfl).elim
      | withdraw => exact (other.2 rfl).elim
      | _ => rfl

end Accepted

/-! ## The invariant -/

def depositedAt (stored : Option UnderwriterPosition) : Nat :=
  stored.elim 0 fun position => position.deposited.toNat

structure Recorded (books : Books) (clock : Int64) (movements : List Movement) : Prop where
  past : ∀ movement ∈ movements, movement.now ≤ clock
  balanced : ∀ account, total .deposit account movements =
    total .withdraw account movements + depositedAt (books.positions account)
  stamped : ∀ movement ∈ movements, movement.direction = .deposit →
    ∃ position, books.positions movement.accounts.position = some position ∧
      movement.now ≤ position.depositTimestamp

section Recorded

variable {crypto : Crypto} {context : Context} {ledger result : Ledger}
  {accounts : UnderwriterAccounts} {amount : UInt64} {config : ProtocolConfig}
  {pool pool' : CoveragePool} {before after : UnderwriterPosition} {clock now : Int64}
  {books books' : Books} {earlier : List Movement}

theorem Recorded.rest (recorded : Recorded books clock earlier) (forward : clock ≤ now)
    (positions : books'.positions = books.positions) : Recorded books' now earlier where
  past movement member := Int64.le_trans (recorded.past movement member) forward
  balanced account := by rw [positions, recorded.balanced account]
  stamped := by rw [positions]; exact recorded.stamped

theorem Recorded.deposit (recorded : Recorded (booksOf ledger) clock earlier)
    (forward : clock ≤ context.now)
    (deposits : Deposits crypto context ledger accounts amount config pool pool' before after
      result) :
    Recorded (booksOf result) context.now
      (⟨.deposit, accounts, amount, context.now⟩ :: earlier) := by
  obtain ⟨deposited, added, rfl⟩ := Deposit.creditPosition_eq_ok.mp deposits.positionCredited
  have positions := congrArg Books.positions deposits.books
  replace positions : (booksOf result).positions = Function.update (booksOf ledger).positions
    accounts.position _ := positions
  have held : depositedAt ((booksOf ledger).positions accounts.position) =
      before.deposited.toNat := by
    rcases deposits.opened with found | ⟨vacant, bump, rfl⟩
    · rw [found]
      rfl
    · rw [vacant]
      rfl
  refine ⟨?_, ?_, ?_⟩
  · intro movement member
    rcases List.mem_cons.mp member with rfl | older
    · exact Int64.le_refl _
    · exact Int64.le_trans (recorded.past movement older) forward
  · intro account
    have balanced := recorded.balanced account
    rw [total_cons, total_cons, positions]
    simp only [reduceCtorEq, false_and, true_and, ↓reduceIte]
    by_cases same : accounts.position = account
    · subst same
      rw [if_pos rfl, Function.update_self]
      show amount.toNat + _ = 0 + _ + deposited.toNat
      omega
    · rw [if_neg same, Function.update_of_ne (Ne.symm same)]
      omega
  · intro movement member deposit
    by_cases same : movement.accounts.position = accounts.position
    · refine ⟨_, by rw [positions, same, Function.update_self], ?_⟩
      rcases List.mem_cons.mp member with rfl | older
      · exact Int64.le_refl _
      · exact Int64.le_trans (recorded.past movement older) forward
    · rcases List.mem_cons.mp member with rfl | older
      · exact (same rfl).elim
      · rw [positions, Function.update_of_ne same]
        exact recorded.stamped movement older deposit

theorem Recorded.withdraw (recorded : Recorded (booksOf ledger) clock earlier)
    (forward : clock ≤ context.now)
    (withdraws : Withdraws crypto context ledger accounts amount config pool pool' before after
      result) :
    Recorded (booksOf result) context.now
      (⟨.withdraw, accounts, amount, context.now⟩ :: earlier) := by
  obtain ⟨deposited, taken, rfl⟩ := Withdraw.debitPosition_eq_ok.mp withdraws.positionDebited
  have positions := congrArg Books.positions withdraws.books
  replace positions : (booksOf result).positions = Function.update (booksOf ledger).positions
    accounts.position _ := positions
  refine ⟨?_, ?_, ?_⟩
  · intro movement member
    rcases List.mem_cons.mp member with rfl | older
    · exact Int64.le_refl _
    · exact Int64.le_trans (recorded.past movement older) forward
  · intro account
    have balanced := recorded.balanced account
    rw [total_cons, total_cons, positions]
    simp only [reduceCtorEq, false_and, true_and, ↓reduceIte]
    by_cases same : accounts.position = account
    · subst same
      rw [withdraws.opened] at balanced
      rw [if_pos rfl, Function.update_self]
      replace balanced : _ = _ + before.deposited.toNat := balanced
      show 0 + _ = amount.toNat + _ + deposited.toNat
      omega
    · rw [if_neg same, Function.update_of_ne (Ne.symm same)]
      omega
  · intro movement member deposit
    rcases List.mem_cons.mp member with rfl | older
    · cases deposit
    · obtain ⟨position, found, stamp⟩ := recorded.stamped movement older deposit
      by_cases same : movement.accounts.position = accounts.position
      · rw [same, withdraws.opened] at found
        cases found
        have stays : (booksOf result).positions movement.accounts.position =
            some { before with deposited } := by
          rw [positions, same, Function.update_self]
        exact ⟨_, stays, stamp⟩
      · exact ⟨position, by rw [positions, Function.update_of_ne same, found], stamp⟩

end Recorded

/-! ## Over a run -/

section Runs

variable {crypto : Crypto} {allowed : Chain → Instruction → Prop} {chain : Chain}
  {log : List (Chain × Instruction)}

theorem movements_cons (entry : Chain × Instruction) (log : List (Chain × Instruction)) :
    movements crypto (entry :: log) = (moved crypto entry).toList ++ movements crypto log := by
  rw [movements, movements, List.filterMap_cons]
  cases moved crypto entry <;> rfl

theorem Chain.Run.recorded (run : Run crypto allowed chain log) :
    Recorded (booksOf chain.ledger) chain.clock (movements crypto log) := by
  induction run with
  | @start chain begins =>
      refine ⟨nofun, fun account => ?_, nofun⟩
      have vacant : (booksOf chain.ledger).positions account = none :=
        begins.no_record (by decide) account
      rw [vacant]
      rfl
  | @instruction chain log earlier instruction unsigned forward met ih =>
      rw [movements_cons]
      unfold execute moved
      cases processed : processInstruction crypto chain.ledger instruction with
      | error _ => exact ih.rest forward rfl
      | ok outcome =>
          obtain ⟨ledger, label⟩ := outcome
          rcases processInstruction_moves earlier.reached.sound.shaped unsigned processed with
            ⟨_, _, _, _, _, _, _, asked, deposits⟩ | ⟨_, _, _, _, _, _, _, asked, withdraws⟩ |
            ⟨asked, kept⟩
          · simp only [Except.isOk, Except.toBool, ↓reduceIte]
            rw [asked]
            exact ih.deposit forward deposits
          · simp only [Except.isOk, Except.toBool, ↓reduceIte]
            rw [asked]
            exact ih.withdraw forward withdraws
          · simp only [Except.isOk, Except.toBool, ↓reduceIte]
            rw [asked]
            exact ih.rest forward kept
  | outside earlier outside ih =>
      refine ih.rest (Int64.le_refl _) ?_
      exact Outside.recordAt (α := UnderwriterPosition) outside (by decide)

theorem Chain.Run.earlier (run : Run crypto allowed chain log)
    {later before : List (Chain × Instruction)} {met : Chain} {instruction : Instruction}
    (split : log = later ++ (met, instruction) :: before) :
    Run crypto allowed met before ∧
      (∀ address, crypto.Derived address → instruction.context.signer address = false) ∧
      met.clock ≤ instruction.context.now := by
  induction run generalizing later with
  | start => cases later <;> cases split
  | instruction earlier tried unsigned forward _ ih =>
      cases later with
      | nil =>
          cases split
          exact ⟨earlier, unsigned, forward⟩
      | cons _ rest =>
          cases split
          exact ih rfl
  | outside _ _ ih => exact ih split

theorem Withdraw.cooldown_toInt (config : ProtocolConfig) :
    (cooldown config).toInt = max config.withdrawalCooldownSeconds.toInt 3600 := by
  have floor : absoluteMinWithdrawalCooldown.toInt = 3600 := by decide
  have chosen : cooldown config =
      if config.withdrawalCooldownSeconds ≤ absoluteMinWithdrawalCooldown then
        absoluteMinWithdrawalCooldown else config.withdrawalCooldownSeconds := rfl
  rw [chosen, ← floor]
  split
  case isTrue below => exact (max_eq_right (Int64.le_iff_toInt_le.mp below)).symm
  case isFalse above =>
      rw [Int64.le_iff_toInt_le] at above
      omega

theorem Withdraw.checkPosition_eq_ok {now : Int64} {underwriter : Address}
    {config : ProtocolConfig} {position : UnderwriterPosition} {amount : UInt64}
    (allowed : checkPosition now underwriter config position amount = .ok ()) :
    position.underwriter = underwriter ∧ max config.withdrawalCooldownSeconds.toInt 3600 ≤
      now.toInt - position.depositTimestamp.toInt := by
  simp only [checkPosition, bind_eq_ok, failIf_eq_ok, okOr_eq_ok, exists_const, ne_eq, not_not,
    checkedSubI64_eq_some, Int64.not_lt] at allowed
  obtain ⟨own, elapsed, difference, unlocked, -⟩ := allowed
  rw [Int64.le_iff_toInt_le, cooldown_toInt, difference] at unlocked
  exact ⟨own, unlocked⟩

/-- In every run no more is withdrawn from a position than was deposited into it,
and a withdrawal that was passed the canonical config is accepted only when its
cooldown, or an hour, has passed since each deposit, leaves the other positions
and pays only accounts of the position's underwriter. -/
theorem withdrawals_guarded (run : Chain.Run crypto allowed chain log) :
    (∀ position, total .withdraw position (movements crypto log) ≤
      total .deposit position (movements crypto log)) ∧
    ∀ later before instruction earlier withdrawal,
      log = later ++ (before, instruction) :: earlier →
      moved crypto (before, instruction) = some withdrawal → withdrawal.direction = .withdraw →
      crypto.Derives .protocol withdrawal.accounts.config →
      ∃ config position,
        recordAt ProtocolConfig before.ledger withdrawal.accounts.config = some config ∧
        recordAt UnderwriterPosition before.ledger withdrawal.accounts.position = some position ∧
        (∀ deposit ∈ movements crypto earlier, deposit.direction = .deposit →
          deposit.accounts.position = withdrawal.accounts.position →
          max config.withdrawalCooldownSeconds.toInt 3600 ≤
            withdrawal.now.toInt - deposit.now.toInt) ∧
        instruction.context.signer position.underwriter = true ∧
        (∀ account, account ≠ withdrawal.accounts.position →
          recordAt UnderwriterPosition (before.execute crypto instruction).ledger account =
            recordAt UnderwriterPosition before.ledger account) ∧
        ∀ address token token', tokenAt before.ledger address = some token →
          tokenAt (before.execute crypto instruction).ledger address = some token' →
          token.amount < token'.amount → token.owner = position.underwriter := by
  refine ⟨fun position => ?_, ?_⟩
  · have balanced := run.recorded.balanced position
    omega
  intro later before instruction earlier withdrawal split accepted direction canonical
  obtain ⟨sooner, unsigned, forward⟩ := run.earlier split
  have sound := sooner.reached.sound
  unfold moved at accepted
  cases processed : processInstruction crypto before.ledger instruction with
  | error _ =>
      rw [processed] at accepted
      cases accepted
  | ok outcome =>
      obtain ⟨ledger, label⟩ := outcome
      have executed : (before.execute crypto instruction).ledger = ledger := by
        rw [Chain.execute, processed]
      rw [executed]
      rw [processed] at accepted
      replace accepted : instruction.movement = some withdrawal := accepted
      rcases processInstruction_moves sound.shaped unsigned processed with
        ⟨_, _, _, _, _, _, _, asked, -⟩ |
        ⟨accounts, amount, config, pool, debited, position, after, asked, withdraws⟩ | ⟨asked, -⟩
      · cases accepted.symm.trans asked
        cases direction
      · cases accepted.symm.trans asked
        obtain ⟨own, unlocked⟩ := Withdraw.checkPosition_eq_ok withdraws.allowed
        refine ⟨config, position, sound.shaped.config canonical withdraws.configured,
          withdraws.opened, ?_, own ▸ withdraws.signed, ?_, ?_⟩
        · intro deposit member deposited same
          obtain ⟨stamped, found, stamp⟩ := sooner.recorded.stamped deposit member deposited
          rw [same, withdraws.opened] at found
          cases found
          rw [Int64.le_iff_toInt_le] at stamp
          refine unlocked.trans ?_
          show instruction.context.now.toInt - _ ≤ instruction.context.now.toInt - _
          omega
        · intro account different
          refine (congrFun (congrArg Books.positions withdraws.books) account).trans ?_
          exact Function.update_of_ne different _ _
        · intro address token token' found paid grew
          obtain ⟨stays, found', moves⟩ := withdraws.paid.moved address found
          cases found'.symm.trans paid
          have balance := moves.balance
          rw [UInt64.lt_iff_toNat_lt] at grew
          have credited : address = accounts.underwriterToken := by
            by_contra other
            rw [if_neg other] at balance
            omega
          rw [own]
          exact checkUnderwriterToken_owner withdraws.checked (credited ▸ found)
      · cases accepted.symm.trans asked

end Runs

namespace Demo

def opened : Chain := run [configure, createPool] genesis

def funded : Chain := opened.execute crypto deposit

def deposited : Movement where
  direction := .deposit
  accounts := ⟨key 100, key 101, key 102, key 103, underwriterToken, underwriter⟩
  amount := 100000000
  now := 0

theorem moved_of_accepted (chain : Chain) (instruction : Instruction) {movement : Movement}
    (accepted : (processInstruction crypto chain.ledger instruction).isOk = true)
    (asked : instruction.movement = some movement) :
    moved crypto (chain, instruction) = some movement := (if_pos accepted).trans asked

end Demo

/-- A withdrawal of 40 USDC after a deposit of 100, 1000000 seconds before. -/
theorem withdrawals_guarded_demo : ∃ log,
    Chain.Run Demo.crypto (fun _ _ => True) (Demo.funded.execute Demo.crypto Demo.withdraw)
      ((Demo.funded, Demo.withdraw) :: (Demo.opened, Demo.deposit) :: log) ∧
    (moved Demo.crypto (Demo.funded, Demo.withdraw)).map Movement.amount = some 40000000 ∧
    total .withdraw (Demo.key 103) (movements Demo.crypto
        ((Demo.funded, Demo.withdraw) :: (Demo.opened, Demo.deposit) :: log)) ≤
      total .deposit (Demo.key 103) (movements Demo.crypto
        ((Demo.funded, Demo.withdraw) :: (Demo.opened, Demo.deposit) :: log)) ∧
    ∃ config position,
      recordAt ProtocolConfig Demo.funded.ledger (Demo.key 100) = some config ∧
      recordAt UnderwriterPosition Demo.funded.ledger (Demo.key 103) = some position ∧
      max config.withdrawalCooldownSeconds.toInt 3600 ≤ 1000000 ∧
      Demo.withdraw.context.signer position.underwriter = true := by
  obtain ⟨log, opening⟩ : ∃ log, Chain.Run Demo.crypto (fun _ _ => True) Demo.opened log :=
    Chain.Run.execute_all (.start Demo.genesis_begins) [Demo.configure, Demo.createPool]
      ⟨by decide, Demo.unsigned 0 (by decide), by decide, Demo.unsigned 0 (by decide), trivial⟩
      fun _ _ _ => trivial
  have openedAt : Demo.opened.clock ≤ 0 := by
    rw [Demo.opened, Demo.run, List.foldl_cons, List.foldl_cons, List.foldl_nil,
      Chain.execute_clock]
    decide
  have fundedAt : Demo.funded.clock ≤ 1000000 := by
    rw [Demo.funded, Chain.execute_clock]
    decide
  have run := Chain.Run.instruction (Chain.Run.instruction opening Demo.deposit
    (Demo.unsigned 0 (by decide)) openedAt trivial) Demo.withdraw
    (Demo.unsigned 1000000 (by decide)) fundedAt trivial
  have deposited : moved Demo.crypto (Demo.opened, Demo.deposit) = some Demo.deposited :=
    Demo.moved_of_accepted Demo.opened Demo.deposit (by decide +kernel) rfl
  have withdrawn := Demo.moved_of_accepted Demo.funded Demo.withdraw (by decide +kernel) rfl
  obtain ⟨totals, guarded⟩ := withdrawals_guarded run
  obtain ⟨config, position, configured, held, unlocked, signed, -⟩ :=
    guarded [] Demo.funded Demo.withdraw _ _ rfl withdrawn rfl Demo.canonical
  refine ⟨log, run, by rw [withdrawn]; rfl, totals (Demo.key 103), config, position, configured,
    held, ?_, signed⟩
  refine unlocked Demo.deposited ?_ rfl rfl
  rw [movements_cons, deposited]
  exact List.mem_cons_self

end PactNetwork.V2
