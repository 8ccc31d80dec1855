import PactNetwork.V2.Guarantees

/-!
# Rates, the oracle and the frozen fields

`update_rates` and `update_oracle` check what they are passed.
`initialize_protocol` and `create_pool` write the same fields unchecked.
-/

set_option autoImplicit false

namespace PactNetwork.V2

open Solana

/-! ## The invariant -/

def CoveragePool.RateBounded (pool : CoveragePool) : Prop :=
  pool.minPremiumBps ≤ pool.insuranceRateBps ∧ pool.insuranceRateBps ≤ 10000

def ProtocolConfig.OracleSeparate (config : ProtocolConfig) : Prop :=
  config.oracle ≠ List.Vector.replicate 32 0 ∧ config.oracle ≠ config.authority

structure Bounded (crypto : Crypto) (books : Books) : Prop where
  rates : ∀ account pool, books.pools account = some pool → pool.RateBounded
  oracle : ∀ account config, crypto.Derives .protocol account →
    books.configs account = some config → config.OracleSeparate

section Steps

variable {crypto : Crypto} {now : Int64} {books books' : Books}
  {label : Option SubmitClaim.Payout}

theorem Bounded.changePool (bounded : Bounded crypto books) {account : Address}
    {pool' : CoveragePool}
    (pools : books'.pools = Function.update books.pools account (some pool'))
    (configs : books'.configs = books.configs) (rate : pool'.RateBounded) :
    Bounded crypto books' where
  rates other pool stored := by
    by_cases same : other = account
    · rw [same, pools, Function.update_self] at stored
      cases stored
      exact rate
    · rw [pools, Function.update_of_ne same] at stored
      exact bounded.rates other pool stored
  oracle := by
    rw [configs]
    exact bounded.oracle

theorem Bounded.changeConfig (bounded : Bounded crypto books) {account : Address}
    {config' : ProtocolConfig}
    (configs : books'.configs = Function.update books.configs account (some config'))
    (pools : books'.pools = books.pools) (oracle : config'.OracleSeparate) :
    Bounded crypto books' where
  rates := by
    rw [pools]
    exact bounded.rates
  oracle other config canonical stored := by
    by_cases same : other = account
    · rw [same, configs, Function.update_self] at stored
      cases stored
      exact oracle
    · rw [configs, Function.update_of_ne same] at stored
      exact bounded.oracle other config canonical stored

theorem UpdateConfig.apply_frozen {patch : UpdateConfigPatch} {config updated : ProtocolConfig}
    (applied : apply patch config = .ok updated) :
    updated.authority = config.authority ∧ updated.oracle = config.oracle ∧
      updated.treasury = config.treasury ∧ updated.usdcMint = config.usdcMint := by
  simp only [apply, bind_eq_ok, Except.ok.injEq] at applied
  obtain ⟨_, -, _, -, _, -, _, -, _, -, rfl⟩ := applied
  exact ⟨rfl, rfl, rfl, rfl⟩

theorem Step.bounded (step : Step crypto now books label books')
    (pools : ∀ account, books.pools account = none → books'.pools account = none)
    (configs : ∀ account, crypto.Derives .protocol account → books.configs account = none →
      books'.configs account = none)
    (bounded : Bounded crypto books) : Bounded crypto books' := by
  cases step with
  | initializeProtocol _ _ canonical vacant =>
      cases (Function.update_self _ _ _).symm.trans (configs _ canonical vacant)
  | updateConfig _ canonical stored applied =>
      obtain ⟨authority, oracle, -, -⟩ := UpdateConfig.apply_frozen applied
      refine bounded.changeConfig rfl rfl ?_
      rw [ProtocolConfig.OracleSeparate, authority, oracle]
      exact bounded.oracle _ _ canonical stored
  | updateOracle _ _ nonzero separate => exact bounded.changeConfig rfl rfl ⟨nonzero, separate⟩
  | createPool _ _ _ _ vacant _ _ _ =>
      cases (Function.update_self _ _ _).symm.trans (pools _ vacant)
  | updateRates _ floor ceiling => exact bounded.changePool rfl rfl ⟨floor, ceiling⟩
  | deposit _ _ stored _ _ _ _ _ _ poolCredited _ =>
      obtain ⟨_, _, -, -, rfl⟩ := Deposit.creditPool_eq_ok.mp poolCredited
      have rate := bounded.rates _ _ stored
      exact bounded.changePool rfl rfl rate
  | withdraw stored _ _ _ _ _ _ _ poolDebited _ =>
      obtain ⟨_, _, -, -, rfl⟩ := Withdraw.debitPool_eq_ok.mp poolDebited
      have rate := bounded.rates _ _ stored
      exact bounded.changePool rfl rfl rate
  | enableInsurance _ _ stored _ _ _ poolCounted =>
      obtain ⟨-, rfl⟩ := EnableInsurance.countPolicy_eq_ok.mp poolCounted
      have rate := bounded.rates _ _ stored
      exact bounded.changePool rfl rfl rate
  | disablePolicy stored _ _ _ =>
      have rate := bounded.rates _ _ stored
      exact bounded.changePool rfl rfl rate
  | settlePremium stored _ _ _ _ _ _ _ poolCredited _ =>
      obtain ⟨_, _, -, -, rfl⟩ := SettlePremium.creditPool_eq_ok.mp poolCredited
      have rate := bounded.rates _ _ stored
      exact bounded.changePool rfl rfl rate
  | submitClaim stored _ _ _ _ _ poolDebited _ _ =>
      obtain ⟨_, _, _, -, -, -, rfl⟩ := SubmitClaim.payPool_eq_ok.mp poolDebited
      have rate := bounded.rates _ _ stored
      exact bounded.changePool rfl rfl rate
  | outside canonical _ =>
      refine ⟨bounded.rates, fun account config derives stored => ?_⟩
      exact bounded.oracle account config derives ((canonical account derives).symm.trans stored)

theorem Step.config_frozen (step : Step crypto now books label books') {address : Address}
    {config : ProtocolConfig} (canonical : crypto.Derives .protocol address)
    (stored : books.configs address = some config) :
    ∃ config', books'.configs address = some config' ∧ config'.treasury = config.treasury ∧
      config'.usdcMint = config.usdcMint := by
  cases step with
  | initializeProtocol _ _ derives vacant =>
      rw [canonical.unique derives, vacant] at stored
      cases stored
  | updateConfig _ derives found applied =>
      obtain rfl := canonical.unique derives
      cases found.symm.trans stored
      obtain ⟨-, -, treasury, mint⟩ := UpdateConfig.apply_frozen applied
      exact ⟨_, Function.update_self _ _ _, treasury, mint⟩
  | updateOracle derives found _ _ =>
      obtain rfl := canonical.unique derives
      cases found.symm.trans stored
      exact ⟨_, Function.update_self _ _ _, rfl, rfl⟩
  | outside kept => exact ⟨config, (kept address canonical).trans stored, rfl, rfl⟩
  | _ => exact ⟨config, stored, rfl, rfl⟩

end Steps

/-! ## Over a run -/

/-- What `initialize_protocol` and `create_pool` are passed is within the bounds
that the update handlers check. -/
structure WithinBounds (chain : Chain) (instruction : Instruction) : Prop where
  oracle : ∀ head rest, instruction.data = head :: rest →
    Discriminator.tryFrom head = some .initializeProtocol →
    let args := InitializeProtocol.Args.layout.decode rest
    args.oracle ≠ List.Vector.replicate 32 0 ∧ args.oracle ≠ args.authority
  rate : ∀ head rest account others args config, instruction.data = head :: rest →
    Discriminator.tryFrom head = some .createPool → instruction.accounts = account :: others →
    CreatePoolArgs.cursor.decode rest = .ok args →
    load ProtocolConfig chain.ledger account = .ok config →
    let rate := args.insuranceRateBps.getD config.defaultInsuranceRateBps
    config.minPremiumBps ≤ rate ∧ rate ≤ 10000

section Runs

variable {crypto : Crypto} {chain before after later : Chain}

theorem Dispatched.bounded {instruction : Instruction} {head : UInt8} {rest : List UInt8}
    {result : Ledger} {discriminator : Discriminator} {label : Option SubmitClaim.Payout}
    (shaped : Shaped crypto chain.ledger) (within : WithinBounds chain instruction)
    (found : instruction.data = head :: rest)
    (parsed : Discriminator.tryFrom head = some discriminator)
    (dispatched : Dispatched crypto instruction.context chain.ledger instruction.accounts rest
      result discriminator label) (bounded : Bounded crypto (booksOf chain.ledger)) :
    Bounded crypto (booksOf result) := by
  cases dispatched with
  | initializeProtocol processed =>
      obtain ⟨_, _, _, _, -, books⟩ := InitializeProtocol.process_spec shaped processed
      rw [books]
      exact bounded.changeConfig rfl rfl (within.oracle head rest found parsed)
  | createPool processed =>
      obtain ⟨account, config, args, _, _, _, _, others, _, listed, decoded, _, loaded, -, -, -, -,
        -, -, -, books⟩ := CreatePool.process_spec shaped processed
      rw [books]
      exact bounded.changePool rfl rfl
        (within.rate head rest account others args config found parsed listed decoded loaded)
  | deposit processed =>
      obtain ⟨_, _, _, _, _, _, _, _, -, -, deposits⟩ := Deposit.process_spec shaped processed
      obtain ⟨_, _, -, -, rfl⟩ := Deposit.creditPool_eq_ok.mp deposits.poolCredited
      have rate := bounded.rates _ _ deposits.stored
      rw [deposits.books]
      exact bounded.changePool rfl rfl rate
  | withdraw processed =>
      obtain ⟨_, _, _, _, _, _, _, _, -, -, withdraws⟩ := Withdraw.process_spec shaped processed
      obtain ⟨_, _, -, -, rfl⟩ := Withdraw.debitPool_eq_ok.mp withdraws.poolDebited
      have rate := bounded.rates _ _ withdraws.stored
      rw [withdraws.books]
      exact bounded.changePool rfl rfl rate
  | rest _ rests =>
      rcases rests.step with step | ⟨-, same⟩
      · exact step.bounded rests.pools (fun account _ => rests.configs account) bounded
      · rwa [same]

theorem Chain.NextWhen.bounded (next : NextWhen crypto WithinBounds before after)
    (sound : Sound crypto before) (bounded : Bounded crypto (booksOf before.ledger)) :
    Bounded crypto (booksOf after.ledger) := by
  cases next with
  | instruction instruction unsigned forward within =>
      unfold execute
      split
      case h_1 ledger label processed =>
        obtain ⟨_, _, _, found, parsed, dispatched⟩ :=
          processInstruction_dispatched sound.shaped unsigned processed
        exact dispatched.bounded sound.shaped within found parsed bounded
      case h_2 => exact bounded
  | outside outside =>
      rcases (outside.advances before.clock sound.shaped).step with step | ⟨-, same⟩
      · refine step.bounded ?_ ?_ bounded
        · intro account vacant
          exact (congrFun (Outside.recordAt (α := CoveragePool) outside (by decide)) account).trans
            vacant
        · intro account canonical vacant
          exact (recordAt_of_contents (Outside.canonical sound.shaped outside canonical)).trans
            vacant
      · rwa [same]

theorem Chain.Reached.books_later (property : Books → Prop) (reached : Reached crypto chain)
    (run : Relation.ReflTransGen (Next crypto) chain later)
    (holds : property (booksOf chain.ledger))
    (kept : ∀ now label books books', property books → Step crypto now books label books' →
      property books') : property (booksOf later.ledger) := by
  induction run with
  | refl => exact holds
  | tail earlier next ih =>
      exact next.books property (Chain.Reached.sound (reached.trans earlier)) ih kept

theorem Chain.Reached.config_frozen (reached : Reached crypto chain)
    (run : Relation.ReflTransGen (Next crypto) chain later) {account : Address}
    {config : ProtocolConfig} (canonical : crypto.Derives .protocol account)
    (stored : recordAt ProtocolConfig chain.ledger account = some config) :
    ∃ config', recordAt ProtocolConfig later.ledger account = some config' ∧
      config'.treasury = config.treasury ∧ config'.usdcMint = config.usdcMint := by
  refine reached.books_later (fun books => ∃ config', books.configs account = some config' ∧
    config'.treasury = config.treasury ∧ config'.usdcMint = config.usdcMint) run
    ⟨config, stored, rfl, rfl⟩ ?_
  rintro now label books books' ⟨config', found, treasury, mint⟩ step
  obtain ⟨config'', found', treasury', mint'⟩ := step.config_frozen canonical found
  exact ⟨config'', found', treasury'.trans treasury, mint'.trans mint⟩

/-- While the handlers that make pools and the config are passed values within
bounds, every rate and the oracle are within them. The treasury and the mint of
the config are frozen whatever happens. -/
theorem parameters_bounded
    (reached : Reachable (Chain.Genesis crypto) (Chain.NextWhen crypto WithinBounds) chain) :
    (∀ account pool, recordAt CoveragePool chain.ledger account = some pool →
      pool.minPremiumBps ≤ pool.insuranceRateBps ∧ pool.insuranceRateBps ≤ 10000) ∧
    ∀ account config, crypto.Derives .protocol account →
      recordAt ProtocolConfig chain.ledger account = some config →
      (config.oracle ≠ List.Vector.replicate 32 0 ∧ config.oracle ≠ config.authority) ∧
      ∀ later, Relation.ReflTransGen (Chain.Next crypto) chain later → ∃ config',
        recordAt ProtocolConfig later.ledger account = some config' ∧
        config'.treasury = config.treasury ∧ config'.usdcMint = config.usdcMint := by
  have both : Chain.Sound crypto chain ∧ Bounded crypto (booksOf chain.ledger) := by
    refine Reachable.invariant (fun chain => Chain.Sound crypto chain ∧
      Bounded crypto (booksOf chain.ledger)) reached (fun first genesis => ⟨genesis.sound, ?_⟩) ?_
    · refine ⟨fun account pool stored => ?_, fun account config canonical stored => ?_⟩
      · cases (genesis.no_record (by decide) account).symm.trans stored
      · obtain ⟨owned, -⟩ := recordAt_eq_some.mp stored
        rw [(genesis.vacant account ⟨.protocol, canonical⟩).1] at owned
        exact absurd owned (by decide)
    · rintro before after ⟨sound, bounded⟩ next
      exact ⟨next.next.sound sound, next.bounded sound bounded⟩
  refine ⟨both.2.rates, fun account config canonical stored => ⟨both.2.oracle account config
    canonical stored, fun later run => ?_⟩⟩
  exact Chain.Reached.config_frozen (reached.mono fun _ _ next => next.next) run canonical stored

end Runs

/-! ## With and without the condition -/

namespace Demo

def configured : Chain := genesis.execute crypto configure

theorem configured_bounded :
    Reachable (Chain.Genesis crypto) (Chain.NextWhen crypto WithinBounds) configured := by
  refine .next (.start genesis_begins) (.instruction configure (unsigned 0 (by decide)) (by decide)
    ⟨?_, ?_⟩)
  · intro head rest found _
    cases found
    exact ⟨by decide, by decide⟩
  · intro head rest account others args config found parsed
    cases found
    cases parsed

theorem opened_bounded : Reachable (Chain.Genesis crypto) (Chain.NextWhen crypto WithinBounds)
    (configured.execute crypto createPool) := by
  have forward : configured.clock ≤ 0 := by
    rw [configured, Chain.execute_clock]
    decide
  refine .next configured_bounded (.instruction createPool (unsigned 0 (by decide)) forward
    ⟨?_, ?_⟩)
  · intro head rest found parsed
    cases found
    cases parsed
  · intro head rest account others args config found _ listed decoded loaded
    cases found
    cases listed
    cases decoded
    have default : (load ProtocolConfig configured.ledger (key 100)).toOption.map (fun config =>
        decide (config.minPremiumBps ≤ config.defaultInsuranceRateBps ∧
          config.defaultInsuranceRateBps ≤ 10000)) = some true := by decide +kernel
    rw [loaded] at default
    exact of_decide_eq_true (Option.some.inj default)

end Demo

/-- The config and a pool with the default rate. -/
theorem parameters_bounded_demo : ∃ pool config,
    recordAt CoveragePool (Demo.configured.execute Demo.crypto Demo.createPool).ledger
      (Demo.key 101) = some pool ∧ pool.insuranceRateBps = 25 ∧
    recordAt ProtocolConfig (Demo.configured.execute Demo.crypto Demo.createPool).ledger
      (Demo.key 100) = some config ∧
    (pool.minPremiumBps ≤ pool.insuranceRateBps ∧ pool.insuranceRateBps ≤ 10000) ∧
    config.oracle ≠ config.authority := by
  have rate : (recordAt CoveragePool (Demo.configured.execute Demo.crypto
      Demo.createPool).ledger (Demo.key 101)).map CoveragePool.insuranceRateBps = some 25 := by
    decide +kernel
  have made : (recordAt ProtocolConfig (Demo.configured.execute Demo.crypto
      Demo.createPool).ledger (Demo.key 100)).isSome = true := by decide +kernel
  obtain ⟨pool, stored, priced⟩ := Option.map_eq_some_iff.mp rate
  obtain ⟨config, found⟩ := Option.isSome_iff_exists.mp made
  obtain ⟨rates, oracle⟩ := parameters_bounded Demo.opened_bounded
  exact ⟨pool, config, stored, priced, found, rates _ pool stored,
    (oracle _ config ⟨255, by decide⟩ found).1.2⟩

namespace Demo

def configureAlone : Instruction :=
  instruction deployerPubkey 0 [key 100, deployerPubkey, systemProgram]
    (0 :: authority.toList ++ authority.toList ++ treasury.toList ++ mint.toList)

def createDearPool : Instruction :=
  instruction authority 0
    [key 100, key 101, key 102, mint, authority, systemProgram, tokenProgram, systemProgram]
    ([3, 3, 0, 0, 0] ++ hostname ++ [1] ++ Layout.u16.encode 20000 ++ [0])

def dear : Chain := run [configureAlone, createDearPool] genesis

theorem dear_reached : Chain.Reached crypto dear :=
  Reachable.trans (.start genesis_begins) (Chain.run_execute genesis _
    ⟨by decide, unsigned 0 (by decide), by decide, unsigned 0 (by decide), trivial⟩)

end Demo

/-- Neither bound holds without the condition. -/
theorem parameters_unbounded :
    (¬ ∀ (crypto : Crypto) (chain : Chain), Chain.Reached crypto chain →
      ∀ account pool, recordAt CoveragePool chain.ledger account = some pool →
        pool.minPremiumBps ≤ pool.insuranceRateBps ∧ pool.insuranceRateBps ≤ 10000) ∧
    ¬ ∀ (crypto : Crypto) (chain : Chain), Chain.Reached crypto chain →
      ∀ account config, crypto.Derives .protocol account →
        recordAt ProtocolConfig chain.ledger account = some config →
        config.oracle ≠ List.Vector.replicate 32 0 ∧ config.oracle ≠ config.authority := by
  constructor
  · intro always
    have rate : (recordAt CoveragePool Demo.dear.ledger (Demo.key 101)).map
        CoveragePool.insuranceRateBps = some 20000 := by decide +kernel
    obtain ⟨pool, stored, dear⟩ := Option.map_eq_some_iff.mp rate
    have bound := (always Demo.crypto Demo.dear Demo.dear_reached _ pool stored).2
    rw [dear] at bound
    exact absurd bound (by decide)
  · intro always
    have same : (recordAt ProtocolConfig Demo.dear.ledger (Demo.key 100)).map
        (fun config => decide (config.oracle = config.authority)) = some true := by
      decide +kernel
    obtain ⟨config, stored, alone⟩ := Option.map_eq_some_iff.mp same
    exact (always Demo.crypto Demo.dear Demo.dear_reached _ config ⟨255, by decide⟩ stored).2
      (of_decide_eq_true alone)

end PactNetwork.V2
