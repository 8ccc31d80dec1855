import PactNetwork.V2.Guarantees

/-!
# Records and their addresses

Every record the program keeps is filed at the address derived from its own
fields, with the bump it carries, and what it refers to is there.
-/

set_option autoImplicit false

namespace PactNetwork.V2

open Solana TokenLedger

section Update

variable {α : Type} {records : Address → Option α} {account : Address} {value old : α}

theorem forall_update {property : Address → α → Prop}
    (held : ∀ address record, records address = some record → property address record)
    (new : property account value) (address : Address) (record : α)
    (found : Function.update records account (some value) address = some record) :
    property address record := by
  by_cases same : address = account
  · subst same
    rw [Function.update_self, Option.some.injEq] at found
    exact found ▸ new
  · rw [Function.update_of_ne same] at found
    exact held address record found

theorem isSome_update {address : Address} (found : (records address).isSome) :
    (Function.update records account (some value) address).isSome := by
  by_cases same : address = account
  · rw [same, Function.update_self]
    rfl
  · rwa [Function.update_of_ne same]

theorem exists_update {condition : α → Prop} (stored : ∀ old, records account = some old →
      condition old → condition value) {address : Address}
    (found : ∃ record, records address = some record ∧ condition record) :
    ∃ record, Function.update records account (some value) address = some record ∧
      condition record := by
  obtain ⟨record, found, holds⟩ := found
  by_cases same : address = account
  · subst same
    exact ⟨value, Function.update_self _ _ _, stored record found holds⟩
  · exact ⟨record, (Function.update_of_ne same _ _).trans found, holds⟩

end Update

/-! ## The invariant of the books -/

section Filed

variable (crypto : Crypto) (books : Books)

structure PoolFiled (account : Address) (pool : CoveragePool) : Prop where
  key : crypto.derive (.pool pool.hostnameBytes) = .ok (account, pool.bump)
  vault : crypto.derive (.vault account) = .ok (pool.vault, pool.vaultBump)

structure PolicyFiled (account : Address) (policy : Policy) : Prop where
  key : crypto.derive (.policy policy.pool policy.agent) = .ok (account, policy.bump)
  flag : policy.active = 0 ∨ policy.active = 1
  pool : (books.pools policy.pool).isSome

structure ClaimFiled (account : Address) (claim : Claim) : Prop where
  key : crypto.derive (.claim claim.policy claim.callId) = .ok (account, claim.bump)
  policy : ∃ policy, books.policies claim.policy = some policy ∧
    (policy.pool = claim.pool ∧ policy.agent = claim.agent)

structure Filed : Prop where
  pools : ∀ account pool, books.pools account = some pool → PoolFiled crypto account pool
  policies : ∀ account policy, books.policies account = some policy →
    PolicyFiled crypto books account policy
  claims : ∀ account claim, books.claims account = some claim →
    ClaimFiled crypto books account claim

variable {crypto books} {books' : Books}

theorem PoolFiled.counters {account : Address} {pool pool' : CoveragePool}
    (filed : PoolFiled crypto account pool) (hostname : pool'.hostnameBytes = pool.hostnameBytes)
    (bump : pool'.bump = pool.bump) (vault : pool'.vault = pool.vault)
    (vaultBump : pool'.vaultBump = pool.vaultBump) : PoolFiled crypto account pool' := by
  refine ⟨?_, ?_⟩
  · rw [hostname, bump]
    exact filed.key
  · rw [vault, vaultBump]
    exact filed.vault

theorem PolicyFiled.counters {account : Address} {policy policy' : Policy}
    (filed : PolicyFiled crypto books account policy) (agent : policy'.agent = policy.agent)
    (pool : policy'.pool = policy.pool) (bump : policy'.bump = policy.bump)
    (flag : policy'.active = policy.active ∨ policy'.active = 0) :
    PolicyFiled crypto books account policy' := by
  refine ⟨?_, ?_, ?_⟩
  · rw [agent, pool, bump]
    exact filed.key
  · rcases flag with same | disabled
    · rw [same]
      exact filed.flag
    · exact .inl disabled
  · rw [pool]
    exact filed.pool

theorem Filed.setPool (filed : Filed crypto books) {account : Address} {pool : CoveragePool}
    (new : PoolFiled crypto account pool) : Filed crypto (books.setPool account pool) where
  pools := forall_update filed.pools new
  policies address policy stored :=
    let held := filed.policies address policy stored
    ⟨held.key, held.flag, isSome_update held.pool⟩
  claims address claim stored :=
    let held := filed.claims address claim stored
    ⟨held.key, held.policy⟩

theorem Filed.setPolicy (filed : Filed crypto books) {account : Address} {policy : Policy}
    (new : PolicyFiled crypto books account policy)
    (kept : ∀ old, books.policies account = some old →
      policy.pool = old.pool ∧ policy.agent = old.agent) :
    Filed crypto (books.setPolicy account policy) where
  pools := filed.pools
  policies address other stored :=
    let held := forall_update filed.policies new address other stored
    ⟨held.key, held.flag, held.pool⟩
  claims address claim stored := by
    have held := filed.claims address claim stored
    refine ⟨held.key, exists_update ?_ held.policy⟩
    rintro old found ⟨pool, agent⟩
    exact ⟨(kept old found).1.trans pool, (kept old found).2.trans agent⟩

theorem Filed.setClaim (filed : Filed crypto books) {account : Address} {claim : Claim}
    (new : ClaimFiled crypto books account claim) :
    Filed crypto (books.setClaim account claim) where
  pools := filed.pools
  policies address policy stored :=
    let held := filed.policies address policy stored
    ⟨held.key, held.flag, held.pool⟩
  claims := forall_update (fun address other stored =>
    let held := filed.claims address other stored
    (⟨held.key, held.policy⟩ : ClaimFiled crypto (books.setClaim account claim) address other))
    ⟨new.key, new.policy⟩

theorem Filed.congr (filed : Filed crypto books) (pools : books'.pools = books.pools)
    (policies : books'.policies = books.policies) (claims : books'.claims = books.claims) :
    Filed crypto books' where
  pools account pool stored := filed.pools account pool (by rw [← pools, stored])
  policies account policy stored := by
    have held := filed.policies account policy (by rw [← policies, stored])
    exact ⟨held.key, held.flag, by rw [pools]; exact held.pool⟩
  claims account claim stored := by
    have held := filed.claims account claim (by rw [← claims, stored])
    exact ⟨held.key, by rw [policies]; exact held.policy⟩

end Filed

/-! ## Every step files its records -/

theorem CreatePool.hostnameBytes_pool {config : ProtocolConfig} {args : CreatePoolArgs}
    {now : Int64} {vault : Address} {bump vaultBump : UInt8}
    (fits : args.hostname.length ≤ 32) :
    (pool config args now vault bump vaultBump).hostnameBytes = args.hostname := by
  have length : (UInt8.ofNat args.hostname.length).toNat = args.hostname.length := by
    rw [UInt8.toNat_ofNat']
    omega
  show ((args.hostname ++ List.replicate 64 0).take 64).take
    (UInt8.ofNat args.hostname.length).toNat = args.hostname
  rw [length, List.take_take, Nat.min_eq_left (by omega), List.take_left]

section Steps

variable {crypto : Crypto} {now : Int64} {books books' : Books}
  {label : Option SubmitClaim.Payout}

theorem Step.filed (step : Step crypto now books label books') (filed : Filed crypto books) :
    Filed crypto books' := by
  cases step with
  | initializeProtocol => exact filed.congr rfl rfl rfl
  | updateConfig => exact filed.congr rfl rfl rfl
  | updateOracle => exact filed.congr rfl rfl rfl
  | @createPool _ account vault config args bump vaultBump token _ _ key vaultKey _ _ _ _ =>
      have fits := (Crypto.derive_eq_ok.mp key).1 args.hostname (by simp [Pda.seeds])
      apply Filed.setPool
      · exact filed.congr rfl rfl rfl
      · refine ⟨?_, vaultKey⟩
        rw [CreatePool.hostnameBytes_pool fits]
        exact key
  | updateRates stored _ _ =>
      apply filed.setPool
      exact (filed.pools _ _ stored).counters rfl rfl rfl rfl
  | deposit _ _ stored _ _ _ _ _ _ poolCredited _ =>
      obtain ⟨_, _, -, -, rfl⟩ := Deposit.creditPool_eq_ok.mp poolCredited
      apply Filed.setPool
      · exact filed.congr rfl rfl rfl
      · exact (filed.pools _ _ stored).counters rfl rfl rfl rfl
  | withdraw stored _ _ _ _ _ _ _ poolDebited _ =>
      obtain ⟨_, _, -, -, rfl⟩ := Withdraw.debitPool_eq_ok.mp poolDebited
      apply Filed.setPool
      · exact filed.congr rfl rfl rfl
      · exact (filed.pools _ _ stored).counters rfl rfl rfl rfl
  | enableInsurance _ _ stored key vacant _ poolCounted =>
      obtain ⟨-, rfl⟩ := EnableInsurance.countPolicy_eq_ok.mp poolCounted
      apply Filed.setPool
      · apply filed.setPolicy ⟨key, .inr rfl, Option.isSome_of_eq_some stored⟩
        intro old found
        cases vacant.symm.trans found
      · exact (filed.pools _ _ stored).counters rfl rfl rfl rfl
  | disablePolicy stored insured _ _ =>
      apply Filed.setPool
      · apply filed.setPolicy
        · exact (filed.policies _ _ insured).counters rfl rfl rfl (.inr rfl)
        · intro old found
          cases insured.symm.trans found
          exact ⟨rfl, rfl⟩
      · exact (filed.pools _ _ stored).counters rfl rfl rfl rfl
  | @settlePremium _ _ _ _ _ _ _ _ _ _ _ tokens stored insured _ _ _ _ _ policyCharged
      poolCredited _ =>
      obtain ⟨_, -, rfl⟩ := SettlePremium.chargePolicy_eq_ok.mp policyCharged
      obtain ⟨_, _, -, -, rfl⟩ := SettlePremium.creditPool_eq_ok.mp poolCredited
      have paid : Filed crypto (books.withTokens tokens) := filed.congr rfl rfl rfl
      apply Filed.setPool
      · apply paid.setPolicy
        · exact (paid.policies _ _ insured).counters rfl rfl rfl (.inl rfl)
        · intro old found
          cases insured.symm.trans found
          exact ⟨rfl, rfl⟩
      · exact (filed.pools _ _ stored).counters rfl rfl rfl rfl
  | @submitClaim accounts _ _ _ policy _ args refund _ bump tokens stored insured member key _ _
      poolDebited policyCharged _ =>
      obtain ⟨_, _, -, -, rfl⟩ := SubmitClaim.payPolicy_eq_ok.mp policyCharged
      obtain ⟨_, _, _, -, -, -, rfl⟩ := SubmitClaim.payPool_eq_ok.mp poolDebited
      have paid : Filed crypto (books.withTokens tokens) := filed.congr rfl rfl rfl
      have claimed : Filed crypto ((books.withTokens tokens).setClaim accounts.claim
          (SubmitClaim.claim accounts args (crypto.sha256 args.callId) policy.agent now refund
            bump)) := by
        apply paid.setClaim
        exact ⟨key, policy, insured, member, rfl⟩
      apply Filed.setPool
      · apply claimed.setPolicy
        · exact (claimed.policies _ _ insured).counters rfl rfl rfl (.inl rfl)
        · intro old found
          cases insured.symm.trans found
          exact ⟨rfl, rfl⟩
      · exact (filed.pools _ _ stored).counters rfl rfl rfl rfl
  | outside => exact filed.congr rfl rfl rfl

end Steps

/-! ## Bumps of configs and positions -/

/-- The canonical config and the positions carry the bump they were found with. -/
structure Bumped (crypto : Crypto) (books : Books) : Prop where
  configs : ∀ account config, books.configs account = some config →
    crypto.Derives .protocol account → crypto.derive .protocol = .ok (account, config.bump)
  positions : ∀ account position, books.positions account = some position →
    crypto.derive (.position position.pool position.underwriter) = .ok (account, position.bump)

section Ledgers

variable {crypto : Crypto} {context : Context} {ledger result : Ledger}
  {accounts : List Address} {data : List UInt8} {label : Option SubmitClaim.Payout}

theorem InitializeProtocol.process_bump
    (accepted : InitializeProtocol.process crypto context ledger accounts data = .ok result) :
    ∃ account bump, crypto.derive .protocol = .ok (account, bump) ∧ booksOf result =
      (booksOf ledger).setConfig account (config (Args.layout.decode data) bump) := by
  unfold InitializeProtocol.process at accepted
  split at accepted
  case h_1 named deployer system rest =>
    simp only [bind_eq_ok, failIf_eq_ok, exists_const, ne_eq, not_not, Prod.exists] at accepted
    obtain ⟨-, -, -, -, -, _, bump', key, rfl, -, -, created, creation, written⟩ := accepted
    obtain ⟨empty, -, owned, zeroed⟩ := createAccount_vacant creation
    obtain ⟨write, -⟩ : Written _ _ created result ∧ (Shaped crypto created → Shaped crypto result)
      := write_zeroed owned zeroed written rfl
    have books' := write.config
    rw [createAccount_setConfig creation] at books'
    exact ⟨named, bump', key, books'⟩
  case h_2 => cases accepted

theorem Deposit.settle_opened {accounts : UnderwriterAccounts} {bump : UInt8} {amount : UInt64}
    (settled : settle context ledger accounts bump amount = .ok result) :
    ∃ opened before, openPosition context ledger accounts bump = .ok opened ∧
      load UnderwriterPosition opened accounts.position = .ok before ∧
      ((opened accounts.position).owner = programId →
        settle context opened accounts bump amount = .ok result) := by
  have steps := settled
  simp only [settle, bind_eq_ok] at steps
  obtain ⟨opened, opening, before, loaded, rest⟩ := steps
  refine ⟨opened, before, opening, loaded, fun owned => ?_⟩
  have filled : (opened accounts.position).data ≠ [] := by
    rw [(load_eq_ok.mp loaded).1]
    intro empty
    have length := congrArg List.length empty
    rw [Layout.length_encode] at length
    cases length
  have again : openPosition context opened accounts bump = .ok opened := by
    rw [openPosition, if_neg filled, failIf_of_not (not_not_intro owned)]
    rfl
  simp only [settle, bind_eq_ok]
  exact ⟨opened, again, before, loaded, rest⟩

theorem Deposit.openPosition_cases {accounts : UnderwriterAccounts} {bump : UInt8}
    {before : UnderwriterPosition}
    (opened : openPosition context ledger accounts bump = .ok result)
    (loaded : load UnderwriterPosition result accounts.position = .ok before) :
    (booksOf ledger).positions accounts.position = some before ∨
      ledger accounts.position = Account.absent ∧ before = position accounts bump := by
  unfold openPosition at opened
  split at opened
  case isTrue =>
    simp only [bind_eq_ok] at opened
    obtain ⟨created, creation, written⟩ := opened
    obtain ⟨-, -, owned, zeroed⟩ := createAccount_vacant creation
    obtain ⟨-, absent, -, -⟩ := createAccount_eq_ok.mp creation
    have stored : recordAt UnderwriterPosition result accounts.position =
        some (position accounts bump) := by
      rw [recordAt_write owned (by rw [zeroed, List.length_replicate]) rfl written,
        Function.update_self]
    exact .inr ⟨absent, Except.ok.inj (loaded.symm.trans (recordAt_eq_some.mp stored).2)⟩
  case isFalse =>
    simp only [bind_eq_ok, failIf_eq_ok, exists_const, ne_eq, not_not, Except.ok.injEq] at opened
    obtain ⟨owned, rfl⟩ := opened
    exact .inl (recordAt_eq_some.mpr ⟨owned, loaded⟩)

theorem Deposit.settle_books {accounts : UnderwriterAccounts} {bump : UInt8} {amount : UInt64}
    (shaped : Shaped crypto ledger) (nonzero : amount ≠ 0)
    (settled : settle context ledger accounts bump amount = .ok result) :
    ∃ (pool credited : CoveragePool) (before after : UnderwriterPosition),
      (booksOf ledger).pools accounts.pool = some pool ∧
      ((booksOf ledger).positions accounts.position = some before ∨
        ledger accounts.position = Account.absent ∧ before = position accounts bump) ∧
      creditPosition before amount = .ok after ∧ creditPool pool amount = .ok credited ∧
      Pays (booksOf ledger).tokens
        ⟨accounts.underwriterToken, accounts.vault, accounts.underwriter, amount⟩
        (tokenAt result) ∧
      booksOf result = (((booksOf ledger).withTokens (tokenAt result)).setPosition
        accounts.position { after with depositTimestamp := context.now }).setPool accounts.pool
          { credited with updatedAt := context.now } := by
  obtain ⟨opened, before, opening, loaded, again⟩ := settle_opened settled
  obtain ⟨shaped', owned, same, -⟩ := openPosition_spec shaped opening
  obtain ⟨-, pool, credited, before', after, stored, found, credits, poolCredits, paid, books⟩ :=
    settle_spec shaped' nonzero (again owned)
  have held : (booksOf opened).positions accounts.position = some before :=
    recordAt_eq_some.mpr ⟨owned, loaded⟩
  have matched : before' = before := by
    rcases found with found | ⟨vacant, -⟩
    · exact Option.some.inj (found.symm.trans held)
    · cases vacant.symm.trans held
  subst matched
  refine ⟨pool, credited, before', after, ?_, openPosition_cases opening loaded, credits,
    poolCredits, ?_, ?_⟩
  · exact (congrFun (congrArg Books.pools (same before')) _).symm.trans stored
  · rw [show (booksOf ledger).tokens = (booksOf opened).tokens from
      (congrArg Books.tokens (same before')).symm]
    exact paid
  · rw [books, ← Books.setPosition_withTokens, same, Books.setPosition_withTokens]

theorem Deposit.process_bump (shaped : Shaped crypto ledger)
    (accepted : Deposit.process crypto context ledger accounts data = .ok result) :
    ∃ (named : UnderwriterAccounts) (bump : UInt8) (before after : UnderwriterPosition),
      crypto.derive (.position named.pool named.underwriter) = .ok (named.position, bump) ∧
      ((booksOf ledger).positions named.position = some before ∨
        ledger named.position = Account.absent ∧ before = position named bump) ∧
      after.pool = before.pool ∧ after.underwriter = before.underwriter ∧
      after.bump = before.bump ∧
      (booksOf result).configs = (booksOf ledger).configs ∧
      (booksOf result).positions =
        Function.update (booksOf ledger).positions named.position (some after) := by
  unfold Deposit.process at accepted
  split at accepted
  case h_1 configAccount account vault position underwriterToken underwriter token system rest =>
    simp only [deposit, bind_eq_ok, failIf_eq_ok, exists_const, Prod.exists, ne_eq, not_not]
      at accepted
    obtain ⟨-, -, -, -, -, amount, -, config, -, -, nonzero, -, pool, -, -, -, _, -, address,
      bump, key, rfl, settled⟩ := accepted
    obtain ⟨_, _, before, after, -, opened, credits, -, -, books⟩ :=
      settle_books shaped nonzero settled
    obtain ⟨deposited, -, rfl⟩ := creditPosition_eq_ok.mp credits
    refine ⟨⟨configAccount, account, vault, position, underwriterToken, underwriter⟩, bump,
      before, { before with deposited, depositTimestamp := context.now }, key, opened, rfl, rfl,
      rfl, ?_, ?_⟩
    · rw [books]
      rfl
    · rw [books]
      rfl
  case h_2 => cases accepted

theorem Step.config_bump {now : Int64} {books books' : Books}
    (step : Step crypto now books label books') {account : Address} {old : ProtocolConfig}
    (canonical : crypto.Derives .protocol account) (stored : books.configs account = some old) :
    ∃ config, books'.configs account = some config ∧ config.bump = old.bump := by
  cases step with
  | @initializeProtocol other _ _ _ vacant =>
      have different : account ≠ other := by
        rintro rfl
        cases vacant.symm.trans stored
      exact ⟨old, (Function.update_of_ne different _ _).trans stored, rfl⟩
  | updateConfig _ _ configured applied =>
      refine exists_update (fun before found same => ?_) ⟨old, stored, rfl⟩
      cases configured.symm.trans found
      simp only [UpdateConfig.apply, bind_eq_ok, Except.ok.injEq] at applied
      obtain ⟨_, -, _, -, _, -, _, -, _, -, rfl⟩ := applied
      exact same
  | updateOracle _ configured _ _ =>
      refine exists_update (fun before found same => ?_) ⟨old, stored, rfl⟩
      cases configured.symm.trans found
      exact same
  | createPool => exact ⟨old, stored, rfl⟩
  | updateRates => exact ⟨old, stored, rfl⟩
  | deposit => exact ⟨old, stored, rfl⟩
  | withdraw => exact ⟨old, stored, rfl⟩
  | enableInsurance => exact ⟨old, stored, rfl⟩
  | disablePolicy => exact ⟨old, stored, rfl⟩
  | settlePremium => exact ⟨old, stored, rfl⟩
  | submitClaim => exact ⟨old, stored, rfl⟩
  | outside kept _ => exact ⟨old, (kept account canonical).trans stored, rfl⟩

theorem processInstruction_bumped {instruction : Instruction} (shaped : Shaped crypto ledger)
    (unsigned : ∀ address, crypto.Derived address → instruction.context.signer address = false)
    (accepted : processInstruction crypto ledger instruction = .ok (result, label))
    (bumped : Bumped crypto (booksOf ledger)) : Bumped crypto (booksOf result) := by
  obtain ⟨_, _, _, -, -, dispatched⟩ := processInstruction_dispatched shaped unsigned accepted
  cases dispatched with
  | initializeProtocol processed =>
      obtain ⟨account, bump, key, books⟩ := InitializeProtocol.process_bump processed
      rw [books]
      exact ⟨forall_update bumped.configs fun _ => key, bumped.positions⟩
  | createPool processed =>
      obtain ⟨_, _, _, _, _, _, _, _, _, -, -, -, -, -, -, -, -, -, -, -, books⟩ :=
        CreatePool.process_spec shaped processed
      rw [books]
      exact ⟨bumped.configs, bumped.positions⟩
  | deposit processed =>
      obtain ⟨named, bump, before, after, key, opened, pool, underwriter, same, configs,
        positions⟩ := Deposit.process_bump shaped processed
      refine ⟨by rw [configs]; exact bumped.configs, ?_⟩
      rw [positions]
      apply forall_update bumped.positions
      rw [pool, underwriter, same]
      rcases opened with found | ⟨-, rfl⟩
      · exact bumped.positions _ _ found
      · exact key
  | withdraw processed =>
      obtain ⟨named, _, _, _, _, _, before, after, -, -, withdraws⟩ :=
        Withdraw.process_spec shaped processed
      obtain ⟨_, -, rfl⟩ := Withdraw.debitPosition_eq_ok.mp withdraws.positionDebited
      have before := bumped.positions _ _ withdraws.opened
      rw [withdraws.books]
      refine ⟨bumped.configs, forall_update bumped.positions ?_⟩
      exact before
  | rest _ rests =>
      refine ⟨fun account config stored canonical => ?_, ?_⟩
      · cases before : (booksOf ledger).configs account with
        | none => cases (rests.configs account before).symm.trans stored
        | some old =>
            have key := bumped.configs account old before canonical
            rcases rests.step with step | ⟨-, same⟩
            · obtain ⟨config', found, bump⟩ := step.config_bump canonical before
              cases stored.symm.trans found
              rw [bump]
              exact key
            · rw [same, before] at stored
              cases stored
              exact key
      · rw [rests.positions]
        exact bumped.positions

end Ledgers

/-! ## Over a run -/

section Runs

variable {crypto : Crypto} {chain before after : Chain}

theorem Chain.Next.bumped (next : Next crypto before after) (sound : Sound crypto before)
    (bumped : Bumped crypto (booksOf before.ledger)) : Bumped crypto (booksOf after.ledger) := by
  cases next with
  | instruction instruction unsigned forward =>
      unfold execute
      split
      case h_1 ledger payout processed =>
        exact processInstruction_bumped sound.shaped unsigned processed bumped
      case h_2 => exact bumped
  | outside outside =>
      refine ⟨fun account config stored canonical => ?_, ?_⟩
      · refine bumped.configs account config ?_ canonical
        exact (recordAt_of_contents (Outside.canonical sound.shaped outside canonical)).symm.trans
          stored
      · show ∀ account position, V2.recordAt UnderwriterPosition _ account = some position → _
        rw [Outside.recordAt (α := UnderwriterPosition) outside (by decide)]
        exact bumped.positions

theorem Chain.Reached.bumped (reached : Reached crypto chain) :
    Bumped crypto (booksOf chain.ledger) := by
  have both : Sound crypto chain ∧ Bumped crypto (booksOf chain.ledger) := by
    refine Reachable.invariant
      (fun chain => Sound crypto chain ∧ Bumped crypto (booksOf chain.ledger)) reached ?_ ?_
    · intro first genesis
      refine ⟨genesis.sound, ?_, ?_⟩
      · intro account config stored canonical
        have empty := (genesis.vacant account ⟨.protocol, canonical⟩).2
        cases (recordAt_eq_none_of_empty empty).symm.trans stored
      · intro account position stored
        cases (genesis.no_record (by decide) account).symm.trans stored
    · rintro before after ⟨sound, bumped⟩ next
      exact ⟨next.sound sound, next.bumped sound bumped⟩
  exact both.2

theorem Chain.Reached.filed (reached : Reached crypto chain) :
    Filed crypto (booksOf chain.ledger) := by
  refine reached.books (Filed crypto) (fun first genesis => ⟨?_, ?_, ?_⟩) ?_
  · intro account pool stored
    cases (genesis.no_record (by decide) account).symm.trans stored
  · intro account policy stored
    cases (genesis.no_record (by decide) account).symm.trans stored
  · intro account claim stored
    cases (genesis.no_record (by decide) account).symm.trans stored
  · intro now label books books' filed step
    exact step.filed filed

end Runs

/-! ## What is on record -/

/-- Every record has the address its own fields derive, with its bump, and what
it refers to is there. So there is one pool for a hostname, one position for a
pool and underwriter, one policy for a pool and agent, one claim for a policy
and call. -/
structure RecordsFiled (crypto : Crypto) (books : Books) : Prop where
  config : ∀ account config, books.configs account = some config →
    crypto.Derives .protocol account → crypto.derive .protocol = .ok (account, config.bump)
  pool : ∀ account pool, books.pools account = some pool →
    crypto.derive (.pool pool.hostnameBytes) = .ok (account, pool.bump) ∧
    crypto.derive (.vault account) = .ok (pool.vault, pool.vaultBump) ∧
    ∃ token, books.tokens pool.vault = some token ∧ token.Exclusive account
  position : ∀ account position, books.positions account = some position →
    crypto.derive (.position position.pool position.underwriter) = .ok (account, position.bump) ∧
    (books.pools position.pool).isSome
  policy : ∀ account policy, books.policies account = some policy →
    crypto.derive (.policy policy.pool policy.agent) = .ok (account, policy.bump) ∧
    (policy.active = 0 ∨ policy.active = 1) ∧ (books.pools policy.pool).isSome
  claim : ∀ account claim, books.claims account = some claim →
    crypto.derive (.claim claim.policy claim.callId) = .ok (account, claim.bump) ∧
    ∃ policy, books.policies claim.policy = some policy ∧
      (policy.pool = claim.pool ∧ policy.agent = claim.agent)
  onePool : ∀ account account' pool pool', books.pools account = some pool →
    books.pools account' = some pool' → pool.hostnameBytes = pool'.hostnameBytes →
    account = account'
  onePosition : ∀ account account' position position',
    books.positions account = some position → books.positions account' = some position' →
    position.pool = position'.pool → position.underwriter = position'.underwriter →
    account = account'
  onePolicy : ∀ account account' policy policy', books.policies account = some policy →
    books.policies account' = some policy' → policy.pool = policy'.pool →
    policy.agent = policy'.agent → account = account'
  oneClaim : ∀ account account' claim claim', books.claims account = some claim →
    books.claims account' = some claim' → claim.policy = claim'.policy →
    claim.callId = claim'.callId → account = account'

variable {crypto : Crypto} {chain : Chain}

theorem derive_unique {left right : Pda} {account account' : Address} {bump bump' : UInt8}
    (first : crypto.derive left = .ok (account, bump))
    (second : crypto.derive right = .ok (account', bump')) (same : left = right) :
    account = account' := by
  subst same
  exact congrArg Prod.fst (Except.ok.inj (first.symm.trans second))

/-- In every chain that can come about the records are filed. -/
theorem records_filed (reached : Chain.Reached crypto chain) :
    RecordsFiled crypto (booksOf chain.ledger) := by
  have bumped := reached.bumped
  have filed := reached.filed
  have accounted := reached.sound.accounted
  constructor
  case config => exact bumped.configs
  case pool =>
    intro account pool stored
    obtain ⟨key, vault⟩ := filed.pools account pool stored
    obtain ⟨token, held, exclusive, -⟩ := (accounted.pools account pool stored).covered
    exact ⟨key, vault, token, held, exclusive⟩
  case position =>
    intro account position stored
    obtain ⟨-, pool, found⟩ := accounted.positions account position stored
    exact ⟨bumped.positions account position stored, Option.isSome_of_eq_some found⟩
  case policy =>
    intro account policy stored
    obtain ⟨key, flag, pool⟩ := filed.policies account policy stored
    exact ⟨key, flag, pool⟩
  case claim =>
    intro account claim stored
    obtain ⟨key, policy⟩ := filed.claims account claim stored
    exact ⟨key, policy⟩
  case onePool =>
    intro account account' pool pool' stored stored' same
    exact derive_unique (filed.pools account pool stored).key
      (filed.pools account' pool' stored').key (congrArg Pda.pool same)
  case onePosition =>
    intro account account' position position' stored stored' pool underwriter
    exact derive_unique (bumped.positions account position stored)
      (bumped.positions account' position' stored') (by rw [pool, underwriter])
  case onePolicy =>
    intro account account' policy policy' stored stored' pool agent
    exact derive_unique (filed.policies account policy stored).key
      (filed.policies account' policy' stored').key (by rw [pool, agent])
  case oneClaim =>
    intro account account' claim claim' stored stored' policy callId
    exact derive_unique (filed.claims account claim stored).key
      (filed.claims account' claim' stored').key (by rw [policy, callId])

/-- The records of a run with a deposit, a policy and a paid claim. -/
theorem records_filed_demo :
    (recordAt Claim Demo.settled.ledger (Demo.key 105)).map (fun claim => claim.refundAmount) =
      some 500000 ∧ RecordsFiled Demo.crypto (booksOf Demo.settled.ledger) :=
  ⟨by decide +kernel, records_filed Demo.settled_reached⟩

end PactNetwork.V2
