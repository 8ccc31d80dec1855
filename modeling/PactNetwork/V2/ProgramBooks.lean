import PactNetwork.V2.Accounting
import PactNetwork.V2.LedgerBooks
import PactNetwork.V2.Program

/-!
# V2 instructions are steps of the books

Every accepted instruction takes the books through one step. The invariants of
the books are then invariants of the chain.
-/

set_option autoImplicit false

namespace PactNetwork.V2

open Solana TokenLedger

/-! ## Configuration -/

/-- The books take at most one step, with the label the instruction yields. -/
structure Advances (crypto : Crypto) (now : Int64) (before : Ledger)
    (label : Option SubmitClaim.Payout) (after : Ledger) : Prop where
  shaped : Shaped crypto after
  step : Step crypto now (booksOf before) label (booksOf after) ∨
    label = none ∧ booksOf after = booksOf before

/-- The same with every position left as it was, and no new pool or config. -/
structure Rests (crypto : Crypto) (now : Int64) (before : Ledger)
    (label : Option SubmitClaim.Payout) (after : Ledger) : Prop
    extends Advances crypto now before label after where
  positions : (booksOf after).positions = (booksOf before).positions
  pools : ∀ account, (booksOf before).pools account = none → (booksOf after).pools account = none
  configs : ∀ account, (booksOf before).configs account = none →
    (booksOf after).configs account = none

theorem vacant_of_update {α : Type} {records : Address → Option α} {account : Address}
    {old value : α} (stored : records account = some old) (address : Address)
    (vacant : records address = none) :
    Function.update records account (some value) address = none := by
  have different : address ≠ account := by
    rintro rfl
    cases vacant.symm.trans stored
  rw [Function.update_of_ne different, vacant]

section Configuration

variable {crypto : Crypto} {context : Context} {ledger result : Ledger}
  {accounts : List Address} {data : List UInt8}

theorem InitializeProtocol.process_spec (shaped : Shaped crypto ledger)
    (accepted : InitializeProtocol.process crypto context ledger accounts data = .ok result) :
    ∃ account bump, crypto.Derives .protocol account ∧
      (booksOf ledger).configs account = none ∧ Shaped crypto result ∧
      booksOf result = (booksOf ledger).setConfig account (config (Args.layout.decode data) bump) := by
  unfold InitializeProtocol.process at accepted
  split at accepted
  case h_1 account deployer system rest =>
    simp only [bind_eq_ok, failIf_eq_ok, exists_const, ne_eq, not_not, Prod.exists] at accepted
    obtain ⟨-, -, -, -, -, _, bump, key, rfl, -, -, created, creation, written⟩ := accepted
    obtain ⟨empty, -, owned, zeroed⟩ := createAccount_vacant creation
    obtain ⟨write, kept⟩ := write_zeroed owned zeroed written rfl
    have books := write.config
    rw [createAccount_setConfig creation] at books
    exact ⟨account, bump, ⟨bump, key⟩, recordAt_eq_none_of_empty empty,
      kept (shaped.createAccount creation (.inl rfl)), books⟩
  case h_2 => cases accepted

theorem InitializeProtocol.advances (shaped : Shaped crypto ledger)
    (accepted : InitializeProtocol.process crypto context ledger accounts data = .ok result) :
    Advances crypto context.now ledger none result := by
  obtain ⟨account, bump, canonical, vacant, shaped', books⟩ := process_spec shaped accepted
  exact ⟨shaped', .inl (books ▸ .initializeProtocol _ bump canonical vacant)⟩

theorem advances_of_config {account : Address} {config updated : ProtocolConfig}
    (shaped : Shaped crypto ledger) (canonical : crypto.Derives .protocol account)
    (loaded : load ProtocolConfig ledger account = .ok config)
    (written : write context ledger account updated = .ok result)
    (tagged : updated.discriminator = config.discriminator) :
    Shaped crypto result ∧ booksOf result = (booksOf ledger).setConfig account updated ∧
      (booksOf ledger).configs account = some config := by
  have stored := shaped.config canonical loaded
  have kind : Pod.tag updated = Pod.discriminator ProtocolConfig :=
    tagged.trans (load_eq_ok.mp loaded).2
  obtain ⟨write, kept⟩ := write_over (recordAt_eq_some.mp stored).1 loaded written kind
  exact ⟨kept shaped, write.config, stored⟩

theorem UpdateConfig.apply_discriminator {patch : UpdateConfigPatch}
    {config updated : ProtocolConfig} (applied : apply patch config = .ok updated) :
    updated.discriminator = config.discriminator := by
  simp only [apply, bind_eq_ok, Except.ok.injEq] at applied
  obtain ⟨_, -, _, -, _, -, _, -, _, -, rfl⟩ := applied
  rfl

theorem UpdateConfig.rests (shaped : Shaped crypto ledger)
    (accepted : UpdateConfig.process crypto context ledger accounts data = .ok result) :
    Rests crypto context.now ledger none result := by
  unfold UpdateConfig.process at accepted
  split at accepted
  case h_1 account authority rest =>
    simp only [bind_eq_ok, failIf_eq_ok, exists_const, requireCanonical_eq_ok] at accepted
    obtain ⟨-, -, canonical, patch, -, -, config, loaded, -, updated, applied, written⟩ := accepted
    obtain ⟨shaped', books, stored⟩ :=
      advances_of_config shaped canonical loaded written (apply_discriminator applied)
    refine ⟨⟨shaped', .inl (books ▸ .updateConfig patch canonical stored applied)⟩, ?_, ?_, ?_⟩ <;>
      rw [books]
    · rfl
    · exact fun _ vacant => vacant
    · exact vacant_of_update stored
  case h_2 => cases accepted

theorem UpdateOracle.rests (shaped : Shaped crypto ledger)
    (accepted : UpdateOracle.process crypto context ledger accounts data = .ok result) :
    Rests crypto context.now ledger none result := by
  unfold UpdateOracle.process at accepted
  split at accepted
  case h_1 account authority rest =>
    simp only [bind_eq_ok, failIf_eq_ok, exists_const, requireCanonical_eq_ok] at accepted
    obtain ⟨-, -, canonical, -, nonzero, config, loaded, -, separate, written⟩ := accepted
    obtain ⟨shaped', books, stored⟩ := advances_of_config shaped canonical loaded written rfl
    refine ⟨⟨shaped', .inl (books ▸ .updateOracle canonical stored nonzero separate)⟩, ?_, ?_, ?_⟩ <;>
      rw [books]
    · rfl
    · exact fun _ vacant => vacant
    · exact vacant_of_update stored
  case h_2 => cases accepted

end Configuration

/-! ## Pools and underwriters -/

section Pools

variable {crypto : Crypto} {context : Context} {ledger result : Ledger}
  {accounts : List Address} {data : List UInt8}

theorem CreatePool.create_spec {account vault mint authority : Address} {config : ProtocolConfig}
    {args : CreatePoolArgs} (shaped : Shaped crypto ledger)
    (created : create crypto context ledger account vault mint authority config args =
      .ok result) :
    Shaped crypto result ∧ ∃ bump vaultBump, ∃ token : TokenAccount,
      crypto.derive (.pool args.hostname) = .ok (account, bump) ∧
      crypto.derive (.vault account) = .ok (vault, vaultBump) ∧
      (booksOf ledger).pools account = none ∧ (booksOf ledger).tokens vault = none ∧
      token.Exclusive account ∧ token.amount = 0 ∧
      booksOf result = ((booksOf ledger).withTokens
        (Function.update (booksOf ledger).tokens vault (some token))).setPool account
          (pool config args context.now vault bump vaultBump) := by
  simp only [create, bind_eq_ok, failIf_eq_ok, exists_const, ne_eq, not_not, Prod.exists]
    at created
  obtain ⟨_, bump, key, rfl, empty, _, vaultBump, vaultKey, rfl, -, first, makePool, second,
    makeVault, third, opening, written⟩ := created
  have apart : ∀ address, crypto.Derives .protocol address → address ≠ vault := by
    rintro address canonical rfl
    cases canonical.inj ⟨vaultBump, vaultKey⟩
  have different : account ≠ vault := by
    rintro rfl
    cases Crypto.Derives.inj ⟨bump, key⟩ ⟨vaultBump, vaultKey⟩
  obtain ⟨-, -, owned, zeroed⟩ := createAccount_vacant makePool
  obtain ⟨fresh, tokens2⟩ := tokenAt_createAccount makeVault
  obtain ⟨owned2, data2⟩ := createAccount_contents makeVault different
  obtain ⟨token, exclusive, unfunded, kept, tokens3⟩ := initializeAccount3_books opening
  have same : third account = second account := kept.same account (by
    rw [owned2, owned]
    decide)
  obtain ⟨write, shapes⟩ := write_zeroed (by rw [same, owned2, owned])
    (by rw [same, data2, zeroed]) written rfl
  have books1 := createAccount_books makePool (by decide)
  have books2 := (createAccount_books makeVault (by decide)).trans books1
  have tokens1 : tokenAt first = tokenAt ledger := congrArg Books.tokens books1
  refine ⟨shapes (SameOutsideTokens.shaped kept ((shaped.createAccount makePool
      (.inl rfl)).createAccount makeVault (.inr fun canonical => apart vault canonical rfl))),
    bump, vaultBump, token, key, vaultKey, recordAt_eq_none_of_empty empty, ?_, exclusive,
    unfunded, ?_⟩
  · exact (congrFun tokens1 vault).symm.trans fresh
  · rw [write.pool, SameOutsideTokens.books kept, books2, tokens3, tokens2, tokens1]
    rfl

theorem CreatePool.process_spec (shaped : Shaped crypto ledger)
    (accepted : CreatePool.process crypto context ledger accounts data = .ok result) :
    ∃ configAccount config args account vault bump vaultBump rest, ∃ token : TokenAccount,
      accounts = configAccount :: rest ∧ CreatePoolArgs.cursor.decode data = .ok args ∧
      crypto.Derives .protocol configAccount ∧
      load ProtocolConfig ledger configAccount = .ok config ∧
      crypto.derive (.pool args.hostname) = .ok (account, bump) ∧
      crypto.derive (.vault account) = .ok (vault, vaultBump) ∧
      (booksOf ledger).pools account = none ∧ (booksOf ledger).tokens vault = none ∧
      token.Exclusive account ∧ token.amount = 0 ∧ Shaped crypto result ∧
      booksOf result = ((booksOf ledger).withTokens
        (Function.update (booksOf ledger).tokens vault (some token))).setPool account
          (pool config args context.now vault bump vaultBump) := by
  unfold CreatePool.process at accepted
  split at accepted
  case h_1 configAccount account vault mint authority system token rent rest =>
    simp only [bind_eq_ok, failIf_eq_ok, exists_const, requireCanonical_eq_ok] at accepted
    obtain ⟨-, -, -, -, -, args, decoded, -, canonical, config, loaded, -, -, -, created⟩ :=
      accepted
    obtain ⟨shaped', bump, vaultBump, token, key, vaultKey, vacant, unopened, exclusive, unfunded,
      books⟩ := create_spec shaped created
    exact ⟨configAccount, config, args, account, vault, bump, vaultBump, _, token, rfl, decoded,
      canonical, loaded, key, vaultKey, vacant, unopened, exclusive, unfunded, shaped', books⟩
  case h_2 => cases accepted

theorem CreatePool.advances (shaped : Shaped crypto ledger)
    (accepted : CreatePool.process crypto context ledger accounts data = .ok result) :
    Advances crypto context.now ledger none result := by
  obtain ⟨_, config, _, _, _, _, _, _, token, -, -, canonical, loaded, key, vaultKey, vacant,
    unopened, exclusive, unfunded, shaped', books⟩ := process_spec shaped accepted
  exact ⟨shaped', .inl (books ▸ .createPool canonical (shaped.config canonical loaded) key
    vaultKey vacant unopened exclusive unfunded)⟩

theorem UpdateRates.rests (shaped : Shaped crypto ledger)
    (accepted : UpdateRates.process crypto context ledger accounts data = .ok result) :
    Rests crypto context.now ledger none result := by
  unfold UpdateRates.process at accepted
  split at accepted
  case h_1 configAccount account oracle rest =>
    simp only [bind_eq_ok, failIf_eq_ok, exists_const, requireCanonical_eq_ok, ne_eq, not_not,
      gt_iff_lt, UInt16.not_lt] at accepted
    obtain ⟨-, -, -, -, owned, -, ceiling, config, -, -, pool, loaded, floor, written⟩ := accepted
    obtain ⟨write, kept⟩ := write_over owned loaded written (load_eq_ok.mp loaded).2
    have stored : (booksOf ledger).pools account = some pool :=
      recordAt_eq_some.mpr ⟨owned, loaded⟩
    have books := write.pool
    refine ⟨⟨kept shaped, .inl (books ▸ .updateRates stored floor ceiling)⟩, ?_, ?_, ?_⟩ <;>
      rw [books]
    · rfl
    · exact vacant_of_update stored
    · exact fun _ vacant => vacant
  case h_2 => cases accepted

/-- Whether it was there or is created, what the position account held before
is all that the books see of it. -/
theorem Deposit.openPosition_spec {accounts : UnderwriterAccounts} {bump : UInt8}
    (shaped : Shaped crypto ledger)
    (opened : openPosition context ledger accounts bump = .ok result) :
    Shaped crypto result ∧ (result accounts.position).owner = programId ∧
      (∀ position, (booksOf result).setPosition accounts.position position =
        (booksOf ledger).setPosition accounts.position position) ∧
      ∀ before, load UnderwriterPosition result accounts.position = .ok before →
        (booksOf ledger).positions accounts.position = some before ∨
          (booksOf ledger).positions accounts.position = none ∧
            ∃ bump, before = position accounts bump := by
  unfold openPosition at opened
  split at opened
  case isTrue empty =>
    simp only [bind_eq_ok] at opened
    obtain ⟨created, creation, written⟩ := opened
    obtain ⟨-, -, owned, zeroed⟩ := createAccount_vacant creation
    obtain ⟨write, kept⟩ := write_zeroed owned zeroed written rfl
    have books := write.position
    rw [createAccount_books creation (by decide)] at books
    have stored : recordAt UnderwriterPosition result accounts.position =
        some (position accounts bump) := by
      refine (congrFun (congrArg Books.positions books) accounts.position).trans ?_
      exact Function.update_self _ _ _
    obtain ⟨owned', held⟩ := recordAt_eq_some.mp stored
    refine ⟨kept (shaped.createAccount creation (.inl rfl)), owned', fun other => ?_,
      fun before loaded => .inr ⟨recordAt_eq_none_of_empty empty, bump, ?_⟩⟩
    · rw [books, Books.setPosition_setPosition]
    · exact Except.ok.inj (loaded.symm.trans held)
  case isFalse =>
    simp only [bind_eq_ok, failIf_eq_ok, exists_const, ne_eq, not_not, Except.ok.injEq] at opened
    obtain ⟨owned, rfl⟩ := opened
    exact ⟨shaped, owned, fun _ => rfl, fun before loaded =>
      .inl (recordAt_eq_some.mpr ⟨owned, loaded⟩)⟩

theorem Deposit.settle_spec {accounts : UnderwriterAccounts} {bump : UInt8} {amount : UInt64}
    (shaped : Shaped crypto ledger) (nonzero : amount ≠ 0)
    (settled : settle context ledger accounts bump amount = .ok result) :
    Shaped crypto result ∧ ∃ (pool credited : CoveragePool) (before after : UnderwriterPosition),
      (booksOf ledger).pools accounts.pool = some pool ∧
      ((booksOf ledger).positions accounts.position = some before ∨
        (booksOf ledger).positions accounts.position = none ∧
          ∃ bump, before = position accounts bump) ∧
      creditPosition before amount = .ok after ∧ creditPool pool amount = .ok credited ∧
      Pays (booksOf ledger).tokens
        ⟨accounts.underwriterToken, accounts.vault, accounts.underwriter, amount⟩
        (tokenAt result) ∧
      booksOf result = (((booksOf ledger).withTokens (tokenAt result)).setPosition
        accounts.position { after with depositTimestamp := context.now }).setPool accounts.pool
          { credited with updatedAt := context.now } := by
  simp only [settle, bind_eq_ok] at settled
  obtain ⟨first, opening, before, loaded, after, credits, second, written, pool, poolLoaded,
    credited, poolCredits, third, poolWritten, fourth, paid, again, positionLoaded, fifth,
    stamped, poolAgain, reloaded, finished⟩ := settled
  obtain ⟨shaped1, owned, books1, opened⟩ := openPosition_spec shaped opening
  -- The position is credited.
  have tag : after.discriminator = before.discriminator := by
    obtain ⟨_, -, rfl⟩ := creditPosition_eq_ok.mp credits
    rfl
  obtain ⟨write2, shaped2⟩ :=
    write_over owned loaded written (tag.trans (load_eq_ok.mp loaded).2)
  have books2 := write2.position.trans (books1 after)
  -- The pool is credited: its counters change, so it is the program's.
  have changed : credited ≠ pool ∧ credited.discriminator = pool.discriminator := by
    obtain ⟨totalDeposited, _, sum, -, rfl⟩ := creditPool_eq_ok.mp poolCredits
    refine ⟨fun same => nonzero ?_, rfl⟩
    have deposits := congrArg CoveragePool.totalDeposited same
    rw [← UInt64.toNat_inj] at deposits ⊢
    exact Nat.left_eq_add.mp (deposits.symm.trans sum)
  have poolOwned := owned_of_write poolLoaded changed.1 poolWritten
  obtain ⟨write3, shaped3⟩ :=
    write_over poolOwned poolLoaded poolWritten (changed.2.trans (load_eq_ok.mp poolLoaded).2)
  have books3 := write3.pool
  rw [books2] at books3
  have stored : (booksOf ledger).pools accounts.pool = some pool :=
    (congrFun (congrArg Books.pools books2) accounts.pool).symm.trans
      (recordAt_eq_some.mpr ⟨poolOwned, poolLoaded⟩)
  -- The tokens move.
  obtain ⟨pays, kept⟩ := transferUserSigned_spec paid
  have tokens3 : tokenAt third = tokenAt ledger := congrArg Books.tokens books3
  have books4 := SameOutsideTokens.books kept
  rw [books3] at books4
  -- Both are stamped.
  have positionStored : recordAt UnderwriterPosition fourth accounts.position = some after :=
    (congrFun (congrArg Books.positions books4) _).trans (Function.update_self _ _ _)
  cases load_stored positionStored positionLoaded
  obtain ⟨write5, shaped5⟩ := write_over (recordAt_eq_some.mp positionStored).1 positionLoaded
    stamped (load_eq_ok.mp positionLoaded).2
  have books5 := write5.position
  rw [books4] at books5
  have poolStored : recordAt CoveragePool fifth accounts.pool = some credited :=
    (congrFun (congrArg Books.pools books5) _).trans (Function.update_self _ _ _)
  cases load_stored poolStored reloaded
  obtain ⟨write6, shaped6⟩ := write_over (recordAt_eq_some.mp poolStored).1 reloaded
    finished (load_eq_ok.mp reloaded).2
  have tokens6 : tokenAt result = tokenAt fourth := by rw [write6.tokens, write5.tokens]
  refine ⟨shaped6 (shaped5 (SameOutsideTokens.shaped kept (shaped3 (shaped2 shaped1)))), pool,
    credited, before, after, stored, opened before loaded, credits, poolCredits, ?_, ?_⟩
  · rw [tokens6]
    rw [tokens3] at pays
    exact pays
  · rw [write6.pool, books5, tokens6, Books.setPool_withTokens, Books.setPosition_withTokens,
      Books.setPool_setPosition, Books.setPosition_setPosition, Books.setPool_setPool]

theorem checkUnderwriterToken_owner {accounts : UnderwriterAccounts} {pool : CoveragePool}
    {token : TokenAccount} {done : Unit}
    (checked : checkUnderwriterToken ledger accounts pool = .ok done)
    (found : tokenAt ledger accounts.underwriterToken = some token) :
    token.owner = accounts.underwriter := by
  simp only [checkUnderwriterToken, bind_eq_ok, failIf_eq_ok, exists_const, ne_eq, not_not,
    Prod.exists] at checked
  obtain ⟨mint, owner, fields, -, same⟩ := checked
  exact (readMintOwner_of_tokenAt fields found).2.symm.trans same

structure Deposits (crypto : Crypto) (context : Context) (before : Ledger)
    (accounts : UnderwriterAccounts) (amount : UInt64) (config : ProtocolConfig)
    (pool credited : CoveragePool) (position position' : UnderwriterPosition) (after : Ledger) :
    Prop where
  signed : context.signer accounts.underwriter = true
  nonzero : amount ≠ 0
  minimum : config.minPoolDeposit ≤ amount
  stored : (booksOf before).pools accounts.pool = some pool
  key : crypto.Derives (.position accounts.pool accounts.underwriter) accounts.position
  opened : (booksOf before).positions accounts.position = some position ∨
    (booksOf before).positions accounts.position = none ∧
      ∃ bump, position = Deposit.position accounts bump
  checked : checkUnderwriterToken before accounts pool = .ok ()
  positionCredited : Deposit.creditPosition position amount = .ok position'
  poolCredited : Deposit.creditPool pool amount = .ok credited
  paid : Pays (booksOf before).tokens
    ⟨accounts.underwriterToken, pool.vault, accounts.underwriter, amount⟩ (tokenAt after)
  shaped : Shaped crypto after
  books : booksOf after = (((booksOf before).withTokens (tokenAt after)).setPosition
    accounts.position { position' with depositTimestamp := context.now }).setPool accounts.pool
      { credited with updatedAt := context.now }

theorem Deposit.process_spec (shaped : Shaped crypto ledger)
    (accepted : Deposit.process crypto context ledger accounts data = .ok result) :
    ∃ (named : UnderwriterAccounts) (rest : List Address) (amount : UInt64)
        (config : ProtocolConfig) (pool credited : CoveragePool)
        (before after : UnderwriterPosition),
      accounts = named.config :: named.pool :: named.vault :: named.position ::
        named.underwriterToken :: named.underwriter :: rest ∧
      decodeU64 data = .ok amount ∧
      Deposits crypto context ledger named amount config pool credited before after result := by
  unfold Deposit.process at accepted
  split at accepted
  case h_1 configAccount account vault position underwriterToken underwriter token system rest =>
    simp only [deposit, bind_eq_ok, failIf_eq_ok, exists_const, Prod.exists, ne_eq, not_not,
      Bool.not_eq_false, UInt64.not_lt] at accepted
    obtain ⟨-, -, signed, -, -, amount, decoded, config, -, -, nonzero, minimum, pool, loaded,
      rfl, -, _, checked, address, bump, key, rfl, settled⟩ := accepted
    obtain ⟨shaped', pool', credited, before, after, found, opened, credits, poolCredits, paid,
      books⟩ := settle_spec shaped nonzero settled
    cases load_stored found loaded
    exact ⟨⟨configAccount, account, pool.vault, position, underwriterToken, underwriter⟩, _,
      amount, config, pool, credited, before, after, rfl, decoded, {
        signed, nonzero, minimum, checked, paid, opened, books
        stored := found
        key := ⟨bump, key⟩
        positionCredited := credits
        poolCredited := poolCredits
        shaped := shaped' }⟩
  case h_2 => cases accepted

theorem Deposits.advances {accounts : UnderwriterAccounts} {amount : UInt64}
    {config : ProtocolConfig} {pool credited : CoveragePool}
    {before after : UnderwriterPosition}
    (unsigned : ∀ address, crypto.Derived address → context.signer address = false)
    (deposits : Deposits crypto context ledger accounts amount config pool credited before after
      result) : Advances crypto context.now ledger none result := by
  obtain ⟨source, -, -, sourceFound, -⟩ := id deposits.paid
  have own := checkUnderwriterToken_owner deposits.checked sourceFound
  have external := external_of_signed unsigned deposits.signed
  exact ⟨deposits.shaped, .inl (deposits.books ▸ .deposit deposits.minimum deposits.nonzero
    deposits.stored deposits.key deposits.opened external sourceFound own
    deposits.positionCredited deposits.poolCredited deposits.paid)⟩

theorem Withdraw.settle_spec {accounts : UnderwriterAccounts} {stored : CoveragePool}
    {amount : UInt64} (shaped : Shaped crypto ledger)
    (poolOwned : (ledger accounts.pool).owner = programId)
    (positionOwned : (ledger accounts.position).owner = programId)
    (settled : settle crypto context ledger accounts stored amount = .ok result) :
    Shaped crypto result ∧ ∃ (pool debited : CoveragePool) (before after : UnderwriterPosition),
      (booksOf ledger).pools accounts.pool = some pool ∧
      (booksOf ledger).positions accounts.position = some before ∧
      debitPosition before amount = .ok after ∧
      debitPool pool context.now amount = .ok debited ∧
      Pays (booksOf ledger).tokens
        ⟨accounts.vault, accounts.underwriterToken, accounts.pool, amount⟩ (tokenAt result) ∧
      booksOf result = (((booksOf ledger).withTokens (tokenAt result)).setPosition
        accounts.position after).setPool accounts.pool debited := by
  simp only [settle, bind_eq_ok] at settled
  obtain ⟨first, paid, before, loaded, after, debits, second, written, pool, poolLoaded,
    debited, poolDebits, finished⟩ := settled
  obtain ⟨pays, kept⟩ := transferPoolSigned_spec paid
  have books1 := SameOutsideTokens.books kept
  have owned : (first accounts.position).owner = programId := by rw [kept.owner, positionOwned]
  have tag : after.discriminator = before.discriminator := by
    obtain ⟨_, -, rfl⟩ := debitPosition_eq_ok.mp debits
    rfl
  obtain ⟨write2, shaped2⟩ :=
    write_over owned loaded written (tag.trans (load_eq_ok.mp loaded).2)
  have books2 := write2.position
  rw [books1] at books2
  have positionStored : (booksOf ledger).positions accounts.position = some before :=
    (congrFun (congrArg Books.positions books1) _).symm.trans
      (recordAt_eq_some.mpr ⟨owned, loaded⟩)
  have poolOwned' : (second accounts.pool).owner = programId := by
    rw [write_owner written, kept.owner, poolOwned]
  have poolTag : debited.discriminator = pool.discriminator := by
    obtain ⟨_, _, -, -, rfl⟩ := debitPool_eq_ok.mp poolDebits
    rfl
  obtain ⟨write3, shaped3⟩ :=
    write_over poolOwned' poolLoaded finished (poolTag.trans (load_eq_ok.mp poolLoaded).2)
  have poolStored : (booksOf ledger).pools accounts.pool = some pool :=
    (congrFun (congrArg Books.pools books2) _).symm.trans
      (recordAt_eq_some.mpr ⟨poolOwned', poolLoaded⟩)
  have tokens3 : tokenAt result = tokenAt first := by rw [write3.tokens, write2.tokens]
  refine ⟨shaped3 (shaped2 (SameOutsideTokens.shaped kept shaped)), pool, debited, before, after,
    poolStored, positionStored, debits, poolDebits, tokens3 ▸ pays, ?_⟩
  rw [write3.pool, books2, tokens3]

structure Withdraws (crypto : Crypto) (context : Context) (before : Ledger)
    (accounts : UnderwriterAccounts) (amount : UInt64) (config : ProtocolConfig)
    (pool debited : CoveragePool) (position position' : UnderwriterPosition) (after : Ledger) :
    Prop where
  signed : context.signer accounts.underwriter = true
  configured : load ProtocolConfig before accounts.config = .ok config
  stored : (booksOf before).pools accounts.pool = some pool
  key : crypto.Derives (.position accounts.pool accounts.underwriter) accounts.position
  opened : (booksOf before).positions accounts.position = some position
  allowed : Withdraw.checkPosition context.now accounts.underwriter config position amount = .ok ()
  checked : checkUnderwriterToken before accounts pool = .ok ()
  positionDebited : Withdraw.debitPosition position amount = .ok position'
  poolDebited : Withdraw.debitPool pool context.now amount = .ok debited
  paid : Pays (booksOf before).tokens
    ⟨pool.vault, accounts.underwriterToken, accounts.pool, amount⟩ (tokenAt after)
  shaped : Shaped crypto after
  books : booksOf after = (((booksOf before).withTokens (tokenAt after)).setPosition
    accounts.position position').setPool accounts.pool debited

theorem Withdraw.process_spec (shaped : Shaped crypto ledger)
    (accepted : Withdraw.process crypto context ledger accounts data = .ok result) :
    ∃ (named : UnderwriterAccounts) (rest : List Address) (amount : UInt64)
        (config : ProtocolConfig) (pool debited : CoveragePool)
        (before after : UnderwriterPosition),
      accounts = named.config :: named.pool :: named.vault :: named.position ::
        named.underwriterToken :: named.underwriter :: rest ∧
      decodeU64 data = .ok amount ∧
      Withdraws crypto context ledger named amount config pool debited before after result := by
  unfold Withdraw.process at accepted
  split at accepted
  case h_1 configAccount account vault position underwriterToken underwriter token system rest =>
    simp only [withdraw, bind_eq_ok, failIf_eq_ok, exists_const, Prod.exists, ne_eq, not_not,
      Bool.not_eq_false, UInt64.not_lt] at accepted
    obtain ⟨-, signed, -, poolOwned, positionOwned, -, amount, decoded, -, config, configured,
      address, bump, key, rfl, before, loaded, _, allowed, stored, poolLoaded, -, rfl, _, checked,
      settled⟩ := accepted
    obtain ⟨shaped', pool', debited, before', after, found, opened, debits, poolDebits, paid,
      books⟩ := settle_spec shaped poolOwned positionOwned settled
    cases load_stored found poolLoaded
    cases load_stored opened loaded
    exact ⟨⟨configAccount, account, stored.vault, position, underwriterToken, underwriter⟩, _,
      amount, config, stored, debited, before, after, rfl, decoded, {
        signed, configured, allowed, checked, paid, opened, books
        stored := found
        key := ⟨bump, key⟩
        positionDebited := debits
        poolDebited := poolDebits
        shaped := shaped' }⟩
  case h_2 => cases accepted

theorem Withdraws.advances {accounts : UnderwriterAccounts} {amount : UInt64}
    {config : ProtocolConfig} {pool debited : CoveragePool}
    {before after : UnderwriterPosition}
    (unsigned : ∀ address, crypto.Derived address → context.signer address = false)
    (withdraws : Withdraws crypto context ledger accounts amount config pool debited before after
      result) : Advances crypto context.now ledger none result := by
  obtain ⟨-, destination, -, -, destinationFound, -⟩ := id withdraws.paid
  have own := checkUnderwriterToken_owner withdraws.checked destinationFound
  have external := external_of_signed unsigned withdraws.signed
  exact ⟨withdraws.shaped, .inl (withdraws.books ▸ .withdraw withdraws.stored withdraws.key
    withdraws.opened withdraws.allowed external destinationFound own withdraws.positionDebited
    withdraws.poolDebited withdraws.paid)⟩

end Pools

/-! ## Policies -/

section Policies

variable {crypto : Crypto} {context : Context} {ledger result : Ledger}
  {accounts : List Address} {data : List UInt8}

theorem EnableInsurance.enable_rests {accounts : Accounts} (shaped : Shaped crypto ledger)
    (unsigned : ∀ address, crypto.Derived address → context.signer address = false)
    (accepted : enable crypto context ledger accounts data = .ok result) :
    Rests crypto context.now ledger none result := by
  simp only [enable, bind_eq_ok, failIf_eq_ok, exists_const, requireCanonical_eq_ok, Prod.exists,
    ne_eq, not_not, Bool.not_eq_false, gt_iff_lt, UInt16.not_lt] at accepted
  obtain ⟨signed, -, -, poolOwned, -, args, -, share, referred, -, config, -, -, -, pool, loaded,
    address, bump, key, rfl, empty, _, -, first, creation, second, written, again, reloaded,
    counted, counts, finished⟩ := accepted
  have external := external_of_signed unsigned signed
  have stored : (booksOf ledger).pools accounts.pool = some pool :=
    recordAt_eq_some.mpr ⟨poolOwned, loaded⟩
  obtain ⟨-, -, owned, zeroed⟩ := createAccount_vacant creation
  obtain ⟨write2, shaped2⟩ := write_zeroed owned zeroed written rfl
  have books2 := write2.policy
  rw [createAccount_books creation (by decide)] at books2
  have poolStored : recordAt CoveragePool second accounts.pool = some pool :=
    (congrFun (congrArg Books.pools books2) _).trans stored
  cases load_stored poolStored reloaded
  have tag : counted.discriminator = pool.discriminator := by
    obtain ⟨-, rfl⟩ := countPolicy_eq_ok.mp counts
    rfl
  obtain ⟨write3, shaped3⟩ := write_over (recordAt_eq_some.mp poolStored).1 reloaded finished
    (tag.trans (load_eq_ok.mp reloaded).2)
  have books3 := write3.pool
  rw [books2] at books3
  refine ⟨⟨shaped3 (shaped2 (shaped.createAccount creation (.inl rfl))), .inl (books3 ▸
    .enableInsurance share referred stored key (recordAt_eq_none_of_empty empty) external counts)⟩,
    ?_, ?_, ?_⟩ <;> rw [books3]
  · rfl
  · exact vacant_of_update stored
  · exact fun _ vacant => vacant

theorem EnableInsurance.rests (shaped : Shaped crypto ledger)
    (unsigned : ∀ address, crypto.Derived address → context.signer address = false)
    (accepted : EnableInsurance.process crypto context ledger accounts data = .ok result) :
    Rests crypto context.now ledger none result := by
  unfold EnableInsurance.process at accepted
  split at accepted
  case h_1 =>
    simp only [bind_eq_ok, failIf_eq_ok, exists_const] at accepted
    exact enable_rests shaped unsigned accepted.2
  case h_2 => cases accepted

theorem DisablePolicy.process_spec
    (accepted : DisablePolicy.process context ledger accounts data = .ok result) :
    ∃ account policyAccount agent rest pool policy,
      accounts = account :: policyAccount :: agent :: rest ∧
      (booksOf ledger).pools account = some pool ∧
      (booksOf ledger).policies policyAccount = some policy ∧ policy.pool = account ∧
      policy.active ≠ 0 ∧ (Shaped crypto ledger → Shaped crypto result) ∧
      booksOf result = ((booksOf ledger).setPolicy policyAccount { policy with active := 0 }).setPool
        account (uncountPolicy pool) := by
  unfold DisablePolicy.process at accepted
  split at accepted
  case h_1 account policyAccount agent rest =>
    simp only [bind_eq_ok, failIf_eq_ok, exists_const, ne_eq, not_not, not_or] at accepted
    obtain ⟨-, -, -, ⟨poolOwned, owned⟩, policy, loaded, member, -, active, first, written, pool,
      poolLoaded, finished⟩ := accepted
    obtain ⟨write1, shaped1⟩ := write_over owned loaded written (load_eq_ok.mp loaded).2
    have poolOwned' : (first account).owner = programId := by
      rw [write_owner written, poolOwned]
    obtain ⟨write2, shaped2⟩ :=
      write_over poolOwned' poolLoaded finished (load_eq_ok.mp poolLoaded).2
    have books2 := write2.pool
    rw [write1.policy] at books2
    have stored : (booksOf ledger).pools account = some pool :=
      (congrFun (congrArg Books.pools write1.policy) _).symm.trans
        (recordAt_eq_some.mpr ⟨poolOwned', poolLoaded⟩)
    exact ⟨account, policyAccount, agent, rest, pool, policy, rfl, stored,
      recordAt_eq_some.mpr ⟨owned, loaded⟩, member, active, fun shaped => shaped2 (shaped1 shaped),
      books2⟩
  case h_2 => cases accepted

theorem DisablePolicy.rests (shaped : Shaped crypto ledger)
    (accepted : DisablePolicy.process context ledger accounts data = .ok result) :
    Rests crypto context.now ledger none result := by
  obtain ⟨account, policyAccount, agent, rest, pool, policy, -, stored, insured, member, active,
    kept, books⟩ := process_spec accepted
  refine ⟨⟨kept shaped, .inl (books ▸ .disablePolicy stored insured member active)⟩, ?_, ?_, ?_⟩ <;>
    rw [books]
  · rfl
  · exact vacant_of_update stored
  · exact fun _ vacant => vacant

theorem SettlePremium.payCut_spec {accounts : Accounts} {pool : CoveragePool}
    {destination : Address} {cut : UInt64}
    (paid : payCut crypto context ledger accounts pool destination cut = .ok result) :
    PaysAll (tokenAt ledger)
      (if 0 < cut then [⟨accounts.agentToken, destination, accounts.pool, cut⟩] else [])
      (tokenAt result) ∧ SameOutsideTokens ledger result := by
  unfold payCut at paid
  split at paid
  case isTrue due =>
    obtain ⟨pays, kept⟩ := transferPoolSigned_spec paid
    rw [if_pos due]
    exact ⟨⟨_, pays, rfl⟩, kept⟩
  case isFalse none =>
    cases paid
    rw [if_neg none]
    exact ⟨rfl, .refl _⟩

theorem SettlePremium.payReferrer_spec {accounts : Accounts} {pool : CoveragePool}
    {referrer : Option Address} {cut : UInt64}
    (paid : payReferrer crypto context ledger accounts pool referrer cut = .ok result) :
    PaysAll (tokenAt ledger) (referrer.toList.flatMap fun destination =>
      if 0 < cut then [⟨accounts.agentToken, destination, accounts.pool, cut⟩] else [])
      (tokenAt result) ∧ SameOutsideTokens ledger result := by
  cases referrer with
  | none =>
      cases paid
      exact ⟨rfl, .refl _⟩
  | some destination =>
      rw [Option.toList_some, List.flatMap_singleton]
      exact payCut_spec paid

theorem SettlePremium.payments_eq (accounts : Accounts) (vault : Address)
    (referrer : Option Address) (cuts : Cuts) :
    payments accounts vault referrer cuts =
      (if 0 < cuts.pool then [⟨accounts.agentToken, vault, accounts.pool, cuts.pool⟩] else []) ++
      ((if 0 < cuts.treasury then
        [⟨accounts.agentToken, accounts.treasuryToken, accounts.pool, cuts.treasury⟩] else []) ++
      referrer.toList.flatMap fun destination =>
        if 0 < cuts.referrer then
          [⟨accounts.agentToken, destination, accounts.pool, cuts.referrer⟩] else []) := by
  cases referrer <;> by_cases pool : 0 < cuts.pool <;> by_cases treasury : 0 < cuts.treasury <;>
    by_cases referral : 0 < cuts.referrer <;> simp [payments, pool, treasury, referral]

theorem SettlePremium.collect_spec {accounts : Accounts} {stored : CoveragePool}
    {referrer : Option Address} {gross : UInt64} {cuts : Cuts} (shaped : Shaped crypto ledger)
    (poolOwned : (ledger accounts.pool).owner = programId)
    (policyOwned : (ledger accounts.policy).owner = programId)
    (collected : collect crypto context ledger accounts stored referrer gross cuts =
      .ok result) :
    Shaped crypto result ∧ ∃ (pool credited : CoveragePool) (policy charged : Policy),
      (booksOf ledger).pools accounts.pool = some pool ∧
      (booksOf ledger).policies accounts.policy = some policy ∧
      chargePolicy policy gross = .ok charged ∧
      creditPool pool context.now cuts.pool = .ok credited ∧
      PaysAll (booksOf ledger).tokens (payments accounts accounts.vault referrer cuts)
        (tokenAt result) ∧
      booksOf result = (((booksOf ledger).withTokens (tokenAt result)).setPolicy accounts.policy
        charged).setPool accounts.pool credited := by
  simp only [collect, bind_eq_ok] at collected
  obtain ⟨first, poolPaid, second, treasuryPaid, third, referrerPaid, policy, loaded, charged,
    charges, fourth, written, pool, poolLoaded, credited, credits, finished⟩ := collected
  obtain ⟨pays1, kept1⟩ := payCut_spec poolPaid
  obtain ⟨pays2, kept2⟩ := payCut_spec treasuryPaid
  obtain ⟨pays3, kept3⟩ := payReferrer_spec referrerPaid
  have kept := (kept1.trans kept2).trans kept3
  have books3 := SameOutsideTokens.books kept
  have owned : (third accounts.policy).owner = programId := by rw [kept.owner, policyOwned]
  have policyTag : charged.discriminator = policy.discriminator := by
    obtain ⟨_, -, rfl⟩ := chargePolicy_eq_ok.mp charges
    rfl
  obtain ⟨write4, shaped4⟩ :=
    write_over owned loaded written (policyTag.trans (load_eq_ok.mp loaded).2)
  have books4 := write4.policy
  rw [books3] at books4
  have policyStored : (booksOf ledger).policies accounts.policy = some policy :=
    (congrFun (congrArg Books.policies books3) _).symm.trans
      (recordAt_eq_some.mpr ⟨owned, loaded⟩)
  have poolOwned' : (fourth accounts.pool).owner = programId := by
    rw [write_owner written, kept.owner, poolOwned]
  have poolTag : credited.discriminator = pool.discriminator := by
    obtain ⟨_, _, -, -, rfl⟩ := creditPool_eq_ok.mp credits
    rfl
  obtain ⟨write5, shaped5⟩ :=
    write_over poolOwned' poolLoaded finished (poolTag.trans (load_eq_ok.mp poolLoaded).2)
  have poolStored : (booksOf ledger).pools accounts.pool = some pool :=
    (congrFun (congrArg Books.pools books4) _).symm.trans
      (recordAt_eq_some.mpr ⟨poolOwned', poolLoaded⟩)
  have tokens5 : tokenAt result = tokenAt third := by rw [write5.tokens, write4.tokens]
  refine ⟨shaped5 (shaped4 (SameOutsideTokens.shaped kept shaped)), pool, credited, policy,
    charged, poolStored, policyStored, charges, credits, ?_, ?_⟩
  · rw [payments_eq, tokens5]
    exact pays1.append (pays2.append pays3)
  · rw [write5.pool, books4, tokens5]

theorem SettlePremium.checkFlags_eq_ok {accounts : Accounts} {done : Unit}
    (checked : checkFlags context ledger accounts = .ok done) :
    context.signer accounts.oracle = true ∧ (ledger accounts.pool).owner = programId ∧
      (ledger accounts.policy).owner = programId := by
  simp only [checkFlags, bind_eq_ok, failIf_eq_ok, exists_const, ne_eq, not_or, not_not,
    Bool.not_eq_false] at checked
  exact ⟨checked.1, checked.2.2.1⟩

theorem SettlePremium.checkTokens_eq_ok {accounts : Accounts} {config : ProtocolConfig}
    {policy : Policy} {pool : CoveragePool} {agent : TokenAccount}
    (checked : checkTokens ledger accounts config policy pool = .ok agent) :
    accounts.vault = pool.vault ∧ readToken ledger accounts.agentToken = .ok agent ∧
      agent.owner = policy.agent := by
  simp only [checkTokens, bind_eq_ok, failIf_eq_ok, exists_const, ne_eq, not_not,
    Except.ok.injEq] at checked
  obtain ⟨vault, _, -, -, _, -, -, -, token, read, -, owner, _, -, -, rfl⟩ := checked
  exact ⟨vault, read, owner⟩

theorem SettlePremium.settle_rests {accounts : Accounts} (shaped : Shaped crypto ledger)
    (accepted : settle crypto context ledger accounts data = .ok result) :
    Rests crypto context.now ledger none result := by
  simp only [settle, bind_eq_ok, failIf_eq_ok, exists_const, ne_eq, not_not] at accepted
  obtain ⟨_, flags, callValue, -, config, -, -, policy, loaded, _, policyChecked, pool,
    poolLoaded, agent, tokensChecked, settled⟩ := accepted
  obtain ⟨-, poolOwned, policyOwned⟩ := checkFlags_eq_ok flags
  simp only [checkPolicy, bind_eq_ok, failIf_eq_ok, exists_const, ne_eq, not_not]
    at policyChecked
  obtain ⟨-, member, -⟩ := policyChecked
  obtain ⟨vault, read, own⟩ := checkTokens_eq_ok tokensChecked
  split at settled
  case isTrue =>
    cases settled
    exact ⟨⟨shaped, .inr ⟨rfl, rfl⟩⟩, rfl, fun _ vacant => vacant, fun _ vacant => vacant⟩
  case isFalse =>
    simp only [bind_eq_ok] at settled
    obtain ⟨cuts, split, referrer, -, collected⟩ := settled
    obtain ⟨shaped', pool', credited, policy', charged, stored, insured, charges, credits, paid,
      books⟩ := collect_spec shaped poolOwned policyOwned collected
    cases load_stored stored poolLoaded
    cases load_stored insured loaded
    rw [vault] at paid
    refine ⟨⟨shaped', .inl (books ▸ .settlePremium stored insured member
      (fun token found => readToken_of_tokenAt read found) own rfl split charges credits paid)⟩,
      ?_, ?_, ?_⟩ <;> rw [books]
    · rfl
    · exact vacant_of_update stored
    · exact fun _ vacant => vacant

theorem SettlePremium.rests (shaped : Shaped crypto ledger)
    (accepted : SettlePremium.process crypto context ledger accounts data = .ok result) :
    Rests crypto context.now ledger none result := by
  unfold SettlePremium.process at accepted
  split at accepted
  case h_1 =>
    simp only [bind_eq_ok, failIf_eq_ok, exists_const] at accepted
    exact settle_rests shaped accepted.2
  case h_2 => cases accepted

theorem SubmitClaim.payRefund_spec {accounts : Accounts} {pool : CoveragePool}
    {refund : UInt64}
    (paid : payRefund crypto context ledger accounts pool refund = .ok result) :
    (if 0 < refund then
        Pays (tokenAt ledger) ⟨accounts.vault, accounts.agentToken, accounts.pool, refund⟩
          (tokenAt result)
      else tokenAt result = tokenAt ledger) ∧ SameOutsideTokens ledger result := by
  unfold payRefund at paid
  split at paid
  case isTrue due =>
    rw [if_pos due]
    exact transferPoolSigned_spec paid
  case isFalse none =>
    cases paid
    rw [if_neg none]
    exact ⟨rfl, .refl _⟩

theorem SubmitClaim.pay_spec {accounts : Accounts} {args : SubmitClaimArgs}
    {callIdHash : Bytes 32} {policy : Policy} {stored : CoveragePool} {bump : UInt8}
    {refund : UInt64} {reset : Bool}
    (shaped : Shaped crypto ledger) (poolOwned : (ledger accounts.pool).owner = programId)
    (policyOwned : (ledger accounts.policy).owner = programId)
    (paid : pay crypto context ledger accounts args callIdHash policy stored bump refund reset =
      .ok result) :
    Shaped crypto result ∧ ∃ (pool debited : CoveragePool) (insured charged : Policy),
      (booksOf ledger).pools accounts.pool = some pool ∧
      (booksOf ledger).policies accounts.policy = some insured ∧
      (booksOf ledger).claims accounts.claim = none ∧
      payPool pool context.now refund reset = .ok debited ∧
      payPolicy insured refund = .ok charged ∧
      (if 0 < refund then Pays (booksOf ledger).tokens
          ⟨accounts.vault, accounts.agentToken, accounts.pool, refund⟩ (tokenAt result)
        else tokenAt result = (booksOf ledger).tokens) ∧
      booksOf result = ((((booksOf ledger).withTokens (tokenAt result)).setClaim accounts.claim
        (claim accounts args callIdHash policy.agent context.now refund bump)).setPolicy
          accounts.policy charged).setPool accounts.pool debited := by
  simp only [pay, bind_eq_ok] at paid
  obtain ⟨first, creation, second, refunded, third, written, pool, poolLoaded, debited, debits,
    fourth, poolWritten, insured, loaded, charged, charges, finished⟩ := paid
  obtain ⟨empty, -, owned, zeroed⟩ := createAccount_vacant creation
  have books1 := createAccount_books creation (by decide)
  obtain ⟨pays, kept⟩ := payRefund_spec refunded
  have books2 := SameOutsideTokens.books kept
  rw [books1] at books2
  -- The claim account is still as it was created.
  have same : second accounts.claim = first accounts.claim := kept.same _ (by
    rw [owned]
    decide)
  obtain ⟨write3, shaped3⟩ :=
    write_zeroed (by rw [same, owned]) (by rw [same, zeroed]) written rfl
  have books3 := write3.claim
  rw [books2] at books3
  have poolOwned' : (third accounts.pool).owner = programId := by
    rw [write_owner written, kept.owner, createAccount_owned creation poolOwned]
  have poolTag : debited.discriminator = pool.discriminator := by
    obtain ⟨_, _, _, -, -, -, rfl⟩ := payPool_eq_ok.mp debits
    rfl
  obtain ⟨write4, shaped4⟩ :=
    write_over poolOwned' poolLoaded poolWritten (poolTag.trans (load_eq_ok.mp poolLoaded).2)
  have books4 := write4.pool
  rw [books3] at books4
  have poolStored : (booksOf ledger).pools accounts.pool = some pool :=
    (congrFun (congrArg Books.pools books3) _).symm.trans
      (recordAt_eq_some.mpr ⟨poolOwned', poolLoaded⟩)
  have policyOwned' : (fourth accounts.policy).owner = programId := by
    rw [write_owner poolWritten, write_owner written, kept.owner,
      createAccount_owned creation policyOwned]
  have policyTag : charged.discriminator = insured.discriminator := by
    obtain ⟨_, _, -, -, rfl⟩ := payPolicy_eq_ok.mp charges
    rfl
  obtain ⟨write5, shaped5⟩ :=
    write_over policyOwned' loaded finished (policyTag.trans (load_eq_ok.mp loaded).2)
  have policyStored : (booksOf ledger).policies accounts.policy = some insured :=
    (congrFun (congrArg Books.policies books4) _).symm.trans
      (recordAt_eq_some.mpr ⟨policyOwned', loaded⟩)
  have tokens1 : tokenAt first = tokenAt ledger := congrArg Books.tokens books1
  have tokens5 : tokenAt result = tokenAt second := by
    rw [write5.tokens, write4.tokens, write3.tokens]
  refine ⟨shaped5 (shaped4 (shaped3 (SameOutsideTokens.shaped kept
    (shaped.createAccount creation (.inl rfl))))), pool, debited, insured, charged, poolStored,
    policyStored, recordAt_eq_none_of_empty empty, debits, charges, ?_, ?_⟩
  · rw [tokens5]
    rw [tokens1] at pays
    exact pays
  · rw [write5.policy, books4, tokens5]
    rfl

theorem SubmitClaim.checkFlags_eq_ok {accounts : Accounts} {done : Unit}
    (checked : checkFlags context ledger accounts = .ok done) :
    context.signer accounts.oracle = true ∧ (ledger accounts.pool).owner = programId ∧
      (ledger accounts.policy).owner = programId := by
  simp only [checkFlags, bind_eq_ok, failIf_eq_ok, exists_const, ne_eq, not_or, not_not,
    Bool.not_eq_false] at checked
  exact ⟨checked.1, checked.2.2.2.1⟩

theorem SubmitClaim.submit_rests {accounts : Accounts} {payout : Payout}
    (shaped : Shaped crypto ledger)
    (accepted : submit crypto context ledger accounts data = .ok (result, payout)) :
    Rests crypto context.now ledger (some payout) result := by
  simp only [submit, bind_eq_ok, failIf_eq_ok, exists_const, ne_eq, not_not, Prod.exists,
    Except.ok.injEq, Prod.mk.injEq] at accepted
  obtain ⟨_, flags, args, -, -, config, -, -, -, policy, loaded, _, policyChecked, pool,
    poolLoaded, _, tokensChecked, address, bump, key, rfl, -, refund, reset, assessed, final,
    paid, rfl, rfl⟩ := accepted
  obtain ⟨-, poolOwned, policyOwned⟩ := checkFlags_eq_ok flags
  simp only [checkPolicy, bind_eq_ok, failIf_eq_ok, exists_const, ne_eq, not_not]
    at policyChecked
  obtain ⟨-, member, -⟩ := policyChecked
  simp only [checkTokens, bind_eq_ok, failIf_eq_ok, exists_const, ne_eq, not_not]
    at tokensChecked
  obtain ⟨-, _, -, -, -, vault, -⟩ := tokensChecked
  obtain ⟨shaped', pool', debited, insured, charged, stored, policyStored, vacant, debits,
    charges, pays, books⟩ := pay_spec shaped poolOwned policyOwned paid
  cases load_stored stored poolLoaded
  cases load_stored policyStored loaded
  rw [vault] at pays
  refine ⟨⟨shaped', .inl (books ▸ .submitClaim stored policyStored member key vacant assessed debits
    charges pays)⟩, ?_, ?_, ?_⟩ <;> rw [books]
  · rfl
  · exact vacant_of_update stored
  · exact fun _ vacant => vacant

theorem SubmitClaim.rests {payout : Payout} (shaped : Shaped crypto ledger)
    (accepted : SubmitClaim.process crypto context ledger accounts data = .ok (result, payout)) :
    Rests crypto context.now ledger (some payout) result := by
  unfold SubmitClaim.process at accepted
  split at accepted
  case h_1 =>
    simp only [bind_eq_ok, failIf_eq_ok, exists_const] at accepted
    exact submit_rests shaped accepted.2.2
  case h_2 => cases accepted

end Policies

/-! ## The chain -/

section Chain

variable {crypto : Crypto} {context : Context} {ledger result : Ledger}
  {accounts : List Address} {data : List UInt8} {label : Option SubmitClaim.Payout} {now : Int64}

/-- What an accepted instruction was. The rest leave the positions, and make
neither pools nor configs. -/
inductive Dispatched (crypto : Crypto) (context : Context) (ledger : Ledger)
    (accounts : List Address) (data : List UInt8) (result : Ledger) :
    Discriminator → Option SubmitClaim.Payout → Prop
  | initializeProtocol
      (processed : InitializeProtocol.process crypto context ledger accounts data = .ok result) :
      Dispatched crypto context ledger accounts data result .initializeProtocol none
  | createPool (processed : CreatePool.process crypto context ledger accounts data = .ok result) :
      Dispatched crypto context ledger accounts data result .createPool none
  | deposit (processed : Deposit.process crypto context ledger accounts data = .ok result) :
      Dispatched crypto context ledger accounts data result .deposit none
  | withdraw (processed : Withdraw.process crypto context ledger accounts data = .ok result) :
      Dispatched crypto context ledger accounts data result .withdraw none
  | rest {discriminator : Discriminator} {label : Option SubmitClaim.Payout}
      (other : discriminator ≠ .deposit ∧ discriminator ≠ .withdraw)
      (rests : Rests crypto context.now ledger label result) :
      Dispatched crypto context ledger accounts data result discriminator label

theorem dispatch_cases {discriminator : Discriminator} (shaped : Shaped crypto ledger)
    (unsigned : ∀ address, crypto.Derived address → context.signer address = false)
    (accepted : dispatch crypto context ledger accounts data discriminator =
      .ok (result, label)) :
    Dispatched crypto context ledger accounts data result discriminator label := by
  have plain {outcome : Except ProgramError Ledger}
      (mapped : outcome.map (·, (none : Option SubmitClaim.Payout)) = .ok (result, label)) :
      outcome = .ok result ∧ label = none := by
    rw [map_eq_ok] at mapped
    obtain ⟨_, processed, same⟩ := mapped
    cases same
    exact ⟨processed, rfl⟩
  cases discriminator with
  | initializeProtocol =>
      obtain ⟨processed, rfl⟩ := plain accepted
      exact .initializeProtocol processed
  | updateConfig =>
      obtain ⟨processed, rfl⟩ := plain accepted
      exact .rest (by decide) (UpdateConfig.rests shaped processed)
  | updateOracle =>
      obtain ⟨processed, rfl⟩ := plain accepted
      exact .rest (by decide) (UpdateOracle.rests shaped processed)
  | createPool =>
      obtain ⟨processed, rfl⟩ := plain accepted
      exact .createPool processed
  | deposit =>
      obtain ⟨processed, rfl⟩ := plain accepted
      exact .deposit processed
  | enableInsurance =>
      obtain ⟨processed, rfl⟩ := plain accepted
      exact .rest (by decide) (EnableInsurance.rests shaped unsigned processed)
  | disablePolicy =>
      obtain ⟨processed, rfl⟩ := plain accepted
      exact .rest (by decide) (DisablePolicy.rests shaped processed)
  | settlePremium =>
      obtain ⟨processed, rfl⟩ := plain accepted
      exact .rest (by decide) (SettlePremium.rests shaped processed)
  | withdraw =>
      obtain ⟨processed, rfl⟩ := plain accepted
      exact .withdraw processed
  | updateRates =>
      obtain ⟨processed, rfl⟩ := plain accepted
      exact .rest (by decide) (UpdateRates.rests shaped processed)
  | submitClaim =>
      simp only [dispatch, map_eq_ok, Prod.exists, Prod.mk.injEq] at accepted
      obtain ⟨_, payout, processed, rfl, rfl⟩ := accepted
      exact .rest (by decide) (SubmitClaim.rests shaped processed)

theorem Dispatched.advances {discriminator : Discriminator} (shaped : Shaped crypto ledger)
    (unsigned : ∀ address, crypto.Derived address → context.signer address = false)
    (dispatched : Dispatched crypto context ledger accounts data result discriminator label) :
    Advances crypto context.now ledger label result := by
  cases dispatched with
  | initializeProtocol processed => exact InitializeProtocol.advances shaped processed
  | createPool processed => exact CreatePool.advances shaped processed
  | deposit processed =>
      obtain ⟨_, _, _, _, _, _, _, _, -, -, deposits⟩ := Deposit.process_spec shaped processed
      exact deposits.advances unsigned
  | withdraw processed =>
      obtain ⟨_, _, _, _, _, _, _, _, -, -, withdraws⟩ := Withdraw.process_spec shaped processed
      exact withdraws.advances unsigned
  | rest _ rests => exact rests.toAdvances

theorem processInstruction_dispatched {instruction : Instruction} (shaped : Shaped crypto ledger)
    (unsigned : ∀ address, crypto.Derived address → instruction.context.signer address = false)
    (accepted : processInstruction crypto ledger instruction = .ok (result, label)) :
    ∃ head rest discriminator, instruction.data = head :: rest ∧
      Discriminator.tryFrom head = some discriminator ∧
      Dispatched crypto instruction.context ledger instruction.accounts rest result discriminator
        label := by
  cases found : instruction.data with
  | nil =>
      rw [processInstruction, found] at accepted
      cases accepted
  | cons head rest =>
      simp only [processInstruction, found, bind_eq_ok, okOr_eq_ok] at accepted
      obtain ⟨discriminator, parsed, dispatched⟩ := accepted
      exact ⟨head, rest, discriminator, rfl, parsed, dispatch_cases shaped unsigned dispatched⟩

theorem processInstruction_advances {instruction : Instruction} (shaped : Shaped crypto ledger)
    (unsigned : ∀ address, crypto.Derived address → instruction.context.signer address = false)
    (accepted : processInstruction crypto ledger instruction = .ok (result, label)) :
    Advances crypto instruction.context.now ledger label result := by
  obtain ⟨_, _, _, -, -, dispatched⟩ := processInstruction_dispatched shaped unsigned accepted
  exact dispatched.advances shaped unsigned

theorem Outside.recordAt {α : Type} [Pod α] (outside : Outside crypto ledger result)
    (nonzero : Pod.discriminator α ≠ 0) : V2.recordAt α result = V2.recordAt α ledger := by
  funext address
  by_cases ours : (ledger address).owner = programId
  · exact recordAt_of_contents ⟨(outside.owned address ours).1.trans ours.symm,
      (outside.owned address ours).2⟩
  · have before : V2.recordAt α ledger address = none := if_neg ours
    rw [before]
    by_cases assigned : (result address).owner = programId
    · exact recordAt_zeroed (outside.assigned address ours assigned) (.inl nonzero)
    · exact if_neg assigned

theorem Outside.canonical (shaped : Shaped crypto ledger) (outside : Outside crypto ledger result)
    {address : Address} (canonical : crypto.Derives .protocol address) :
    (result address).owner = (ledger address).owner ∧
      (result address).data = (ledger address).data := by
  refine outside.derived address ⟨.protocol, canonical⟩ ?_
  rcases shaped address canonical with owner | ⟨owner, -⟩ <;> rw [owner] <;> decide

theorem Outside.advances (now : Int64) (shaped : Shaped crypto ledger)
    (outside : Outside crypto ledger result) : Advances crypto now ledger none result := by
  have books : booksOf result = { booksOf ledger with
      configs := V2.recordAt ProtocolConfig result, tokens := tokenAt result } := by
    simp only [booksOf, Outside.recordAt (α := CoveragePool) outside (by decide),
      Outside.recordAt (α := UnderwriterPosition) outside (by decide),
      Outside.recordAt (α := Policy) outside (by decide),
      Outside.recordAt (α := Claim) outside (by decide)]
  refine ⟨shaped.congr fun address canonical => ?_, .inl (books ▸ .outside ?_ outside.tokens)⟩
  · obtain ⟨owner, data⟩ := Outside.canonical shaped outside canonical
    exact ⟨owner, congrArg List.length data⟩
  · exact fun account canonical =>
      recordAt_of_contents (Outside.canonical shaped outside canonical)

/-! ## Reachable chains keep accounts -/

variable {chain before after : Chain}

/-- The shape of the config address and the invariant of the books. -/
structure Chain.Sound (crypto : Crypto) (chain : Chain) : Prop where
  shaped : Shaped crypto chain.ledger
  accounted : Accounted crypto (booksOf chain.ledger)

theorem Chain.Genesis.no_record {α : Type} [Pod α] (genesis : Genesis crypto chain)
    (nonzero : Pod.discriminator α ≠ 0) (address : Address) :
    V2.recordAt α chain.ledger address = none := by
  by_cases owned : (chain.ledger address).owner = programId
  · exact recordAt_zeroed (genesis.unowned address owned) (.inl nonzero)
  · exact if_neg owned

theorem Chain.Genesis.sound (genesis : Genesis crypto chain) : Sound crypto chain := by
  refine ⟨fun address canonical => .inr (genesis.vacant address ⟨.protocol, canonical⟩), ?_, ?_, ?_⟩
  · intro account pool stored
    cases (genesis.no_record (by decide) account).symm.trans stored
  · intro account position stored
    cases (genesis.no_record (by decide) account).symm.trans stored
  · intro account policy stored
    cases (genesis.no_record (by decide) account).symm.trans stored

theorem Advances.sound (advances : Advances crypto now ledger label result)
    (accounted : Accounted crypto (booksOf ledger)) : Accounted crypto (booksOf result) := by
  rcases advances.step with step | ⟨-, same⟩
  · exact step.accounted accounted
  · rwa [same]

theorem Chain.Next.sound (next : Next crypto before after) (sound : Sound crypto before) :
    Sound crypto after := by
  cases next with
  | instruction instruction unsigned forward =>
      unfold execute
      split
      case h_1 ledger payout processed =>
        have advances := processInstruction_advances sound.shaped unsigned processed
        exact ⟨advances.shaped, advances.sound sound.accounted⟩
      case h_2 => exact ⟨sound.shaped, sound.accounted⟩
  | outside outside =>
      have advances := outside.advances before.clock sound.shaped
      exact ⟨advances.shaped, advances.sound sound.accounted⟩

theorem Chain.Reached.sound (reached : Reached crypto chain) : Sound crypto chain :=
  Reachable.invariant (Sound crypto) reached (fun _ genesis => genesis.sound)
    fun _ _ sound next => next.sound sound

theorem Chain.Next.books (property : Books → Prop) (next : Next crypto before after)
    (sound : Sound crypto before) (holds : property (booksOf before.ledger))
    (kept : ∀ now label books books', property books → Step crypto now books label books' →
      property books') : property (booksOf after.ledger) := by
  have carried {now : Int64} {ledger : Ledger} {label : Option SubmitClaim.Payout}
      (advances : Advances crypto now before.ledger label ledger) :
      property (booksOf ledger) := by
    rcases advances.step with step | ⟨-, same⟩
    · exact kept _ _ _ _ holds step
    · rwa [same]
  cases next with
  | instruction instruction unsigned forward =>
      unfold execute
      split
      case h_1 ledger label processed =>
        exact carried (processInstruction_advances sound.shaped unsigned processed)
      case h_2 => exact holds
  | outside outside => exact carried (outside.advances before.clock sound.shaped)

theorem Chain.Reached.books (property : Books → Prop) (reached : Reached crypto chain)
    (begins : ∀ first, Genesis crypto first → property (booksOf first.ledger))
    (kept : ∀ now label books books', property books → Step crypto now books label books' →
      property books') : property (booksOf chain.ledger) := by
  have both : Sound crypto chain ∧ property (booksOf chain.ledger) := by
    refine Reachable.invariant (fun chain => Sound crypto chain ∧ property (booksOf chain.ledger))
      reached (fun first genesis => ⟨genesis.sound, begins first genesis⟩) ?_
    rintro before after ⟨sound, holds⟩ next
    exact ⟨next.sound sound, next.books property sound holds kept⟩
  exact both.2

end Chain

end PactNetwork.V2
