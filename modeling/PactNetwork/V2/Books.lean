import PactNetwork.V2.Policies

/-!
# The program by its books

What the program keeps, without bytes: its structs and the token accounts by
address, and each instruction as one step between two states of them.
-/

set_option autoImplicit false

namespace PactNetwork.V2

open Solana TokenLedger

structure Books where
  configs : Address → Option ProtocolConfig
  pools : Address → Option CoveragePool
  positions : Address → Option UnderwriterPosition
  policies : Address → Option Policy
  claims : Address → Option Claim
  tokens : TokenLedger

def booksOf (ledger : Ledger) : Books where
  configs := recordAt ProtocolConfig ledger
  pools := recordAt CoveragePool ledger
  positions := recordAt UnderwriterPosition ledger
  policies := recordAt Policy ledger
  claims := recordAt Claim ledger
  tokens := tokenAt ledger

namespace Books

variable (books : Books)

def setConfig (account : Address) (config : ProtocolConfig) : Books :=
  { books with configs := Function.update books.configs account (some config) }

def setPool (account : Address) (pool : CoveragePool) : Books :=
  { books with pools := Function.update books.pools account (some pool) }

def setPosition (account : Address) (position : UnderwriterPosition) : Books :=
  { books with positions := Function.update books.positions account (some position) }

def setPolicy (account : Address) (policy : Policy) : Books :=
  { books with policies := Function.update books.policies account (some policy) }

def setClaim (account : Address) (claim : Claim) : Books :=
  { books with claims := Function.update books.claims account (some claim) }

def withTokens (tokens : TokenLedger) : Books := { books with tokens }

/-! A second change of one account replaces the first, and changes of different
kinds do not see each other. -/

@[simp] theorem setPosition_setPosition (account : Address) (first second : UnderwriterPosition) :
    (books.setPosition account first).setPosition account second =
      books.setPosition account second := by
  simp only [setPosition, Function.update_idem]

@[simp] theorem setPool_setPool (account : Address) (first second : CoveragePool) :
    (books.setPool account first).setPool account second = books.setPool account second := by
  simp only [setPool, Function.update_idem]

theorem setPool_setPosition (pool position : Address) (first : CoveragePool)
    (second : UnderwriterPosition) :
    (books.setPool pool first).setPosition position second =
      (books.setPosition position second).setPool pool first := rfl

theorem setPool_withTokens (account : Address) (pool : CoveragePool) (tokens : TokenLedger) :
    (books.setPool account pool).withTokens tokens =
      (books.withTokens tokens).setPool account pool := rfl

theorem setPosition_withTokens (account : Address) (position : UnderwriterPosition)
    (tokens : TokenLedger) :
    (books.setPosition account position).withTokens tokens =
      (books.withTokens tokens).setPosition account position := rfl

end Books

/-! ## Steps -/

section Steps

variable (crypto : Crypto)

def SettlePremium.payments (accounts : SettlePremium.Accounts) (vault : Address)
    (referrer : Option Address) (cuts : SettlePremium.Cuts) : List Payment :=
  ([(some vault, cuts.pool), (some accounts.treasuryToken, cuts.treasury),
    (referrer, cuts.referrer)] : List (Option Address × UInt64)).filterMap fun (to_, cut) =>
      if 0 < cut then to_.map fun destination =>
        ⟨accounts.agentToken, destination, accounts.pool, cut⟩
      else none

/-- What an accepted instruction, or another program, does to the books. The
label is what a claim paid. -/
inductive Step (now : Int64) : Books → Option SubmitClaim.Payout → Books → Prop
  | initializeProtocol {books : Books} {account : Address} (args : InitializeProtocol.Args) (bump : UInt8)
      (canonical : crypto.Derives .protocol account) (vacant : books.configs account = none) :
      Step now books none (books.setConfig account (InitializeProtocol.config args bump))
  | updateConfig {books : Books} {account : Address} {config updated : ProtocolConfig}
      (patch : UpdateConfigPatch) (canonical : crypto.Derives .protocol account)
      (stored : books.configs account = some config)
      (applied : UpdateConfig.apply patch config = .ok updated) :
      Step now books none (books.setConfig account updated)
  | updateOracle {books : Books} {account oracle : Address} {config : ProtocolConfig}
      (canonical : crypto.Derives .protocol account)
      (stored : books.configs account = some config)
      (nonzero : oracle ≠ List.Vector.replicate 32 0) (separate : oracle ≠ config.authority) :
      Step now books none (books.setConfig account { config with oracle })
  | createPool {books : Books} {configAccount account vault : Address} {config : ProtocolConfig}
      {args : CreatePoolArgs} {bump vaultBump : UInt8} {token : TokenAccount}
      (canonical : crypto.Derives .protocol configAccount)
      (configured : books.configs configAccount = some config)
      (key : crypto.derive (.pool args.hostname) = .ok (account, bump))
      (vaultKey : crypto.derive (.vault account) = .ok (vault, vaultBump))
      (vacant : books.pools account = none) (unopened : books.tokens vault = none)
      (exclusive : token.Exclusive account) (empty : token.amount = 0) :
      Step now books none ((books.withTokens (Function.update books.tokens vault (some token))).setPool
        account (CreatePool.pool config args now vault bump vaultBump))
  | updateRates {books : Books} {account : Address} {pool : CoveragePool} {rate : UInt16}
      (stored : books.pools account = some pool) (floor : pool.minPremiumBps ≤ rate)
      (ceiling : rate ≤ 10000) :
      Step now books none
        (books.setPool account { pool with insuranceRateBps := rate, updatedAt := now })
  | deposit {books : Books} {accounts : UnderwriterAccounts} {config : ProtocolConfig}
      {pool credited : CoveragePool} {before after : UnderwriterPosition} {amount : UInt64}
      {source : TokenAccount} {tokens : TokenLedger}
      (minimum : config.minPoolDeposit ≤ amount) (nonzero : amount ≠ 0)
      (stored : books.pools accounts.pool = some pool)
      (key : crypto.Derives (.position accounts.pool accounts.underwriter) accounts.position)
      (opened : books.positions accounts.position = some before ∨
        books.positions accounts.position = none ∧ ∃ bump, before = Deposit.position accounts bump)
      (external : ¬ crypto.Derived accounts.underwriter)
      (found : books.tokens accounts.underwriterToken = some source)
      (own : source.owner = accounts.underwriter)
      (positionCredited : Deposit.creditPosition before amount = .ok after)
      (poolCredited : Deposit.creditPool pool amount = .ok credited)
      (paid : Pays books.tokens
        ⟨accounts.underwriterToken, pool.vault, accounts.underwriter, amount⟩ tokens) :
      Step now books none (((books.withTokens tokens).setPosition accounts.position
        { after with depositTimestamp := now }).setPool accounts.pool
          { credited with updatedAt := now })
  | withdraw {books : Books} {accounts : UnderwriterAccounts} {config : ProtocolConfig}
      {pool debited : CoveragePool} {before after : UnderwriterPosition} {amount : UInt64}
      {destination : TokenAccount} {tokens : TokenLedger}
      (stored : books.pools accounts.pool = some pool)
      (key : crypto.Derives (.position accounts.pool accounts.underwriter) accounts.position)
      (opened : books.positions accounts.position = some before)
      (allowed : Withdraw.checkPosition now accounts.underwriter config before amount = .ok ())
      (external : ¬ crypto.Derived accounts.underwriter)
      (found : books.tokens accounts.underwriterToken = some destination)
      (own : destination.owner = accounts.underwriter)
      (positionDebited : Withdraw.debitPosition before amount = .ok after)
      (poolDebited : Withdraw.debitPool pool now amount = .ok debited)
      (paid : Pays books.tokens
        ⟨pool.vault, accounts.underwriterToken, accounts.pool, amount⟩ tokens) :
      Step now books none (((books.withTokens tokens).setPosition accounts.position after).setPool
        accounts.pool debited)
  | enableInsurance {books : Books} {accounts : EnableInsurance.Accounts}
      {args : EnableInsuranceArgs} {pool counted : CoveragePool} {bump : UInt8}
      (share : args.referrerShareBps ≤ maxReferrerShareBps)
      (referred : args.referrerPresent ≠ 0 ↔ args.referrerShareBps ≠ 0)
      (stored : books.pools accounts.pool = some pool)
      (key : crypto.derive (.policy accounts.pool accounts.agent) = .ok (accounts.policy, bump))
      (vacant : books.policies accounts.policy = none)
      (external : ¬ crypto.Derived accounts.agent)
      (poolCounted : EnableInsurance.countPolicy pool now = .ok counted) :
      Step now books none ((books.setPolicy accounts.policy (EnableInsurance.policy args now
        accounts.agent accounts.pool accounts.agentToken bump)).setPool accounts.pool counted)
  | disablePolicy {books : Books} {poolAccount policyAccount : Address} {pool : CoveragePool}
      {policy : Policy} (stored : books.pools poolAccount = some pool)
      (insured : books.policies policyAccount = some policy) (member : policy.pool = poolAccount)
      (active : policy.active ≠ 0) :
      Step now books none ((books.setPolicy policyAccount { policy with active := 0 }).setPool
        poolAccount (DisablePolicy.uncountPolicy pool))
  | settlePremium {books : Books} {accounts : SettlePremium.Accounts} {config : ProtocolConfig}
      {pool credited : CoveragePool} {policy charged : Policy} {agent : TokenAccount}
      {callValue gross : UInt64} {cuts : SettlePremium.Cuts} {referrer : Option Address}
      {tokens : TokenLedger}
      (stored : books.pools accounts.pool = some pool)
      (insured : books.policies accounts.policy = some policy)
      (member : policy.pool = accounts.pool)
      (found : ∀ token, books.tokens accounts.agentToken = some token → agent = token)
      (own : agent.owner = policy.agent)
      (premium : gross = SettlePremium.computeGross callValue pool.insuranceRateBps
        agent.delegatedAmount agent.amount)
      (split : SettlePremium.splitPremium gross config.protocolFeeBps
        (if policy.referrerPresent = 1 then policy.referrerShareBps else 0) = .ok cuts)
      (policyCharged : SettlePremium.chargePolicy policy gross = .ok charged)
      (poolCredited : SettlePremium.creditPool pool now cuts.pool = .ok credited)
      (paid : PaysAll books.tokens (SettlePremium.payments accounts pool.vault referrer cuts)
        tokens) :
      Step now books none (((books.withTokens tokens).setPolicy accounts.policy charged).setPool
        accounts.pool credited)
  | submitClaim {books : Books} {accounts : SubmitClaim.Accounts} {config : ProtocolConfig}
      {pool debited : CoveragePool} {policy charged : Policy} {args : SubmitClaimArgs}
      {refund : UInt64} {reset : Bool} {bump : UInt8} {tokens : TokenLedger}
      (stored : books.pools accounts.pool = some pool)
      (insured : books.policies accounts.policy = some policy)
      (member : policy.pool = accounts.pool)
      (key : crypto.derive (.claim accounts.policy (crypto.sha256 args.callId)) =
        .ok (accounts.claim, bump))
      (vacant : books.claims accounts.claim = none)
      (assessed : SubmitClaim.assess config pool now args.paymentAmount = .ok (refund, reset))
      (poolDebited : SubmitClaim.payPool pool now refund reset = .ok debited)
      (policyCharged : SubmitClaim.payPolicy policy refund = .ok charged)
      (paid : if 0 < refund then Pays books.tokens
          ⟨pool.vault, accounts.agentToken, accounts.pool, refund⟩ tokens
        else tokens = books.tokens) :
      Step now books
        (some ⟨accounts.pool, refund, now, reset, SubmitClaim.capLimit config pool⟩)
        ((((books.withTokens tokens).setClaim accounts.claim (SubmitClaim.claim accounts args
          (crypto.sha256 args.callId) policy.agent now refund bump)).setPolicy accounts.policy
            charged).setPool accounts.pool debited)
  | outside {books : Books} {configs : Address → Option ProtocolConfig} {tokens : TokenLedger}
      (canonical : ∀ account, crypto.Derives .protocol account →
        configs account = books.configs account)
      (kept : ∀ address token owner, books.tokens address = some token → crypto.Derived owner →
        token.Exclusive owner → ∃ token', tokens address = some token' ∧ token'.Exclusive owner ∧
          token.amount.toNat ≤ token'.amount.toNat) :
      Step now books none { books with configs, tokens }

end Steps

end PactNetwork.V2
