import PactNetwork.V2.Pools

/-!
# Policies, premiums and claims

`enable_insurance`, `disable_policy`, `settle_premium` and `submit_claim`.
-/

set_option autoImplicit false

namespace PactNetwork.V2

open Solana

section Handlers

variable (crypto : Crypto) (context : Context)

/-! ## enable_insurance -/

namespace EnableInsurance

def policy (args : EnableInsuranceArgs) (now : Int64) (agent pool token : Address)
    (bump : UInt8) : Policy where
  discriminator := Pod.discriminator Policy
  pad := List.Vector.replicate 7 0
  agent := agent
  pool := pool
  agentTokenAccount := token
  agentId := buffer 64 args.agentId
  totalPremiumsPaid := 0
  totalClaimsReceived := 0
  callsCovered := 0
  createdAt := now
  expiresAt := args.expiresAt
  agentIdLen := UInt8.ofNat args.agentId.length
  active := 1
  bump := bump
  padTail := List.Vector.replicate 5 0
  referrer := args.referrer
  referrerShareBps := args.referrerShareBps
  referrerPresent := args.referrerPresent
  padReferrer := List.Vector.replicate 5 0
  linkedPolicy := List.Vector.replicate 32 0
  policyKind := 0
  linkedPolicyPresent := 0
  discountScope := 0
  padDoubleCoverage := List.Vector.replicate 5 0
  reserved := List.Vector.replicate 24 0

structure Accounts where
  config : Address
  pool : Address
  policy : Address
  agentToken : Address
  agent : Address

/-- The agent's token account is delegated to the pool. -/
def checkAgentToken (ledger : Ledger) (accounts : Accounts) (config : ProtocolConfig)
    (pool : CoveragePool) : Except ProgramError Unit := do
  let token ← readToken ledger accounts.agentToken
  let delegate ← readDelegate token
  failIf (token.mint ≠ pool.usdcMint) ↑PactError.tokenAccountMismatch
  failIf (pool.usdcMint ≠ config.usdcMint) ↑PactError.tokenAccountMismatch
  failIf (token.owner ≠ accounts.agent) ↑PactError.unauthorized
  failIf (delegate ≠ some accounts.pool) ↑PactError.delegationMissing
  failIf (token.delegatedAmount = 0) ↑PactError.delegationInsufficient

def countPolicy (pool : CoveragePool) (now : Int64) : Except ProgramError CoveragePool := do
  failIf (pool.activePolicies.toNat + 1 ≥ 2 ^ 32) ↑PactError.arithmeticOverflow
  .ok { pool with activePolicies := pool.activePolicies + 1, updatedAt := now }

theorem countPolicy_eq_ok {pool result : CoveragePool} {now : Int64} :
    countPolicy pool now = .ok result ↔ pool.activePolicies.toNat + 1 < 2 ^ 32 ∧
      result = { pool with activePolicies := pool.activePolicies + 1, updatedAt := now } := by
  simp only [countPolicy, bind_eq_ok, failIf_eq_ok, Except.ok.injEq, exists_const, Nat.not_le]
  exact and_congr_right fun _ => eq_comm

def enable (ledger : Ledger) (accounts : Accounts) (data : List UInt8) :
    Except ProgramError Ledger := do
  failIf (context.signer accounts.agent = false) .missingRequiredSignature
  failIf (context.writable accounts.agent = false) .invalidAccountData
  failIf (context.writable accounts.pool = false ∨ context.writable accounts.policy = false)
    .invalidAccountData
  failIf ((ledger accounts.pool).owner ≠ programId) ↑PactError.unauthorized
  failIf ((ledger accounts.agentToken).owner ≠ tokenProgram) ↑PactError.tokenAccountMismatch
  let args ← EnableInsuranceArgs.cursor.decode data
  failIf (args.referrerShareBps > maxReferrerShareBps) ↑PactError.rateOutOfBounds
  failIf (¬ (args.referrerPresent ≠ 0 ↔ args.referrerShareBps ≠ 0)) ↑PactError.invalidRate
  requireCanonical crypto accounts.config
  let config ← load ProtocolConfig ledger accounts.config
  failIf (config.paused ≠ 0) ↑PactError.protocolPaused
  failIf (args.expiresAt ≤ context.now) ↑PactError.policyExpired
  let pool ← load CoveragePool ledger accounts.pool
  let (expected, bump) ← crypto.derive (.policy accounts.pool accounts.agent)
  failIf (accounts.policy ≠ expected) .invalidSeeds
  failIf ((ledger accounts.policy).data ≠ []) .accountAlreadyInitialized
  checkAgentToken ledger accounts config pool
  let size := (Pod.layout (α := Policy)).size
  let ledger ← createAccount context ledger accounts.agent accounts.policy
    (context.minimumBalance size) size programId
  let ledger ← write context ledger accounts.policy
    (policy args context.now accounts.agent accounts.pool accounts.agentToken bump)
  let pool ← load CoveragePool ledger accounts.pool
  let pool ← countPolicy pool context.now
  write context ledger accounts.pool pool

def process (ledger : Ledger) (accounts : List Address) (data : List UInt8) :
    Except ProgramError Ledger :=
  match accounts with
  | config :: pool :: policy :: agentToken :: agent :: system :: _ => do
      failIf (system ≠ systemProgram) .incorrectProgramId
      enable crypto context ledger ⟨config, pool, policy, agentToken, agent⟩ data
  | _ => .error .notEnoughAccountKeys

end EnableInsurance

/-! ## disable_policy -/

namespace DisablePolicy

def uncountPolicy (pool : CoveragePool) : CoveragePool :=
  { pool with activePolicies := if pool.activePolicies = 0 then 0 else pool.activePolicies - 1 }

def process (ledger : Ledger) (accounts : List Address) (data : List UInt8) :
    Except ProgramError Ledger :=
  match accounts with
  | poolAccount :: policyAccount :: agent :: _ => do
      failIf (data ≠ []) .invalidInstructionData
      failIf (context.signer agent = false) .missingRequiredSignature
      failIf (context.writable poolAccount = false ∨ context.writable policyAccount = false)
        .invalidAccountData
      failIf ((ledger poolAccount).owner ≠ programId ∨
        (ledger policyAccount).owner ≠ programId) ↑PactError.unauthorized
      let policy ← load Policy ledger policyAccount
      failIf (policy.pool ≠ poolAccount) ↑PactError.unauthorized
      failIf (policy.agent ≠ agent) ↑PactError.unauthorized
      failIf (policy.active = 0) ↑PactError.policyInactive
      let ledger ← write context ledger policyAccount { policy with active := 0 }
      let pool ← load CoveragePool ledger poolAccount
      write context ledger poolAccount (uncountPolicy pool)
  | _ => .error .notEnoughAccountKeys

end DisablePolicy

/-! ## settle_premium -/

namespace SettlePremium

/-- `compute_gross`. The product is taken in 128 bits. -/
def computeGross (callValue : UInt64) (rateBps : UInt16) (delegated balance : UInt64) : UInt64 :=
  UInt64.ofNat (min (min (callValue.toNat * rateBps.toNat / 10000) delegated.toNat)
    balance.toNat)

structure Cuts where
  pool : UInt64
  treasury : UInt64
  referrer : UInt64

def splitPremium (gross : UInt64) (treasuryBps referrerShareBps : UInt16) :
    Except ProgramError Cuts := do
  let treasury := gross.toNat * treasuryBps.toNat / 10000
  let referrer := gross.toNat * referrerShareBps.toNat / 10000
  failIf (treasury + referrer > gross.toNat) ↑PactError.arithmeticOverflow
  .ok ⟨UInt64.ofNat (gross.toNat - (treasury + referrer)), UInt64.ofNat treasury,
    UInt64.ofNat referrer⟩

structure Accounts where
  config : Address
  pool : Address
  vault : Address
  policy : Address
  treasuryToken : Address
  agentToken : Address
  oracle : Address
  remaining : List Address

def chargePolicy (policy : Policy) (gross : UInt64) : Except ProgramError Policy := do
  let totalPremiumsPaid ← okOr (checkedAdd policy.totalPremiumsPaid gross)
    ↑PactError.arithmeticOverflow
  .ok { policy with totalPremiumsPaid }

def creditPool (pool : CoveragePool) (now : Int64) (cut : UInt64) :
    Except ProgramError CoveragePool := do
  let totalPremiumsEarned ← okOr (checkedAdd pool.totalPremiumsEarned cut)
    ↑PactError.arithmeticOverflow
  let totalAvailable ← okOr (checkedAdd pool.totalAvailable cut) ↑PactError.arithmeticOverflow
  .ok { pool with totalPremiumsEarned, totalAvailable, updatedAt := now }

theorem creditPool_eq_ok {pool result : CoveragePool} {now : Int64} {cut : UInt64} :
    creditPool pool now cut = .ok result ↔ ∃ totalPremiumsEarned totalAvailable : UInt64,
      totalPremiumsEarned.toNat = pool.totalPremiumsEarned.toNat + cut.toNat ∧
        totalAvailable.toNat = pool.totalAvailable.toNat + cut.toNat ∧
        result = { pool with totalPremiumsEarned, totalAvailable, updatedAt := now } := by
  simp only [creditPool, bind_eq_ok, okOr_eq_ok, checkedAdd_eq_some, Except.ok.injEq,
    exists_and_left]
  exact exists_congr fun _ => and_congr_right fun _ => exists_congr fun _ =>
    and_congr_right fun _ => eq_comm

theorem chargePolicy_eq_ok {policy result : Policy} {gross : UInt64} :
    chargePolicy policy gross = .ok result ↔ ∃ totalPremiumsPaid : UInt64,
      totalPremiumsPaid.toNat = policy.totalPremiumsPaid.toNat + gross.toNat ∧
        result = { policy with totalPremiumsPaid } := by
  simp only [chargePolicy, bind_eq_ok, okOr_eq_ok, checkedAdd_eq_some, Except.ok.injEq]
  exact exists_congr fun _ => and_congr_right fun _ => eq_comm

def checkFlags (ledger : Ledger) (accounts : Accounts) : Except ProgramError Unit := do
  failIf (context.signer accounts.oracle = false) .missingRequiredSignature
  failIf (context.writable accounts.pool = false ∨ context.writable accounts.policy = false ∨
    context.writable accounts.vault = false ∨ context.writable accounts.treasuryToken = false ∨
    context.writable accounts.agentToken = false) .invalidAccountData
  failIf ((ledger accounts.pool).owner ≠ programId ∨ (ledger accounts.policy).owner ≠ programId)
    ↑PactError.unauthorized
  failIf ((ledger accounts.agentToken).owner ≠ tokenProgram ∨
    (ledger accounts.treasuryToken).owner ≠ tokenProgram ∨
    (ledger accounts.vault).owner ≠ tokenProgram) ↑PactError.tokenAccountMismatch

def checkPolicy (accounts : Accounts) (policy : Policy) : Except ProgramError Unit := do
  failIf (policy.expiresAt ≤ context.now) ↑PactError.policyExpired
  failIf (policy.pool ≠ accounts.pool) ↑PactError.unauthorized
  failIf (accounts.agentToken ≠ policy.agentTokenAccount) ↑PactError.tokenAccountMismatch

/-- Vault, treasury and agent token accounts are the expected ones. Returns the
agent's. -/
def checkTokens (ledger : Ledger) (accounts : Accounts) (config : ProtocolConfig)
    (policy : Policy) (pool : CoveragePool) : Except ProgramError TokenAccount := do
  failIf (accounts.vault ≠ pool.vault) ↑PactError.tokenAccountMismatch
  let vault ← readToken ledger accounts.vault
  failIf (vault.mint ≠ pool.usdcMint) ↑PactError.tokenAccountMismatch
  let treasury ← readToken ledger accounts.treasuryToken
  failIf (treasury.mint ≠ pool.usdcMint) ↑PactError.tokenAccountMismatch
  failIf (treasury.owner ≠ config.treasury) ↑PactError.tokenAccountMismatch
  let agent ← readToken ledger accounts.agentToken
  failIf (agent.mint ≠ pool.usdcMint) ↑PactError.tokenAccountMismatch
  failIf (agent.owner ≠ policy.agent) ↑PactError.tokenAccountMismatch
  let delegate ← readDelegate agent
  failIf (delegate ≠ some accounts.pool) ↑PactError.delegationMissing
  .ok agent

/-- The referrer's token account, when the policy has one. -/
def findReferrer (ledger : Ledger) (accounts : Accounts) (config : ProtocolConfig)
    (policy : Policy) : Except ProgramError (Option Address) :=
  if policy.referrerPresent = 1 then
    match accounts.remaining with
    | [] => .error ↑PactError.tokenAccountMismatch
    | referrer :: _ => do
        failIf (context.writable referrer = false) .invalidAccountData
        failIf ((ledger referrer).owner ≠ tokenProgram) ↑PactError.tokenAccountMismatch
        let token ← readToken ledger referrer
        failIf (token.mint ≠ config.usdcMint) ↑PactError.tokenAccountMismatch
        failIf (token.owner ≠ policy.referrer) ↑PactError.tokenAccountMismatch
        .ok (some referrer)
  else .ok none

def payCut (ledger : Ledger) (accounts : Accounts) (pool : CoveragePool)
    (destination : Address) (cut : UInt64) : Except ProgramError Ledger :=
  if 0 < cut then
    transferPoolSigned crypto context ledger accounts.agentToken destination accounts.pool cut pool
  else .ok ledger

def payReferrer (ledger : Ledger) (accounts : Accounts) (pool : CoveragePool)
    (referrer : Option Address) (cut : UInt64) : Except ProgramError Ledger :=
  match referrer with
  | some referrer => payCut crypto context ledger accounts pool referrer cut
  | none => .ok ledger

def collect (ledger : Ledger) (accounts : Accounts) (pool : CoveragePool)
    (referrer : Option Address) (gross : UInt64) (cuts : Cuts) :
    Except ProgramError Ledger := do
  let ledger ← payCut crypto context ledger accounts pool accounts.vault cuts.pool
  let ledger ← payCut crypto context ledger accounts pool accounts.treasuryToken cuts.treasury
  let ledger ← payReferrer crypto context ledger accounts pool referrer cuts.referrer
  let policy ← load Policy ledger accounts.policy
  let policy ← chargePolicy policy gross
  let ledger ← write context ledger accounts.policy policy
  let pool ← load CoveragePool ledger accounts.pool
  let pool ← creditPool pool context.now cuts.pool
  write context ledger accounts.pool pool

/-- The config's address and owner are not checked. -/
def settle (ledger : Ledger) (accounts : Accounts) (data : List UInt8) :
    Except ProgramError Ledger := do
  checkFlags context ledger accounts
  let callValue ← decodeU64 data
  let config ← load ProtocolConfig ledger accounts.config
  failIf (accounts.oracle ≠ config.oracle) ↑PactError.unauthorizedOracle
  let policy ← load Policy ledger accounts.policy
  checkPolicy context accounts policy
  let pool ← load CoveragePool ledger accounts.pool
  let agent ← checkTokens ledger accounts config policy pool
  let gross := computeGross callValue pool.insuranceRateBps agent.delegatedAmount agent.amount
  if gross = 0 then .ok ledger else do
  let cuts ← splitPremium gross config.protocolFeeBps
    (if policy.referrerPresent = 1 then policy.referrerShareBps else 0)
  let referrer ← findReferrer context ledger accounts config policy
  collect crypto context ledger accounts pool referrer gross cuts

def process (ledger : Ledger) (accounts : List Address) (data : List UInt8) :
    Except ProgramError Ledger :=
  match accounts with
  | config :: pool :: vault :: policy :: treasuryToken :: agentToken :: oracle :: token ::
      remaining => do
      failIf (token ≠ tokenProgram) .incorrectProgramId
      settle crypto context ledger
        ⟨config, pool, vault, policy, treasuryToken, agentToken, oracle, remaining⟩ data
  | _ => .error .notEnoughAccountKeys

end SettlePremium

/-! ## submit_claim -/

namespace SubmitClaim

structure Accounts where
  config : Address
  pool : Address
  vault : Address
  policy : Address
  claim : Address
  agentToken : Address
  oracle : Address

def clampRefund (payment : UInt64) (pool : CoveragePool) : UInt64 :=
  min (min payment pool.maxCoveragePerCall) pool.totalAvailable

/-- `effective_cap_bps` of the deposits, in 128 bits. -/
def capLimit (config : ProtocolConfig) (pool : CoveragePool) : UInt64 :=
  UInt64.ofNat (pool.totalDeposited.toNat *
    (min config.aggregateCapBps absoluteMaxAggregateCapBps).toNat / 10000)

def windowReset (config : ProtocolConfig) (pool : CoveragePool) (now : Int64) :
    Except ProgramError Bool := do
  let elapsed ← okOr (checkedSubI64 now pool.windowStart) ↑PactError.arithmeticOverflow
  .ok (config.aggregateCapWindowSeconds < elapsed)

/-- The refund and whether the window starts anew, within the aggregate cap. -/
def assess (config : ProtocolConfig) (pool : CoveragePool) (now : Int64) (payment : UInt64) :
    Except ProgramError (UInt64 × Bool) := do
  let refund := clampRefund payment pool
  let reset ← windowReset config pool now
  let projected ← okOr (checkedAdd (if reset then 0 else pool.payoutsThisWindow) refund)
    ↑PactError.arithmeticOverflow
  failIf (capLimit config pool < projected) ↑PactError.aggregateCapExceeded
  .ok (refund, reset)

theorem assess_spec {config : ProtocolConfig} {pool : CoveragePool} {now : Int64}
    {payment refund : UInt64} {reset : Bool}
    (assessed : assess config pool now payment = .ok (refund, reset)) :
    windowReset config pool now = .ok reset ∧ refund = clampRefund payment pool ∧
      (if reset then 0 else pool.payoutsThisWindow.toNat) + refund.toNat ≤
        (capLimit config pool).toNat := by
  simp only [assess, bind_eq_ok, okOr_eq_ok, checkedAdd_eq_some, failIf_eq_ok, exists_const,
    UInt64.not_lt, UInt64.le_iff_toNat_le, Except.ok.injEq, Prod.mk.injEq] at assessed
  obtain ⟨_, expired, projected, sum, bound, rfl, rfl⟩ := assessed
  refine ⟨expired, rfl, ?_⟩
  rw [sum] at bound
  split at bound <;> simp_all

def addPayout (pool : CoveragePool) (refund : UInt64) (reset : Bool) :
    Except ProgramError UInt64 :=
  if reset then .ok refund
  else okOr (checkedAdd pool.payoutsThisWindow refund) ↑PactError.arithmeticOverflow

theorem addPayout_eq_ok {pool : CoveragePool} {refund result : UInt64} {reset : Bool} :
    addPayout pool refund reset = .ok result ↔
      result.toNat = (if reset then 0 else pool.payoutsThisWindow.toNat) + refund.toNat := by
  cases reset with
  | true => simp [addPayout, UInt64.toNat_inj, eq_comm]
  | false => simp [addPayout, checkedAdd_eq_some]

def payPool (pool : CoveragePool) (now : Int64) (refund : UInt64) (reset : Bool) :
    Except ProgramError CoveragePool := do
  let totalClaimsPaid ← okOr (checkedAdd pool.totalClaimsPaid refund)
    ↑PactError.arithmeticOverflow
  let totalAvailable ← okOr (checkedSub pool.totalAvailable refund)
    ↑PactError.insufficientPoolBalance
  let payoutsThisWindow ← addPayout pool refund reset
  .ok { pool with
    totalClaimsPaid, totalAvailable, payoutsThisWindow
    windowStart := if reset then now else pool.windowStart
    updatedAt := now }

def payPolicy (policy : Policy) (refund : UInt64) : Except ProgramError Policy := do
  let totalClaimsReceived ← okOr (checkedAdd policy.totalClaimsReceived refund)
    ↑PactError.arithmeticOverflow
  let callsCovered ← okOr (checkedAdd policy.callsCovered 1) ↑PactError.arithmeticOverflow
  .ok { policy with totalClaimsReceived, callsCovered }

theorem payPool_eq_ok {pool result : CoveragePool} {now : Int64} {refund : UInt64}
    {reset : Bool} :
    payPool pool now refund reset = .ok result ↔
      ∃ totalClaimsPaid totalAvailable payoutsThisWindow : UInt64,
        totalClaimsPaid.toNat = pool.totalClaimsPaid.toNat + refund.toNat ∧
        pool.totalAvailable.toNat = totalAvailable.toNat + refund.toNat ∧
        payoutsThisWindow.toNat =
          (if reset then 0 else pool.payoutsThisWindow.toNat) + refund.toNat ∧
        result = { pool with
          totalClaimsPaid, totalAvailable, payoutsThisWindow
          windowStart := if reset then now else pool.windowStart
          updatedAt := now } := by
  simp only [payPool, bind_eq_ok, okOr_eq_ok, checkedAdd_eq_some, checkedSub_eq_some,
    addPayout_eq_ok, Except.ok.injEq, exists_and_left]
  exact exists_congr fun _ => and_congr_right fun _ => exists_congr fun _ =>
    and_congr_right fun _ => exists_congr fun _ => and_congr_right fun _ => eq_comm

theorem payPolicy_eq_ok {policy result : Policy} {refund : UInt64} :
    payPolicy policy refund = .ok result ↔ ∃ totalClaimsReceived callsCovered : UInt64,
      totalClaimsReceived.toNat = policy.totalClaimsReceived.toNat + refund.toNat ∧
        callsCovered.toNat = policy.callsCovered.toNat + 1 ∧
        result = { policy with totalClaimsReceived, callsCovered } := by
  simp only [payPolicy, bind_eq_ok, okOr_eq_ok, checkedAdd_eq_some, Except.ok.injEq,
    exists_and_left]
  exact exists_congr fun _ => and_congr_right fun _ => exists_congr fun _ =>
    and_congr_right fun _ => eq_comm

def claim (accounts : Accounts) (args : SubmitClaimArgs) (callIdHash : Bytes 32)
    (agent : Address) (now : Int64) (refund : UInt64) (bump : UInt8) : Claim where
  discriminator := Pod.discriminator Claim
  pad := List.Vector.replicate 7 0
  policy := accounts.policy
  pool := accounts.pool
  agent := agent
  callId := callIdHash
  evidenceHash := args.evidenceHash
  paymentAmount := args.paymentAmount
  refundAmount := refund
  callTimestamp := args.callTimestamp
  createdAt := now
  resolvedAt := now
  latencyMs := args.latencyMs
  statusCode := args.statusCode
  triggerType := args.triggerType.toU8
  status := ClaimStatus.approved.toU8
  bump := bump
  padTail := List.Vector.replicate 7 0
  reserved := List.Vector.replicate 64 0

def checkFlags (ledger : Ledger) (accounts : Accounts) : Except ProgramError Unit := do
  failIf (context.signer accounts.oracle = false) .missingRequiredSignature
  failIf (context.writable accounts.oracle = false) .invalidAccountData
  failIf (context.writable accounts.pool = false ∨ context.writable accounts.vault = false ∨
    context.writable accounts.policy = false ∨ context.writable accounts.claim = false ∨
    context.writable accounts.agentToken = false) .invalidAccountData
  failIf ((ledger accounts.pool).owner ≠ programId ∨ (ledger accounts.policy).owner ≠ programId)
    ↑PactError.unauthorized
  failIf ((ledger accounts.vault).owner ≠ tokenProgram ∨
    (ledger accounts.agentToken).owner ≠ tokenProgram) ↑PactError.tokenAccountMismatch

/-- The policy is the pool's, active, not expired, and the call recent enough. -/
def checkPolicy (accounts : Accounts) (config : ProtocolConfig) (policy : Policy)
    (args : SubmitClaimArgs) : Except ProgramError Unit := do
  failIf (policy.active ≠ 1) ↑PactError.policyInactive
  failIf (policy.pool ≠ accounts.pool) ↑PactError.unauthorized
  failIf (policy.expiresAt ≤ context.now) ↑PactError.policyExpired
  let age ← okOr (checkedSubI64 context.now args.callTimestamp) ↑PactError.arithmeticOverflow
  failIf (config.claimWindowSeconds < age) ↑PactError.claimWindowExpired

/-- Agent token account and vault are the expected ones. -/
def checkTokens (ledger : Ledger) (accounts : Accounts) (config : ProtocolConfig)
    (policy : Policy) (pool : CoveragePool) : Except ProgramError Unit := do
  failIf (accounts.agentToken ≠ policy.agentTokenAccount) ↑PactError.tokenAccountMismatch
  let agent ← readToken ledger accounts.agentToken
  failIf (agent.mint ≠ pool.usdcMint) ↑PactError.tokenAccountMismatch
  failIf (agent.owner ≠ policy.agent) ↑PactError.tokenAccountMismatch
  failIf (accounts.vault ≠ pool.vault) ↑PactError.tokenAccountMismatch
  let vault ← readToken ledger accounts.vault
  failIf (vault.mint ≠ pool.usdcMint) ↑PactError.tokenAccountMismatch
  failIf (vault.mint ≠ config.usdcMint) ↑PactError.tokenAccountMismatch

def payRefund (ledger : Ledger) (accounts : Accounts) (pool : CoveragePool) (refund : UInt64) :
    Except ProgramError Ledger :=
  if 0 < refund then
    transferPoolSigned crypto context ledger accounts.vault accounts.agentToken accounts.pool
      refund pool
  else .ok ledger

/-- Create the claim, pay the refund and record it on all three accounts. -/
def pay (ledger : Ledger) (accounts : Accounts) (args : SubmitClaimArgs)
    (callIdHash : Bytes 32) (policy : Policy) (pool : CoveragePool) (bump : UInt8)
    (refund : UInt64) (reset : Bool) : Except ProgramError Ledger := do
  let size := (Pod.layout (α := Claim)).size
  let ledger ← createAccount context ledger accounts.oracle accounts.claim
    (context.minimumBalance size) size programId
  let ledger ← payRefund crypto context ledger accounts pool refund
  let ledger ← write context ledger accounts.claim
    (claim accounts args callIdHash policy.agent context.now refund bump)
  let pool ← load CoveragePool ledger accounts.pool
  let pool ← payPool pool context.now refund reset
  let ledger ← write context ledger accounts.pool pool
  let policy ← load Policy ledger accounts.policy
  let policy ← payPolicy policy refund
  write context ledger accounts.policy policy

/-- What an accepted claim did: the pool, the refund, and the cap it met. -/
structure Payout where
  pool : Address
  refund : UInt64
  now : Int64
  reset : Bool
  capLimit : UInt64

/-- The config's address and owner are not checked. -/
def submit (ledger : Ledger) (accounts : Accounts) (data : List UInt8) :
    Except ProgramError (Ledger × Payout) := do
  checkFlags context ledger accounts
  let args ← SubmitClaimArgs.cursor.decode data
  failIf (args.paymentAmount = 0) ↑PactError.zeroAmount
  let callIdHash := crypto.sha256 args.callId
  let config ← load ProtocolConfig ledger accounts.config
  failIf (config.paused ≠ 0) ↑PactError.protocolPaused
  failIf (accounts.oracle ≠ config.oracle) ↑PactError.unauthorizedOracle
  let policy ← load Policy ledger accounts.policy
  checkPolicy context accounts config policy args
  let pool ← load CoveragePool ledger accounts.pool
  checkTokens ledger accounts config policy pool
  let (expected, bump) ← crypto.derive (.claim accounts.policy callIdHash)
  failIf (accounts.claim ≠ expected) .invalidSeeds
  failIf ((ledger accounts.claim).data ≠ []) ↑PactError.duplicateClaim
  let (refund, reset) ← assess config pool context.now args.paymentAmount
  let ledger ←
    pay crypto context ledger accounts args callIdHash policy pool bump refund reset
  .ok (ledger, ⟨accounts.pool, refund, context.now, reset, capLimit config pool⟩)

def process (ledger : Ledger) (accounts : List Address) (data : List UInt8) :
    Except ProgramError (Ledger × Payout) :=
  match accounts with
  | config :: pool :: vault :: policy :: claim :: agentToken :: oracle :: token :: system ::
      _ => do
      failIf (token ≠ tokenProgram) .incorrectProgramId
      failIf (system ≠ systemProgram) .incorrectProgramId
      submit crypto context ledger ⟨config, pool, vault, policy, claim, agentToken, oracle⟩ data
  | _ => .error .notEnoughAccountKeys

end SubmitClaim

end Handlers

end PactNetwork.V2
