import PactNetwork.V1.Refinement

/-!
# What one event does to the ledger

Between the creation of its CallRecord and the last write an event moves
through stages: a pool struct, an endpoint struct and a token ledger change,
and nothing else. Each step of the handler is a lemma about stages.
-/

set_option autoImplicit false

namespace PactNetwork.V1

open Solana

namespace SettleBatch

/-- Where an event stands, relative to the ledger it started from. -/
structure Stage (base : Ledger) (accounts : EventAccounts) (pool : CoveragePool)
    (endpoint : EndpointConfig) (tokens : TokenLedger) (ledger : Ledger) : Prop where
  distinct : accounts.coveragePool ≠ accounts.endpointConfig
  poolOwned : (base accounts.coveragePool).owner = programId
  endpointOwned : (base accounts.endpointConfig).owner = programId
  pool : structAt CoveragePool.layout ledger accounts.coveragePool = some pool
  endpoint : structAt EndpointConfig.layout ledger accounts.endpointConfig = some endpoint
  tokens : tokenAt ledger = tokens
  owner : ∀ address, (ledger address).owner = (base address).owner
  length : ∀ address, (ledger address).data.length = (base address).data.length
  frame : ∀ address, address ≠ accounts.coveragePool → address ≠ accounts.endpointConfig →
    (base address).owner ≠ tokenProgram → ledger address = base address

theorem programId_ne_tokenProgram : programId ≠ tokenProgram := by decide

theorem programId_ne_systemProgram : programId ≠ systemProgram := by decide

theorem systemProgram_ne_tokenProgram : systemProgram ≠ tokenProgram := by decide

theorem tokenAt_setStruct {α : Type} {layout : Layout α} {ledger : Ledger} {address : Address}
    (value : α) (foreign : (ledger address).owner ≠ tokenProgram) :
    tokenAt (setStruct layout ledger address value) = tokenAt ledger := by
  funext other
  by_cases same : other = address
  · subst same
    rw [tokenAt_eq_none_of_owner (by rwa [setStruct_owner]), tokenAt_eq_none_of_owner foreign]
  · exact tokenAt_congr (setStruct_of_ne same)

section FeeShares

variable {premium : UInt64} {recipient : FeeRecipient} {recipients : List FeeRecipient}

theorem feeShares_of_zero (empty : feeAmount premium recipient.bps = 0) :
    feeShares premium (recipient :: recipients) = feeShares premium recipients := by
  simp [feeShares, empty]

theorem feeShares_of_ne (positive : feeAmount premium recipient.bps ≠ 0) :
    feeShares premium (recipient :: recipients) =
      (recipient.destination, feeAmount premium recipient.bps) :: feeShares premium recipients := by
  simp [feeShares, positive]

theorem payFees_total {addresses : Addresses} {context : Context} {event : SettlementEvent}
    {accounts : EventAccounts} {ledger result : Ledger} {total resultTotal : UInt64}
    {paid resultPaid : List (Address × UInt64)}
    (finished : payFees addresses context event accounts recipients ledger total paid =
      .ok (result, resultTotal, resultPaid)) :
    resultPaid = paid ++ feeShares event.premiumLamports recipients ∧
      resultTotal.toNat =
        total.toNat + (amounts (feeShares event.premiumLamports recipients)).sum := by
  induction recipients generalizing ledger total paid with
  | nil =>
      cases finished
      exact ⟨(List.append_nil _).symm, rfl⟩
  | cons recipient rest ih =>
      unfold payFees at finished
      by_cases empty : feeAmount event.premiumLamports recipient.bps = 0
      · rw [if_pos empty] at finished
        rw [feeShares_of_zero empty]
        exact ih finished
      · rw [if_neg empty] at finished
        simp only [bind_eq_ok, okOr_eq_ok, checkedAdd_eq_some] at finished
        obtain ⟨middle, -, sum, total', rest'⟩ := finished
        obtain ⟨list, number⟩ := ih rest'
        rw [feeShares_of_ne empty]
        refine ⟨by rw [list, List.append_assoc]; rfl, ?_⟩
        rw [number, total']
        simp only [amounts, List.map_cons, List.sum_cons]
        omega

end FeeShares

namespace Stage

variable {base ledger result : Ledger} {accounts : EventAccounts} {pool : CoveragePool}
  {endpoint : EndpointConfig} {tokens : TokenLedger}

theorem start (distinct : accounts.coveragePool ≠ accounts.endpointConfig)
    (poolOwned : (base accounts.coveragePool).owner = programId)
    (endpointOwned : (base accounts.endpointConfig).owner = programId)
    (poolFound : structAt CoveragePool.layout base accounts.coveragePool = some pool)
    (endpointFound : structAt EndpointConfig.layout base accounts.endpointConfig = some endpoint) :
    Stage base accounts pool endpoint (tokenAt base) base where
  distinct := distinct
  poolOwned := poolOwned
  endpointOwned := endpointOwned
  pool := poolFound
  endpoint := endpointFound
  tokens := rfl
  owner _ := rfl
  length _ := rfl
  frame _ _ _ _ := rfl

variable (stage : Stage base accounts pool endpoint tokens ledger)
include stage

theorem poolForeign : (ledger accounts.coveragePool).owner ≠ tokenProgram := by
  rw [stage.owner, stage.poolOwned]
  exact programId_ne_tokenProgram

theorem endpointForeign : (ledger accounts.endpointConfig).owner ≠ tokenProgram := by
  rw [stage.owner, stage.endpointOwned]
  exact programId_ne_tokenProgram

theorem outside (moved : SameOutsideTokens ledger result) :
    Stage base accounts pool endpoint (tokenAt result) result where
  distinct := stage.distinct
  poolOwned := stage.poolOwned
  endpointOwned := stage.endpointOwned
  pool := (structAt_congr (moved.same _ stage.poolForeign)).trans stage.pool
  endpoint := (structAt_congr (moved.same _ stage.endpointForeign)).trans stage.endpoint
  tokens := rfl
  owner address := (moved.owner address).trans (stage.owner address)
  length address := (moved.length address).trans (stage.length address)
  frame address notPool notEndpoint foreign :=
    (moved.same address (by rwa [stage.owner])).trans
      (stage.frame address notPool notEndpoint foreign)

theorem setPool (pool' : CoveragePool) : Stage base accounts pool' endpoint tokens
    (setStruct CoveragePool.layout ledger accounts.coveragePool pool') where
  distinct := stage.distinct
  poolOwned := stage.poolOwned
  endpointOwned := stage.endpointOwned
  pool := structAt_setStruct_self
  endpoint := (structAt_congr (setStruct_of_ne (Ne.symm stage.distinct))).trans stage.endpoint
  tokens := (tokenAt_setStruct pool' stage.poolForeign).trans stage.tokens
  owner address := setStruct_owner.trans (stage.owner address)
  length address := (setStruct_length stage.pool).trans (stage.length address)
  frame address notPool notEndpoint foreign :=
    (setStruct_of_ne notPool).trans (stage.frame address notPool notEndpoint foreign)

theorem setEndpoint (endpoint' : EndpointConfig) : Stage base accounts pool endpoint' tokens
    (setStruct EndpointConfig.layout ledger accounts.endpointConfig endpoint') where
  distinct := stage.distinct
  poolOwned := stage.poolOwned
  endpointOwned := stage.endpointOwned
  pool := (structAt_congr (setStruct_of_ne stage.distinct)).trans stage.pool
  endpoint := structAt_setStruct_self
  tokens := (tokenAt_setStruct endpoint' stage.endpointForeign).trans stage.tokens
  owner address := setStruct_owner.trans (stage.owner address)
  length address := (setStruct_length stage.endpoint).trans (stage.length address)
  frame address notPool notEndpoint foreign :=
    (setStruct_of_ne notEndpoint).trans (stage.frame address notPool notEndpoint foreign)

/-! ## The steps -/

section Steps

variable {addresses : Addresses} {context : Context} {event : SettlementEvent}

theorem transferPdaSigned {source destination authority : Address} {amount : UInt64} {pda : Pda}
    {bump : UInt8} (moved : transferPdaSigned addresses context ledger source destination
      authority amount pda bump = .ok result) :
    ∃ tokens', TokenLedger.Pays tokens ⟨source, destination, authority, amount⟩ tokens' ∧
      Stage base accounts pool endpoint tokens' result := by
  simp only [SettleBatch.transferPdaSigned, bind_eq_ok, failIf_eq_ok, exists_const] at moved
  obtain ⟨paid, kept⟩ := transfer_spec moved.2
  rw [stage.tokens] at paid
  exact ⟨tokenAt result, paid, stage.outside kept⟩

theorem updatePool {change : CoveragePool → Except ProgramError CoveragePool}
    (updated : updatePool context ledger accounts change = .ok result) :
    ∃ pool', change pool = .ok pool' ∧ Stage base accounts pool' endpoint tokens result := by
  simp only [SettleBatch.updatePool, borrow, stage.pool, okOr_some, ok_bind, bind_eq_ok] at updated
  obtain ⟨pool', changed, saved⟩ := updated
  obtain ⟨rfl, -⟩ := save_eq_ok stage.pool saved
  exact ⟨pool', changed, stage.setPool pool'⟩

theorem payFees {recipients : List FeeRecipient} {total resultTotal : UInt64}
    {paid resultPaid : List (Address × UInt64)}
    (finished : payFees addresses context event accounts recipients ledger total paid =
      .ok (result, resultTotal, resultPaid)) :
    ∃ tokens', TokenLedger.PaysAll tokens
        ((feeShares event.premiumLamports recipients).map fun payout =>
          ⟨accounts.poolVault, payout.1, accounts.coveragePool, payout.2⟩) tokens' ∧
      Stage base accounts pool endpoint tokens' result := by
  induction recipients generalizing ledger tokens total paid with
  | nil =>
      cases finished
      exact ⟨tokens, rfl, stage⟩
  | cons recipient rest ih =>
      unfold SettleBatch.payFees at finished
      by_cases empty : feeAmount event.premiumLamports recipient.bps = 0
      · rw [if_pos empty] at finished
        rw [feeShares_of_zero empty]
        exact ih stage finished
      · rw [if_neg empty] at finished
        simp only [bind_eq_ok] at finished
        obtain ⟨middle, paidOne, sum, -, rest'⟩ := finished
        obtain ⟨next, payment, stage'⟩ := stage.transferPdaSigned paidOne
        obtain ⟨tokens', payments, last⟩ := ih stage' rest'
        rw [feeShares_of_ne empty]
        exact ⟨tokens', ⟨next, payment, payments⟩, last⟩

theorem debitFees {total : UInt64}
    (debited : debitFees context ledger accounts total = .ok result) :
    total.toNat ≤ pool.ledger.balance ∧ ∃ pool', pool'.SameTerms pool ∧
      pool'.ledger = { pool.ledger with balance := pool.ledger.balance - total.toNat } ∧
      Stage base accounts pool' endpoint tokens result := by
  unfold SettleBatch.debitFees at debited
  split at debited
  case isTrue positive =>
    obtain ⟨pool', changed, stage'⟩ := stage.updatePool debited
    obtain ⟨covered, terms, ledger'⟩ := debitPool_spec changed
    exact ⟨covered, pool', terms, ledger', stage'⟩
  case isFalse none_ =>
    rw [gt_iff_lt, uint64_pos_iff] at none_
    cases debited
    have zero : total.toNat = 0 := by omega
    exact ⟨by omega, pool, rfl, by rw [zero, Nat.sub_zero], stage⟩

theorem payRefund {refund actual : UInt64} {status resultStatus : SettlementStatus}
    (finished : payRefund addresses context ledger event accounts refund status =
      .ok (result, actual, resultStatus)) :
    (pool.ledger.balance < refund.toNat ∧ actual = 0 ∧ resultStatus = .poolDepleted ∧
        result = ledger) ∨
      (refund.toNat ≤ pool.ledger.balance ∧ actual = refund ∧ resultStatus = status ∧
        ∃ pool' endpoint' tokens', Stage base accounts pool' endpoint' tokens' result ∧
          pool'.SameTerms pool ∧ pool'.ledger = pool.ledger.pay refund.toNat ∧
          endpoint'.SameTerms endpoint ∧
          endpoint'.counters = endpoint.counters.pay refund.toNat ∧
          ((refund = 0 ∧ tokens' = tokens) ∨ TokenLedger.Pays tokens
            ⟨accounts.poolVault, accounts.agentAta, accounts.coveragePool, refund⟩ tokens')) := by
  unfold SettleBatch.payRefund at finished
  split at finished
  case isTrue positive =>
    simp only [borrow, stage.pool, okOr_some, ok_bind] at finished
    split at finished
    case isTrue short =>
      cases finished
      exact .inl ⟨UInt64.lt_iff_toNat_lt.mp short, rfl, rfl, rfl⟩
    case isFalse enough =>
      simp only [bind_eq_ok, okOr_eq_ok, Except.ok.injEq, Prod.mk.injEq] at finished
      obtain ⟨paid, payout, debited, debit, stored, found, stored', counted, final, saved,
        rfl, rfl, rfl⟩ := finished
      obtain ⟨tokens', payment, stage'⟩ := stage.transferPdaSigned payout
      obtain ⟨pool', changed, stage''⟩ := stage'.updatePool debit
      obtain ⟨covered, terms, ledger'⟩ := debitRefund_spec changed
      cases found.symm.trans stage''.endpoint
      obtain ⟨endpointTerms, counters⟩ := recordRefund_spec counted
      obtain ⟨rfl, -⟩ := save_eq_ok stage''.endpoint saved
      exact .inr ⟨covered, rfl, rfl, pool', stored', tokens', stage''.setEndpoint stored', terms,
        ledger', endpointTerms, counters, .inr payment⟩
  case isFalse none_ =>
    rw [gt_iff_lt, uint64_pos_iff] at none_
    cases finished
    have zero : refund = 0 := UInt64.toNat_inj.mp (by rw [UInt64.toNat_zero]; omega)
    subst zero
    exact .inr ⟨Nat.zero_le _, rfl, rfl, pool, endpoint, tokens, stage, rfl, by
      simp [Settlement.Pool.pay], rfl, rfl, .inl ⟨rfl, rfl⟩⟩

end Steps

end Stage

/-! ## The covered path -/

structure Settled (now : Int64) (fixed : FixedAccounts) (event : SettlementEvent)
    (accounts : EventAccounts) (recipients : List FeeRecipient) (pool pool' : CoveragePool)
    (endpoint endpoint' : EndpointConfig) (tokens tokens' : TokenLedger)
    (status : SettlementStatus) (actual : UInt64) (fees : List (Address × UInt64))
    (outcome : Settlement.Outcome) : Prop where
  outcome_eq : outcome =
    Settlement.settle pool.ledger endpoint.counters now.toInt (event.call fees)
  shares : fees = feeShares event.premiumLamports recipients
  covered : (amounts fees).sum ≤ pool.ledger.balance + event.premiumLamports.toNat
  status : status.core = outcome.status
  refund : actual.toNat = outcome.refund
  poolTerms : pool'.SameTerms pool
  poolLedger : pool'.ledger = outcome.pool
  endpointTerms : endpoint'.SameTerms endpoint
  counters : endpoint'.counters = outcome.endpoint
  tokens : ∃ credited spread,
    TokenLedger.Pays tokens
      ⟨accounts.agentAta, accounts.poolVault, fixed.settlementAuth, event.premiumLamports⟩
      credited ∧
    TokenLedger.PaysAll credited (fees.map fun payout =>
      ⟨accounts.poolVault, payout.1, accounts.coveragePool, payout.2⟩) spread ∧
    ((actual = 0 ∧ tokens' = spread) ∨ TokenLedger.Pays spread
      ⟨accounts.poolVault, accounts.agentAta, accounts.coveragePool, actual⟩ tokens')

section Covered

variable {addresses : Addresses} {context : Context} {base after : Ledger}
  {fixed : FixedAccounts} {bump : UInt8} {event : SettlementEvent} {accounts : EventAccounts}
  {snapshot stored : EndpointConfig} {pool : CoveragePool} {receipt : Receipt}

theorem creditPremium_ne {pool result : CoveragePool} {premium : UInt64}
    (positive : 0 < premium.toNat) (credited : creditPremium pool premium = .ok result) :
    result ≠ pool := by
  rintro rfl
  obtain ⟨-, ledger⟩ := creditPremium_spec credited
  have premiums := congrArg Settlement.Pool.premiums ledger
  simp only at premiums
  omega

theorem owned_of_settleCovered (positive : 0 < event.premiumLamports.toNat)
    (finished : settleCovered addresses context base fixed bump event accounts snapshot =
      .ok (after, receipt)) :
    (base accounts.coveragePool).owner = programId ∧
      (base accounts.endpointConfig).owner = programId := by
  simp only [settleCovered, transferPdaSigned, updatePool, borrow, bind_eq_ok, failIf_eq_ok,
    exists_const, okOr_eq_ok, Prod.exists] at finished
  obtain ⟨credited, ⟨-, moved⟩, first, ⟨pool', poolFound', pool'', credit, savePool⟩,
    endpoint', endpointFound', endpoint'', refund, count, second, saveEndpoint, -⟩ := finished
  obtain ⟨paid, kept⟩ := transfer_spec moved
  have poolOwned := (save_eq_ok poolFound' savePool).2 (creditPremium_ne positive credit)
  obtain ⟨rfl, -⟩ := save_eq_ok poolFound' savePool
  have endpointOwned := (save_eq_ok endpointFound' saveEndpoint).2 (recordCall_ne count)
  rw [setStruct_owner, kept.owner] at endpointOwned
  rw [kept.owner] at poolOwned
  exact ⟨poolOwned, endpointOwned⟩

theorem settleCovered_spec (positive : 0 < event.premiumLamports.toNat)
    (distinct : accounts.coveragePool ≠ accounts.endpointConfig)
    (poolFound : structAt CoveragePool.layout base accounts.coveragePool = some pool)
    (endpointFound : structAt EndpointConfig.layout base accounts.endpointConfig = some stored)
    (finished : settleCovered addresses context base fixed bump event accounts snapshot =
      .ok (after, receipt)) :
    ∃ last pool' endpoint' tokens' status actual fees outcome,
      Stage base accounts pool' endpoint' tokens' last ∧
      Settled context.now fixed event accounts snapshot.recipients pool pool' stored endpoint'
        (tokenAt base) tokens' status actual fees outcome ∧
      writeRecord addresses context last event accounts status actual fees =
        .ok (after, receipt) := by
  obtain ⟨poolOwned, endpointOwned⟩ :=
    owned_of_settleCovered positive finished
  have stage := Stage.start distinct poolOwned endpointOwned poolFound endpointFound
  simp only [settleCovered, bind_eq_ok, Prod.exists] at finished
  obtain ⟨first, premiumIn, second, credit, endpoint', found, counted, refund, count, third, saved,
    fourth, total, fees, fanOut, fifth, debit, last, actual, status, payRefund, write⟩ := finished
  obtain ⟨tokens', premiumPaid, stage'⟩ := stage.transferPdaSigned premiumIn
  obtain ⟨creditPool, changed, stage''⟩ := stage'.updatePool credit
  obtain ⟨creditTerms, creditLedger⟩ := creditPremium_spec changed
  rw [borrow, stage''.endpoint, okOr_some, Except.ok.injEq] at found
  subst found
  obtain ⟨clamped, countTerms, counters⟩ :=
    recordCall_spec (feeShares event.premiumLamports snapshot.recipients) count
  obtain ⟨rfl, -⟩ := save_eq_ok stage''.endpoint saved
  obtain ⟨rfl, sum⟩ := payFees_total fanOut
  obtain ⟨spread, feesPaid, stage3⟩ := (stage''.setEndpoint counted).payFees fanOut
  obtain ⟨covered, debitPool, debitTerms, debitLedger, stage4⟩ := stage3.debitFees debit
  simp only [UInt64.toNat_zero, Nat.zero_add, List.nil_append] at *
  have collected : debitPool.ledger = pool.ledger.collect
      (event.call (feeShares event.premiumLamports snapshot.recipients)) := by
    rw [debitLedger, creditLedger, sum]
    rfl
  have within : (amounts (feeShares event.premiumLamports snapshot.recipients)).sum ≤
      pool.ledger.balance + event.premiumLamports.toNat := by
    rw [← sum]
    exact covered.trans (Nat.le_of_eq (congrArg Settlement.Pool.balance creditLedger))
  rcases stage4.payRefund payRefund with ⟨short, rfl, rfl, rfl⟩ |
    ⟨enough, rfl, rfl, pool', endpoint', tokens', stage5, poolTerms, poolLedger, endpointTerms,
      endpointCounters, refunded⟩
  · rw [collected, clamped] at short
    exact ⟨_, debitPool, counted, spread, .poolDepleted, 0, _, _, stage4, {
      outcome_eq := (Settlement.settle_of_short short).symm
      shares := rfl
      covered := within
      status := rfl
      refund := rfl
      poolTerms := debitTerms.trans creditTerms
      poolLedger := collected
      endpointTerms := countTerms
      counters := by rw [counters, clamped]; rfl
      tokens := ⟨_, _, premiumPaid, feesPaid, .inl ⟨rfl, rfl⟩⟩ }, write⟩
  · rw [collected] at enough poolLedger
    exact ⟨_, pool', endpoint', tokens', _, actual, _, _, stage5, {
      outcome_eq := (Settlement.settle_of_covered clamped enough).symm
      shares := rfl
      covered := within
      status := by
        simp only [UInt64.lt_iff_toNat_lt]
        split
        case isTrue clamp => exact (if_pos clamp).symm
        case isFalse whole => exact (if_neg whole).symm
      refund := rfl
      poolTerms := poolTerms.trans (debitTerms.trans creditTerms)
      poolLedger := poolLedger
      endpointTerms := endpointTerms.trans countTerms
      counters := by rw [endpointCounters, counters]
      tokens := ⟨_, _, premiumPaid, feesPaid, refunded⟩ }, write⟩

end Covered

/-! ## The whole event -/

structure Bound (addresses : Addresses) (ledger : Ledger) (event : SettlementEvent)
    (accounts : EventAccounts) (pool : CoveragePool) (endpoint : EndpointConfig) : Prop where
  callRecord : accounts.callRecord = addresses.of (.callRecord event.callId)
  coveragePool : accounts.coveragePool = addresses.of (.coveragePool event.endpointSlug)
  endpointConfig : accounts.endpointConfig = addresses.of (.endpointConfig event.endpointSlug)
  fresh : (ledger accounts.callRecord).data = []
  endpointFound : structAt EndpointConfig.layout ledger accounts.endpointConfig = some endpoint
  unpaused : endpoint.paused = 0
  count : endpoint.feeRecipientCount = event.feeCountHint
  poolBound : endpoint.coveragePool = accounts.coveragePool
  poolFound : structAt CoveragePool.layout ledger accounts.coveragePool = some pool
  vault : pool.usdcVault = accounts.poolVault
  feeAtas : accounts.feeAtas = endpoint.recipients.map FeeRecipient.destination

theorem checkAccounts_eq_ok {addresses : Addresses} {ledger : Ledger} {event : SettlementEvent}
    {accounts : EventAccounts} {endpoint : EndpointConfig} :
    checkAccounts addresses ledger event accounts = .ok endpoint ↔
      ∃ pool, Bound addresses ledger event accounts pool endpoint := by
  simp only [checkAccounts, bind_eq_ok, failIf_eq_ok, exists_const, okOr_eq_ok, ne_eq, not_not,
    Except.ok.injEq]
  constructor
  · rintro ⟨record, pool, endpointConfig, fresh, found, endpointFound, unpaused, count, poolBound,
      poolStruct, poolFound, vault, feeAtas, rfl⟩
    exact ⟨poolStruct, record, pool, endpointConfig, fresh, endpointFound, unpaused, count,
      poolBound, poolFound, vault, feeAtas⟩
  · rintro ⟨poolStruct, bound⟩
    exact ⟨bound.callRecord, bound.coveragePool, bound.endpointConfig, bound.fresh, endpoint,
      bound.endpointFound, bound.unpaused, bound.count, bound.poolBound, poolStruct,
      bound.poolFound, bound.vault, bound.feeAtas, rfl⟩

section Bound

variable {addresses : Addresses} {ledger : Ledger} {event : SettlementEvent}
  {accounts : EventAccounts} {pool : CoveragePool} {endpoint : EndpointConfig}
  (bound : Bound addresses ledger event accounts pool endpoint)
include bound

theorem Bound.pool_ne_endpoint : accounts.coveragePool ≠ accounts.endpointConfig := by
  rw [bound.coveragePool, bound.endpointConfig]
  simp

theorem Bound.pool_ne_record : accounts.coveragePool ≠ accounts.callRecord := by
  rw [bound.coveragePool, bound.callRecord]
  simp

theorem Bound.endpoint_ne_record : accounts.endpointConfig ≠ accounts.callRecord := by
  rw [bound.endpointConfig, bound.callRecord]
  simp

end Bound

/-- What every accepted event did, whichever way it ended. -/
structure Effect (addresses : Addresses) (context : Context) (fixed : FixedAccounts)
    (event : SettlementEvent) (accounts : EventAccounts) (pool pool' : CoveragePool)
    (endpoint endpoint' : EndpointConfig) (before after : Ledger) (status : SettlementStatus)
    (actual : UInt64) (receipt : Receipt) : Prop where
  bound : Bound addresses before event accounts pool endpoint
  fresh : before accounts.callRecord = Account.absent
  payer : (before fixed.settlerSigner).owner = systemProgram ∧
    (before fixed.settlerSigner).data = []
  written : receipt.record =
    event.record (addresses.bump (.callRecord event.callId)) status actual
  record : after accounts.callRecord =
    ⟨context.minimumBalance CallRecord.layout.size, programId,
      CallRecord.layout.encode receipt.record⟩
  poolAfter : structAt CoveragePool.layout after accounts.coveragePool = some pool'
  endpointAfter : structAt EndpointConfig.layout after accounts.endpointConfig = some endpoint'
  owner : ∀ address, address ≠ accounts.callRecord →
    (after address).owner = (before address).owner
  length : ∀ address, address ≠ accounts.callRecord →
    (after address).data.length = (before address).data.length
  frame : ∀ address, address ≠ accounts.callRecord → address ≠ fixed.settlerSigner →
    address ≠ accounts.coveragePool → address ≠ accounts.endpointConfig →
    (before address).owner ≠ tokenProgram → after address = before address
  outcome :
    (delegateOk (before accounts.agentAta).data fixed.settlementAuth event.premiumLamports = false ∧
      status = .delegateFailed ∧ actual = 0 ∧ receipt.fees = [] ∧ pool' = pool ∧
      endpoint' = endpoint ∧ tokenAt after = tokenAt before ∧
      ∀ address, address ≠ accounts.callRecord → address ≠ fixed.settlerSigner →
        after address = before address) ∨
    (delegateOk (before accounts.agentAta).data fixed.settlementAuth event.premiumLamports = true ∧
      (before accounts.coveragePool).owner = programId ∧
      (before accounts.endpointConfig).owner = programId ∧
      ∃ outcome, Settled context.now fixed event accounts endpoint.recipients pool pool' endpoint
        endpoint' (tokenAt before) (tokenAt after) status actual receipt.fees outcome)

/-- The ledger an event starts from once its record exists. -/
structure Created (context : Context) (fixed : FixedAccounts) (accounts : EventAccounts)
    (before created : Ledger) : Prop where
  fresh : before accounts.callRecord = Account.absent
  payer : (before fixed.settlerSigner).owner = systemProgram ∧
    (before fixed.settlerSigner).data = []
  record : created accounts.callRecord =
    ⟨context.minimumBalance CallRecord.layout.size, programId,
      List.replicate CallRecord.layout.size 0⟩
  content : ∀ address, address ≠ accounts.callRecord →
    (created address).owner = (before address).owner ∧
      (created address).data = (before address).data
  frame : ∀ address, address ≠ accounts.callRecord → address ≠ fixed.settlerSigner →
    created address = before address

section Created

variable {context : Context} {fixed : FixedAccounts} {accounts : EventAccounts}
  {before created : Ledger}

theorem created_of_createAccount (made : createAccount context before fixed.settlerSigner
    accounts.callRecord (context.minimumBalance CallRecord.layout.size) CallRecord.layout.size
    programId = .ok created) : Created context fixed accounts before created := by
  obtain ⟨-, fresh, ⟨owner, empty, -⟩, rfl⟩ := createAccount_eq_ok.mp made
  refine ⟨fresh, ⟨owner, empty⟩, Function.update_self _ _ _, ?_, ?_⟩
  · intro address notRecord
    rw [Function.update_of_ne notRecord]
    by_cases payer : address = fixed.settlerSigner
    · subst payer
      rw [Function.update_self]
      exact ⟨rfl, rfl⟩
    · rw [Function.update_of_ne payer]
      exact ⟨rfl, rfl⟩
  · intro address notRecord notPayer
    rw [Function.update_of_ne notRecord, Function.update_of_ne notPayer]

variable (made : Created context fixed accounts before created)
include made

theorem Created.tokenAt_eq : tokenAt created = tokenAt before := by
  funext address
  by_cases record : address = accounts.callRecord
  · subst record
    have new : (created accounts.callRecord).owner ≠ tokenProgram := by
      rw [made.record]
      exact programId_ne_tokenProgram
    have old : (before accounts.callRecord).owner ≠ tokenProgram := by
      rw [made.fresh]
      exact systemProgram_ne_tokenProgram
    rw [tokenAt_eq_none_of_owner new, tokenAt_eq_none_of_owner old]
  · obtain ⟨owner, data⟩ := made.content address record
    simp only [tokenAt, owner, data]

theorem Created.structAt_eq {α : Type} {layout : Layout α} {address : Address}
    (notRecord : address ≠ accounts.callRecord) :
    structAt layout created address = structAt layout before address := by
  rw [structAt, structAt, (made.content address notRecord).2]

theorem Created.delegateOk_eq (settlementAuth : Address) (premium : UInt64) :
    delegateOk (created accounts.agentAta).data settlementAuth premium =
      delegateOk (before accounts.agentAta).data settlementAuth premium := by
  by_cases record : accounts.agentAta = accounts.callRecord
  · have zeros : TokenAccount.layout.read (List.replicate CallRecord.layout.size 0) = none := by
      unfold Layout.read
      exact if_pos (by
        rw [List.length_replicate, CallRecord.layout_size, TokenAccount.layout_size]; omega)
    rw [record, made.record, made.fresh, delegateOk, delegateOk, zeros]
    rfl
  · rw [(made.content _ record).2]

end Created

section WriteRecord

variable {addresses : Addresses} {context : Context} {fixed : FixedAccounts}
  {event : SettlementEvent} {accounts : EventAccounts} {before created last after : Ledger}
  {status : SettlementStatus} {actual : UInt64} {fees : List (Address × UInt64)}
  {receipt : Receipt}

theorem writeRecord_spec (made : Created context fixed accounts before created)
    (kept : last accounts.callRecord = created accounts.callRecord)
    (written : writeRecord addresses context last event accounts status actual fees =
      .ok (after, receipt)) :
    receipt = ⟨event.record (addresses.bump (.callRecord event.callId)) status actual, fees⟩ ∧
      after accounts.callRecord = ⟨context.minimumBalance CallRecord.layout.size, programId,
        CallRecord.layout.encode receipt.record⟩ ∧
      (∀ address, address ≠ accounts.callRecord → after address = last address) ∧
      tokenAt after = tokenAt last := by
  simp only [writeRecord, borrow, bind_eq_ok, okOr_eq_ok, Except.ok.injEq, Prod.mk.injEq]
    at written
  obtain ⟨old, found, final, saved, rfl, rfl⟩ := written
  obtain ⟨rfl, -⟩ := save_eq_ok found saved
  have owner : (last accounts.callRecord).owner ≠ tokenProgram := by
    rw [kept, made.record]
    exact programId_ne_tokenProgram
  refine ⟨rfl, ?_, fun address different => setStruct_of_ne different,
    tokenAt_setStruct _ owner⟩
  rw [setStruct, setData_self, kept, made.record, Layout.write,
    List.drop_eq_nil_of_le (by rw [List.length_replicate]), List.append_nil]

end WriteRecord

theorem settleEvent_spec {addresses : Addresses} {context : Context} {before after : Ledger}
    {fixed : FixedAccounts} {bump : UInt8} {event : SettlementEvent} {accounts : EventAccounts}
    {receipt : Receipt} (positive : 0 < event.premiumLamports.toNat)
    (settled : settleEvent addresses context before fixed bump event accounts =
      .ok (after, receipt)) :
    ∃ pool pool' endpoint endpoint' status actual, Effect addresses context fixed event accounts
      pool pool' endpoint endpoint' before after status actual receipt := by
  simp only [settleEvent, bind_eq_ok] at settled
  obtain ⟨endpoint, checked, created, creation, finished⟩ := settled
  obtain ⟨pool, bound⟩ := checkAccounts_eq_ok.mp checked
  have made := created_of_createAccount creation
  have poolFound : structAt CoveragePool.layout created accounts.coveragePool = some pool :=
    (made.structAt_eq bound.pool_ne_record).trans bound.poolFound
  have endpointFound :
      structAt EndpointConfig.layout created accounts.endpointConfig = some endpoint :=
    (made.structAt_eq bound.endpoint_ne_record).trans bound.endpointFound
  rw [made.delegateOk_eq] at finished
  cases preflight : delegateOk (before accounts.agentAta).data fixed.settlementAuth
    event.premiumLamports with
  | false =>
      rw [preflight, if_neg Bool.false_ne_true] at finished
      obtain ⟨rfl, record, others, tokens⟩ := writeRecord_spec made rfl finished
      have kept : ∀ address, address ≠ accounts.callRecord → address ≠ fixed.settlerSigner →
          after address = before address := fun address notRecord notPayer =>
        (others address notRecord).trans (made.frame address notRecord notPayer)
      exact ⟨pool, pool, endpoint, endpoint, .delegateFailed, 0, {
        bound
        fresh := made.fresh
        payer := made.payer
        written := rfl
        record
        poolAfter := (structAt_congr (others _ bound.pool_ne_record)).trans poolFound
        endpointAfter := (structAt_congr (others _ bound.endpoint_ne_record)).trans endpointFound
        owner := fun address notRecord => by
          rw [others address notRecord, (made.content address notRecord).1]
        length := fun address notRecord => by
          rw [others address notRecord, (made.content address notRecord).2]
        frame := fun address notRecord notPayer _ _ _ => kept address notRecord notPayer
        outcome := .inl ⟨preflight, rfl, rfl, rfl, rfl, rfl,
          tokens.trans made.tokenAt_eq, kept⟩ }⟩
  | true =>
      rw [preflight, if_pos rfl] at finished
      obtain ⟨poolOwned, endpointOwned⟩ := owned_of_settleCovered positive finished
      obtain ⟨last, pool', endpoint', tokens', status, actual, fees, outcome, stage, effect,
        write⟩ := settleCovered_spec positive bound.pool_ne_endpoint poolFound endpointFound
          finished
      have kept : last accounts.callRecord = created accounts.callRecord :=
        stage.frame _ (Ne.symm bound.pool_ne_record) (Ne.symm bound.endpoint_ne_record) (by
          rw [made.record]
          exact programId_ne_tokenProgram)
      obtain ⟨rfl, record, others, tokens⟩ := writeRecord_spec made kept write
      rw [made.tokenAt_eq, ← stage.tokens, ← tokens] at effect
      rw [(made.content _ bound.pool_ne_record).1] at poolOwned
      rw [(made.content _ bound.endpoint_ne_record).1] at endpointOwned
      exact ⟨pool, pool', endpoint, endpoint', status, actual, {
        bound
        fresh := made.fresh
        payer := made.payer
        written := rfl
        record
        poolAfter := (structAt_congr (others _ bound.pool_ne_record)).trans stage.pool
        endpointAfter := (structAt_congr (others _ bound.endpoint_ne_record)).trans stage.endpoint
        owner := fun address notRecord => by
          rw [others address notRecord, stage.owner, (made.content address notRecord).1]
        length := fun address notRecord => by
          rw [others address notRecord, stage.length, (made.content address notRecord).2]
        frame := fun address notRecord notPayer notPool notEndpoint foreign => by
          rw [others address notRecord, stage.frame address notPool notEndpoint
            (by rwa [(made.content address notRecord).1]),
            made.frame address notRecord notPayer]
        outcome := .inr ⟨preflight, poolOwned, endpointOwned, outcome, effect⟩ }⟩

end SettleBatch

end PactNetwork.V1
