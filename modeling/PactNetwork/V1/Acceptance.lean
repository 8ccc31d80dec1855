import PactNetwork.Solana.Holdings
import PactNetwork.V1.Batching

/-!
# When an event is accepted

What the covered path of an event asks of its accounts, and that nothing stops the event
once the agent's account holds the premium and the sums have room.
-/

set_option autoImplicit false

namespace PactNetwork.V1

open Solana Solana.TokenLedger

namespace SettleBatch

variable {addresses : Addresses} {context : Context} {fixed : FixedAccounts}
  {event : SettlementEvent} {accounts : EventAccounts} {mint : Address}

/-! ## Structs -/

section Save

variable {α : Type} {layout : Layout α} {ledger result : Ledger} {address program : Address}
  {value old : α}

theorem writable_of_save (found : structAt layout ledger address = some old)
    (changed : value ≠ old)
    (saved : save layout program context ledger address value = .ok result) :
    context.writable address = true := by
  cases flag : context.writable address with
  | true => rfl
  | false =>
      rw [save, store] at saved
      split at saved
      case isTrue same =>
          have written := layout.read_write value (ledger address).data
          rw [same] at written
          exact absurd (Option.some.inj (written.symm.trans found)) changed
      case isFalse => cases saved

end Save

/-! ## Transfers out of the vault -/

def Vault (tokens : TokenLedger) (mint pool vault : Address) (amount : Nat) : Prop :=
  ∃ token, tokens vault = some token ∧ token.Exclusive pool ∧ token.state ≠ 2 ∧
    token.mint = mint ∧ amount ≤ token.amount.toNat

section Pay

variable {ledger : Ledger} {destination : Address} {amount : UInt64}

theorem payFromVault_isOk
    (pool : accounts.coveragePool = addresses.of (.coveragePool event.endpointSlug))
    (vaultWritable : context.writable accounts.poolVault = true)
    (writable : context.writable destination = true)
    (vault : Vault (tokenAt ledger) mint accounts.coveragePool accounts.poolVault amount.toNat)
    (live : Live (tokenAt ledger) mint destination)
    (room : destination ≠ accounts.poolVault →
      TokenLedger.balance (tokenAt ledger) destination + amount.toNat < 2 ^ 64) :
    ∃ result, payFromVault addresses context ledger event accounts destination amount =
      .ok result := by
  obtain ⟨token, found, exclusive, thawed, same, funds⟩ := vault
  obtain ⟨into, intoFound, intoThawed, intoMint⟩ := live
  have signs : ¬(addresses.signed (.coveragePool event.endpointSlug)
      (addresses.bump (.coveragePool event.endpointSlug)) ≠ some accounts.coveragePool ∧
        context.signer accounts.coveragePool = false) := by
    rw [ProgramAddresses.signed_bump, pool]
    exact fun guard => guard.1 rfl
  have spends := TokenAccount.spend_of_exclusive exclusive amount
  have moves : ∃ result, transfer context ledger accounts.poolVault destination
      accounts.coveragePool amount = .ok result := by
    by_cases self : destination = accounts.poolVault
    · subst self
      cases found.symm.trans intoFound
      exact ⟨ledger, transfer_eq_ok.mpr ⟨⟨vaultWritable, writable⟩, token, token, token, found,
        found, ⟨thawed, thawed⟩, funds, rfl, spends, .inl ⟨rfl, rfl⟩⟩⟩
    · have fits := room self
      simp only [TokenLedger.balance, intoFound] at fits
      exact transfer_isOk vaultWritable writable found intoFound thawed intoThawed funds
        (same.trans intoMint.symm) spends fits
  obtain ⟨result, moved⟩ := moves
  exact ⟨result, by rw [payFromVault, transferPdaSigned, failIf_of_not signs, ok_bind, moved]⟩

theorem Vault.pays {tokens tokens' : TokenLedger} {pool vault : Address} {rest : Nat}
    (holds : Vault tokens mint pool vault (amount.toNat + rest))
    (paid : TokenLedger.Pays tokens ⟨vault, destination, pool, amount⟩ tokens') :
    Vault tokens' mint pool vault rest := by
  obtain ⟨token, found, exclusive, thawed, same, funds⟩ := holds
  obtain ⟨token', stays, moved⟩ := paid.moved vault found
  have balance := moved.balance
  refine ⟨token', stays, moved.exclusive exclusive, ?_, ?_, ?_⟩
  · rw [moved.holder]
    exact thawed
  · rw [moved.holder]
    exact same
  · simp only [if_pos] at balance
    split at balance <;> omega

theorem Vault.of_le {tokens : TokenLedger} {pool vault : Address} {more less : Nat}
    (holds : Vault tokens mint pool vault more) (fewer : less ≤ more) :
    Vault tokens mint pool vault less := by
  obtain ⟨token, found, exclusive, thawed, same, funds⟩ := holds
  exact ⟨token, found, exclusive, thawed, same, fewer.trans funds⟩

end Pay

def Payable (context : Context) (tokens : TokenLedger) (mint : Address)
    (shares : List (Address × UInt64)) : Prop :=
  ∀ share ∈ shares, context.writable share.1 = true ∧ Live tokens mint share.1

theorem payFees_isOk (recipients : List FeeRecipient) {ledger : Ledger} (total : UInt64)
    (paid : List (Address × UInt64))
    (pool : accounts.coveragePool = addresses.of (.coveragePool event.endpointSlug))
    (vaultWritable : context.writable accounts.poolVault = true)
    (vault : Vault (tokenAt ledger) mint accounts.coveragePool accounts.poolVault
      (amounts (feeShares event.premiumLamports recipients)).sum)
    (payable : Payable context (tokenAt ledger) mint (feeShares event.premiumLamports recipients))
    (room : ∀ share ∈ feeShares event.premiumLamports recipients,
      share.1 ≠ accounts.poolVault → TokenLedger.balance (tokenAt ledger) share.1 +
        (amounts (feeShares event.premiumLamports recipients)).sum < 2 ^ 64)
    (fits : total.toNat + (amounts (feeShares event.premiumLamports recipients)).sum < 2 ^ 64) :
    ∃ result, payFees addresses context event accounts recipients ledger total paid =
      .ok result := by
  induction recipients generalizing ledger total paid with
  | nil => exact ⟨_, rfl⟩
  | cons recipient rest ih =>
      rw [payFees]
      by_cases empty : feeAmount event.premiumLamports recipient.bps = 0
      · rw [feeShares_of_zero empty] at vault payable room fits
        simp only [empty, if_true]
        exact ih total paid vault payable room fits
      · rw [feeShares_of_ne empty] at vault payable room fits
        simp only [amounts, List.map_cons, List.sum_cons] at vault room fits
        obtain ⟨writable, live⟩ := payable _ List.mem_cons_self
        have first := room _ List.mem_cons_self
        obtain ⟨next, moved⟩ := payFromVault_isOk pool vaultWritable writable
          (vault.of_le (Nat.le_add_right _ _)) live fun other => by
            have bound := first other
            dsimp only at bound ⊢
            omega
        obtain ⟨sum, added⟩ := checkedAdd_isSome total
          (feeAmount event.premiumLamports recipient.bps) (by omega)
        have number := checkedAdd_eq_some.mp added
        simp only [payFromVault, transferPdaSigned, bind_eq_ok, failIf_eq_ok, exists_const] at moved
        obtain ⟨payment, -⟩ := transfer_spec moved.2
        have more : ∃ result, payFees addresses context event accounts rest next sum
            (paid ++ [(recipient.destination, feeAmount event.premiumLamports recipient.bps)]) =
              .ok result := by
          refine ih _ _ (vault.pays payment) (fun share member => ?_)
            (fun share member other => ?_) ?_
          · obtain ⟨writable', live'⟩ := payable share (List.mem_cons_of_mem _ member)
            exact ⟨writable', live'.pays payment⟩
          · have bound := room share (List.mem_cons_of_mem _ member) other
            have balance := balance_pays payment share.1
            simp only [if_neg other] at balance
            simp only [amounts]
            split at balance <;> omega
          · simp only [amounts]
            omega
        obtain ⟨result, finished⟩ := more
        refine ⟨result, ?_⟩
        simp only [if_neg empty, payFromVault, transferPdaSigned, failIf_of_not moved.1, ok_bind,
          moved.2, added, okOr_some]
        exact finished

theorem payable_of_payFees {recipients : List FeeRecipient} {ledger result : Ledger}
    {total resultTotal : UInt64} {paid resultPaid : List (Address × UInt64)}
    (vault : Live (tokenAt ledger) mint accounts.poolVault)
    (finished : payFees addresses context event accounts recipients ledger total paid =
      .ok (result, resultTotal, resultPaid)) :
    Payable context (tokenAt ledger) mint (feeShares event.premiumLamports recipients) := by
  induction recipients generalizing ledger total paid with
  | nil => exact fun share member => absurd member List.not_mem_nil
  | cons recipient rest ih =>
      rw [payFees] at finished
      by_cases empty : feeAmount event.premiumLamports recipient.bps = 0
      · rw [if_pos empty] at finished
        rw [feeShares_of_zero empty]
        exact ih vault finished
      · simp only [if_neg empty, payFromVault, transferPdaSigned, bind_eq_ok, failIf_eq_ok,
          exists_const] at finished
        obtain ⟨next, ⟨-, moved⟩, sum, -, rest'⟩ := finished
        obtain ⟨⟨-, writable⟩, from_, into, -, fromFound, intoFound, ⟨-, thawed⟩, -, same, -⟩ :=
          transfer_eq_ok.mp moved
        obtain ⟨payment, -⟩ := transfer_spec moved
        obtain ⟨token, found, -, minted⟩ := id vault
        cases found.symm.trans fromFound
        rw [feeShares_of_ne empty]
        intro share member
        cases member with
        | head => exact ⟨writable, into, intoFound, thawed, same.symm.trans minted⟩
        | tail _ later =>
            obtain ⟨writable', live⟩ := ih (vault.pays payment) rest' share later
            exact ⟨writable', live.of_pays payment⟩

/-! ## The covered path -/

/-- What the covered path asks of flags and token accounts, whatever the sums are. -/
structure Ready (addresses : Addresses) (context : Context) (fixed : FixedAccounts) (bump : UInt8)
    (accounts : EventAccounts) (shares : List (Address × UInt64)) (mint : Address)
    (tokens : TokenLedger) : Prop where
  signs : ¬(addresses.signed .settlementAuthority bump ≠ some fixed.settlementAuth ∧
    context.signer fixed.settlementAuth = false)
  poolWritable : context.writable accounts.coveragePool = true
  endpointWritable : context.writable accounts.endpointConfig = true
  vaultWritable : context.writable accounts.poolVault = true
  agentWritable : context.writable accounts.agentAta = true
  vault : Live tokens mint accounts.poolVault
  agent : Live tokens mint accounts.agentAta
  shares : Payable context tokens mint shares

section Covered

variable {base after : Ledger} {bump : UInt8} {snapshot stored : EndpointConfig}
  {pool : CoveragePool} {receipt : Receipt}

theorem ready_of_settleCovered (positive : 0 < event.premiumLamports.toNat)
    (distinct : accounts.coveragePool ≠ accounts.endpointConfig)
    (poolFound : structAt CoveragePool.layout base accounts.coveragePool = some pool)
    (endpointFound : structAt EndpointConfig.layout base accounts.endpointConfig = some stored)
    (finished : settleCovered addresses context base fixed bump event accounts snapshot =
      .ok (after, receipt)) :
    ∃ mint, Ready addresses context fixed bump accounts
      (feeShares event.premiumLamports snapshot.recipients) mint (tokenAt base) := by
  obtain ⟨poolOwned, endpointOwned⟩ := owned_of_settleCovered positive finished
  have stage := Stage.start distinct poolOwned endpointOwned poolFound endpointFound
  simp only [settleCovered, bind_eq_ok, Prod.exists] at finished
  obtain ⟨first, premiumIn, second, credit, endpoint', found, counted, refund, count, third, saved,
    fourth, total, fees, fanOut, -⟩ := finished
  obtain ⟨tokens', premiumPaid, stage'⟩ := stage.transferPdaSigned premiumIn
  obtain ⟨pool', changed, stage''⟩ := stage'.updatePool credit
  simp only [transferPdaSigned, bind_eq_ok, failIf_eq_ok, exists_const] at premiumIn
  obtain ⟨signs, moved⟩ := premiumIn
  obtain ⟨⟨agentWritable, vaultWritable⟩, from_, into, -, fromFound, intoFound,
    ⟨fromThawed, intoThawed⟩, -, same, -⟩ := transfer_eq_ok.mp moved
  have vault : Live (tokenAt base) into.mint accounts.poolVault :=
    ⟨into, intoFound, intoThawed, rfl⟩
  simp only [updatePool, borrow, stage'.pool, okOr_some, ok_bind, bind_eq_ok] at credit
  obtain ⟨credited, changed', savedPool⟩ := credit
  rw [borrow, stage''.endpoint, okOr_some, Except.ok.injEq] at found
  subst found
  have endpointWritable := writable_of_save stage''.endpoint (recordCall_ne count) saved
  obtain ⟨rfl, -⟩ := save_eq_ok stage''.endpoint saved
  have tokens3 := (stage''.setEndpoint counted).tokens
  have vault3 := vault.pays premiumPaid
  rw [← tokens3] at vault3
  have spread := payable_of_payFees vault3 fanOut
  refine ⟨into.mint, signs, writable_of_save stage'.pool (creditPremium_ne positive changed')
    savedPool, endpointWritable, vaultWritable, agentWritable, vault,
    ⟨from_, fromFound, fromThawed, same⟩, fun share member => ?_⟩
  obtain ⟨writable, live⟩ := spread share member
  rw [tokens3] at live
  exact ⟨writable, live.of_pays premiumPaid⟩

/-- The sums of an event: its agent can pay, the pool's vault holds the pool's balance, and
nothing overflows. -/
structure Enough (event : SettlementEvent) (accounts : EventAccounts)
    (shares : List (Address × UInt64)) (pool : CoveragePool) (endpoint : EndpointConfig)
    (tokens : TokenLedger) : Prop where
  funds : event.premiumLamports.toNat ≤ TokenLedger.balance tokens accounts.agentAta
  held : ∃ token, tokens accounts.poolVault = some token ∧
    token.Exclusive accounts.coveragePool ∧ pool.ledger.balance ≤ token.amount.toNat
  whole : (amounts shares).sum ≤ event.premiumLamports.toNat
  room : ∀ address, address = accounts.poolVault ∨ address = accounts.agentAta ∨
    address ∈ shares.map Prod.fst → TokenLedger.balance tokens address +
      (event.premiumLamports.toNat + event.refundLamports.toNat) < 2 ^ 64
  poolPremiums : pool.ledger.premiums + event.premiumLamports.toNat < 2 ^ 64
  poolRefunds : pool.ledger.refunds + event.refundLamports.toNat < 2 ^ 64
  calls : endpoint.counters.calls + 1 < 2 ^ 64
  breaches : endpoint.counters.breaches + 1 < 2 ^ 64
  premiums : endpoint.counters.premiums + event.premiumLamports.toNat < 2 ^ 64
  refunds : endpoint.counters.refunds + event.refundLamports.toNat < 2 ^ 64
  period : endpoint.counters.periodStart + 3600 < 2 ^ 63

theorem delegateOk_of_tokenAt {ledger : Ledger} {address settlementAuth : Address}
    {token : TokenAccount} {premium : UInt64} (found : tokenAt ledger address = some token) :
    delegateOk (ledger address).data settlementAuth premium = true ↔
      token.state = 1 ∧ token.delegateTag = 1 ∧ token.delegate = settlementAuth ∧
        premium.toNat ≤ token.delegatedAmount.toNat := by
  have data := (tokenAt_eq_some.mp found).2.1
  have read : TokenAccount.layout.read (ledger address).data = some token := by
    rw [data]
    exact (TokenAccount.layout.read_of_length (TokenAccount.layout.length_encode _)).trans
      (congrArg some (TokenAccount.layout.decode_encode _))
  simp only [delegateOk, read, Bool.and_eq_true, beq_iff_eq, decide_eq_true_eq, ge_iff_le,
    UInt64.le_iff_toNat_le, and_assoc]

end Covered

/-! ## Many payments -/

section PaysAll

variable {tokens tokens' : TokenLedger} {pool vault address : Address}
  {shares : List (Address × UInt64)}

theorem Vault.paysAll {rest : Nat}
    (holds : Vault tokens mint pool vault ((amounts shares).sum + rest))
    (paid : TokenLedger.PaysAll tokens
      (shares.map fun payout => ⟨vault, payout.1, pool, payout.2⟩) tokens') :
    Vault tokens' mint pool vault rest := by
  induction shares generalizing tokens with
  | nil =>
      cases paid
      exact holds.of_le (Nat.le_add_left _ _)
  | cons share shares ih =>
      obtain ⟨middle, first, more⟩ := paid
      simp only [amounts, List.map_cons, List.sum_cons, Nat.add_assoc] at holds
      exact ih (holds.pays first) more

theorem live_of_paysAll (live : Live tokens mint address)
    (paid : TokenLedger.PaysAll tokens
      (shares.map fun payout => ⟨vault, payout.1, pool, payout.2⟩) tokens') :
    Live tokens' mint address := by
  induction shares generalizing tokens with
  | nil =>
      cases paid
      exact live
  | cons share shares ih =>
      obtain ⟨middle, first, more⟩ := paid
      exact ih (live.pays first) more

theorem balance_paysAll_le (paid : TokenLedger.PaysAll tokens
      (shares.map fun payout => ⟨vault, payout.1, pool, payout.2⟩) tokens') (address : Address) :
    TokenLedger.balance tokens' address ≤ TokenLedger.balance tokens address +
      (if address = vault then 0 else (amounts shares).sum) := by
  induction shares generalizing tokens with
  | nil =>
      cases paid
      exact Nat.le_add_right _ _
  | cons share shares ih =>
      obtain ⟨middle, first, more⟩ := paid
      have balance := balance_pays first address
      have rest := ih more
      simp only [amounts, List.map_cons, List.sum_cons] at rest ⊢
      dsimp only at balance
      by_cases source : address = vault
      · rw [if_pos source] at balance rest ⊢
        split at balance <;> omega
      · rw [if_neg source] at balance rest ⊢
        split at balance <;> omega

end PaysAll

/-! ## Acceptance -/

section Acceptance

variable {base ledger : Ledger} {pool : CoveragePool} {endpoint : EndpointConfig}
  {tokens : TokenLedger} {bump : UInt8} {snapshot : EndpointConfig}

theorem updatePool_isOk (stage : Stage base accounts pool endpoint tokens ledger)
    (change : CoveragePool → Except ProgramError CoveragePool) {pool' : CoveragePool}
    (changed : change pool = .ok pool') (writable : context.writable accounts.coveragePool = true) :
    ∃ result, updatePool context ledger accounts change = .ok result := by
  refine ⟨setStruct CoveragePool.layout ledger accounts.coveragePool pool', ?_⟩
  simp only [updatePool, borrow, stage.pool, okOr_some, ok_bind, changed]
  exact save_isOk writable (by rw [stage.owner, stage.poolOwned])

theorem debitFees_isOk (stage : Stage base accounts pool endpoint tokens ledger)
    (total : UInt64) (covered : total.toNat ≤ pool.ledger.balance)
    (writable : context.writable accounts.coveragePool = true) :
    ∃ result, debitFees context ledger accounts total = .ok result := by
  unfold debitFees
  split
  case isTrue =>
      obtain ⟨pool', changed⟩ := debitPool_isOk covered
      exact updatePool_isOk stage (fun pool => debitPool pool total) changed writable
  case isFalse => exact ⟨ledger, rfl⟩

theorem payRefund_isOk (stage : Stage base accounts pool endpoint tokens ledger)
    (refund : UInt64) (status : SettlementStatus)
    (canonical : accounts.coveragePool = addresses.of (.coveragePool event.endpointSlug))
    {shares : List (Address × UInt64)} {before : TokenLedger}
    (ready : Ready addresses context fixed bump accounts shares mint before)
    (vault : Vault tokens mint accounts.coveragePool accounts.poolVault pool.ledger.balance)
    (agent : Live tokens mint accounts.agentAta)
    (room : TokenLedger.balance tokens accounts.agentAta + refund.toNat < 2 ^ 64)
    (poolRefunds : pool.ledger.refunds + refund.toNat < 2 ^ 64)
    (refunds : endpoint.counters.refunds + refund.toNat < 2 ^ 64) :
    ∃ result, payRefund addresses context ledger event accounts refund status = .ok result := by
  unfold payRefund
  split
  case isTrue =>
      simp only [borrow, stage.pool, okOr_some, ok_bind]
      split
      case isTrue => exact ⟨_, rfl⟩
      case isFalse large =>
          have covered : refund.toNat ≤ pool.ledger.balance := by
            rw [UInt64.lt_iff_toNat_lt] at large
            exact Nat.le_of_not_lt large
          obtain ⟨paid, payout⟩ := payFromVault_isOk canonical ready.vaultWritable
            ready.agentWritable (by rw [stage.tokens]; exact vault.of_le covered)
            (by rw [stage.tokens]; exact agent) (by rw [stage.tokens]; exact fun _ => room)
          obtain ⟨tokens', -, stage'⟩ := stage.transferPdaSigned payout
          obtain ⟨pool', changed⟩ := debitRefund_isOk covered poolRefunds
          obtain ⟨debited, debit⟩ := updatePool_isOk stage' (fun pool => debitRefund pool refund)
            changed ready.poolWritable
          obtain ⟨pool'', -, stage''⟩ := stage'.updatePool debit
          obtain ⟨endpoint', counted⟩ := recordRefund_isOk refunds
          have saved : save EndpointConfig.layout programId context debited
              accounts.endpointConfig endpoint' = .ok _ :=
            save_isOk ready.endpointWritable
              ((stage''.owner accounts.endpointConfig).trans stage.endpointOwned)
          exact ⟨_, by
            simp only [payout, ok_bind, debit, stage''.endpoint, okOr_some, counted, saved]
            rfl⟩
  case isFalse => exact ⟨_, rfl⟩

theorem writeRecord_isOk (addresses : Addresses) (event : SettlementEvent)
    (status : SettlementStatus) (actual : UInt64) (fees : List (Address × UInt64))
    {old : CallRecord} (found : structAt CallRecord.layout ledger accounts.callRecord = some old)
    (owned : (ledger accounts.callRecord).owner = programId)
    (writable : context.writable accounts.callRecord = true) :
    ∃ result, writeRecord addresses context ledger event accounts status actual fees =
      .ok result := by
  have saved : save CallRecord.layout programId context ledger accounts.callRecord
      (event.record (addresses.bump (.callRecord event.callId)) status actual) = .ok _ :=
    save_isOk writable owned
  exact ⟨_, by simp only [writeRecord, borrow, found, okOr_some, ok_bind, saved]; rfl⟩

theorem settleCovered_isOk (stage : Stage base accounts pool endpoint (tokenAt base) base)
    (canonical : accounts.coveragePool = addresses.of (.coveragePool event.endpointSlug))
    (ready : Ready addresses context fixed bump accounts
      (feeShares event.premiumLamports snapshot.recipients) mint (tokenAt base))
    (enough : Enough event accounts (feeShares event.premiumLamports snapshot.recipients) pool
      endpoint (tokenAt base))
    (preflight : delegateOk (base accounts.agentAta).data fixed.settlementAuth
      event.premiumLamports = true)
    {old : CallRecord} (record : structAt CallRecord.layout base accounts.callRecord = some old)
    (recordOwned : (base accounts.callRecord).owner = programId)
    (recordWritable : context.writable accounts.callRecord = true)
    (notPool : accounts.callRecord ≠ accounts.coveragePool)
    (notEndpoint : accounts.callRecord ≠ accounts.endpointConfig) :
    ∃ result, settleCovered addresses context base fixed bump event accounts snapshot =
      .ok result := by
  obtain ⟨agent, agentFound, agentThawed, agentMint⟩ := id ready.agent
  obtain ⟨vault, vaultFound, vaultThawed, vaultMint⟩ := id ready.vault
  obtain ⟨-, tag, delegate, allowed⟩ := (delegateOk_of_tokenAt agentFound).mp preflight
  obtain ⟨token, held, exclusive, covered⟩ := enough.held
  obtain rfl : vault = token := Option.some.inj (vaultFound.symm.trans held)
  have whole := enough.whole
  have different : accounts.poolVault ≠ accounts.agentAta := by
    intro same
    rw [same, agentFound] at held
    cases held
    rw [exclusive.noDelegate] at tag
    cases tag
  have agentRoom := enough.room accounts.agentAta (.inr (.inl rfl))
  have vaultRoom := enough.room accounts.poolVault (.inl rfl)
  -- the premium
  have funds : event.premiumLamports.toNat ≤ agent.amount.toNat := by
    have balance := enough.funds
    simp only [TokenLedger.balance, agentFound] at balance
    exact balance
  have vaultFits : vault.amount.toNat + event.premiumLamports.toNat < 2 ^ 64 := by
    simp only [TokenLedger.balance, held] at vaultRoom
    omega
  obtain ⟨first, moved⟩ := transfer_isOk ready.agentWritable ready.vaultWritable agentFound held
    agentThawed vaultThawed funds (agentMint.trans vaultMint.symm)
    (TokenAccount.spend_eq_ok.mpr (.inl ⟨tag, delegate, allowed, rfl⟩)) vaultFits
  have premiumIn : transferPdaSigned addresses context base accounts.agentAta accounts.poolVault
      fixed.settlementAuth event.premiumLamports .settlementAuthority bump = .ok first := by
    rw [transferPdaSigned, failIf_of_not ready.signs, ok_bind, moved]
  obtain ⟨credited, premiumPaid, stage1⟩ := stage.transferPdaSigned premiumIn
  have vault1 : Vault credited mint accounts.coveragePool accounts.poolVault
      (pool.ledger.balance + event.premiumLamports.toNat) := by
    obtain ⟨token', stays, moved'⟩ := premiumPaid.moved accounts.poolVault held
    have balance := moved'.balance
    simp only [if_neg different, if_true] at balance
    refine ⟨token', stays, moved'.exclusive exclusive, ?_, ?_, by omega⟩
    · rw [moved'.holder]
      exact vaultThawed
    · rw [moved'.holder]
      exact vaultMint
  -- the pool and the endpoint
  have creditFits : pool.ledger.balance + event.premiumLamports.toNat < 2 ^ 64 := by omega
  obtain ⟨pool1, creditOk⟩ := creditPremium_isOk creditFits enough.poolPremiums
  obtain ⟨second, credit⟩ := updatePool_isOk stage1
    (fun pool => creditPremium pool event.premiumLamports) creditOk ready.poolWritable
  obtain ⟨pool2, changed, stage2⟩ := stage1.updatePool credit
  obtain ⟨-, ledger2⟩ := creditPremium_spec changed
  have counts : ∃ counted refund, recordCall endpoint context.now event = .ok (counted, refund) :=
    recordCall_isOk enough.calls enough.premiums enough.breaches enough.period
  obtain ⟨counted, refund, count⟩ := counts
  obtain ⟨clamped, -, counters⟩ := recordCall_spec [] count
  have saved : save EndpointConfig.layout programId context second accounts.endpointConfig
      counted = .ok _ :=
    save_isOk ready.endpointWritable
      ((stage2.owner accounts.endpointConfig).trans stage.endpointOwned)
  have stage3 := stage2.setEndpoint counted
  -- the fees
  obtain ⟨⟨fourth, total, fees⟩, fanOut⟩ := payFees_isOk snapshot.recipients 0 [] canonical
    ready.vaultWritable
    (by rw [stage3.tokens]; exact vault1.of_le (by omega))
    (fun share member => by
      rw [stage3.tokens]
      exact ⟨(ready.shares share member).1, (ready.shares share member).2.pays premiumPaid⟩)
    (fun share member other => by
      have bound := enough.room share.1 (.inr (.inr (List.mem_map_of_mem member)))
      have balance := balance_pays premiumPaid share.1
      rw [stage3.tokens]
      simp only [if_neg other] at balance
      split at balance <;> omega)
    (by
      have small := event.premiumLamports.toNat_lt
      rw [UInt64.toNat_zero]
      omega)
  obtain ⟨-, sum⟩ := payFees_total fanOut
  rw [UInt64.toNat_zero, Nat.zero_add] at sum
  obtain ⟨spread, feesPaid, stage4⟩ := stage3.payFees fanOut
  have balance2 : pool2.ledger.balance = pool.ledger.balance + event.premiumLamports.toNat := by
    rw [ledger2]
  obtain ⟨fifth, debit⟩ := debitFees_isOk stage4 total (by omega) ready.poolWritable
  obtain ⟨-, pool5, -, ledger5, stage5⟩ := stage4.debitFees debit
  -- the refund
  have clamp : refund.toNat ≤ event.refundLamports.toNat := by
    rw [clamped]
    exact Nat.min_le_left _ _
  obtain ⟨⟨last, actual, status⟩, refunded⟩ := payRefund_isOk stage5 refund
    (if refund < event.refundLamports then .exposureCapClamped else .settled) canonical ready
    (by
      rw [ledger5]
      refine Vault.paysAll (vault1.of_le ?_) feesPaid
      simp only
      omega)
    (live_of_paysAll (ready.agent.pays premiumPaid) feesPaid)
    (by
      have taken := balance_pays premiumPaid accounts.agentAta
      have spent := balance_paysAll_le feesPaid accounts.agentAta
      simp only [if_neg (Ne.symm different), if_true] at taken
      rw [if_neg (Ne.symm different)] at spent
      omega)
    (by
      rw [ledger5, ledger2]
      have room := enough.poolRefunds
      simp only
      omega)
    (by
      have room := enough.refunds
      have same : counted.counters.refunds = endpoint.counters.refunds := by
        rw [counters]
        unfold Settlement.Endpoint.roll
        split <;> rfl
      omega)
  -- the record
  have kept : last accounts.callRecord = base accounts.callRecord := by
    have foreign : (base accounts.callRecord).owner ≠ tokenProgram := by
      rw [recordOwned]
      exact programId_ne_tokenProgram
    rcases stage5.payRefund refunded with ⟨-, -, -, rfl⟩ |
      ⟨-, -, -, pool6, endpoint6, tokens6, stage6, -⟩
    · exact stage5.frame _ notPool notEndpoint foreign
    · exact stage6.frame _ notPool notEndpoint foreign
  have found : structAt CallRecord.layout last accounts.callRecord = some old :=
    (structAt_congr kept).trans record
  obtain ⟨result, written⟩ := writeRecord_isOk addresses event status actual fees found
    (by rw [kept, recordOwned]) recordWritable
  refine ⟨result, ?_⟩
  simp only [settleCovered, premiumIn, ok_bind, credit, borrow, stage2.endpoint, okOr_some, count,
    saved, fanOut, debit, refunded, written]

/-- An event whose accounts pass the checks is accepted, whether its pre-flight fails or its
covered path can run. -/
theorem settleEvent_isOk {before created : Ledger}
    (bound : Bound addresses before event accounts pool endpoint)
    (made : createAccount context before fixed.settlerSigner accounts.callRecord
      (context.minimumBalance CallRecord.layout.size) CallRecord.layout.size programId =
        .ok created)
    (covered : delegateOk (before accounts.agentAta).data fixed.settlementAuth
        event.premiumLamports = true →
      ((before accounts.coveragePool).owner = programId ∧
        (before accounts.endpointConfig).owner = programId) ∧
      (∃ mint, Ready addresses context fixed bump accounts
        (feeShares event.premiumLamports endpoint.recipients) mint (tokenAt before)) ∧
      Enough event accounts (feeShares event.premiumLamports endpoint.recipients) pool endpoint
        (tokenAt before)) :
    ∃ result, settleEvent addresses context before fixed bump event accounts = .ok result := by
  have checked : checkAccounts addresses before event accounts = .ok endpoint :=
    checkAccounts_eq_ok.mpr ⟨pool, bound⟩
  obtain ⟨⟨-, -, recordWritable⟩, -⟩ := createAccount_eq_ok.mp made
  have fresh := created_of_createAccount made
  obtain ⟨old, blank⟩ : ∃ old, structAt CallRecord.layout created accounts.callRecord =
      some old := by
    rw [structAt, fresh.record]
    exact ⟨_, CallRecord.layout.read_of_length List.length_replicate⟩
  have recordOwned : (created accounts.callRecord).owner = programId := by rw [fresh.record]
  simp only [settleEvent, checked, ok_bind, made, fresh.delegateOk_eq]
  cases preflight : delegateOk (before accounts.agentAta).data fixed.settlementAuth
    event.premiumLamports with
  | false => exact writeRecord_isOk addresses event _ _ _ blank recordOwned recordWritable
  | true =>
      obtain ⟨⟨poolOwned, endpointOwned⟩, ⟨mint, ready⟩, enough⟩ := covered preflight
      rw [← fresh.delegateOk_eq] at preflight
      rw [← fresh.tokenAt_eq] at ready enough
      have stage : Stage created accounts pool endpoint (tokenAt created) created :=
        .start bound.pool_ne_endpoint
          ((fresh.content _ bound.pool_ne_record).1.trans poolOwned)
          ((fresh.content _ bound.endpoint_ne_record).1.trans endpointOwned)
          ((fresh.structAt_eq bound.pool_ne_record).trans bound.poolFound)
          ((fresh.structAt_eq bound.endpoint_ne_record).trans bound.endpointFound)
      exact settleCovered_isOk stage bound.coveragePool ready enough preflight blank recordOwned
        recordWritable (Ne.symm bound.pool_ne_record) (Ne.symm bound.endpoint_ne_record)

theorem ready_of_settleEvent {before after : Ledger} {receipt : Receipt}
    (positive : 0 < event.premiumLamports.toNat)
    (bound : Bound addresses before event accounts pool endpoint)
    (preflight : delegateOk (before accounts.agentAta).data fixed.settlementAuth
      event.premiumLamports = true)
    (settled : settleEvent addresses context before fixed bump event accounts =
      .ok (after, receipt)) :
    ((before accounts.coveragePool).owner = programId ∧
      (before accounts.endpointConfig).owner = programId) ∧
    ∃ mint, Ready addresses context fixed bump accounts
      (feeShares event.premiumLamports endpoint.recipients) mint (tokenAt before) := by
  have checked : checkAccounts addresses before event accounts = .ok endpoint :=
    checkAccounts_eq_ok.mpr ⟨pool, bound⟩
  simp only [settleEvent, checked, ok_bind, bind_eq_ok] at settled
  obtain ⟨created, made, settled⟩ := settled
  have fresh := created_of_createAccount made
  rw [fresh.delegateOk_eq, preflight, if_pos rfl] at settled
  obtain ⟨poolOwned, endpointOwned⟩ := owned_of_settleCovered positive settled
  rw [(fresh.content _ bound.pool_ne_record).1] at poolOwned
  rw [(fresh.content _ bound.endpoint_ne_record).1] at endpointOwned
  refine ⟨⟨poolOwned, endpointOwned⟩, ?_⟩
  rw [← fresh.tokenAt_eq]
  exact ready_of_settleCovered positive bound.pool_ne_endpoint
    ((fresh.structAt_eq bound.pool_ne_record).trans bound.poolFound)
    ((fresh.structAt_eq bound.endpoint_ne_record).trans bound.endpointFound) settled

end Acceptance

end SettleBatch

end PactNetwork.V1
