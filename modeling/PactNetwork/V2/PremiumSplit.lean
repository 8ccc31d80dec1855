import PactNetwork.V2.OracleAuthority

/-!
# The premium split

The three shares of a premium add up to it, for every fee and referrer share
that the handlers admit. The agent pays the premium, less what its own token
account is passed to receive.
-/

set_option autoImplicit false

namespace PactNetwork.V2

open Solana TokenLedger

/-! ## Admitted shares -/

/-- The caps that `update_config` and `enable_insurance` check. -/
structure Admitted (crypto : Crypto) (books : Books) : Prop where
  fee : ∀ account config, crypto.Derives .protocol account →
    books.configs account = some config → config.protocolFeeBps ≤ absoluteMaxProtocolFeeBps
  share : ∀ account policy, books.policies account = some policy →
    policy.referrerShareBps ≤ maxReferrerShareBps

section Admitted

variable {crypto : Crypto} {now : Int64} {books books' : Books}
  {label : Option SubmitClaim.Payout}

theorem Admitted.changeConfig (admitted : Admitted crypto books) {account : Address}
    {config' : ProtocolConfig} (fee : config'.protocolFeeBps ≤ absoluteMaxProtocolFeeBps) :
    Admitted crypto (books.setConfig account config') where
  fee other config canonical stored := by
    by_cases same : other = account
    · rw [same] at stored
      cases (Function.update_self _ _ _).symm.trans stored
      exact fee
    · exact admitted.fee other config canonical ((Function.update_of_ne same _ _).symm.trans stored)
  share := admitted.share

theorem Admitted.changePolicy (admitted : Admitted crypto books) {account : Address}
    {policy' : Policy}
    (policies : books'.policies = Function.update books.policies account (some policy'))
    (configs : books'.configs = books.configs)
    (share : policy'.referrerShareBps ≤ maxReferrerShareBps) : Admitted crypto books' where
  fee := by
    rw [configs]
    exact admitted.fee
  share other policy stored := by
    by_cases same : other = account
    · rw [same, policies, Function.update_self] at stored
      cases stored
      exact share
    · rw [policies, Function.update_of_ne same] at stored
      exact admitted.share other policy stored

theorem UpdateConfig.apply_fee {patch : UpdateConfigPatch} {config updated : ProtocolConfig}
    (applied : apply patch config = .ok updated)
    (fee : config.protocolFeeBps ≤ absoluteMaxProtocolFeeBps) :
    updated.protocolFeeBps ≤ absoluteMaxProtocolFeeBps := by
  simp only [apply, bind_eq_ok, Except.ok.injEq] at applied
  obtain ⟨fee', set, _, -, _, -, _, -, _, -, rfl⟩ := applied
  show fee' ≤ absoluteMaxProtocolFeeBps
  unfold setField at set
  split at set
  case h_1 => cases set; exact fee
  case h_2 =>
    simp only [bind_eq_ok, failIf_eq_ok, exists_const, not_not, Except.ok.injEq] at set
    exact set.2 ▸ set.1

theorem Step.admitted (step : Step crypto now books label books')
    (admitted : Admitted crypto books) : Admitted crypto books' := by
  cases step with
  | initializeProtocol =>
      have fee : defaultProtocolFeeBps ≤ absoluteMaxProtocolFeeBps := by decide
      exact admitted.changeConfig fee
  | updateConfig _ canonical stored applied =>
      exact admitted.changeConfig (UpdateConfig.apply_fee applied (admitted.fee _ _ canonical stored))
  | updateOracle canonical stored =>
      have fee := admitted.fee _ _ canonical stored
      exact admitted.changeConfig fee
  | enableInsurance share => exact admitted.changePolicy rfl rfl share
  | disablePolicy _ insured =>
      have share := admitted.share _ _ insured
      exact admitted.changePolicy rfl rfl share
  | settlePremium _ insured _ _ _ _ _ policyCharged =>
      obtain ⟨_, -, rfl⟩ := SettlePremium.chargePolicy_eq_ok.mp policyCharged
      have share := admitted.share _ _ insured
      exact admitted.changePolicy rfl rfl share
  | submitClaim _ insured _ _ _ _ _ policyCharged =>
      obtain ⟨_, _, -, -, rfl⟩ := SubmitClaim.payPolicy_eq_ok.mp policyCharged
      have share := admitted.share _ _ insured
      exact admitted.changePolicy rfl rfl share
  | outside canonical =>
      refine ⟨fun account config derives stored => ?_, admitted.share⟩
      exact admitted.fee account config derives ((canonical account derives).symm.trans stored)
  | createPool | updateRates | deposit | withdraw => exact ⟨admitted.fee, admitted.share⟩

theorem Chain.Reached.admitted {chain : Chain} (reached : Reached crypto chain) :
    Admitted crypto (booksOf chain.ledger) := by
  refine reached.books (Admitted crypto) (fun first genesis => ⟨?_, ?_⟩)
    fun _ _ _ _ admitted step => step.admitted admitted
  · intro account config canonical stored
    have vacant : recordAt ProtocolConfig first.ledger account = none :=
      recordAt_eq_none_of_empty (genesis.vacant account ⟨.protocol, canonical⟩).2
    cases vacant.symm.trans stored
  · intro account policy stored
    cases (genesis.no_record (by decide) account).symm.trans stored

end Admitted

/-! ## The split -/

namespace SettlePremium

theorem shares_le {gross fee share : Nat} (cap : fee + share ≤ 10000) :
    gross * fee / 10000 + gross * share / 10000 ≤ gross := by
  have treasury := Nat.div_mul_le_self (gross * fee) 10000
  have referrer := Nat.div_mul_le_self (gross * share) 10000
  have total : gross * fee + gross * share ≤ gross * 10000 := by
    rw [← Nat.mul_add]
    exact Nat.mul_le_mul_left gross cap
  omega

theorem splitPremium_eq_ok {gross : UInt64} {fee share : UInt16} {cuts : Cuts} :
    splitPremium gross fee share = .ok cuts ↔
      cuts.treasury.toNat = gross.toNat * fee.toNat / 10000 ∧
      cuts.referrer.toNat = gross.toNat * share.toNat / 10000 ∧
      cuts.pool.toNat + cuts.treasury.toNat + cuts.referrer.toNat = gross.toNat := by
  have bound : gross.toNat < UInt64.size := gross.toNat_lt
  simp only [splitPremium, bind_eq_ok, failIf_eq_ok, exists_const, Nat.not_lt, gt_iff_lt,
    Except.ok.injEq]
  constructor
  · rintro ⟨within, rfl⟩
    refine ⟨UInt64.toNat_ofNat_of_lt' (by omega), UInt64.toNat_ofNat_of_lt' (by omega), ?_⟩
    rw [UInt64.toNat_ofNat_of_lt' (by omega), UInt64.toNat_ofNat_of_lt' (by omega),
      UInt64.toNat_ofNat_of_lt' (by omega)]
    omega
  · rintro ⟨treasury, referrer, whole⟩
    obtain ⟨pool, treasuryCut, referrerCut⟩ := cuts
    dsimp only at treasury referrer whole
    rw [← treasury, ← referrer]
    refine ⟨by omega, ?_⟩
    have rest : gross.toNat - (treasuryCut.toNat + referrerCut.toNat) = pool.toNat := by omega
    rw [rest, UInt64.ofNat_toNat, UInt64.ofNat_toNat, UInt64.ofNat_toNat]

theorem splitPremium_accepts {gross : UInt64} {fee share : UInt16}
    (feeCap : fee ≤ absoluteMaxProtocolFeeBps) (shareCap : share ≤ maxReferrerShareBps) :
    accepts (splitPremium gross fee share) := by
  have feeBound : fee.toNat ≤ 3000 := UInt16.le_iff_toNat_le.mp feeCap
  have shareBound : share.toNat ≤ 3000 := UInt16.le_iff_toNat_le.mp shareCap
  have within := @shares_le gross.toNat fee.toNat share.toNat (by omega)
  simp only [accepts, splitPremium, bind_eq_ok, failIf_eq_ok, exists_const, Nat.not_lt, gt_iff_lt]
  exact ⟨_, within, rfl⟩

theorem computeGross_le (callValue : UInt64) (rateBps : UInt16) (delegated balance : UInt64) :
    (computeGross callValue rateBps delegated balance).toNat ≤
      min delegated.toNat balance.toNat := by
  have bound : delegated.toNat < UInt64.size := delegated.toNat_lt
  rw [computeGross, UInt64.toNat_ofNat_of_lt' (by omega)]
  omega

/-! ## One premium -/

structure Call where
  accounts : Accounts
  callValue : UInt64
  config : ProtocolConfig
  pool : CoveragePool
  policy : Policy
  agent : TokenAccount

namespace Call

variable (call : Call)

structure MadeBy (instruction : Instruction) (ledger : Ledger) : Prop where
  data : ∃ rest, instruction.data = 7 :: rest ∧ decodeU64 rest = .ok call.callValue
  listed : ∃ token, instruction.accounts = call.accounts.config :: call.accounts.pool ::
    call.accounts.vault :: call.accounts.policy :: call.accounts.treasuryToken ::
    call.accounts.agentToken :: call.accounts.oracle :: token :: call.accounts.remaining
  config : load ProtocolConfig ledger call.accounts.config = .ok call.config
  pool : recordAt CoveragePool ledger call.accounts.pool = some call.pool
  policy : recordAt Policy ledger call.accounts.policy = some call.policy
  agent : readToken ledger call.accounts.agentToken = .ok call.agent

def gross : UInt64 :=
  computeGross call.callValue call.pool.insuranceRateBps call.agent.delegatedAmount
    call.agent.amount

def share : UInt16 := if call.policy.referrerPresent = 1 then call.policy.referrerShareBps else 0

def referrer : Option Address :=
  if call.policy.referrerPresent = 1 then call.accounts.remaining.head? else none

def received (cuts : Cuts) (address : Address) : Nat :=
  (if address = call.pool.vault then cuts.pool.toNat else 0) +
    (if address = call.accounts.treasuryToken then cuts.treasury.toNat else 0) +
    (if call.referrer = some address then cuts.referrer.toNat else 0)

/-- The premium is within what the agent has delegated and holds, splits without
remainder, and moves from the agent's account to those of the three shares. -/
structure Exact (before after : Ledger) (cuts : Cuts) : Prop where
  limited : call.gross.toNat ≤ min call.agent.delegatedAmount.toNat call.agent.amount.toNat
  treasury : cuts.treasury.toNat = call.gross.toNat * call.config.protocolFeeBps.toNat / 10000
  referral : cuts.referrer.toNat = call.gross.toNat * call.share.toNat / 10000
  whole : cuts.pool.toNat + cuts.treasury.toNat + cuts.referrer.toNat = call.gross.toNat
  live : 0 < call.gross → tokenAt before call.accounts.agentToken = some call.agent
  debited : ∀ token, tokenAt before call.accounts.agentToken = some token →
    ∃ token', tokenAt after call.accounts.agentToken = some token' ∧
      token'.amount.toNat + call.gross.toNat = token.amount.toNat +
        (if call.accounts.agentToken = call.accounts.treasuryToken then cuts.treasury.toNat
          else 0) +
        (if call.referrer = some call.accounts.agentToken then cuts.referrer.toNat else 0)
  credited : ∀ address token, address ≠ call.accounts.agentToken →
    tokenAt before address = some token → ∃ token', tokenAt after address = some token' ∧
      token'.amount.toNat = token.amount.toNat + call.received cuts address

end Call

section Premiums

variable {crypto : Crypto} {context : Context} {ledger result : Ledger} {accounts : Accounts}
  {data : List UInt8}

theorem findReferrer_eq_ok {config : ProtocolConfig} {policy : Policy}
    {referrer : Option Address}
    (found : findReferrer context ledger accounts config policy = .ok referrer) :
    (referrer = if policy.referrerPresent = 1 then accounts.remaining.head? else none) ∧
      (referrer = none → policy.referrerPresent ≠ 1) := by
  unfold findReferrer at found
  split at found
  case isTrue present =>
    rw [if_pos present]
    split at found
    case h_1 => cases found
    case h_2 first rest listed =>
      simp only [bind_eq_ok, failIf_eq_ok, exists_const, Except.ok.injEq] at found
      obtain ⟨-, -, _, -, -, -, rfl⟩ := found
      rw [listed, List.head?_cons]
      refine ⟨rfl, fun missing => ?_⟩
      cases missing
  case isFalse absent =>
    cases found
    rw [if_neg absent]
    exact ⟨rfl, fun _ => absent⟩

theorem checkTokens_delegate {config : ProtocolConfig} {policy : Policy} {pool : CoveragePool}
    {agent : TokenAccount}
    (checked : checkTokens ledger accounts config policy pool = .ok agent) :
    agent.delegateTag ≠ 0 := by
  simp only [checkTokens, bind_eq_ok, failIf_eq_ok, exists_const, ne_eq, not_not,
    Except.ok.injEq] at checked
  obtain ⟨-, _, -, -, _, -, -, -, token, -, -, -, delegate, read, same, rfl⟩ := checked
  intro none
  rw [readDelegate, if_pos none, same] at read
  cases read

theorem vault_ne_agentToken {account : Address} {pool : CoveragePool} {agent : TokenAccount}
    {address : Address} (accounted : Accounted crypto (booksOf ledger))
    (stored : recordAt CoveragePool ledger account = some pool)
    (read : readToken ledger address = .ok agent) (delegated : agent.delegateTag ≠ 0) :
    address ≠ pool.vault := by
  rintro rfl
  obtain ⟨-, -, -, -, token, held, exclusive, -⟩ := accounted.pools account pool stored
  rw [readToken_of_tokenAt read held] at delegated
  exact delegated exclusive.noDelegate

theorem sum_cut (weight : Payment → Nat) {source destination authority : Address} {cut : UInt64}
    (nothing : ¬0 < cut → weight ⟨source, destination, authority, cut⟩ = 0) :
    ((if 0 < cut then [(⟨source, destination, authority, cut⟩ : Payment)] else []).map
      weight).sum = weight ⟨source, destination, authority, cut⟩ := by
  by_cases due : 0 < cut
  · rw [if_pos due, List.map_singleton, List.sum_singleton]
  · rw [if_neg due, nothing due]
    rfl

theorem sum_payments (counts : Payment → Prop) [DecidablePred counts] (accounts : Accounts)
    (vault : Address) (referrer : Option Address) (cuts : Cuts)
    (unreferred : referrer = none → cuts.referrer = 0) :
    ((payments accounts vault referrer cuts).map fun payment =>
      if counts payment then payment.amount.toNat else 0).sum =
    (if counts ⟨accounts.agentToken, vault, accounts.pool, cuts.pool⟩ then cuts.pool.toNat
      else 0) +
    ((if counts ⟨accounts.agentToken, accounts.treasuryToken, accounts.pool, cuts.treasury⟩
      then cuts.treasury.toNat else 0) +
    referrer.elim 0 fun destination =>
      if counts ⟨accounts.agentToken, destination, accounts.pool, cuts.referrer⟩
        then cuts.referrer.toNat else 0) := by
  have nothing {cut : UInt64} (none : ¬0 < cut) : cut.toNat = 0 := by
    rw [UInt64.lt_iff_toNat_lt] at none
    exact Nat.eq_zero_of_not_pos none
  rw [payments_eq, List.map_append, List.sum_append, List.map_append, List.sum_append,
    sum_cut _ fun none => by simp [nothing none], sum_cut _ fun none => by simp [nothing none]]
  cases referrer with
  | none => rfl
  | some destination =>
      rw [Option.toList_some, List.flatMap_singleton, sum_cut _ fun none => by simp [nothing none]]
      rfl

theorem exact_of_paid {call : Call} {cuts : Cuts} (apart : call.accounts.agentToken ≠ call.pool.vault)
    (read : readToken ledger call.accounts.agentToken = .ok call.agent)
    (split : splitPremium call.gross call.config.protocolFeeBps call.share = .ok cuts)
    (unreferred : call.referrer = none → cuts.referrer = 0)
    (paid : PaysAll (tokenAt ledger) (payments call.accounts call.pool.vault call.referrer cuts)
      (tokenAt result)) : call.Exact ledger result cuts := by
  obtain ⟨treasury, referral, whole⟩ := splitPremium_eq_ok.mp split
  have unpaid (absent : call.referrer = none) : cuts.referrer.toNat = 0 := by
    rw [unreferred absent]
    rfl
  -- What leaves the agent's account and what each account receives.
  have moved (address : Address) (token : TokenAccount)
      (found : tokenAt ledger address = some token) :
      ∃ token', tokenAt result address = some token' ∧ token'.amount.toNat +
        (if address = call.accounts.agentToken then call.gross.toNat else 0) =
          token.amount.toNat + call.received cuts address := by
    obtain ⟨token', stays, balance⟩ := paid.moved address found
    rw [sum_payments (fun payment => address = payment.source) _ _ _ _ unreferred,
      sum_payments (fun payment => address = payment.destination) _ _ _ _ unreferred] at balance
    refine ⟨token', stays, ?_⟩
    unfold Call.received
    cases referred : call.referrer with
    | none =>
        have nothing := unpaid referred
        simp only [referred, Option.elim_none] at balance
        simp only [reduceCtorEq, ↓reduceIte]
        by_cases own : address = call.accounts.agentToken
        · simp only [if_pos own] at balance ⊢
          omega
        · simp only [if_neg own] at balance ⊢
          omega
    | some destination =>
        simp only [referred, Option.elim_some] at balance
        simp only [Option.some.injEq, @eq_comm _ destination address]
        by_cases own : address = call.accounts.agentToken
        · simp only [if_pos own] at balance ⊢
          omega
        · simp only [if_neg own] at balance ⊢
          omega
  refine ⟨computeGross_le _ _ _ _, treasury, referral, whole, ?_, ?_, ?_⟩
  · intro due
    cases listed : payments call.accounts call.pool.vault call.referrer cuts with
    | nil =>
        -- The cuts add up to something, so there is a payment.
        have total := sum_payments (fun _ => True) call.accounts call.pool.vault call.referrer
          cuts unreferred
        rw [UInt64.lt_iff_toNat_lt] at due
        change 0 < call.gross.toNat at due
        simp only [listed, List.map_nil, List.sum_nil, ↓reduceIte] at total
        cases referred : call.referrer with
        | none =>
            have nothing := unpaid referred
            omega
        | some destination =>
            rw [referred, Option.elim_some] at total
            omega
    | cons payment rest =>
        have member : payment ∈ payments call.accounts call.pool.vault call.referrer cuts := by
          rw [listed]
          exact List.mem_cons_self
        rw [listed] at paid
        obtain ⟨middle, ⟨source, _, _, found, -⟩, -⟩ := paid
        rw [(mem_payments member).1] at found
        rw [readToken_of_tokenAt read found]
        exact found
  · intro token found
    obtain ⟨token', stays, balance⟩ := moved _ token found
    rw [if_pos rfl, Call.received, if_neg apart, Nat.zero_add, ← Nat.add_assoc] at balance
    exact ⟨token', stays, balance⟩
  · intro address token other found
    obtain ⟨token', stays, balance⟩ := moved address token found
    rw [if_neg other] at balance
    exact ⟨token', stays, balance⟩

theorem exact_of_zero {call : Call} (none : call.gross = 0) :
    call.Exact ledger ledger ⟨0, 0, 0⟩ where
  limited := computeGross_le _ _ _ _
  treasury := by simp [none]
  referral := by simp [none]
  whole := by simp [none]
  live due := by
    rw [none] at due
    cases due
  debited token found := ⟨token, found, by simp [none]⟩
  credited address token _ found := ⟨token, found, by simp [Call.received]⟩

theorem settle_call (accounted : Accounted crypto (booksOf ledger)) (shaped : Shaped crypto ledger)
    (accepted : settle crypto context ledger accounts data = .ok result) :
    ∃ call : Call, call.accounts = accounts ∧ decodeU64 data = .ok call.callValue ∧
      load ProtocolConfig ledger accounts.config = .ok call.config ∧
      recordAt CoveragePool ledger accounts.pool = some call.pool ∧
      recordAt Policy ledger accounts.policy = some call.policy ∧
      readToken ledger accounts.agentToken = .ok call.agent ∧
      ∃ cuts, call.Exact ledger result cuts := by
  simp only [settle, bind_eq_ok, failIf_eq_ok, exists_const, ne_eq, not_not] at accepted
  obtain ⟨_, flags, callValue, decoded, config, configLoaded, -, policy, loaded, _, -, pool,
    poolLoaded, agent, tokensChecked, settled⟩ := accepted
  obtain ⟨-, poolOwned, policyOwned⟩ := checkFlags_eq_ok flags
  obtain ⟨vault, read, -⟩ := checkTokens_eq_ok tokensChecked
  have delegated := checkTokens_delegate tokensChecked
  have stored : recordAt CoveragePool ledger accounts.pool = some pool :=
    recordAt_eq_some.mpr ⟨poolOwned, poolLoaded⟩
  refine ⟨⟨accounts, callValue, config, pool, policy, agent⟩, rfl, decoded, configLoaded, stored,
    recordAt_eq_some.mpr ⟨policyOwned, loaded⟩, read, ?_⟩
  split at settled
  case isTrue none =>
    cases settled
    exact ⟨_, exact_of_zero none⟩
  case isFalse =>
    simp only [bind_eq_ok] at settled
    obtain ⟨cuts, split, referrer, found, collected⟩ := settled
    obtain ⟨rfl, absent⟩ := findReferrer_eq_ok found
    obtain ⟨-, _, _, _, _, -, -, -, -, paid, -⟩ :=
      collect_spec shaped poolOwned policyOwned collected
    rw [vault] at paid
    refine ⟨cuts, exact_of_paid (vault_ne_agentToken accounted stored read delegated) read split
      (fun none => ?_) paid⟩
    have referral := (splitPremium_eq_ok.mp split).2.1
    rw [if_neg (absent none)] at referral
    rw [← UInt64.toNat_inj, referral]
    simp

end Premiums

theorem settled {crypto : Crypto} {ledger result : Ledger} {instruction : Instruction}
    {label : Option SubmitClaim.Payout} (premium : instruction.data.head? = some 7)
    (processed : processInstruction crypto ledger instruction = .ok (result, label)) :
    ∃ (accounts : Accounts) (data : List UInt8) (token : Address),
      instruction.data = 7 :: data ∧
      instruction.accounts = accounts.config :: accounts.pool :: accounts.vault ::
        accounts.policy :: accounts.treasuryToken :: accounts.agentToken :: accounts.oracle ::
        token :: accounts.remaining ∧
      settle crypto instruction.context ledger accounts data = .ok result := by
  cases found : instruction.data with
  | nil =>
      rw [found] at premium
      cases premium
  | cons head rest =>
      rw [found, List.head?_cons, Option.some.injEq] at premium
      simp only [processInstruction, found, bind_eq_ok, okOr_eq_ok] at processed
      obtain ⟨discriminator, parsed, dispatched⟩ := processed
      rw [premium] at parsed
      cases (show Discriminator.tryFrom 7 = some .settlePremium from rfl).symm.trans parsed
      simp only [dispatch, map_eq_ok, Prod.mk.injEq] at dispatched
      obtain ⟨_, accepted, rfl, -⟩ := dispatched
      unfold SettlePremium.process at accepted
      split at accepted
      case h_1 config pool vault policy treasuryToken agentToken oracle token remaining listed =>
        simp only [bind_eq_ok, failIf_eq_ok, exists_const] at accepted
        exact ⟨⟨config, pool, vault, policy, treasuryToken, agentToken, oracle, remaining⟩, rest,
          token, by rw [premium], listed, accepted.2⟩
      case h_2 => cases accepted

end SettlePremium

/-- Every accepted premium is split exactly, and with the canonical config the
split succeeds for every policy and amount. What the agent's own account is
passed to receive is not taken from it. -/
theorem premium_split_exact {crypto : Crypto} {chain : Chain}
    (reached : Chain.Reached crypto chain) :
    (∀ address config account policy gross, crypto.Derives .protocol address →
      recordAt ProtocolConfig chain.ledger address = some config →
      recordAt Policy chain.ledger account = some policy →
        accepts (SettlePremium.splitPremium gross config.protocolFeeBps
          (if policy.referrerPresent = 1 then policy.referrerShareBps else 0))) ∧
    ∀ instruction ledger label, instruction.data.head? = some 7 →
      processInstruction crypto chain.ledger instruction = .ok (ledger, label) →
        ∃ (call : SettlePremium.Call) (cuts : SettlePremium.Cuts),
          call.MadeBy instruction chain.ledger ∧ call.Exact chain.ledger ledger cuts := by
  refine ⟨?_, ?_⟩
  · intro address config account policy gross canonical configured insured
    have admitted := reached.admitted
    refine SettlePremium.splitPremium_accepts (admitted.fee _ _ canonical configured) ?_
    split
    · exact admitted.share _ _ insured
    · decide
  · intro instruction ledger label premium processed
    obtain ⟨accounts, data, token, found, listed, accepted⟩ :=
      SettlePremium.settled premium processed
    obtain ⟨call, rfl, decoded, config, pool, policy, agent, cuts, split⟩ :=
      SettlePremium.settle_call reached.sound.accounted reached.sound.shaped accepted
    exact ⟨call, cuts, ⟨⟨data, found, decoded⟩, ⟨token, listed⟩, config, pool, policy, agent⟩,
      split⟩

/-- The demonstration's premium of 0.025 USDC. -/
theorem premium_split_exact_demo : ∃ ledger label,
    processInstruction Demo.crypto Demo.insured.ledger Demo.settlePremium = .ok (ledger, label) ∧
      ∃ (call : SettlePremium.Call) (cuts : SettlePremium.Cuts),
        call.MadeBy Demo.settlePremium Demo.insured.ledger ∧
          call.Exact Demo.insured.ledger ledger cuts := by
  have accepted : accepts (processInstruction Demo.crypto Demo.insured.ledger
      Demo.settlePremium) := by decide +kernel
  obtain ⟨⟨ledger, label⟩, processed⟩ := accepted
  exact ⟨ledger, label, processed,
    (premium_split_exact Demo.insured_reached).2 Demo.settlePremium ledger label rfl processed⟩

namespace Demo

def referSelf : Instruction :=
  instruction agent 0 [key 100, key 101, key 104, agentToken, agent, systemProgram]
    ([5, 0, 0, 0, 0] ++ Layout.i64.encode 5000000 ++ agent.toList ++ [1] ++
      Layout.u16.encode 3000)

def selfReferred : Chain := run [configure, createPool, deposit, referSelf] genesis

def settleSelf : Instruction :=
  instruction oracle 10
    [key 100, key 101, key 102, key 104, treasuryToken, agentToken, oracle, tokenProgram,
      agentToken]
    (7 :: Layout.u64.encode 10000000)

theorem selfReferred_reached : Chain.Reached crypto selfReferred :=
  Reachable.trans (.start genesis_begins) (Chain.run_execute genesis _
    ⟨by decide, unsigned 0 (by decide), by decide, unsigned 0 (by decide), by decide,
      unsigned 0 (by decide), by decide, unsigned 0 (by decide), trivial⟩)

def agentAmount (ledger : Ledger) : Option UInt64 :=
  (tokenAt ledger agentToken).map TokenAccount.amount

end Demo

/-- A premium of 25000 takes 17500 from an agent that is its own referrer. -/
theorem self_referral_undercharged : Chain.Reached Demo.crypto Demo.selfReferred ∧
    ∃ ledger label,
      processInstruction Demo.crypto Demo.selfReferred.ledger Demo.settleSelf =
        .ok (ledger, label) ∧
      (recordAt Policy Demo.selfReferred.ledger (Demo.key 104)).map Policy.totalPremiumsPaid =
        some 0 ∧
      (recordAt Policy ledger (Demo.key 104)).map Policy.totalPremiumsPaid = some 25000 ∧
      Demo.agentAmount Demo.selfReferred.ledger = some 1000000 ∧
      Demo.agentAmount ledger = some 982500 := by
  refine ⟨Demo.selfReferred_reached, ?_⟩
  have settled : ((processInstruction Demo.crypto Demo.selfReferred.ledger
      Demo.settleSelf).toOption.map fun result =>
        ((recordAt Policy result.1 (Demo.key 104)).map Policy.totalPremiumsPaid,
          Demo.agentAmount result.1)) = some (some 25000, some 982500) := by decide +kernel
  obtain ⟨⟨ledger, label⟩, processed, amounts⟩ := Option.map_eq_some_iff.mp settled
  obtain ⟨paid, held⟩ := Prod.mk.inj amounts
  exact ⟨ledger, label, toOption_eq_some.mp processed, by decide +kernel, paid,
    by decide +kernel, held⟩

end PactNetwork.V2
