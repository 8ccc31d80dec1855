import PactNetwork.V2.ClaimCap
import PactNetwork.V2.OracleAuthority

/-!
# What an accepted claim was

The bounds on a refund, the totals it moves, and that its call id is used up
for its policy. The age of a call is a signed difference: it bounds the call's
timestamp from below only.
-/

set_option autoImplicit false

namespace PactNetwork.V2

open Solana TokenLedger

namespace SubmitClaim

structure Call where
  accounts : Accounts
  args : SubmitClaimArgs
  config : ProtocolConfig
  pool : CoveragePool
  policy : Policy

namespace Call

variable (call : Call)

structure MadeBy (instruction : Instruction) (ledger : Ledger) : Prop where
  data : ∃ rest, instruction.data = 10 :: rest ∧
    SubmitClaimArgs.cursor.decode rest = .ok call.args
  listed : ∃ rest, instruction.accounts = call.accounts.config :: call.accounts.pool ::
    call.accounts.vault :: call.accounts.policy :: call.accounts.claim ::
    call.accounts.agentToken :: call.accounts.oracle :: rest
  config : recordAt ProtocolConfig ledger call.accounts.config = some call.config
  pool : recordAt CoveragePool ledger call.accounts.pool = some call.pool
  policy : recordAt Policy ledger call.accounts.policy = some call.policy

def Timely (now : Int64) : Prop :=
  now.toInt - call.config.claimWindowSeconds.toInt ≤ call.args.callTimestamp.toInt ∧
    call.args.callTimestamp.toInt ≤ now.toInt

structure Limited (payout : Payout) : Prop where
  requested : payout.refund ≤ call.args.paymentAmount
  coverage : payout.refund ≤ call.pool.maxCoveragePerCall
  available : payout.refund ≤ call.pool.totalAvailable
  window : (if payout.reset then 0 else call.pool.payoutsThisWindow.toNat) +
    payout.refund.toNat ≤ (capLimit call.config call.pool).toNat

/-- The refund moves from the vault to the agent and into every total. -/
structure Recorded (before after : Ledger) (payout : Payout) : Prop where
  pool : ∃ pool, recordAt CoveragePool after call.accounts.pool = some pool ∧
    pool.totalClaimsPaid.toNat = call.pool.totalClaimsPaid.toNat + payout.refund.toNat ∧
    call.pool.totalAvailable.toNat = pool.totalAvailable.toNat + payout.refund.toNat ∧
    pool.payoutsThisWindow.toNat =
      (if payout.reset then 0 else call.pool.payoutsThisWindow.toNat) + payout.refund.toNat
  policy : ∃ policy, recordAt Policy after call.accounts.policy = some policy ∧
    policy.totalClaimsReceived.toNat =
      call.policy.totalClaimsReceived.toNat + payout.refund.toNat ∧
    policy.callsCovered.toNat = call.policy.callsCovered.toNat + 1
  claim : recordAt Claim before call.accounts.claim = none ∧
    ∃ claim, recordAt Claim after call.accounts.claim = some claim ∧
      claim.policy = call.accounts.policy ∧ claim.refundAmount = payout.refund
  paid : if 0 < payout.refund then Pays (tokenAt before)
      ⟨call.pool.vault, call.accounts.agentToken, call.accounts.pool, payout.refund⟩
      (tokenAt after)
    else tokenAt after = tokenAt before

def UsedUp (crypto : Crypto) (chain : Chain) : Prop :=
  ∀ later again other, Relation.ReflTransGen (Chain.Next crypto) chain later →
    MadeBy other again later.ledger → other.accounts.policy = call.accounts.policy →
    other.args.callId = call.args.callId →
    ∃ error, processInstruction crypto later.ledger again = .error error

end Call

/-! ## One claim -/

section Claims

variable {crypto : Crypto} {context : Context} {ledger result : Ledger} {accounts : Accounts}
  {data : List UInt8} {payout : Payout}

theorem uint64_min_le (left right : UInt64) : min left right ≤ left ∧ min left right ≤ right := by
  change (if left ≤ right then left else right) ≤ left ∧
    (if left ≤ right then left else right) ≤ right
  split
  case isTrue ordered => exact ⟨UInt64.le_refl _, ordered⟩
  case isFalse reversed => exact ⟨UInt64.le_of_lt (UInt64.not_le.mp reversed), UInt64.le_refl _⟩

theorem clampRefund_le (payment : UInt64) (pool : CoveragePool) :
    clampRefund payment pool ≤ payment ∧ clampRefund payment pool ≤ pool.maxCoveragePerCall ∧
      clampRefund payment pool ≤ pool.totalAvailable := by
  obtain ⟨requested, coverage⟩ := uint64_min_le payment pool.maxCoveragePerCall
  obtain ⟨limited, available⟩ :=
    uint64_min_le (min payment pool.maxCoveragePerCall) pool.totalAvailable
  exact ⟨UInt64.le_trans limited requested, UInt64.le_trans limited coverage, available⟩

theorem checkPolicy_age {config : ProtocolConfig} {policy : Policy} {args : SubmitClaimArgs}
    {done : Unit} (checked : checkPolicy context accounts config policy args = .ok done) :
    policy.pool = accounts.pool ∧
      context.now.toInt - config.claimWindowSeconds.toInt ≤ args.callTimestamp.toInt := by
  simp only [checkPolicy, bind_eq_ok, failIf_eq_ok, exists_const, okOr_eq_ok,
    checkedSubI64_eq_some, ne_eq, not_not, Int64.not_lt] at checked
  obtain ⟨-, member, -, age, difference, fresh⟩ := checked
  rw [Int64.le_iff_toInt_le] at fresh
  exact ⟨member, by omega⟩

theorem submit_call (shaped : Shaped crypto ledger)
    (canonical : crypto.Derives .protocol accounts.config)
    (accepted : submit crypto context ledger accounts data = .ok (result, payout)) :
    ∃ call : Call, call.accounts = accounts ∧
      SubmitClaimArgs.cursor.decode data = .ok call.args ∧
      recordAt ProtocolConfig ledger accounts.config = some call.config ∧
      recordAt CoveragePool ledger accounts.pool = some call.pool ∧
      recordAt Policy ledger accounts.policy = some call.policy ∧
      context.now.toInt - call.config.claimWindowSeconds.toInt ≤ call.args.callTimestamp.toInt ∧
      call.Limited payout ∧ call.Recorded ledger result payout ∧
      ∃ bump, crypto.derive (.claim accounts.policy (crypto.sha256 call.args.callId)) =
        .ok (accounts.claim, bump) := by
  simp only [submit, bind_eq_ok, failIf_eq_ok, exists_const, ne_eq, not_not, Prod.exists,
    Except.ok.injEq, Prod.mk.injEq] at accepted
  obtain ⟨_, flags, args, decoded, -, config, configLoaded, -, -, policy, loaded, _,
    policyChecked, pool, poolLoaded, _, tokensChecked, address, bump, key, rfl, -, refund, reset,
    assessed, final, paid, rfl, rfl⟩ := accepted
  obtain ⟨-, poolOwned, policyOwned⟩ := checkFlags_eq_ok flags
  obtain ⟨-, recent⟩ := checkPolicy_age policyChecked
  simp only [checkTokens, bind_eq_ok, failIf_eq_ok, exists_const, ne_eq, not_not]
    at tokensChecked
  obtain ⟨-, _, -, -, -, vault, -⟩ := tokensChecked
  obtain ⟨-, pool', debited, insured, charged, stored, policyStored, vacant, debits, charges,
    pays, books⟩ := pay_spec shaped poolOwned policyOwned paid
  cases load_stored stored poolLoaded
  cases load_stored policyStored loaded
  obtain ⟨-, rfl, bound⟩ := assess_spec assessed
  obtain ⟨requested, coverage, available⟩ := clampRefund_le args.paymentAmount pool
  obtain ⟨_, _, _, claimed, remaining, counted, rfl⟩ := payPool_eq_ok.mp debits
  obtain ⟨_, _, received, covered, rfl⟩ := payPolicy_eq_ok.mp charges
  rw [vault] at pays
  refine ⟨⟨accounts, args, config, pool, policy⟩, rfl, decoded,
    shaped.config canonical configLoaded, stored, policyStored, recent,
    ⟨requested, coverage, available, bound⟩, ⟨?_, ?_, ⟨vacant, ?_⟩, pays⟩, bump, key⟩
  · refine ⟨_, (congrFun (congrArg Books.pools books) accounts.pool).trans
      (Function.update_self _ _ _), claimed, remaining, counted⟩
  · exact ⟨_, (congrFun (congrArg Books.policies books) accounts.policy).trans
      (Function.update_self _ _ _), received, covered⟩
  · exact ⟨_, (congrFun (congrArg Books.claims books) accounts.claim).trans
      (Function.update_self _ _ _), rfl, rfl⟩

theorem submit_refused {args : SubmitClaimArgs} {bump : UInt8} {address : Address}
    {claim : Claim} (decoded : SubmitClaimArgs.cursor.decode data = .ok args)
    (key : crypto.derive (.claim accounts.policy (crypto.sha256 args.callId)) =
      .ok (address, bump))
    (stored : recordAt Claim ledger address = some claim) :
    ¬accepts (submit crypto context ledger accounts data) := by
  rintro ⟨⟨result, payout⟩, accepted⟩
  simp only [submit, bind_eq_ok, failIf_eq_ok, exists_const, ne_eq, not_not, Prod.exists,
    Except.ok.injEq, Prod.mk.injEq] at accepted
  obtain ⟨_, -, args', decoded', -, _, -, -, -, _, -, _, -, _, -, _, -, address', _, key', rfl,
    empty, -⟩ := accepted
  cases Except.ok.inj (decoded.symm.trans decoded')
  cases Except.ok.inj (key.symm.trans key')
  have absent : recordAt Claim ledger accounts.claim = none := recordAt_eq_none_of_empty empty
  cases stored.symm.trans absent

end Claims

/-! ## In a run -/

section Runs

variable {crypto : Crypto} {chain later : Chain} {instruction : Instruction} {ledger : Ledger}
  {payout : Payout}

theorem submitted (processed : processInstruction crypto chain.ledger instruction =
      .ok (ledger, some payout)) :
    ∃ (accounts : Accounts) (data : List UInt8) (rest : List Address),
      instruction.data = 10 :: data ∧
      instruction.accounts = accounts.config :: accounts.pool :: accounts.vault ::
        accounts.policy :: accounts.claim :: accounts.agentToken :: accounts.oracle :: rest ∧
      submit crypto instruction.context chain.ledger accounts data = .ok (ledger, payout) := by
  unfold processInstruction at processed
  split at processed
  case h_1 => cases processed
  case h_2 value data found =>
    simp only [bind_eq_ok, okOr_eq_ok] at processed
    obtain ⟨discriminator, parsed, dispatched⟩ := processed
    cases discriminator <;> simp only [dispatch, map_eq_ok, Prod.mk.injEq, reduceCtorEq, and_false,
      exists_false, Prod.exists, Option.some.injEq] at dispatched
    obtain ⟨_, _, accepted, rfl, rfl⟩ := dispatched
    unfold SubmitClaim.process at accepted
    split at accepted
    case h_1 config pool vault policy claim agentToken oracle token system rest listed =>
      simp only [bind_eq_ok, failIf_eq_ok, exists_const] at accepted
      exact ⟨⟨config, pool, vault, policy, claim, agentToken, oracle⟩, data, _,
        by rw [found, Discriminator.tryFrom_submitClaim parsed], listed, accepted.2.2⟩
    case h_2 => cases accepted

theorem refused_of_stored {call : Call} {claim : Claim} {address : Address} {bump : UInt8}
    (made : call.MadeBy instruction chain.ledger)
    (key : crypto.derive (.claim call.accounts.policy (crypto.sha256 call.args.callId)) =
      .ok (address, bump))
    (stored : recordAt Claim chain.ledger address = some claim) :
    ∃ error, processInstruction crypto chain.ledger instruction = .error error := by
  refine error_of_not_accepts ?_
  rintro ⟨⟨result, label⟩, processed⟩
  obtain ⟨data, found, decoded⟩ := made.data
  obtain ⟨rest, listed⟩ := made.listed
  cases label with
  | none =>
      simp only [processInstruction, found, bind_eq_ok, okOr_eq_ok] at processed
      obtain ⟨discriminator, parsed, dispatched⟩ := processed
      cases (show Discriminator.tryFrom 10 = some .submitClaim from rfl).symm.trans parsed
      simp only [dispatch, map_eq_ok, Prod.mk.injEq, reduceCtorEq, and_false, exists_false]
        at dispatched
  | some payout =>
      obtain ⟨accounts, data', rest', found', listed', accepted⟩ := submitted processed
      obtain ⟨-, rfl⟩ := List.cons.inj (found.symm.trans found')
      have same := listed.symm.trans listed'
      simp only [List.cons.injEq] at same
      obtain ⟨-, -, -, policy, -⟩ := same
      rw [policy] at key
      exact submit_refused decoded key stored ⟨_, accepted⟩

end Runs

end SubmitClaim

theorem Step.claim_stays {crypto : Crypto} {now : Int64} {books books' : Books}
    {label : Option SubmitClaim.Payout} (step : Step crypto now books label books')
    {account : Address} (stored : ∃ claim, books.claims account = some claim) :
    ∃ claim, books'.claims account = some claim := by
  cases step with
  | @submitClaim accounts _ _ _ _ _ args refund _ bump _ =>
      by_cases same : account = accounts.claim
      · exact ⟨_, by rw [same]; exact Function.update_self _ _ _⟩
      · obtain ⟨claim, found⟩ := stored
        exact ⟨claim, (Function.update_of_ne same _ _).trans found⟩
  | _ => exact stored

/-- An accepted claim on the canonical config keeps all that is promised of it
exactly when the call it is for is not in the future: its refund is within every
limit, each total grows by it, and the call id is used up for the policy. -/
theorem claim_timely_iff {crypto : Crypto} {chain : Chain} {instruction : Instruction}
    {ledger : Ledger} {payout : SubmitClaim.Payout} (reached : Chain.Reached crypto chain)
    (unsigned : ∀ address, crypto.Derived address →
      instruction.context.signer address = false)
    (forward : chain.clock ≤ instruction.context.now)
    (canonical : ∀ account ∈ instruction.accounts.head?, crypto.Derives .protocol account)
    (accepted : processInstruction crypto chain.ledger instruction = .ok (ledger, some payout)) :
    ∃ call : SubmitClaim.Call, call.MadeBy instruction chain.ledger ∧
      (call.Timely instruction.context.now ∧ call.Limited payout ∧
          call.Recorded chain.ledger ledger payout ∧
          call.UsedUp crypto (chain.execute crypto instruction) ↔
        call.args.callTimestamp ≤ instruction.context.now) := by
  obtain ⟨accounts, data, rest, found, listed, submitted⟩ := SubmitClaim.submitted accepted
  have config : crypto.Derives .protocol accounts.config :=
    canonical accounts.config (by rw [listed]; rfl)
  obtain ⟨call, rfl, decoded, configured, pool, policy, recent, limited, recorded, bump, key⟩ :=
    SubmitClaim.submit_call reached.sound.shaped config submitted
  have executed : (chain.execute crypto instruction).ledger = ledger := by
    rw [Chain.execute, accepted]
  have next : Chain.Reached crypto (chain.execute crypto instruction) :=
    .next reached (.instruction instruction unsigned forward)
  refine ⟨call, ⟨⟨data, found, decoded⟩, ⟨rest, listed⟩, configured, pool, policy⟩, ?_⟩
  rw [Int64.le_iff_toInt_le]
  constructor
  · exact fun kept => kept.1.2
  · intro past
    refine ⟨⟨recent, past⟩, limited, recorded, ?_⟩
    intro later again other run made samePolicy sameCall
    obtain ⟨-, claim, stored, -⟩ := recorded.claim
    have stays := next.books_later
      (fun books => ∃ claim, books.claims call.accounts.claim = some claim) run
      ⟨claim, by rw [executed]; exact stored⟩ fun _ _ _ _ held step => step.claim_stays held
    obtain ⟨claim', stored'⟩ := stays
    rw [← samePolicy, ← sameCall] at key
    exact SubmitClaim.refused_of_stored made key stored'

namespace Demo

def claimAt (timestamp : Int64) : Instruction :=
  instruction oracle 20
    [key 100, key 101, key 102, key 104, key 105, agentToken, oracle, tokenProgram, systemProgram]
    ([10, 1, 0, 0, 0, 1, 0] ++ List.replicate 32 0 ++ Layout.i64.encode timestamp ++
      List.replicate 6 0 ++ Layout.u64.encode 500000)

def Pays500000 (instruction : Instruction) (timestamp : Int64) : Prop :=
  ∃ ledger payout args, processInstruction crypto insured.ledger instruction =
      .ok (ledger, some payout) ∧
    SubmitClaimArgs.cursor.decode instruction.data.tail = .ok args ∧
    args.callTimestamp = timestamp ∧ payout.refund = 500000

theorem pays_of_eval {instruction : Instruction} {timestamp : Int64}
    (processed : (processInstruction crypto insured.ledger instruction).toOption.map
      (fun result => result.2.map SubmitClaim.Payout.refund) = some (some 500000))
    (decoded : (SubmitClaimArgs.cursor.decode instruction.data.tail).toOption.map
      SubmitClaimArgs.callTimestamp = some timestamp) : Pays500000 instruction timestamp := by
  obtain ⟨⟨ledger, label⟩, accepted, paid⟩ := Option.map_eq_some_iff.mp processed
  obtain ⟨payout, rfl, refund⟩ := Option.map_eq_some_iff.mp paid
  obtain ⟨args, read, time⟩ := Option.map_eq_some_iff.mp decoded
  exact ⟨ledger, payout, args, toOption_eq_some.mp accepted, toOption_eq_some.mp read, time,
    refund⟩

end Demo

/-- A claim for a call at the present second. -/
theorem claim_timely_iff_demo : ∃ call : SubmitClaim.Call,
    call.MadeBy (Demo.claimAt 20) Demo.insured.ledger ∧ call.Timely 20 ∧
      call.UsedUp Demo.crypto (Demo.insured.execute Demo.crypto (Demo.claimAt 20)) := by
  have forward : Demo.insured.clock ≤ 20 := by
    rw [Demo.insured_clock]
    decide
  obtain ⟨ledger, payout, args, accepted, decoded, time, -⟩ :
      Demo.Pays500000 (Demo.claimAt 20) 20 := Demo.pays_of_eval (by decide +kernel) (by rfl)
  obtain ⟨call, made, exactly_⟩ := @claim_timely_iff _ _ (Demo.claimAt 20) _ _
    Demo.insured_reached (Demo.unsigned 20 (by decide)) forward (by
      intro account member
      have same : Demo.key 100 = account := Option.some.inj member
      rw [← same]
      exact Demo.canonical) accepted
  obtain ⟨rest, found, read⟩ := made.data
  have same : call.args = args := by
    rw [found, List.tail_cons] at decoded
    exact Except.ok.inj (read.symm.trans decoded)
  obtain ⟨timely, -, -, used⟩ := exactly_.mpr (by
    rw [same, time]
    exact Int64.le_refl _)
  exact ⟨call, made, timely, used⟩

/-- At 20 a claim for a call at 4000000000 is paid. -/
theorem future_call_claimed :
    Chain.Reached Demo.crypto Demo.insured ∧ Demo.crypto.Derives .protocol (Demo.key 100) ∧
      ∃ ledger payout args, processInstruction Demo.crypto Demo.insured.ledger
          (Demo.claimAt 4000000000) = .ok (ledger, some payout) ∧
        SubmitClaimArgs.cursor.decode (Demo.claimAt 4000000000).data.tail = .ok args ∧
        (Demo.claimAt 4000000000).context.now < args.callTimestamp ∧ payout.refund = 500000 := by
  obtain ⟨ledger, payout, args, accepted, decoded, time, paid⟩ :
      Demo.Pays500000 (Demo.claimAt 4000000000) 4000000000 :=
    Demo.pays_of_eval (by decide +kernel) (by rfl)
  refine ⟨Demo.insured_reached, Demo.canonical, ledger, payout, args, accepted, decoded, ?_, paid⟩
  rw [time]
  decide

end PactNetwork.V2
