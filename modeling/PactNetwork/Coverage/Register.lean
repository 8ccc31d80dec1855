import PactNetwork.Coverage.Economics

/-!
# Coverage registration

The facilitator's register route: what it checks of a receipt, when it looks a
payment up on chain, and under which id it publishes a settlement.
-/

set_option autoImplicit false

namespace PactNetwork.Coverage.Facilitator

open Requests (Json Crypto encode)
open Settler (byteHex)

/-! ## The coverage id -/

def uuidText (bytes : List UInt8) : String :=
  let b := ((bytes.take 16).modify 6 fun byte => (byte &&& 0x0f) ||| 0x40).modify 8
    fun byte => (byte &&& 0x3f) ||| 0x80
  let hex := b.flatMap byteHex
  String.ofList (hex.take 8 ++ '-' :: ((hex.drop 8).take 4 ++ '-' :: ((hex.drop 12).take 4 ++
    '-' :: ((hex.drop 16).take 4 ++ '-' :: hex.drop 20))))

def deriveCoverageId (crypto : Crypto) (payee resource paymentSignature : String) : String :=
  uuidText (crypto.sha256
    (encode ("pay.sh\n" ++ payee ++ "\n" ++ resource ++ "\n" ++ paymentSignature)))

def randomCoverageId (randomBytes : List UInt8) : String := uuidText randomBytes

/-! ## The payment -/

structure TokenBalance where
  accountIndex : Nat
  mint : String
  owner : Option String
  amount : Int

structure ParsedTransaction where
  err : Bool
  preTokenBalances : List TokenBalance
  postTokenBalances : List TokenBalance

inductive TransactionAnswer
  | failed
  | missing
  | found (tx : ParsedTransaction)

/-- The balance of an account before the transaction, by the last entry of it. -/
def preAmount (tx : ParsedTransaction) (accountIndex : Nat) : Int :=
  ((tx.preTokenBalances.reverse.find? fun p => p.accountIndex = accountIndex).map
    TokenBalance.amount).getD 0

/-- The amount the payee was seen to receive, or why there is none. -/
def verifyPayment (answer : TransactionAnswer) (payee asset : String) (amountBaseUnits : Int) :
    Except String Int :=
  match answer with
  | .failed => .error "rpc_error"
  | .missing => .error "tx_not_found"
  | .found tx =>
      if tx.err then .error "tx_failed"
      else
        match tx.postTokenBalances.find? fun p => p.mint = asset ∧ p.owner = some payee ∧
            amountBaseUnits ≤ p.amount - preAmount tx p.accountIndex with
        | some p => .ok (p.amount - preAmount tx p.accountIndex)
        | none => .error "no_matching_transfer"

/-! ## The attestation gate -/

inductive AttestationGateMode
  | off
  | logOnly
  | enforce
  deriving DecidableEq

structure AttestationStats where
  agentRefundLamportsInWindow : Int
  agentCoveredClaimsInWindow : Nat
  agentTotalCallsInWindow : Nat
  networkBreachClaimRate : ℚ
  networkBaselineSamples : Nat

structure AttestationThresholds where
  perAgentRefundCapLamportsPerWindow : Int
  anomalyMultiple : ℚ
  minBreachRateToFlag : ℚ
  minCallsForRateRule : Nat

def defaultThresholds : AttestationThresholds := ⟨3003000, 3, 1 / 2, 10⟩

def perAgentRefundCapFor (pool : EconomicsPool) : Int :=
  3 * (pool.imputedCostLamports + pool.flatPremiumLamports)

def evaluateClientAttestation (thisRefundLamports : Int) (stats : AttestationStats)
    (t : AttestationThresholds) : Option String :=
  if thisRefundLamports ≤ 0 then none
  else if t.perAgentRefundCapLamportsPerWindow <
      stats.agentRefundLamportsInWindow + thisRefundLamports then
    some "per_agent_refund_cap"
  else if t.minCallsForRateRule ≤ stats.agentTotalCallsInWindow then
    let agentRate : ℚ := stats.agentCoveredClaimsInWindow / stats.agentTotalCallsInWindow
    let baselineCeiling :=
      if 0 < stats.networkBaselineSamples then
        max t.minBreachRateToFlag (stats.networkBreachClaimRate * t.anomalyMultiple)
      else t.minBreachRateToFlag
    if baselineCeiling < agentRate then some "breach_claim_rate_anomaly" else none
  else none

/-! ## The route's surroundings -/

structure PoolConfigRow extends EconomicsPool where
  slug : String
  paused : Bool

structure PayDefaults extends EconomicsPool where
  slug : String
  attestationGateMode : AttestationGateMode

/-- The facilitator, with what it takes from the platform: `BigInt(String(value))`,
or `none` where it throws. -/
structure Context where
  crypto : Crypto
  amountOf : Option Json → Option Int
  usdcMint : String
  payDefaults : PayDefaults

structure Allowance where
  eligible : Bool
  reason : String

/-- What one call meets: the transaction, the pool's row if it can be read, the
allowance and the statistics unless reading them throws, and the rest. -/
structure Surroundings where
  transaction : TransactionAnswer
  poolRow : Option PoolConfigRow
  allowance : Option Allowance
  stats : Option AttestationStats
  randomBytes : List UInt8
  ts : String

/-- An arrival behind the signature middleware; a body that is no JSON is `none`. -/
structure RegisterCall where
  verifiedAgent : Option String
  body : Option Json
  meets : Surroundings

structure PaySettlementEvent where
  callId : String
  agentPubkey : String
  endpointSlug : String
  premiumLamports : Int
  refundLamports : Int
  latencyMs : Int
  outcome : Outcome
  ts : String
  source : String
  verified : Bool
  payee : Option String
  resource : String
  coverageId : String
  verdictSource : String
  deriving DecidableEq

inductive Refusal
  | threw
  | rejected (status : Nat) (code reason : String)
  deriving DecidableEq

inductive Reply
  | refused (refusal : Refusal)
  | uncovered (coverageId : String) (premiumBaseUnits : Int) (reason : String) (verified : Bool)
  | settlementPending (event : PaySettlementEvent) (observedPaymentBaseUnits : Option Int)
  deriving DecidableEq

def bad (code reason : String) : Refusal := .rejected 400 code reason

/-! ## Validation -/

def isBase58Char (char : Char) : Bool :=
  char ∈ "123456789ABCDEFGHJKLMNPQRSTUVWXYZabcdefghijkmnopqrstuvwxyz".toList

def solPubkey (text : String) : Bool :=
  text.toList.all isBase58Char && 32 ≤ text.length && text.length ≤ 44

def solSignature (text : String) : Bool :=
  text.toList.all isBase58Char && 64 ≤ text.length && text.length ≤ 90

def usdcMints : List String :=
  ["EPjFWdd5AufqSSqeM2qN1xzybapC8G4wEGGkZwyTDt1v",
    "4zMMC9srt5Ri5X14GAgXhaHii3GnPAEERYPJgZJDncDU"]

structure Registration where
  agent : String
  payee : Option String
  paymentSignature : Option String
  resource : String
  asset : String
  amountBaseUnits : Int
  verdict : Verdict
  latencyMs : Int

/-- A property of the body; reading one of `null` throws. -/
def field (body : Json) (name : String) : Except Refusal (Option Json) :=
  okOr (body.property name) .threw

def text (test : String → Bool) (error : Refusal) : Option Json → Except Refusal String
  | some (.string value) => if test value then .ok value else .error error
  | _ => .error error

def optionalText (test : String → Bool) (error : Refusal) :
    Option Json → Except Refusal (Option String)
  | none | some .null => .ok none
  | some (.string value) =>
      if value = "" then .ok none else if test value then .ok (some value) else .error error
  | _ => .error error

def latencyOf : Option Json → Int
  | some (.number value) => if 0 ≤ value then value.floor else 0
  | _ => 0

def validate (ctx : Context) (call : RegisterCall) : Except Refusal Registration := do
  let verifiedAgent ← okOr (call.verifiedAgent.filter fun agent => agent ≠ "")
    (.rejected 401 "pact_auth_missing" "missing authenticated agent")
  let body ← okOr call.body (bad "bad_json" "request body is not valid JSON")
  let agent ← text solPubkey (bad "bad_agent" "agent must be a base58 Solana pubkey")
    (← field body "agent")
  failIf (agent ≠ verifiedAgent)
    (.rejected 401 "agent_mismatch" "x-pact-agent header does not match body.agent")
  let agentKey ← okOr (ctx.crypto.bs58Decode agent)
    (bad "bad_agent" "agent pubkey is not valid base58")
  failIf (agentKey.length ≠ 32) (bad "bad_agent" "agent pubkey is not 32 bytes")
  let payee ← optionalText solPubkey
    (bad "bad_payee" "payee, when present, must be a base58 Solana pubkey") (← field body "payee")
  let paymentSignature ← optionalText solSignature
    (bad "bad_payment_signature"
      "paymentSignature, when present, must be a base58 Solana tx signature")
    (← field body "paymentSignature")
  let resource ← text (fun value => value ≠ "" && value.length ≤ 2048)
    (bad "bad_resource" "resource must be a non-empty string (<=2048 chars)")
    (← field body "resource")
  let _ ← text (fun value => value = "x402" || value = "mpp")
    (bad "bad_scheme" "scheme must be \"x402\" or \"mpp\"") (← field body "scheme")
  let asset ← text (fun value => value ∈ usdcMints)
    (bad "unsupported_asset" "asset must be a supported USDC mint") (← field body "asset")
  failIf (asset ≠ ctx.usdcMint)
    (bad "asset_network_mismatch" (s!"asset {asset} is not the USDC mint configured for " ++
      s!"this facilitator ({ctx.usdcMint})"))
  let amountBaseUnits ← okOr (ctx.amountOf (← field body "amountBaseUnits"))
    (bad "bad_amount" "amountBaseUnits must be an integer string")
  failIf (amountBaseUnits ≤ 0) (bad "bad_amount" "amountBaseUnits must be > 0")
  let unknownVerdict := bad "bad_verdict" "verdict is not a recognised classifier verdict"
  let verdict ← okOr (Verdict.ofText (← text (fun _ => true) unknownVerdict
    (← field body "verdict"))) unknownVerdict
  let latencyMs ← field body "latencyMs"
  pure ⟨agent, payee, paymentSignature, resource, asset, amountBaseUnits, verdict,
    latencyOf latencyMs⟩

/-! ## The route -/

def Registration.payment (registration : Registration) : Option (String × String) :=
  match registration.payee, registration.paymentSignature with
  | some payee, some paymentSignature => some (payee, paymentSignature)
  | _, _ => none

/-- The id of the coverage and the payment observed, if one is cited. -/
def identify (ctx : Context) (meets : Surroundings) (registration : Registration) :
    Except Refusal (String × Option Int) :=
  match registration.payment with
  | none => .ok (randomCoverageId meets.randomBytes, none)
  | some (payee, paymentSignature) =>
      match verifyPayment meets.transaction payee registration.asset
          registration.amountBaseUnits with
      | .error reason =>
          .error (.rejected 422 ("payment_" ++ reason) ("payment verification failed: " ++ reason))
      | .ok observed =>
          .ok (deriveCoverageId ctx.crypto payee registration.resource paymentSignature,
            some observed)

def poolSlugFor (_payee _resource defaultSlug : String) : String := defaultSlug

def readPoolConfig (ctx : Context) (row : Option PoolConfigRow) : PoolConfigRow :=
  row.getD ⟨ctx.payDefaults.toEconomicsPool, ctx.payDefaults.slug, false⟩

def economics (ctx : Context) (meets : Surroundings) (registration : Registration) : Economics :=
  computeCoverage (verdictToOutcome registration.verdict)
    (readPoolConfig ctx meets.poolRow).toEconomicsPool registration.amountBaseUnits

def declined (ctx : Context) (meets : Surroundings) (refundLamports : Int) : Option String :=
  if ctx.payDefaults.attestationGateMode = .enforce ∧ 0 < refundLamports then
    meets.stats.bind fun stats => evaluateClientAttestation refundLamports stats
      { defaultThresholds with
        perAgentRefundCapLamportsPerWindow :=
          perAgentRefundCapFor (readPoolConfig ctx meets.poolRow).toEconomicsPool }
  else none

def settlementEvent (ctx : Context) (meets : Surroundings) (registration : Registration)
    (coverageId : String) : PaySettlementEvent where
  callId := coverageId
  agentPubkey := registration.agent
  endpointSlug := poolSlugFor ((registration.payment.map Prod.fst).getD "") registration.resource
    ctx.payDefaults.slug
  premiumLamports := (economics ctx meets registration).premiumLamports
  refundLamports := (economics ctx meets registration).refundLamports
  latencyMs := registration.latencyMs
  outcome := (economics ctx meets registration).outcome
  ts := meets.ts
  source := "pay.sh"
  verified := registration.payment.isSome
  payee := registration.payment.map Prod.fst
  resource := registration.resource
  coverageId := coverageId
  verdictSource := "client_attested"

def coverageDecision (ctx : Context) (meets : Surroundings) (registration : Registration)
    (coverageId : String) (observed : Option Int) : Reply :=
  let verified := registration.payment.isSome
  let math := economics ctx meets registration
  if (readPoolConfig ctx meets.poolRow).paused then .uncovered coverageId 0 "pool_paused" verified
  else if math.covered = false then .uncovered coverageId 0 "not_covered_outcome" verified
  else
    match meets.allowance with
    | none =>
        .uncovered coverageId math.premiumLamports "allowance_check_unavailable" verified
    | some allowance =>
        if allowance.eligible = false then
          .uncovered coverageId math.premiumLamports
            (if allowance.reason = "insufficient_allowance" || allowance.reason = "no_ata" then
              "no_allowance" else "insufficient_balance") verified
        else
          match declined ctx meets math.refundLamports with
          | some reason => .uncovered coverageId 0 ("attestation_throttled_" ++ reason) verified
          | none =>
              .settlementPending (settlementEvent ctx meets registration coverageId) observed

def registerCoverageRoute (ctx : Context) (call : RegisterCall) : Reply :=
  match validate ctx call with
  | .error refusal => .refused refusal
  | .ok registration =>
      match identify ctx call.meets registration with
      | .error refusal => .refused refusal
      | .ok (coverageId, observed) => coverageDecision ctx call.meets registration coverageId observed

def published (ctx : Context) (call : RegisterCall) : Option PaySettlementEvent :=
  match registerCoverageRoute ctx call with
  | .settlementPending event _ => some event
  | .refused _ | .uncovered _ _ _ _ => none

/-! ## What is published -/

def RegisterCall.cites (call : RegisterCall) (name value : String) : Prop :=
  ∃ body, call.body = some body ∧ body.property name = some (some (.string value))

theorem textField_eq_ok {test : String → Bool} {error : Refusal} {value : Option Json}
    {result : String} (read : text test error value = .ok result) :
    value = some (.string result) := by
  unfold text at read
  split at read
  · split at read
    · cases read
      rfl
    · cases read
  · cases read

theorem optionalText_of_string {test : String → Bool} {error : Refusal} {value : String}
    {result : Option String} (given : value ≠ "")
    (read : optionalText test error (some (.string value)) = .ok result) :
    result = some value := by
  rw [optionalText, if_neg given] at read
  split at read
  · cases read
    rfl
  · cases read

theorem field_eq_ok {body : Json} {name : String} {value : Option Json} :
    field body name = .ok value ↔ body.property name = some value := by
  rw [field, okOr_eq_ok]

theorem validate_cites {ctx : Context} {call : RegisterCall} {registration : Registration}
    (valid : validate ctx call = .ok registration) :
    call.cites "resource" registration.resource ∧
      (∀ payee, call.cites "payee" payee → payee ≠ "" → registration.payee = some payee) ∧
      ∀ signature, call.cites "paymentSignature" signature → signature ≠ "" →
        registration.paymentSignature = some signature := by
  simp only [validate, bind_eq_ok, okOr_eq_ok, field_eq_ok, pure_eq_ok] at valid
  obtain ⟨_, _, body, found, _, _, _, _, _, _, _, _, _, _, payeeField, payeeRead, payee, payeeOk,
    signatureField, signatureRead, signature, signatureOk, resourceField, resourceRead, resource,
    resourceOk, _, _, _, _, _, _, asset, _, _, _, _, _, amount, _, _, _, _, _, _, _, verdict, _, _,
    _, rfl⟩ := valid
  refine ⟨⟨body, found, ?_⟩, ?_, ?_⟩
  · rw [resourceRead, textField_eq_ok resourceOk]
  · rintro given ⟨other, same, names⟩ present
    cases found.symm.trans same
    cases payeeRead.symm.trans names
    exact optionalText_of_string present payeeOk
  · rintro given ⟨other, same, names⟩ present
    cases found.symm.trans same
    cases signatureRead.symm.trans names
    exact optionalText_of_string present signatureOk

/-- A call whose receipt is valid and paid for, to a pool that is live, for an outcome
that is covered, by an agent with an allowance whom the gate does not decline. -/
structure Insured (ctx : Context) (call : RegisterCall) (registration : Registration) : Prop where
  valid : validate ctx call = .ok registration
  paid : ∀ payee paymentSignature, registration.payment = some (payee, paymentSignature) →
    ∃ observed, verifyPayment call.meets.transaction payee registration.asset
      registration.amountBaseUnits = .ok observed
  live : (readPoolConfig ctx call.meets.poolRow).paused = false
  covered : verdictToOutcome registration.verdict ≠ .clientError
  allowed : ∃ allowance, call.meets.allowance = some allowance ∧ allowance.eligible = true
  admitted : declined ctx call.meets (economics ctx call.meets registration).refundLamports = none

theorem covered_economics {ctx : Context} {meets : Surroundings} {registration : Registration} :
    (economics ctx meets registration).covered = true ↔
      verdictToOutcome registration.verdict ≠ .clientError := by
  rw [economics, computeCoverage, computeEconomics]
  split
  · rename_i client
    simp [client]
  · rename_i charged
    simp [charged]

theorem coverageDecision_pending {ctx : Context} {meets : Surroundings}
    {registration : Registration} {coverageId : String} {observed seen : Option Int}
    {event : PaySettlementEvent} :
    coverageDecision ctx meets registration coverageId observed = .settlementPending event seen ↔
      (readPoolConfig ctx meets.poolRow).paused = false ∧
        verdictToOutcome registration.verdict ≠ .clientError ∧
        (∃ allowance, meets.allowance = some allowance ∧ allowance.eligible = true) ∧
        declined ctx meets (economics ctx meets registration).refundLamports = none ∧
        event = settlementEvent ctx meets registration coverageId ∧ seen = observed := by
  rw [← @covered_economics ctx meets registration]
  unfold coverageDecision
  dsimp only
  cases (readPoolConfig ctx meets.poolRow).paused with
  | true => simp
  | false =>
      cases (economics ctx meets registration).covered with
      | false => simp
      | true =>
          cases meets.allowance with
          | none => simp
          | some allowance =>
              cases eligible : allowance.eligible with
              | false => simp [eligible]
              | true =>
                  cases declined ctx meets (economics ctx meets registration).refundLamports with
                  | some reason => simp [eligible]
                  | none =>
                      simp only [eligible, Bool.false_eq_true, Bool.true_eq_false, if_false,
                        Reply.settlementPending.injEq]
                      constructor
                      · rintro ⟨rfl, rfl⟩
                        exact ⟨trivial, trivial, ⟨allowance, rfl, eligible⟩, trivial, rfl, rfl⟩
                      · rintro ⟨-, -, -, -, rfl, rfl⟩
                        exact ⟨rfl, rfl⟩

theorem identify_of_payment {ctx : Context} {meets : Surroundings} {registration : Registration}
    {payee paymentSignature coverageId : String} {observed : Option Int}
    (cites : registration.payment = some (payee, paymentSignature)) :
    identify ctx meets registration = .ok (coverageId, observed) ↔
      ∃ amount, verifyPayment meets.transaction payee registration.asset
          registration.amountBaseUnits = .ok amount ∧
        coverageId = deriveCoverageId ctx.crypto payee registration.resource paymentSignature ∧
        observed = some amount := by
  rw [identify, cites]
  dsimp only
  cases verifyPayment meets.transaction payee registration.asset registration.amountBaseUnits with
  | error reason => simp
  | ok amount =>
      constructor
      · rintro ⟨⟩
        exact ⟨amount, rfl, rfl, rfl⟩
      · rintro ⟨_, ⟨⟩, rfl, rfl⟩
        rfl

theorem published_eq_some {ctx : Context} {call : RegisterCall} {payee paymentSignature : String}
    (payeeGiven : payee ≠ "") (signatureGiven : paymentSignature ≠ "")
    (citesPayee : call.cites "payee" payee)
    (citesSignature : call.cites "paymentSignature" paymentSignature)
    {event : PaySettlementEvent} : published ctx call = some event ↔ ∃ registration,
      Insured ctx call registration ∧ event = settlementEvent ctx call.meets registration
        (deriveCoverageId ctx.crypto payee registration.resource paymentSignature) := by
  have payment : ∀ registration, validate ctx call = .ok registration →
      registration.payment = some (payee, paymentSignature) := by
    intro registration valid
    obtain ⟨-, payees, signatures⟩ := validate_cites valid
    rw [Registration.payment, payees payee citesPayee payeeGiven,
      signatures paymentSignature citesSignature signatureGiven]
  have pending : published ctx call = some event ↔ ∃ seen,
      registerCoverageRoute ctx call = .settlementPending event seen := by
    unfold published
    cases registerCoverageRoute ctx call with
    | settlementPending made seen => simp
    | refused refusal => simp
    | uncovered id premium reason verified => simp
  rw [pending]
  unfold registerCoverageRoute
  constructor
  · rintro ⟨seen, answered⟩
    split at answered
    · cases answered
    · rename_i registration valid
      split at answered
      · cases answered
      · rename_i coverageId observed identified
        obtain ⟨amount, paid, rfl, rfl⟩ :=
          (identify_of_payment (payment registration valid)).mp identified
        obtain ⟨live, covered, allowed, admitted, made, -⟩ := coverageDecision_pending.mp answered
        refine ⟨registration, ⟨valid, ?_, live, covered, allowed, admitted⟩, made⟩
        intro other signature same
        cases (payment registration valid).symm.trans same
        exact ⟨amount, paid⟩
  · rintro ⟨registration, insured, made⟩
    have cites := payment registration insured.valid
    obtain ⟨amount, paid⟩ := insured.paid payee paymentSignature cites
    refine ⟨some amount, ?_⟩
    rw [insured.valid]
    dsimp only
    rw [(identify_of_payment cites).mpr ⟨amount, paid, rfl, rfl⟩]
    exact coverageDecision_pending.mpr ⟨insured.live, insured.covered, insured.allowed,
      insured.admitted, made, rfl⟩

/-! ## One payment -/

def OneId (ctx : Context) (calls : List RegisterCall) : Prop :=
  ∀ first ∈ calls.filterMap (published ctx), ∀ second ∈ calls.filterMap (published ctx),
    first.callId = second.callId

/-- Calls that cite one payment are published under one id exactly if those that are
insured name one resource, unless two of the hashes at hand collide. -/
theorem insured_once {ctx : Context} {calls : List RegisterCall}
    {payee paymentSignature : String} (payeeGiven : payee ≠ "")
    (signatureGiven : paymentSignature ≠ "")
    (cites : ∀ call ∈ calls, call.cites "payee" payee ∧
      call.cites "paymentSignature" paymentSignature)
    (collisionFree : ∀ first ∈ calls, ∀ second ∈ calls, ∀ one other,
      first.cites "resource" one → second.cites "resource" other →
        deriveCoverageId ctx.crypto payee one paymentSignature =
          deriveCoverageId ctx.crypto payee other paymentSignature → one = other) :
    OneId ctx calls ↔ ∀ first ∈ calls, ∀ second ∈ calls, ∀ one other,
      Insured ctx first one → Insured ctx second other → one.resource = other.resource := by
  have made : ∀ call ∈ calls, ∀ event, published ctx call = some event ↔ ∃ registration,
      Insured ctx call registration ∧ event = settlementEvent ctx call.meets registration
        (deriveCoverageId ctx.crypto payee registration.resource paymentSignature) :=
    fun call member event => published_eq_some payeeGiven signatureGiven (cites call member).1
      (cites call member).2
  constructor
  · intro same first inFirst second inSecond one other insured insured'
    have left := List.mem_filterMap.mpr ⟨first, inFirst,
      (made first inFirst _).mpr ⟨one, insured, rfl⟩⟩
    have right := List.mem_filterMap.mpr ⟨second, inSecond,
      (made second inSecond _).mpr ⟨other, insured', rfl⟩⟩
    exact collisionFree first inFirst second inSecond _ _ (validate_cites insured.valid).1
      (validate_cites insured'.valid).1 (same _ left _ right)
  · intro same left inLeft right inRight
    obtain ⟨first, inFirst, publishes⟩ := List.mem_filterMap.mp inLeft
    obtain ⟨second, inSecond, publishes'⟩ := List.mem_filterMap.mp inRight
    obtain ⟨one, insured, rfl⟩ := (made first inFirst left).mp publishes
    obtain ⟨other, insured', rfl⟩ := (made second inSecond right).mp publishes'
    have resource := same first inFirst second inSecond one other insured insured'
    exact congrArg (deriveCoverageId ctx.crypto payee · paymentSignature) resource

namespace Demo

def agent : String := "9xQeWvG816bUx9EPjHmaT23yvVM2ZWbrrpZb9PusVFin"

def merchant : String := "4zMMC9srt5Ri5X14GAgXhaHii3GnPAEERYPJgZJDncDU"

def mint : String := "4zMMC9srt5Ri5X14GAgXhaHii3GnPAEERYPJgZJDncDU"

def paid : String := String.ofList (List.replicate 64 '5')

def hashed (resource : String) : List UInt8 :=
  encode ("pay.sh\n" ++ merchant ++ "\n" ++ resource ++ "\n" ++ paid)

/-- The hashes of the two receipts, and the agent's key. -/
def crypto : Crypto where
  sha256 bytes :=
    if bytes = hashed "https://api.demo/a" then
      [208, 147, 72, 88, 49, 29, 167, 22, 20, 33, 60, 89, 157, 93, 138, 105, 120, 49, 252, 23, 70,
        137, 6, 121, 157, 197, 67, 214, 29, 122, 64, 28]
    else
      [183, 87, 200, 199, 152, 14, 24, 18, 82, 54, 113, 238, 18, 112, 103, 42, 44, 219, 117, 172,
        17, 216, 11, 236, 134, 124, 213, 15, 29, 222, 162, 58]
  bs58Encode _ := ""
  bs58Decode text := if text = agent then some (List.replicate 32 7) else none
  detachedVerify _ _ _ := false

def ctx : Context where
  crypto := crypto
  amountOf value :=
    match value with
    | some (.string "500000") => some 500000
    | _ => none
  usdcMint := mint
  payDefaults := ⟨⟨1000, 1000000⟩, "pay-default", .off⟩

def receipt (resource : String) : Json :=
  .object [("agent", .string agent), ("payee", .string merchant), ("resource", .string resource),
    ("scheme", .string "x402"), ("paymentSignature", .string paid),
    ("amountBaseUnits", .string "500000"), ("asset", .string mint),
    ("verdict", .string "server_error")]

/-- The merchant received the payment, and the agent has an allowance. -/
def meets : Surroundings where
  transaction := .found ⟨false, [⟨1, mint, some merchant, 0⟩], [⟨1, mint, some merchant, 500000⟩]⟩
  poolRow := none
  allowance := some ⟨true, ""⟩
  stats := none
  randomBytes := []
  ts := "2026"

def call (resource : String) : RegisterCall := ⟨some agent, some (receipt resource), meets⟩

theorem call_cites (resource : String) : (call resource).cites "payee" merchant ∧
    (call resource).cites "paymentSignature" paid :=
  ⟨⟨receipt resource, rfl, rfl⟩, ⟨receipt resource, rfl, rfl⟩⟩

theorem insured_once_demo : OneId ctx [call "https://api.demo/a", call "https://api.demo/a"] ↔
    ∀ first ∈ [call "https://api.demo/a", call "https://api.demo/a"],
      ∀ second ∈ [call "https://api.demo/a", call "https://api.demo/a"], ∀ one other,
        Insured ctx first one → Insured ctx second other → one.resource = other.resource := by
  have both : ∀ made ∈ [call "https://api.demo/a", call "https://api.demo/a"],
      made = call "https://api.demo/a" := by
    intro made member
    simpa using member
  refine @insured_once ctx _ merchant paid (by decide) (by decide) ?_ ?_
  · intro made member
    rw [both made member]
    exact call_cites _
  · rintro first inFirst second inSecond one other ⟨body, given, names⟩ ⟨body', given', names'⟩ -
    rw [both first inFirst] at given
    rw [both second inSecond] at given'
    cases given
    cases given'
    exact Json.string.inj (Option.some.inj (Option.some.inj (names.symm.trans names')))

/-- Both receipts of one payment are insured, under two ids. -/
theorem not_insured_once :
    ¬∀ (calls : List RegisterCall) (payee paymentSignature : String),
      (∀ made ∈ calls, made.cites "payee" payee ∧
        made.cites "paymentSignature" paymentSignature) → OneId ctx calls := by
  intro claim
  have same : OneId ctx [call "https://api.demo/a", call "https://api.demo/b"] := by
    refine claim _ merchant paid fun made member => ?_
    rcases List.mem_pair.mp member with rfl | rfl
    · exact call_cites _
    · exact call_cites _
  have ids : ([call "https://api.demo/a", call "https://api.demo/b"].filterMap
      (published ctx)).map PaySettlementEvent.callId =
        ["d0934858-311d-4716-9421-3c599d5d8a69", "b757c8c7-980e-4812-9236-71ee1270672a"] := by
    decide +kernel
  have all : ∀ first ∈ ["d0934858-311d-4716-9421-3c599d5d8a69",
      "b757c8c7-980e-4812-9236-71ee1270672a"], ∀ second ∈ ["d0934858-311d-4716-9421-3c599d5d8a69",
        "b757c8c7-980e-4812-9236-71ee1270672a"], first = second := by
    rw [← ids]
    intro first inFirst second inSecond
    obtain ⟨left, inLeft, rfl⟩ := List.mem_map.mp inFirst
    obtain ⟨right, inRight, rfl⟩ := List.mem_map.mp inSecond
    exact same left inLeft right inRight
  exact absurd all (by decide)

end Demo

end PactNetwork.Coverage.Facilitator
