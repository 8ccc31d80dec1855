import PactNetwork.Requests.GoldenFetch

/-!
# The economics of a call

What a classified call costs and what it pays back: the shared formula, the
gateway's classifiers with the plugin of one provider, and the facilitator's
adapter over the formula.
-/

set_option autoImplicit false

namespace PactNetwork.Coverage

open Requests (Json)
open Requests.Sdk (Response)

inductive Outcome
  | ok
  | latencyBreach
  | serverError
  | clientError
  | networkError
  deriving DecidableEq

def Outcome.text : Outcome → String
  | .ok => "ok"
  | .latencyBreach => "latency_breach"
  | .serverError => "server_error"
  | .clientError => "client_error"
  | .networkError => "network_error"

/-! ## The formula -/

/-- The configuration of a pool, in lamports of the settlement mint. -/
structure EconomicsPool where
  flatPremiumLamports : Int
  imputedCostLamports : Int

structure Economics where
  outcome : Outcome
  premiumLamports : Int
  refundLamports : Int
  covered : Bool
  deriving DecidableEq

def isCoveredBreach : Outcome → Bool
  | .latencyBreach | .serverError | .networkError => true
  | .ok | .clientError => false

def principal (pool : EconomicsPool) (amountPaid : Option Int) : Int :=
  let requested := amountPaid.getD pool.imputedCostLamports
  if requested < 0 then 0
  else if pool.imputedCostLamports < requested then pool.imputedCostLamports
  else requested

def computeEconomics (outcome : Outcome) (pool : EconomicsPool) (amountPaid : Option Int) :
    Economics :=
  if outcome = .clientError then ⟨outcome, 0, 0, false⟩
  else
    ⟨outcome, pool.flatPremiumLamports,
      if isCoveredBreach outcome then principal pool amountPaid + pool.flatPremiumLamports else 0,
      true⟩

/-! ## The facilitator -/

namespace Facilitator

inductive Verdict
  | success
  | ok
  | latencyBreach
  | serverError
  | networkError
  | clientError
  | paymentFailed
  deriving DecidableEq

def Verdict.ofText : String → Option Verdict
  | "success" => some .success
  | "ok" => some .ok
  | "latency_breach" => some .latencyBreach
  | "server_error" => some .serverError
  | "network_error" => some .networkError
  | "client_error" => some .clientError
  | "payment_failed" => some .paymentFailed
  | _ => none

def verdictToOutcome : Verdict → Outcome
  | .success | .ok => .ok
  | .latencyBreach => .latencyBreach
  | .serverError => .serverError
  | .networkError => .networkError
  | .clientError | .paymentFailed => .clientError

def computeCoverage (outcome : Outcome) (pool : EconomicsPool) (amountPaidBaseUnits : Int) :
    Economics :=
  computeEconomics outcome pool (some amountPaidBaseUnits)

end Facilitator

/-! ## The classifiers -/

inductive CoreCategory
  | success
  | slow
  | clientError
  | serverError
  | networkError
  | other
  deriving DecidableEq

def inClass (status hundreds : Nat) : Bool :=
  hundreds * 100 ≤ status && status ≤ hundreds * 100 + 99

def classifyHttpOutcome (statusCode : Option Nat) (latencyMs latencyThresholdMs : ℚ)
    (networkError : Bool) : CoreCategory :=
  match statusCode with
  | none => .networkError
  | some statusCode =>
      if networkError ∨ statusCode = 0 then .networkError
      else if inClass statusCode 5 then .serverError
      else if inClass statusCode 4 then .clientError
      else if inClass statusCode 2 then
        if latencyThresholdMs < latencyMs then .slow else .success
      else .other

structure EndpointConfig extends EconomicsPool where
  slaLatencyMs : ℚ

/-- A response, or none where the fetch failed, with the time it took. -/
structure ClassifierInput where
  response : Option Response
  latencyMs : ℚ
  endpointConfig : EndpointConfig

structure ClassifierResult where
  outcome : Outcome
  premium : Int
  refund : Int
  deriving DecidableEq

/-- The outcome of a category; whatever is neither a success nor an error is
charged as a success. -/
def CoreCategory.outcome : CoreCategory → Outcome
  | .networkError => .networkError
  | .serverError => .serverError
  | .clientError => .clientError
  | .slow => .latencyBreach
  | .success | .other => .ok

def defaultClassifier (input : ClassifierInput) : ClassifierResult :=
  let category := classifyHttpOutcome (input.response.map Response.status) input.latencyMs
    input.endpointConfig.slaLatencyMs input.response.isNone
  let econ := computeEconomics category.outcome input.endpointConfig.toEconomicsPool none
  ⟨econ.outcome, econ.premiumLamports, econ.refundLamports⟩

def composeWithDefault (pluginFn : ClassifierInput → Option ClassifierResult)
    (input : ClassifierInput) : ClassifierResult :=
  (pluginFn input).getD (defaultClassifier input)

def truthy : Json → Bool
  | .null => false
  | .bool value => value
  | .number value => value ≠ 0
  | .string value => value ≠ ""
  | .array _ => true
  | .object _ => true

def bodyError : Json → Option Json
  | .object fields => (fields.lookup "error").filter truthy
  | _ => none

def isServerCode : Option Json → Bool
  | some (.number code) => code = -32603 || (code ≤ -32000 && -32099 ≤ code)
  | _ => false

def errorCode (error : Json) : Option Json := (error.property "code").join

def heliusPlugin (body : Json) (input : ClassifierInput) : Option ClassifierResult :=
  match input.response with
  | none => none
  | some response =>
      let flat := input.endpointConfig.flatPremiumLamports
      let imputed := input.endpointConfig.imputedCostLamports
      if inClass response.status 2 then
        if input.endpointConfig.slaLatencyMs < input.latencyMs then
          some ⟨.latencyBreach, flat, imputed⟩
        else
          match bodyError body with
          | none => none
          | some error =>
              if isServerCode (errorCode error) then some ⟨.serverError, flat, imputed⟩
              else some ⟨.clientError, 0, 0⟩
      else none

def buildHeliusClassifier (body : Json) : ClassifierInput → ClassifierResult :=
  composeWithDefault (heliusPlugin body)

/-- A classifier of its own, or one that is built over the parsed body. -/
inductive ClassifierFactory
  | static (classifier : ClassifierInput → ClassifierResult)
  | needsBody (build : Json → ClassifierInput → ClassifierResult)

def ClassifierFactory.classifier (body : Json) :
    ClassifierFactory → ClassifierInput → ClassifierResult
  | .static classifier => classifier
  | .needsBody build => build body

def classifierRegistry : List (String × ClassifierFactory) :=
  [("helius", .needsBody buildHeliusClassifier), ("birdeye", .static defaultClassifier),
    ("jupiter", .static defaultClassifier), ("elfa", .static defaultClassifier),
    ("fal", .static defaultClassifier), ("moralis", .static defaultClassifier),
    ("covalent", .static defaultClassifier), ("dummy", .static defaultClassifier)]

/-! ## One economics -/

section Agreement

variable (body : Json) (input : ClassifierInput)

/-- A result charges and refunds what the formula says of its outcome, on the
gateway's path and on the facilitator's for a payment of the imputed cost. -/
structure OneEconomics (result : ClassifierResult) : Prop where
  gateway : computeEconomics result.outcome input.endpointConfig.toEconomicsPool none =
    ⟨result.outcome, result.premium, result.refund, result.outcome ≠ .clientError⟩
  facilitator : Facilitator.computeCoverage result.outcome input.endpointConfig.toEconomicsPool
      input.endpointConfig.imputedCostLamports =
    ⟨result.outcome, result.premium, result.refund, result.outcome ≠ .clientError⟩
  breach : isCoveredBreach result.outcome = true →
    result.refund =
      input.endpointConfig.imputedCostLamports + input.endpointConfig.flatPremiumLamports

def late : Bool := input.endpointConfig.slaLatencyMs < input.latencyMs

def statusBreach : Bool :=
  match input.response with
  | none => true
  | some response =>
      response.status = 0 || inClass response.status 5 || (inClass response.status 2 && late input)

def pluginBreach : Bool :=
  match input.response with
  | none => false
  | some response =>
      inClass response.status 2 &&
        (late input || (bodyError body).any fun error => isServerCode (errorCode error))

/-- The refund of the imputed cost, charged for nothing, is the whole refund only
where the premium is nothing; and a negative cost is not refunded. -/
structure Regular (slug : String) : Prop where
  plugin : slug = "helius" → pluginBreach body input = true →
    input.endpointConfig.flatPremiumLamports = 0
  cost : statusBreach input = true ∨ (slug = "helius" ∧ pluginBreach body input = true) →
    0 ≤ input.endpointConfig.imputedCostLamports

end Agreement

theorem principal_eq_imputed {pool : EconomicsPool} :
    principal pool none = pool.imputedCostLamports ↔ 0 ≤ pool.imputedCostLamports := by
  rw [principal, Option.getD_none]
  split
  case isTrue negative => omega
  case isFalse positive =>
    rw [if_neg (lt_irrefl _)]
    omega

variable {body : Json} {input : ClassifierInput}

theorem oneEconomics_formula {outcome : Outcome} :
    OneEconomics input
      ⟨outcome, (computeEconomics outcome input.endpointConfig.toEconomicsPool none).premiumLamports,
        (computeEconomics outcome input.endpointConfig.toEconomicsPool none).refundLamports⟩ ↔
      (isCoveredBreach outcome = true → 0 ≤ input.endpointConfig.imputedCostLamports) := by
  constructor
  · intro one breached
    have refund := one.breach breached
    have charged : outcome ≠ .clientError := by
      rintro rfl
      cases breached
    dsimp only at refund
    rw [computeEconomics, if_neg charged, breached, if_pos rfl] at refund
    exact principal_eq_imputed.mp (add_right_cancel refund)
  · intro positive
    have same : computeEconomics outcome input.endpointConfig.toEconomicsPool none =
        ⟨outcome,
          (computeEconomics outcome input.endpointConfig.toEconomicsPool none).premiumLamports,
          (computeEconomics outcome input.endpointConfig.toEconomicsPool none).refundLamports,
          outcome ≠ .clientError⟩ := by
      rw [computeEconomics]
      split <;> simp [*]
    refine ⟨same, same, fun breached => ?_⟩
    have charged : outcome ≠ .clientError := by
      rintro rfl
      cases breached
    dsimp only
    rw [computeEconomics, if_neg charged, breached, if_pos rfl,
      principal_eq_imputed.mpr (positive breached)]

theorem inClass_unique {status first second : Nat} (one : inClass status first = true)
    (other : inClass status second = true) : first = second := by
  simp only [inClass, Bool.and_eq_true, decide_eq_true_eq] at one other
  omega

theorem isCoveredBreach_default :
    isCoveredBreach (defaultClassifier input).outcome = statusBreach input := by
  have formula : ∀ outcome pool amount,
      (computeEconomics outcome pool amount).outcome = outcome := by
    intro outcome pool amount
    rw [computeEconomics]
    split <;> rfl
  rw [defaultClassifier]
  dsimp only
  rw [formula, statusBreach]
  cases input.response with
  | none => rfl
  | some response =>
      simp only [Option.map_some, Option.isNone_some, classifyHttpOutcome, Bool.false_eq_true,
        false_or]
      by_cases absent : response.status = 0
      · simp [absent, CoreCategory.outcome, isCoveredBreach]
      · rw [if_neg absent]
        cases five : inClass response.status 5 with
        | true => simp [CoreCategory.outcome, isCoveredBreach]
        | false =>
            cases four : inClass response.status 4 with
            | true =>
                have two : inClass response.status 2 = false := by
                  rw [Bool.eq_false_iff]
                  intro two
                  cases inClass_unique four two
                simp [absent, two, CoreCategory.outcome, isCoveredBreach]
            | false =>
                cases two : inClass response.status 2 with
                | false => simp [absent, CoreCategory.outcome, isCoveredBreach]
                | true =>
                    by_cases slow : input.endpointConfig.slaLatencyMs < input.latencyMs <;>
                      simp [absent, late, slow, CoreCategory.outcome, isCoveredBreach]

theorem oneEconomics_default :
    OneEconomics input (defaultClassifier input) ↔
      (statusBreach input = true → 0 ≤ input.endpointConfig.imputedCostLamports) := by
  rw [← isCoveredBreach_default]
  have made : ∀ outcome, (defaultClassifier input).outcome = outcome →
      defaultClassifier input = ⟨outcome,
        (computeEconomics outcome input.endpointConfig.toEconomicsPool none).premiumLamports,
        (computeEconomics outcome input.endpointConfig.toEconomicsPool none).refundLamports⟩ := by
    rintro outcome rfl
    rw [defaultClassifier]
    dsimp only
    rw [computeEconomics]
    split
    case isTrue client => simp [client, computeEconomics]
    case isFalse charged => simp [charged, computeEconomics]
  rw [made _ rfl]
  exact oneEconomics_formula

theorem oneEconomics_imputed {outcome : Outcome} (breached : isCoveredBreach outcome = true) :
    OneEconomics input ⟨outcome, input.endpointConfig.flatPremiumLamports,
        input.endpointConfig.imputedCostLamports⟩ ↔
      input.endpointConfig.flatPremiumLamports = 0 ∧
        0 ≤ input.endpointConfig.imputedCostLamports := by
  have charged : outcome ≠ .clientError := by
    rintro rfl
    cases breached
  have formula : computeEconomics outcome input.endpointConfig.toEconomicsPool none =
      ⟨outcome, input.endpointConfig.flatPremiumLamports,
        principal input.endpointConfig.toEconomicsPool none +
          input.endpointConfig.flatPremiumLamports, true⟩ := by
    rw [computeEconomics, if_neg charged, breached, if_pos rfl]
  constructor
  · intro one
    have free : input.endpointConfig.flatPremiumLamports = 0 := by
      have refund := one.breach breached
      dsimp only at refund
      omega
    have gateway := congrArg Economics.refundLamports one.gateway
    rw [formula, free, add_zero] at gateway
    exact ⟨free, principal_eq_imputed.mp gateway⟩
  · rintro ⟨free, positive⟩
    have whole : computeEconomics outcome input.endpointConfig.toEconomicsPool none =
        ⟨outcome, input.endpointConfig.flatPremiumLamports,
          input.endpointConfig.imputedCostLamports, outcome ≠ .clientError⟩ := by
      rw [formula, principal_eq_imputed.mpr positive, free, add_zero]
      simp [charged]
    exact ⟨whole, whole, fun _ => by dsimp only; omega⟩

theorem oneEconomics_clientError : OneEconomics input ⟨.clientError, 0, 0⟩ :=
  ⟨rfl, rfl, fun breached => by cases breached⟩

theorem oneEconomics_helius :
    OneEconomics input (buildHeliusClassifier body input) ↔ Regular body input "helius" := by
  -- The plugin decides, or it leaves the answer to the default rules.
  have plugged : ∀ {outcome}, isCoveredBreach outcome = true → pluginBreach body input = true →
      (OneEconomics input ⟨outcome, input.endpointConfig.flatPremiumLamports,
        input.endpointConfig.imputedCostLamports⟩ ↔ Regular body input "helius") := by
    intro outcome breached plugin
    rw [oneEconomics_imputed breached]
    exact ⟨fun ⟨free, positive⟩ => ⟨fun _ _ => free, fun _ => positive⟩,
      fun regular => ⟨regular.plugin rfl plugin, regular.cost (.inr ⟨rfl, plugin⟩)⟩⟩
  have fallback : pluginBreach body input = false →
      (OneEconomics input (defaultClassifier input) ↔ Regular body input "helius") := by
    intro plugin
    rw [oneEconomics_default]
    constructor
    · intro positive
      refine ⟨fun _ breached => ?_, ?_⟩
      · rw [plugin] at breached
        cases breached
      · rintro (status | ⟨-, breached⟩)
        · exact positive status
        · rw [plugin] at breached
          cases breached
    · exact fun regular status => regular.cost (.inl status)
  unfold buildHeliusClassifier composeWithDefault heliusPlugin
  cases answered : input.response with
  | none => exact fallback (by rw [pluginBreach, answered])
  | some response =>
      dsimp only
      cases two : inClass response.status 2 with
      | false => exact fallback (by simp [pluginBreach, answered, two])
      | true =>
          by_cases slow : input.endpointConfig.slaLatencyMs < input.latencyMs
          · have breached : isCoveredBreach .latencyBreach = true := rfl
            rw [if_pos rfl, if_pos slow]
            exact plugged breached (by simp [pluginBreach, answered, two, late, slow])
          · rw [if_pos rfl, if_neg slow]
            cases fault : bodyError body with
            | none => exact fallback (by simp [pluginBreach, answered, two, late, slow, fault])
            | some error =>
                dsimp only
                cases server : isServerCode (errorCode error) with
                | true =>
                    have breached : isCoveredBreach .serverError = true := rfl
                    rw [if_pos rfl]
                    exact plugged breached (by simp [pluginBreach, answered, two, fault, server])
                | false =>
                    rw [if_neg Bool.false_ne_true]
                    have plugin : pluginBreach body input = false := by
                      simp [pluginBreach, answered, two, late, slow, fault, server]
                    have zero : response.status ≠ 0 := by
                      intro zero
                      rw [zero] at two
                      cases two
                    have five : inClass response.status 5 = false := by
                      rw [Bool.eq_false_iff]
                      intro five
                      cases inClass_unique two five
                    have status : statusBreach input = false := by
                      simp [statusBreach, answered, zero, five, two, late, slow]
                    refine iff_of_true oneEconomics_clientError ⟨fun _ breached => ?_, ?_⟩
                    · rw [plugin] at breached
                      cases breached
                    · rintro (breached | ⟨-, breached⟩)
                      · rw [status] at breached
                        cases breached
                      · rw [plugin] at breached
                        cases breached

/-- Every classifier of the registry agrees with the formula, but the plugin where
it refunds a breach itself and a premium was charged. -/
theorem one_economics (slug : String) (factory : ClassifierFactory)
    (registered : (slug, factory) ∈ classifierRegistry) (body : Json) (input : ClassifierInput) :
    OneEconomics input (factory.classifier body input) ↔ Regular body input slug := by
  have static : slug ≠ "helius" →
      (OneEconomics input (defaultClassifier input) ↔ Regular body input slug) := by
    intro other
    rw [oneEconomics_default]
    constructor
    · exact fun positive => ⟨fun same => absurd same other,
        fun breached => positive (breached.resolve_right fun plugin => other plugin.1)⟩
    · exact fun regular status => regular.cost (.inl status)
  simp only [classifierRegistry, List.mem_cons, List.not_mem_nil, or_false, Prod.mk.injEq]
    at registered
  rcases registered with ⟨rfl, rfl⟩ | registered
  · exact oneEconomics_helius
  · rcases registered with ⟨rfl, rfl⟩ | ⟨rfl, rfl⟩ | ⟨rfl, rfl⟩ | ⟨rfl, rfl⟩ | ⟨rfl, rfl⟩ |
      ⟨rfl, rfl⟩ | ⟨rfl, rfl⟩ <;> exact static (by decide)

namespace Demo

def config : EndpointConfig where
  flatPremiumLamports := 1000
  imputedCostLamports := 10000
  slaLatencyMs := 5000

def answer (status : Nat) : ClassifierInput where
  response := some ⟨status, [("content-type", "application/json")], none⟩
  latencyMs := 120
  endpointConfig := config

/-- A failed call of a provider without a plugin is refunded in full. -/
theorem one_economics_dummy : OneEconomics (answer 503) ⟨.serverError, 1000, 11000⟩ :=
  (one_economics "dummy" (.static defaultClassifier) (by simp [classifierRegistry]) .null
    (answer 503)).mpr ⟨fun same => absurd same (by decide), fun _ => by decide⟩

def internalError : Json := .object [("error", .object [("code", .number (-32603))])]

theorem not_one_economics :
    ¬ ∀ (slug : String) (factory : ClassifierFactory), (slug, factory) ∈ classifierRegistry →
      ∀ (body : Json) (input : ClassifierInput),
        OneEconomics input (factory.classifier body input) := by
  intro one
  have whole := one "helius" (.needsBody buildHeliusClassifier) List.mem_cons_self internalError
    (answer 200)
  have regular := oneEconomics_helius.mp whole
  exact absurd (regular.plugin rfl (by decide +kernel)) (by decide)

end Demo

end PactNetwork.Coverage
