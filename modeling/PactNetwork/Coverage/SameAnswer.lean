import PactNetwork.Coverage.PactHeaders

/-!
# An insured answer and an uninsured one

One request, once past the wrap and once through it, to a provider that answers
alike. The wrap reads the body as a text and builds the answer again from it.
-/

set_option autoImplicit false

namespace PactNetwork.Coverage.MarketProxy

open Requests (Headers Json JsonLibrary encode)
open Requests.Gateway (Context)
open Requests.Sdk (Response isPactHeader)

/-! ## The classifiers -/

section Classifiers

variable {slug : String} {factory : ClassifierFactory} {body : Json} {latencyMs : ℚ}
  {config : EndpointConfig} {response : Response}

theorem factory_cases (classified : classifierRegistry.lookup slug = some factory) :
    factory = .needsBody buildHeliusClassifier ∨ factory = .static defaultClassifier := by
  obtain ⟨before, after, split, -⟩ := List.lookup_eq_some_iff.mp classified
  have registered : (slug, factory) ∈ classifierRegistry := by
    rw [split]
    exact List.mem_append_right _ List.mem_cons_self
  simp only [classifierRegistry, List.mem_cons, List.not_mem_nil, or_false,
    Prod.mk.injEq] at registered
  rcases registered with ⟨-, rfl⟩ | ⟨-, rfl⟩ | ⟨-, rfl⟩ | ⟨-, rfl⟩ | ⟨-, rfl⟩ | ⟨-, rfl⟩ |
    ⟨-, rfl⟩ | ⟨-, rfl⟩
  · exact .inl rfl
  all_goals exact .inr rfl

theorem outcome_defaultClassifier (input : ClassifierInput) :
    (defaultClassifier input).outcome =
      (classifyHttpOutcome (input.response.map Response.status) input.latencyMs
        input.endpointConfig.slaLatencyMs input.response.isNone).outcome := by
  unfold defaultClassifier computeEconomics
  dsimp only
  split <;> rfl

theorem outcome_of_none (classified : classifierRegistry.lookup slug = some factory) :
    (factory.classifier body ⟨none, latencyMs, config⟩).outcome = .networkError := by
  cases factory_cases classified with
  | inl helius =>
      rw [helius]
      exact outcome_defaultClassifier _
  | inr plain =>
      rw [plain]
      exact outcome_defaultClassifier _

theorem classifier_congr {response' : Response}
    (classified : classifierRegistry.lookup slug = some factory)
    (same : response.status = response'.status) :
    factory.classifier body ⟨some response, latencyMs, config⟩ =
      factory.classifier body ⟨some response', latencyMs, config⟩ := by
  have plain : defaultClassifier ⟨some response, latencyMs, config⟩ =
      defaultClassifier ⟨some response', latencyMs, config⟩ := by
    simp only [defaultClassifier, Option.map_some, same, Option.isNone_some]
  cases factory_cases classified with
  | inl helius =>
      rw [helius]
      show composeWithDefault _ _ = composeWithDefault _ _
      simp only [composeWithDefault, heliusPlugin, same, plain]
  | inr static =>
      rw [static]
      exact plain

theorem outcome_of_some (classified : classifierRegistry.lookup slug = some factory)
    (low : 200 ≤ response.status) :
    (factory.classifier body ⟨some response, latencyMs, config⟩).outcome ≠ .networkError := by
  have plain : (defaultClassifier ⟨some response, latencyMs, config⟩).outcome ≠ .networkError := by
    have zero : ¬response.status = 0 := by omega
    rw [outcome_defaultClassifier]
    simp only [classifyHttpOutcome, Option.map_some, Option.isNone_some, Bool.false_eq_true,
      false_or, if_neg zero]
    split
    case isTrue => exact Outcome.noConfusion
    case isFalse =>
      split
      case isTrue => exact Outcome.noConfusion
      case isFalse =>
        split
        case isFalse => exact Outcome.noConfusion
        case isTrue => split <;> exact Outcome.noConfusion
  cases factory_cases classified with
  | inl helius =>
      rw [helius]
      show (composeWithDefault _ _).outcome ≠ _
      rw [composeWithDefault]
      cases plugged : heliusPlugin body ⟨some response, latencyMs, config⟩ with
      | none => exact plain
      | some result =>
          unfold heliusPlugin at plugged
          dsimp only at plugged
          split at plugged
          case isFalse => cases plugged
          case isTrue =>
            split at plugged
            case isTrue =>
              cases plugged
              exact Outcome.noConfusion
            case isFalse =>
              split at plugged
              case h_1 => cases plugged
              case h_2 =>
                split at plugged <;> (cases plugged; exact Outcome.noConfusion)
  | inr static =>
      rw [static]
      exact plain

end Classifiers

/-! ## The two ways of one call -/

section Ways

variable (library : JsonLibrary) (urls : UrlLibrary) (circumstances : Circumstances)
  (admission : Admission) (request : Context) (slug wallet : String)

def Circumstances.sending (circumstances : Circumstances) (response : Response) : Circumstances :=
  { circumstances with readable := true }.answering response

/-- What the classifier makes of an answer of the provider and the time it took. -/
def defined (factory : ClassifierFactory) (response : Response) : Outcome :=
  let buffered :=
    createBufferedFetch library { circumstances with readable := true } (some response)
  let opts := wrapOptions circumstances admission slug wallet factory buffered
  (factory.classifier buffered.parsedBody
    ⟨some response, (max 0 (opts.tEnd - opts.tStart) : Int), opts.endpointConfig⟩).outcome

/-- The insured answer has the status and the body of the other, and what is published
is the classifier's outcome and no network error. -/
structure SameAnswer (passed insured : Handled) (outcome : Outcome) : Prop where
  status : insured.answered.status = passed.answered.status
  body : insured.answered.body.getD [] = passed.answered.body.getD []
  published : insured.published.map SettlementEvent.outcome = [outcome]
  fetched : ∀ event ∈ insured.published, event.outcome ≠ .networkError

/-- The status goes with a body, and the body is a text without a byte order mark. -/
structure Textual (response : Response) : Prop where
  low : 200 ≤ response.status
  high : response.status ≤ 599
  solid : response.status ∉ nullBodyStatuses
  text : ∃ text, response.body.getD [] = encode text ∧ withoutMark text = text

variable {library urls circumstances admission request slug wallet} {response : Response}
  {factory : ClassifierFactory} {upstreamReq : UpstreamRequest}

theorem rewritten_iff {bytes : List UInt8} :
    encode (circumstances.decode bytes) = bytes ↔
      ∃ text, bytes = encode text ∧ withoutMark text = text := by
  constructor
  · intro same
    refine ⟨circumstances.decode bytes, same.symm, ?_⟩
    rw [← circumstances.decode_encode, same]
  · rintro ⟨text, rfl, unmarked⟩
    rw [circumstances.decode_encode, unmarked]

theorem buffers_iff : Buffers { circumstances with readable := true } response ↔
    200 ≤ response.status ∧ response.status ≤ 599 ∧ response.status ∉ nullBodyStatuses := by
  unfold Buffers newResponse
  dsimp only
  split
  case isTrue fits =>
    obtain ⟨low, high, absent | solid⟩ := fits
    · cases absent
    · exact iff_of_true ⟨rfl, rfl⟩ ⟨low, high, solid⟩
  case isFalse unfit =>
    refine iff_of_false (fun both => ?_) fun ⟨low, high, solid⟩ => unfit ⟨low, high, .inr solid⟩
    cases both.2

theorem covered_answer (covers : admission.Covers urls circumstances request wallet)
    (built : admission.handler.buildRequest request admission.endpoint.upstreamBase =
      some upstreamReq)
    (classified : classifierRegistry.lookup slug = some factory) :
    let handled := insured library urls (circumstances.answering response) admission request slug
      wallet
    handled.published.map SettlementEvent.outcome =
        [(verdict library circumstances admission slug wallet factory response).outcome] ∧
      ∀ found, (createBufferedFetch library circumstances (some response)).fetched = some found →
        handled.answered.status = found.status ∧ handled.answered.body = found.body := by
  intro handled
  have made : handled = _ := insured_of_covers covers built classified
  refine ⟨by rw [made]; rfl, fun found fetched => ?_⟩
  have buildable := fetched_buildable fetched
  obtain ⟨annotated, same⟩ : ∃ annotated, annotated = { found with
      headers := pactHeaders found.headers
        (pactInputs library circumstances admission slug wallet factory response) } := ⟨_, rfl⟩
  have attached : attachPactHeaders found
      (pactInputs library circumstances admission slug wallet factory response) =
        some annotated := by
    rw [same]
    exact newResponse_headers buildable _
  have buildable' : newResponse annotated = some annotated := by
    rw [same]
    exact newResponse_headers buildable _
  obtain ⟨answer, sanitised⟩ : ∃ answer, buildSanitisedResponse annotated
      ((entries annotated.headers).filter fun header => isPactHeader header.1) = some answer :=
    ⟨_, newResponse_headers buildable' _⟩
  have answered : handled.answered = answer := by
    rw [Handled.answered, made]
    dsimp only
    rw [forward_response, fetched, Option.getD_some, attached, Option.bind_some, sanitised,
      Option.getD_some]
  obtain ⟨status, body⟩ := sanitised_parts sanitised
  rw [answered, status, body, same]
  exact ⟨rfl, rfl⟩

theorem passed_answer (buildable : newResponse response = some response)
    (built : admission.handler.buildRequest request admission.endpoint.upstreamBase =
      some upstreamReq) :
    let handled := passthrough (circumstances.answering response) admission request
    handled.answered.status = response.status ∧ handled.answered.body = response.body := by
  obtain ⟨answer, sanitised⟩ : ∃ answer, buildSanitisedResponse response [] = some answer :=
    ⟨_, newResponse_headers buildable _⟩
  have passed : (passthrough (circumstances.answering response) admission request).response =
      some answer := by
    rw [passthrough, built, ← sanitised]
    rfl
  intro handled
  have answered : handled.answered = answer := by
    rw [Handled.answered, passed, Option.getD_some]
  rw [answered]
  exact sanitised_parts sanitised

theorem outcome_verdict_of_buffers (classified : classifierRegistry.lookup slug = some factory)
    (buffers : Buffers { circumstances with readable := true } response) :
    (verdict library { circumstances with readable := true } admission slug wallet factory
        response).outcome =
      defined library circumstances admission slug wallet factory response := by
  have fetched := @fetched_of_buffers library _ _ buffers
  have unfolded : verdict library { circumstances with readable := true } admission slug wallet
      factory response = factory.classifier
        (createBufferedFetch library { circumstances with readable := true }
          (some response)).parsedBody
        ⟨(createBufferedFetch library { circumstances with readable := true }
          (some response)).fetched, (max 0 (circumstances.tEnd - circumstances.tStart) : Int),
          (wrappedOptions library { circumstances with readable := true } admission slug wallet
            factory response).endpointConfig⟩ := rfl
  rw [unfolded, fetched]
  exact congrArg ClassifierResult.outcome (classifier_congr classified rfl)

theorem outcome_verdict_of_lost (classified : classifierRegistry.lookup slug = some factory)
    (lost : ¬Buffers circumstances response) :
    (verdict library circumstances admission slug wallet factory response).outcome =
      .networkError := by
  have fetched := @fetched_of_not_buffers library _ _ lost
  have unfolded : verdict library circumstances admission slug wallet factory response =
      factory.classifier (createBufferedFetch library circumstances (some response)).parsedBody
        ⟨(createBufferedFetch library circumstances (some response)).fetched,
          (max 0 (circumstances.tEnd - circumstances.tStart) : Int),
          (wrappedOptions library circumstances admission slug wallet factory
            response).endpointConfig⟩ := rfl
  rw [unfolded, fetched]
  exact outcome_of_none classified

end Ways

namespace Demo

open Requests.Sdk.Demo (gateway)

def jupiter : EndpointRow :=
  { endpoint with slug := "jupiter", upstreamBase := "https://api.jup.ag" }

def insuring : Circumstances :=
  { circumstances with registry := some [("jupiter::solana-devnet", jupiter)] }

def named : Context := { anonymous with headers := [("x-pact-agent", "agent")] }

def admitted : Admission :=
  ⟨jupiter, jupiterHandler urls, insuring.legacyBalanceCheck, some "agent"⟩

theorem asks_named : Asks library urls insuring named "jupiter" admitted :=
  ⟨by rfl, by decide +kernel⟩

theorem covers_named : admitted.Covers urls insuring named "agent" :=
  ⟨rfl, rfl, by decide +kernel, by decide +kernel⟩

end Demo

end PactNetwork.Coverage.MarketProxy
