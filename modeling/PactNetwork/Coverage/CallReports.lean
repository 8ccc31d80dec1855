import PactNetwork.Coverage.MarketProxy
import PactNetwork.Requests.SigningContract

/-!
# What is reported of a call

The SDK tells from the headers of an answer whether a call was covered, and the
gateway sets them on answers of its own too. The two agree where the calls that
get to a provider are insured ones of agents who can pay.
-/

set_option autoImplicit false

namespace PactNetwork.Coverage

open Requests (Headers JsonLibrary Crypto)
open Requests.Gateway (Context Viem verifyPactSignature)
open Requests.Sdk (Response RequestInit SlugResolution Deps Moment FetchCall Target Attempt
  GoldenFetchResult Wire transmit prepare goldenFetch bare parsePactHeaders isPactProcessed
  isPactHeader)

/-! ## Marks through the gateway -/

theorem isPactProcessed_iff (library : JsonLibrary) (headers : Headers) :
    isPactProcessed (parsePactHeaders library headers) = true ↔ Marked headers := by
  rw [isPactProcessed, Bool.or_eq_true]
  rfl

theorem marked_of_callId {headers : Headers} (named : "x-pact-call-id" ∈ headers.map Prod.fst) :
    Marked headers :=
  .inl (isSome_get.mpr named)

theorem not_marked_of {headers : Headers} (callId : "x-pact-call-id" ∉ headers.map Prod.fst)
    (outcome : "x-pact-outcome" ∉ headers.map Prod.fst) : ¬ Marked headers := by
  rintro (marked | marked)
  · exact callId (isSome_get.mp marked)
  · exact outcome (isSome_get.mp marked)

theorem unmarked_json (library : JsonLibrary) (status : Nat)
    (fields : List (String × Option Requests.Json)) :
    ¬ Marked (jsonResponse library status fields).headers :=
  not_marked_of (by simp [jsonResponse]) (by simp [jsonResponse])

theorem names_extended (extra headers : Headers) {name : String}
    (named : name ∈ headers.map Prod.fst ∨ name ∈ extra.map Prod.fst) :
    name ∈ (extra.foldl (fun headers header => setHeader headers header.1 header.2)
      headers).map Prod.fst := by
  induction extra generalizing headers with
  | nil =>
      rcases named with named | named
      · exact named
      · cases named
  | cons first rest ih =>
      rw [List.foldl_cons]
      apply ih
      rcases named with named | named
      · exact .inl (names_setHeader.mpr (.inr named))
      · rw [List.map_cons, List.mem_cons] at named
        rcases named with rfl | named
        · exact .inl (names_setHeader.mpr (.inl rfl))
        · exact .inr named

/-! ## The wrapped fetch -/

def BalanceCheckResult.passes : Except String BalanceCheckResult → Bool
  | .ok (.eligible _ _) => true
  | _ => false

/-- A call has the headers of a covered one, whether it was made and published or
neither. -/
structure WrapFetchResult.Stands (result : WrapFetchResult) (made : Bool) : Prop where
  response : ∃ response, result.response = some response ∧
    newResponse response = some response ∧
    "x-pact-call-id" ∈ response.headers.map Prod.fst
  forwarded : result.forwarded = made
  published : result.published.isSome = made

section Wrapped

variable {library : JsonLibrary} {opts : WrapFetchOptions}

theorem attached {response : Response} (buildable : newResponse response = some response)
    (inputs : PactHeaderInputs) :
    ∃ annotated, attachPactHeaders response inputs = some annotated ∧
      newResponse annotated = some annotated ∧
      "x-pact-call-id" ∈ annotated.headers.map Prod.fst :=
  ⟨_, newResponse_headers buildable _, newResponse_headers buildable _,
    callId_pactHeaders response.headers inputs⟩

theorem unforwarded_stands {status : Nat} {outcome : Outcome}
    {fields : List (String × Option Requests.Json)} (low : 200 ≤ status) (high : status ≤ 599)
    (solid : status ∉ nullBodyStatuses) :
    (unforwarded library opts status outcome fields).Stands false :=
  ⟨attached (buildable_json library fields low high solid) _, rfl, rfl⟩

theorem forward_stands
    (buildable : ∀ response, opts.fetched = some response → newResponse response = some response) :
    (forward library opts).Stands true := by
  refine ⟨attached ?_ _, rfl, rfl⟩
  cases fetched : opts.fetched with
  | none => exact buildable_json library _ (by decide) (by decide) (by decide)
  | some response => exact buildable response fetched

theorem wrapFetch_stands {check : BalanceCheck} (checked : opts.balanceCheck = some check)
    (buildable : ∀ response, opts.fetched = some response → newResponse response = some response) :
    (wrapFetch library opts).Stands (BalanceCheckResult.passes
      (check opts.walletPubkey opts.endpointConfig.flatPremiumLamports)) := by
  rw [wrapFetch, checked]
  dsimp only
  cases check opts.walletPubkey opts.endpointConfig.flatPremiumLamports with
  | error message => exact unforwarded_stands (by decide) (by decide) (by decide)
  | ok balance =>
      cases balance with
      | eligible => exact forward_stands buildable
      | ineligible => exact unforwarded_stands (by decide) (by decide) (by decide)

end Wrapped

namespace MarketProxy

/-! ## The gateway -/

section Gateway

variable {crypto : Crypto} {viem : Viem} {library : JsonLibrary} {urls : UrlLibrary}
  {circumstances : Circumstances} {request : Context} {slug : String} {admission : Admission}

theorem fetched_buildable {upstream : Option Response} {response : Response}
    (fetched : (createBufferedFetch library circumstances upstream).fetched = some response) :
    newResponse response = some response := by
  unfold createBufferedFetch at fetched
  split at fetched
  case h_1 => cases fetched
  case h_2 =>
    split at fetched
    case isTrue =>
      dsimp only at fetched
      rw [newResponse_eq_some fetched]
      rwa [newResponse_eq_some fetched] at fetched
    case isFalse => cases fetched

theorem sanitised {response : Response} (buildable : newResponse response = some response)
    (named : "x-pact-call-id" ∈ response.headers.map Prod.fst) :
    ∃ answer, buildSanitisedResponse response
        ((entries response.headers).filter fun header => isPactHeader header.1) = some answer ∧
      Marked answer.headers := by
  refine ⟨_, newResponse_headers buildable _, marked_of_callId (names_extended _ _ (.inr ?_))⟩
  obtain ⟨header, member, same⟩ := List.mem_map.mp ((names_entries _).mpr named)
  refine List.mem_map.mpr ⟨header, List.mem_filter.mpr ⟨member, ?_⟩, same⟩
  rw [same]
  decide +kernel

theorem unmarked_text (status : Nat) (text : String) :
    ¬ Marked (textResponse status text).headers :=
  not_marked_of (by simp [textResponse]) (by simp [textResponse])

theorem unmarked_answer {response : Option Response}
    (plain : ∀ answer, response = some answer → ¬ Marked answer.headers) :
    ¬ Marked (Handled.answer response).answered.headers := by
  cases response with
  | none => exact unmarked_text _ _
  | some answer => exact plain answer rfl

theorem unmarked_notFound {network : Option String} {answer : Response}
    (answered : notFound library circumstances slug network = some answer) :
    ¬ Marked answer.headers := by
  unfold notFound at answered
  cases registry : circumstances.networkRegistry with
  | none =>
      rw [registry] at answered
      cases answered
  | some registry' =>
      rw [registry, Option.bind_eq_bind, Option.bind_some] at answered
      dsimp only at answered
      split at answered
      case isTrue =>
        cases answered
        exact unmarked_json _ _ _
      case isFalse =>
        split at answered <;>
          · cases answered
            exact unmarked_json _ _ _

theorem unmarked_identify {refused : Response}
    (identified : identify library urls circumstances request = .error refused) :
    ¬ Marked refused.headers := by
  unfold identify at identified
  split at identified
  case h_1 => cases identified
  case h_2 =>
    split at identified
    case h_1 => cases identified
    case h_2 =>
      split at identified
      case isTrue => cases identified
      case isFalse =>
        cases identified
        exact unmarked_json _ _ _

theorem unmarked_resolveEndpoint {answer : Response}
    (refused : resolveEndpoint library urls circumstances request slug = .error (some answer)) :
    ¬ Marked answer.headers := by
  unfold resolveEndpoint at refused
  cases registry : circumstances.registry with
  | none =>
      rw [registry] at refused
      cases refused
  | some registry' =>
      rw [registry] at refused
      dsimp only [Option.elim, bind, Except.bind] at refused
      split at refused
      case h_1 => exact unmarked_notFound (Except.error.inj refused)
      case h_2 =>
        split at refused
        case isTrue =>
          cases refused
          exact unmarked_json _ _ _
        case isFalse =>
          split at refused
          case h_1 =>
            cases refused
            exact unmarked_json _ _ _
          case h_2 =>
            split at refused
            case h_1 =>
              cases refused
              exact unmarked_text _ _
            case h_2 =>
              split at refused
              case h_1 identified =>
                cases refused
                exact unmarked_identify identified
              case h_2 => cases refused

theorem unmarked_gate {denied : Response}
    (refused : requireBetaKey crypto library circumstances request = some (some denied)) :
    ¬ Marked denied.headers := by
  unfold requireBetaKey at refused
  cases gate : circumstances.betaGate with
  | none =>
      rw [gate] at refused
      cases refused
  | some gateOn =>
      rw [gate, Option.bind_eq_bind, Option.bind_some] at refused
      dsimp only at refused
      split at refused
      case isTrue => cases refused
      case isFalse =>
        split at refused
        case h_1 =>
          cases refused
          exact unmarked_json _ _ _
        case h_2 =>
          split at refused
          case isTrue =>
            split at refused
            case isTrue =>
              cases refused
              exact unmarked_json _ _ _
            case isFalse =>
              split at refused
              case h_1 => cases refused
              case h_2 =>
                cases refused
                exact unmarked_json _ _ _
          case isFalse =>
            cases refused
            exact unmarked_json _ _ _

end Gateway

/-! ## What a request gets to -/

section Entering

variable (crypto : Crypto) (viem : Viem) (library : JsonLibrary) (urls : UrlLibrary)
  (circumstances : Circumstances)

/-- The gate, the signature check and the route let a request through to a provider. -/
structure Enters (request : Context) (slug : String) (admission : Admission) : Prop where
  route : request.url.bind circumstances.route = some slug
  gate : requireBetaKey crypto library circumstances request = some none
  verified : ∃ agent, (verifyPactSignature crypto viem circumstances.nonces
    (arrival circumstances request slug)).1 = .next agent
  admitted : resolveEndpoint library urls circumstances request slug = .ok admission

/-- A request is an insured one of an agent who can pay, or it breaks off before the
provider because the allowlist of the demo cannot be read. -/
def Admission.Insures (admission : Admission) (request : Context) : Prop :=
  ∃ wallet, admission.pactWallet = some wallet ∧
    admission.handler.isInsurableMethod request = true ∧
    (computeDemoBreachDelayMs circumstances (demoBreach urls request) wallet admission.endpoint =
        none ∨
      BalanceCheckResult.passes
        (admission.balanceCheck wallet admission.endpoint.flatPremiumLamports) = true)

/-- The answer has marks and the call was forwarded once and published, or it has
none and the call was not forwarded. -/
def Handled.Sound (handled : Handled) : Prop :=
  (Marked handled.answered.headers ∧ handled.published ≠ [] ∧ handled.forwarded.length = 1) ∨
    (¬ Marked handled.answered.headers ∧ handled.forwarded = [])

variable {crypto viem library urls circumstances} {request : Context} {slug : String}
  {admission : Admission}

theorem Handled.sound_answer {response : Option Response}
    (plain : ∀ answer, response = some answer → ¬ Marked answer.headers) :
    (Handled.answer response).Sound :=
  .inr ⟨unmarked_answer plain, rfl⟩

theorem Enters.serves (enters : Enters crypto viem library urls circumstances request slug admission) :
    app crypto viem library urls circumstances request =
      serve library urls circumstances admission request slug := by
  obtain ⟨agent, verified⟩ := enters.verified
  rw [app, enters.route]
  dsimp only
  rw [insuredRoute, enters.gate]
  dsimp only
  rw [verified]
  dsimp only
  rw [proxyRoute, enters.admitted]

theorem app_aside
    (outside : ∀ slug admission,
      ¬ Enters crypto viem library urls circumstances request slug admission) :
    (app crypto viem library urls circumstances request).Sound := by
  unfold app
  split
  case h_1 =>
    exact Handled.sound_answer fun _ same => Option.some.inj same ▸ circumstances.unmarked request
  case h_2 slug route =>
    unfold insuredRoute
    split
    case h_1 => exact Handled.sound_answer fun _ same => by cases same
    case h_2 denied gate =>
      exact Handled.sound_answer fun _ same => Option.some.inj same ▸ unmarked_gate gate
    case h_3 gate =>
      split
      case h_1 => exact Handled.sound_answer fun _ same => by cases same
      case h_2 =>
        exact Handled.sound_answer fun _ same => Option.some.inj same ▸ unmarked_json _ _ _
      case h_3 agent verified =>
        unfold proxyRoute
        split
        case h_1 refused =>
          refine Handled.sound_answer fun answer same => ?_
          rw [same] at refused
          exact unmarked_resolveEndpoint refused
        case h_2 admission admitted =>
          exact absurd ⟨route, gate, ⟨agent, verified⟩, admitted⟩ (outside slug admission)

theorem passthrough_sound_iff :
    (passthrough circumstances admission request).Sound ↔
      admission.handler.buildRequest request admission.endpoint.upstreamBase = none := by
  unfold passthrough
  cases admission.handler.buildRequest request admission.endpoint.upstreamBase with
  | none => exact iff_of_true (Handled.sound_answer fun _ same => by cases same) rfl
  | some upstreamReq =>
      refine iff_of_false ?_ (Option.some_ne_none _)
      rintro (⟨-, published, -⟩ | ⟨-, unforwarded⟩)
      · exact published rfl
      · cases unforwarded

/-- A call that gets as far as the wrap is answered with marks, and it is made once and
published if and only if the agent can pay. -/
theorem insured_marks {factory : ClassifierFactory} {pactWallet : String} {delay : ℚ}
    {upstreamReq : UpstreamRequest}
    (delayed : computeDemoBreachDelayMs circumstances (demoBreach urls request) pactWallet
      admission.endpoint = some delay)
    (built : admission.handler.buildRequest request admission.endpoint.upstreamBase =
      some upstreamReq)
    (classified : classifierRegistry.lookup slug = some factory) :
    let handled := insured library urls circumstances admission request slug pactWallet
    let passes := BalanceCheckResult.passes
      (admission.balanceCheck pactWallet admission.endpoint.flatPremiumLamports)
    Marked handled.answered.headers ∧ handled.forwarded.length = passes.toNat ∧
      (handled.published ≠ [] ↔ passes = true) := by
  have stands : (wrapFetch library (wrapOptions circumstances admission slug pactWallet factory
      (createBufferedFetch library circumstances (circumstances.upstream upstreamReq)))).Stands
      (BalanceCheckResult.passes
        (admission.balanceCheck pactWallet admission.endpoint.flatPremiumLamports)) :=
    wrapFetch_stands rfl fun _ fetched => fetched_buildable fetched
  obtain ⟨response, answered, buildable, named⟩ := stands.response
  obtain ⟨answer, sanitised, marked⟩ := sanitised buildable named
  unfold insured
  dsimp only
  rw [delayed, built, classified]
  dsimp only
  rw [answered, Option.bind_some, sanitised, stands.forwarded]
  refine ⟨marked, ?_, ?_⟩
  · cases BalanceCheckResult.passes
      (admission.balanceCheck pactWallet admission.endpoint.flatPremiumLamports) <;> rfl
  · rw [← stands.published]
    cases (wrapFetch library (wrapOptions circumstances admission slug pactWallet factory
      (createBufferedFetch library circumstances
        (circumstances.upstream upstreamReq)))).published <;> simp

theorem insured_sound_iff {factory : ClassifierFactory} {pactWallet : String}
    (classified : classifierRegistry.lookup slug = some factory) :
    (insured library urls circumstances admission request slug pactWallet).Sound ↔
      admission.handler.buildRequest request admission.endpoint.upstreamBase = none ∨
        computeDemoBreachDelayMs circumstances (demoBreach urls request) pactWallet
          admission.endpoint = none ∨
        BalanceCheckResult.passes
          (admission.balanceCheck pactWallet admission.endpoint.flatPremiumLamports) = true := by
  cases delayed : computeDemoBreachDelayMs circumstances (demoBreach urls request) pactWallet
    admission.endpoint with
  | none =>
      refine iff_of_true ?_ (.inr (.inl rfl))
      rw [insured, delayed]
      exact Handled.sound_answer fun _ same => by cases same
  | some delay =>
      cases built : admission.handler.buildRequest request admission.endpoint.upstreamBase with
      | none =>
          refine iff_of_true ?_ (.inl rfl)
          rw [insured, delayed]
          dsimp only
          rw [built]
          exact Handled.sound_answer fun _ same => by cases same
      | some upstreamReq =>
          obtain ⟨marked, once, published⟩ :=
            @insured_marks library _ _ _ _ _ _ _ _ _ delayed built classified
          cases passes : BalanceCheckResult.passes
            (admission.balanceCheck pactWallet admission.endpoint.flatPremiumLamports) with
          | false =>
              rw [passes] at once published
              refine iff_of_false ?_ (by simp)
              rintro (⟨-, stated, -⟩ | ⟨unmarked, -⟩)
              · cases published.mp stated
              · exact unmarked marked
          | true =>
              rw [passes] at once published
              exact iff_of_true (.inl ⟨marked, published.mpr rfl, once⟩) (.inr (.inr rfl))

theorem classified {library : JsonLibrary} {heliusKey : Option String} {handler : EndpointHandler}
    (handled : (handlerRegistry urls library heliusKey).lookup slug = some handler) :
    ∃ factory, classifierRegistry.lookup slug = some factory := by
  have listed : ((handlerRegistry urls library heliusKey).lookup slug).isSome = true := by
    rw [handled]
    rfl
  rw [List.lookup_isSome_iff] at listed
  obtain ⟨⟨name, found⟩, member, same⟩ := listed
  apply Option.isSome_iff_exists.mp
  rw [List.lookup_isSome_iff]
  have names : (handlerRegistry urls library heliusKey).map Prod.fst =
      classifierRegistry.map Prod.fst := rfl
  have named : name ∈ classifierRegistry.map Prod.fst := by
    rw [← names]
    exact List.mem_map.mpr ⟨(name, found), member, rfl⟩
  obtain ⟨entry, registered, rfl⟩ := List.mem_map.mp named
  exact ⟨entry, registered, same⟩

/-- What the route has found when it turns to the provider. -/
structure Admission.Found (library : JsonLibrary) (urls : UrlLibrary)
    (circumstances : Circumstances) (request : Context) (slug : String) (admission : Admission) :
    Prop where
  registered : ∃ registry, circumstances.registry = some registry ∧
    registry.get slug (request.headers.get "x-pact-network") = some admission.endpoint
  live : admission.endpoint.paused = false
  handled :
    (handlerRegistry urls library circumstances.heliusKey).lookup slug = some admission.handler
  checked : selectBalanceCheck circumstances admission.endpoint.network = some admission.balanceCheck
  identified : identify library urls circumstances request = .ok admission.pactWallet

theorem found_of_admitted
    (admitted : resolveEndpoint library urls circumstances request slug = .ok admission) :
    admission.Found library urls circumstances request slug := by
  unfold resolveEndpoint at admitted
  cases registry : circumstances.registry with
  | none =>
      rw [registry] at admitted
      cases admitted
  | some registry' =>
      rw [registry] at admitted
      dsimp only [Option.elim, bind, Except.bind] at admitted
      split at admitted
      case h_1 => cases admitted
      case h_2 endpoint registered =>
        split at admitted
        case isTrue => cases admitted
        case isFalse live =>
          split at admitted
          case h_1 => cases admitted
          case h_2 handler handled =>
            split at admitted
            case h_1 => cases admitted
            case h_2 balanceCheck checked =>
              split at admitted
              case h_1 => cases admitted
              case h_2 pactWallet identified =>
                cases admitted
                exact ⟨⟨registry', registry, registered⟩, Bool.eq_false_iff.mpr live, handled,
                  checked, identified⟩

theorem Enters.sound_iff
    (enters : Enters crypto viem library urls circumstances request slug admission) :
    (app crypto viem library urls circumstances request).Sound ↔
      ∀ upstreamReq,
        admission.handler.buildRequest request admission.endpoint.upstreamBase = some upstreamReq →
        admission.Insures urls circumstances request := by
  obtain ⟨factory, classified⟩ := classified (found_of_admitted enters.admitted).handled
  rw [enters.serves, serve]
  have passed : ¬ admission.Insures urls circumstances request →
      ((passthrough circumstances admission request).Sound ↔ ∀ upstreamReq,
        admission.handler.buildRequest request admission.endpoint.upstreamBase = some upstreamReq →
        admission.Insures urls circumstances request) := by
    intro uninsured
    rw [passthrough_sound_iff, Option.eq_none_iff_forall_ne_some]
    exact forall_congr' fun _ =>
      ⟨fun none built => absurd built none, fun insures built => uninsured (insures built)⟩
  cases wallet : admission.pactWallet with
  | none =>
      refine passed ?_
      rintro ⟨_, some, -⟩
      rw [wallet] at some
      cases some
  | some pactWallet =>
      dsimp only
      cases insurable : admission.handler.isInsurableMethod request with
      | false =>
          refine passed ?_
          rintro ⟨_, -, insures, -⟩
          rw [insurable] at insures
          cases insures
      | true =>
          rw [if_pos rfl, insured_sound_iff classified]
          have insures : admission.Insures urls circumstances request ↔
              computeDemoBreachDelayMs circumstances (demoBreach urls request) pactWallet
                  admission.endpoint = none ∨
                BalanceCheckResult.passes (admission.balanceCheck pactWallet
                  admission.endpoint.flatPremiumLamports) = true := by
            constructor
            · rintro ⟨_, same, -, pays⟩
              rw [wallet] at same
              cases same
              exact pays
            · exact fun pays => ⟨pactWallet, wallet, insurable, pays⟩
          rw [insures]
          cases admission.handler.buildRequest request admission.endpoint.upstreamBase with
          | none => simp
          | some upstreamReq => simp

theorem app_sound_iff :
    (app crypto viem library urls circumstances request).Sound ↔
      ∀ slug admission, Enters crypto viem library urls circumstances request slug admission →
        ∀ upstreamReq,
          admission.handler.buildRequest request admission.endpoint.upstreamBase =
            some upstreamReq →
          admission.Insures urls circumstances request := by
  by_cases inside : ∃ slug admission,
    Enters crypto viem library urls circumstances request slug admission
  · obtain ⟨slug, admission, enters⟩ := inside
    rw [enters.sound_iff]
    constructor
    · intro insures slug' admission' enters'
      have slugs := Option.some.inj (enters.route.symm.trans enters'.route)
      subst slugs
      have same : admission = admission' :=
        Except.ok.inj (enters.admitted.symm.trans enters'.admitted)
      exact same ▸ insures
    · exact fun insures => insures slug admission enters
  · have outside : ∀ slug admission,
        ¬ Enters crypto viem library urls circumstances request slug admission :=
      fun slug admission enters => inside ⟨slug, admission, enters⟩
    exact iff_of_true (app_aside outside) fun slug admission enters =>
      absurd enters (outside slug admission)

end Entering

/-! ## The SDK and the gateway -/

/-- What has come of a call: the bare fetches of its address, and the calls of
providers and the events of the gateway. -/
structure Traffic where
  bare : Nat
  forwarded : List UpstreamRequest
  published : List SettlementEvent

section Calls

variable (crypto : Crypto) (viem : Viem) (library : JsonLibrary) (urls : UrlLibrary)
  (circumstances : Circumstances) (wire : Wire)

/-- The fetch through the gateway, which throws where the call cannot be sent. -/
def proxyFetch (call : FetchCall) (traffic : Traffic) : Option Response × Traffic :=
  match transmit urls.parser wire (.ok none) call with
  | none => (none, traffic)
  | some request =>
      let handled := app crypto viem library urls circumstances request
      (some handled.answered,
        { traffic with
          forwarded := traffic.forwarded ++ handled.forwarded
          published := traffic.published ++ handled.published })

def bareFetch (answer : Option Response) (traffic : Traffic) : Option Response × Traffic :=
  (answer, { traffic with bare := traffic.bare + 1 })

def report (answer : Option Response) (attempt : Attempt) : Option GoldenFetchResult × Traffic :=
  goldenFetch library (bareFetch answer) (proxyFetch crypto viem library urls circumstances wire)
    attempt ⟨0, [], []⟩

/-- What is reported of a call is what happened to it. -/
structure Agrees (reported : Option GoldenFetchResult × Traffic) : Prop where
  covered : (∃ result, reported.1 = some result ∧ result.degraded = false) ↔
    reported.2.forwarded ≠ [] ∧ reported.2.published ≠ []
  degraded : (∃ result, reported.1 = some result ∧ result.degraded = true) →
    reported.2.forwarded = []
  once : reported.2.bare + reported.2.forwarded.length = 1

variable {crypto viem library urls circumstances wire} {answer : Option Response} {call : FetchCall}
  {target : Target}

theorem agrees_bare {reason : Requests.Sdk.DegradedReason} {forwarded : List UpstreamRequest}
    {published : List SettlementEvent} :
    Agrees (bare (bareFetch answer) reason target ⟨0, forwarded, published⟩) ↔ forwarded = [] := by
  have traffic : (bare (bareFetch answer) reason target ⟨0, forwarded, published⟩).2 =
      ⟨1, forwarded, published⟩ := by
    cases answer <;> rfl
  have degraded : ∀ result, (bare (bareFetch answer) reason target
      ⟨0, forwarded, published⟩).1 = some result → result.degraded = true := by
    intro result reported
    cases answer with
    | none => cases reported
    | some response =>
        cases reported
        rfl
  constructor
  · intro agrees
    have once := agrees.once
    rw [traffic] at once
    exact List.length_eq_zero_iff.mp (by simpa using once)
  · rintro rfl
    refine ⟨?_, fun _ => by rw [traffic], by rw [traffic]; rfl⟩
    rw [traffic]
    refine iff_of_false ?_ fun ⟨forwarded, _⟩ => forwarded rfl
    rintro ⟨result, reported, covered⟩
    rw [degraded result reported] at covered
    cases covered

theorem agrees_proxied {request : Context}
    (sent : transmit urls.parser wire (.ok none) call = some request) :
    Agrees (report crypto viem library urls circumstances wire answer (.proxied call target)) ↔
      (app crypto viem library urls circumstances request).Sound := by
  rw [report, goldenFetch, proxyFetch, sent]
  dsimp only
  rw [List.nil_append, List.nil_append]
  by_cases marked : Marked (app crypto viem library urls circumstances request).answered.headers
  · rw [if_pos ((isPactProcessed_iff library _).mpr marked)]
    constructor
    · intro agrees
      obtain ⟨-, published⟩ := agrees.covered.mp ⟨_, rfl, rfl⟩
      exact .inl ⟨marked, published, by simpa using agrees.once⟩
    · rintro (⟨-, published, once⟩ | ⟨unmarked, -⟩)
      · refine ⟨iff_of_true ⟨_, rfl, rfl⟩ ⟨?_, published⟩, ?_, by simpa using once⟩
        · intro unforwarded
          dsimp only at unforwarded
          rw [unforwarded] at once
          cases once
        · rintro ⟨result, reported, degraded⟩
          cases reported
          cases degraded
      · exact absurd marked unmarked
  · rw [if_neg fun processed => marked ((isPactProcessed_iff library _).mp processed), agrees_bare]
    constructor
    · exact fun unforwarded => .inr ⟨marked, unforwarded⟩
    · rintro (⟨marked', -, -⟩ | ⟨-, unforwarded⟩)
      · exact absurd marked' marked
      · exact unforwarded

end Calls

/-- The SDK and the gateway agree on a call if and only if it can be prepared and,
where it gets to a provider whose request can be built, it is an insured call of an
agent who can pay. -/
theorem calls_agree (crypto : Crypto) (viem : Viem) (library : JsonLibrary) (urls : UrlLibrary)
    (circumstances : Circumstances) (wire : Wire) (deps : Deps)
    (resolve : String → SlugResolution) (moment : Moment) (url : String) (init : RequestInit)
    (hostnameOverride : Option String) (answer : Option Response) :
    Agrees (report crypto viem library urls circumstances wire answer
        (prepare crypto urls.parser deps resolve moment url init hostnameOverride)) ↔
      prepare crypto urls.parser deps resolve moment url init hostnameOverride ≠ .threw ∧
      ∀ call target request slug admission upstreamReq,
        prepare crypto urls.parser deps resolve moment url init hostnameOverride =
          .proxied call target →
        transmit urls.parser wire (.ok none) call = some request →
        Enters crypto viem library urls circumstances request slug admission →
        admission.handler.buildRequest request admission.endpoint.upstreamBase =
          some upstreamReq →
        admission.Insures urls circumstances request := by
  cases prepared : prepare crypto urls.parser deps resolve moment url init hostnameOverride with
  | threw =>
      refine iff_of_false (fun agrees => ?_) fun ⟨prepared, _⟩ => prepared rfl
      cases agrees.once
  | bare reason target =>
      refine iff_of_true (agrees_bare.mpr rfl) ⟨(fun threw => by cases threw), ?_⟩
      intro _ _ _ _ _ _ proxied
      cases proxied
  | proxied call target =>
      cases sent : transmit urls.parser wire (.ok none) call with
      | none =>
          refine iff_of_true ?_ ⟨(fun threw => by cases threw), ?_⟩
          · rw [report, goldenFetch, proxyFetch, sent]
            exact agrees_bare.mpr rfl
          · intro _ _ _ _ _ _ proxied transmitted
            cases proxied
            rw [sent] at transmitted
            cases transmitted
      | some request =>
          rw [agrees_proxied sent, app_sound_iff]
          constructor
          · intro insures
            refine ⟨(fun threw => by cases threw), ?_⟩
            intro _ _ _ slug admission upstreamReq proxied transmitted enters built
            cases proxied
            rw [sent] at transmitted
            cases transmitted
            exact insures slug admission enters upstreamReq built
          · exact fun ⟨_, insures⟩ slug admission enters upstreamReq built =>
              insures call target request slug admission upstreamReq rfl sent enters built

namespace Demo

open Requests (encode)
open Requests.Demo (viem)
open Requests.Sdk.Demo (crypto parser deps moment upstream init wire)

def library : JsonLibrary where
  stringify _ := ""
  parse _ := none
  bigInt _ := none
  number _ := none

def urls : UrlLibrary where
  parser := parser
  resolve _ _ := some upstream
  query _ _ := none
  deleteParam _ url := url
  setParam _ _ url := url
  requestable _ _ _ _ := true

def endpoint : EndpointRow where
  slug := "helius"
  network := "solana-devnet"
  flatPremiumLamports := 1000
  slaLatencyMs := 5000
  imputedCostLamports := 10000
  paused := false
  upstreamBase := "https://api.helius.xyz"

def decodeText (bytes : List UInt8) : String :=
  (String.fromUTF8? ⟨bytes.toArray⟩).elim "\ufffd" withoutMark

theorem decodeText_encode (text : String) : decodeText (encode text) = withoutMark text := by
  have read : String.fromUTF8? ⟨(encode text).toArray⟩ = some text := dif_pos text.isValidUTF8
  rw [decodeText, read, Option.elim_some]

def circumstances : Circumstances where
  route _ := some "helius"
  otherRoutes _ := ⟨404, [], none⟩
  unmarked _ := not_marked_of List.not_mem_nil List.not_mem_nil
  betaGate := some false
  apiKeyStatus _ := none
  nonces := ∅
  checkedAt := 1735689600000
  seenAt := 1735689600000
  verifierRegistry := some [("helius::solana-devnet", endpoint)]
  registry := some [("helius::solana-devnet", endpoint)]
  networkRegistry := some [("helius::solana-devnet", endpoint)]
  legacyDirectSolana := true
  legacyBalanceCheck _ _ := .ok (.eligible 5000 5000)
  adapters := []
  insecureDemo := false
  heliusKey := none
  demoAllowed _ := some false
  callId := "6f1c"
  upstream _ := some ⟨200, [("content-type", "application/json")], some (encode "\x7b\x7d")⟩
  readable := true
  decode := decodeText
  decode_encode := decodeText_encode
  tStart := 0
  tEnd := 120

def reported : Option GoldenFetchResult × Traffic :=
  report crypto viem library urls circumstances wire (some ⟨200, [], some (encode "\x7b\x7d")⟩)
    (prepare crypto parser deps (fun _ => .ok "helius" (some 100)) moment upstream.href init none)

/-- The body names no insured method: the gateway forwards the call, and the SDK, which
finds no mark on the answer, makes it once more. -/
example : reported.2.forwarded.length = 1 ∧ reported.2.published = [] ∧ reported.2.bare = 1 := by
  decide +kernel

theorem calls_disagree : ¬ Agrees reported := by
  intro agrees
  have twice : reported.2.bare + reported.2.forwarded.length = 2 := by decide +kernel
  have once := agrees.once
  omega

end Demo

end MarketProxy

end PactNetwork.Coverage
