import PactNetwork.Coverage.CallReports

/-!
# Whose Pact headers they are

The gateway sets its own headers on an insured answer and keeps every other header
of that family that the provider sent. Two runs that differ in the provider's
headers alone show what of them reaches the caller.
-/

set_option autoImplicit false

namespace PactNetwork.Coverage

open Requests (Headers Json JsonLibrary encode toLowerCase)
open Requests.Gateway (Context)
open Requests.Sdk (Response isPactHeader)

/-! ## Reading headers -/

section Reading

variable {headers : Headers} {name other value : String}

theorem get_setHeader_self : (setHeader headers name value).get name = some value := by
  have others : (headers.filter fun header => header.1 ≠ name).filter
      (fun header => header.1 = name) = [] := by
    rw [List.filter_filter, List.filter_eq_nil_iff]
    simp
  rw [setHeader, Headers.get, List.filter_append, others, List.filter_singleton]
  simp

theorem get_setHeader_of_ne (different : other ≠ name) :
    (setHeader headers name value).get other = headers.get other := by
  have kept : (headers.filter fun header => header.1 ≠ name).filter
      (fun header => header.1 = other) = headers.filter fun header => header.1 = other := by
    rw [List.filter_filter]
    refine List.filter_congr fun header _ => ?_
    by_cases same : header.1 = other
    · simp [same, different]
    · simp [same]
  have foreign : [(name, value)].filter (fun header => header.1 = other) = [] :=
    List.filter_eq_nil_iff.mpr (by simpa using different.symm)
  rw [setHeader, Headers.get, List.filter_append, kept, foreign, List.append_nil, Headers.get]

theorem get_setHeader_same (found : headers.get name = some value) :
    (setHeader headers name value).get other = headers.get other := by
  by_cases same : other = name
  · subst same
    rw [get_setHeader_self, found]
  · exact get_setHeader_of_ne same

theorem get_foldl_setHeader {extra : Headers}
    (same : ∀ header ∈ extra, headers.get header.1 = some header.2) :
    (extra.foldl (fun headers header => setHeader headers header.1 header.2) headers).get other =
      headers.get other := by
  induction extra generalizing headers with
  | nil => rfl
  | cons first rest ih =>
      have here := same first List.mem_cons_self
      rw [List.foldl_cons, ih, get_setHeader_same here]
      intro header member
      rw [get_setHeader_same here]
      exact same header (List.mem_cons_of_mem _ member)

theorem get_of_distinct (distinct : (headers.map Prod.fst).Nodup)
    (member : (name, value) ∈ headers) : headers.get name = some value := by
  have single : headers.filter (fun header => header.1 = name) = [(name, value)] := by
    induction headers with
    | nil => cases member
    | cons first rest ih =>
        obtain ⟨fresh, distinct⟩ := List.nodup_cons.mp distinct
        cases member with
        | head =>
            have others : rest.filter (fun header => header.1 = name) = [] := by
              refine List.filter_eq_nil_iff.mpr fun header listed same => fresh ?_
              exact List.mem_map.mpr ⟨header, listed, of_decide_eq_true same⟩
            rw [List.filter_cons_of_pos (by simp), others]
        | tail _ listed =>
            have apart : first.1 ≠ name := by
              rintro rfl
              exact fresh (List.mem_map.mpr ⟨_, listed, rfl⟩)
            rw [List.filter_cons_of_neg (by simpa using apart), ih distinct listed]
  rw [Headers.get, single]
  simp

theorem get_cons_of_ne {first : String × String} (different : name ≠ first.1) :
    Headers.get (first :: headers) name = headers.get name := by
  rw [Headers.get, List.filter_cons_of_neg (by simpa using different.symm), Headers.get]

theorem get_foldl_distinct {extra : Headers} (distinct : (extra.map Prod.fst).Nodup) :
    (extra.foldl (fun headers header => setHeader headers header.1 header.2) headers).get name =
      if name ∈ extra.map Prod.fst then extra.get name else headers.get name := by
  induction extra generalizing headers with
  | nil => rfl
  | cons first rest ih =>
      obtain ⟨fresh, others⟩ := List.nodup_cons.mp distinct
      rw [List.foldl_cons, ih others]
      by_cases same : name = first.1
      · subst same
        rw [if_neg fresh, List.map_cons, if_pos List.mem_cons_self, get_setHeader_self,
          get_of_distinct distinct List.mem_cons_self]
      · rw [get_setHeader_of_ne same, get_cons_of_ne same]
        refine if_congr ?_ rfl rfl
        rw [List.map_cons, List.mem_cons, or_iff_right same]

theorem get_entries : (entries headers).get name = headers.get name := by
  have names : (entries headers).map Prod.fst = (headers.map Prod.fst).dedup := by
    rw [entries, List.map_map]
    exact List.map_id _
  cases found : headers.get name with
  | none =>
      cases joined : (entries headers).get name with
      | none => rfl
      | some value =>
          have named : name ∈ (entries headers).map Prod.fst :=
            isSome_get.mp (Option.isSome_iff_exists.mpr ⟨value, joined⟩)
          have present := isSome_get.mpr ((names_entries headers).mp named)
          rw [found] at present
          cases present
  | some value =>
      have named : name ∈ headers.map Prod.fst :=
        isSome_get.mp (Option.isSome_iff_exists.mpr ⟨value, found⟩)
      refine get_of_distinct (names ▸ List.nodup_dedup _) ?_
      refine List.mem_map.mpr ⟨name, List.mem_dedup.mpr named, ?_⟩
      rw [found, Option.getD_some]

theorem get_filter {keep : String → Bool} (kept : keep name = true) :
    Headers.get (headers.filter fun header => keep header.1) name = headers.get name := by
  have same : (headers.filter fun header => keep header.1).filter
      (fun header => header.1 = name) = headers.filter fun header => header.1 = name := by
    rw [List.filter_filter]
    refine List.filter_congr fun header _ => ?_
    by_cases same : header.1 = name
    · simp [same, kept]
    · simp [same]
  rw [Headers.get, same, Headers.get]

end Reading

/-! ## The gateway's own headers -/

/-- The headers that `attachPactHeaders` sets on an insured answer. -/
def authored : List String :=
  ["x-pact-premium", "x-pact-refund", "x-pact-latency-ms", "x-pact-outcome", "x-pact-pool",
    "x-pact-settlement-pending", "x-pact-call-id"]

def PactHeaderInputs.authoredValues (inputs : PactHeaderInputs) (pool : String) : Headers :=
  [("x-pact-premium", toString inputs.premiumLamports),
    ("x-pact-refund", toString inputs.refundLamports),
    ("x-pact-latency-ms", toString inputs.latencyMs), ("x-pact-outcome", inputs.outcome.text),
    ("x-pact-pool", pool), ("x-pact-settlement-pending", "1"), ("x-pact-call-id", inputs.callId)]

section Authored

variable {inputs : PactHeaderInputs} {pool name : String}

theorem get_pactHeaders (headers : Headers) (named : inputs.pool = some pool)
    (pending : inputs.settlementPending = true) :
    (pactHeaders headers inputs).get name =
      if name ∈ authored then (inputs.authoredValues pool).get name else headers.get name := by
  have unfolded : pactHeaders headers inputs =
      (inputs.authoredValues pool).foldl (fun headers header => setHeader headers header.1 header.2)
        headers := by
    simp only [pactHeaders, named, pending, if_true]
    rfl
  have names : (inputs.authoredValues pool).map Prod.fst = authored := rfl
  rw [unfolded, get_foldl_distinct (names ▸ by decide), names]

end Authored

/-! ## What the balance check decides -/

section Checked

variable {library : JsonLibrary} {opts opts' : WrapFetchOptions} {check : BalanceCheck}

theorem wrapFetch_of_passes (checked : opts.balanceCheck = some check)
    (passes : BalanceCheckResult.passes
      (check opts.walletPubkey opts.endpointConfig.flatPremiumLamports) = true) :
    wrapFetch library opts = forward library opts := by
  rw [wrapFetch, checked]
  dsimp only
  cases answered : check opts.walletPubkey opts.endpointConfig.flatPremiumLamports with
  | error message =>
      rw [answered] at passes
      cases passes
  | ok balance =>
      cases balance with
      | eligible => rfl
      | ineligible =>
          rw [answered] at passes
          cases passes

/-- Two calls that an unforwarded answer is the same for. -/
structure WrapFetchOptions.SameCheck (opts opts' : WrapFetchOptions) : Prop where
  balanceCheck : opts.balanceCheck = opts'.balanceCheck
  walletPubkey : opts.walletPubkey = opts'.walletPubkey
  endpointConfig : opts.endpointConfig = opts'.endpointConfig
  callId : opts.callId = opts'.callId
  pool : opts.pool = opts'.pool

theorem wrapFetch_of_unpaid (checked : opts.balanceCheck = some check)
    (unpaid : BalanceCheckResult.passes
      (check opts.walletPubkey opts.endpointConfig.flatPremiumLamports) = false)
    (same : opts.SameCheck opts') : wrapFetch library opts = wrapFetch library opts' := by
  rw [wrapFetch, wrapFetch, ← same.balanceCheck, ← same.walletPubkey, ← same.endpointConfig,
    checked]
  dsimp only
  cases answered : check opts.walletPubkey opts.endpointConfig.flatPremiumLamports with
  | error message => simp only [unforwarded, same.callId, same.pool]
  | ok balance =>
      cases balance with
      | ineligible => simp only [unforwarded, same.callId, same.pool]
      | eligible =>
          rw [answered] at unpaid
          cases unpaid

end Checked

namespace MarketProxy

/-! ## Two answers of a provider -/

def Circumstances.answering (circumstances : Circumstances) (response : Response) : Circumstances :=
  { circumstances with upstream := fun _ => some response }

def SamePact (left right : Headers) : Prop :=
  ∀ name, isPactHeader name = true → left.get name = right.get name

section Sanitised

theorem get_sanitised {headers : Headers} {name : String} (pact : isPactHeader name = true) :
    (sanitiseUpstreamResponseHeaders headers).get name = headers.get name := by
  have apart : ∀ stripped ∈ strippedHeaders,
      "x-pact-".toList.isPrefixOf stripped.toList = false := by
    decide +kernel
  have kept : decide (toLowerCase name ∉ strippedHeaders) = true := by
    refine decide_eq_true fun member => ?_
    rw [isPactHeader, apart _ member] at pact
    cases pact
  have foreign : name ≠ "access-control-allow-origin" := by
    rintro rfl
    revert pact
    decide
  rw [sanitiseUpstreamResponseHeaders, get_setHeader_of_ne foreign,
    @get_filter _ _ (fun name => decide (toLowerCase name ∉ strippedHeaders)) kept, get_entries]

theorem sanitised_parts {source answer : Response} {extra : Headers}
    (built : buildSanitisedResponse source extra = some answer) :
    answer.status = source.status ∧ answer.body = source.body := by
  rw [newResponse_eq_some built]
  exact ⟨rfl, rfl⟩

theorem passed_headers {source answer : Response}
    (built : buildSanitisedResponse source [] = some answer) :
    SamePact answer.headers source.headers := by
  intro name pact
  rw [newResponse_eq_some built]
  exact get_sanitised pact

theorem wrapped_headers {source answer : Response}
    (built : buildSanitisedResponse source
      ((entries source.headers).filter fun header => isPactHeader header.1) = some answer) :
    SamePact answer.headers source.headers := by
  intro name pact
  rw [newResponse_eq_some built]
  dsimp only
  rw [get_foldl_setHeader, get_sanitised pact]
  intro header member
  obtain ⟨listed, marked⟩ := List.mem_filter.mp member
  rw [get_sanitised marked]
  exact get_of_mem_entries listed

end Sanitised

/-! ## What becomes of a call -/

def Admission.Passes (admission : Admission) (request : Context) : Prop :=
  admission.pactWallet = none ∨ admission.handler.isInsurableMethod request = false

structure Admission.Covers (urls : UrlLibrary) (circumstances : Circumstances)
    (admission : Admission) (request : Context) (wallet : String) : Prop where
  identified : admission.pactWallet = some wallet
  insurable : admission.handler.isInsurableMethod request = true
  delayed : computeDemoBreachDelayMs circumstances (demoBreach urls request) wallet
    admission.endpoint ≠ none
  passes : BalanceCheckResult.passes
    (admission.balanceCheck wallet admission.endpoint.flatPremiumLamports) = true

section Calls

variable (library : JsonLibrary) (circumstances : Circumstances) (admission : Admission)
  (slug wallet : String) (factory : ClassifierFactory) (response : Response)

def wrappedOptions : WrapFetchOptions :=
  wrapOptions circumstances admission slug wallet factory
    (createBufferedFetch library circumstances (some response))

def verdict : ClassifierResult :=
  let opts := wrappedOptions library circumstances admission slug wallet factory response
  opts.classifier ⟨opts.fetched, (max 0 (opts.tEnd - opts.tStart) : Int), opts.endpointConfig⟩

def Buffers : Prop :=
  circumstances.readable = true ∧ (newResponse { response with body := some [] }).isSome

def pactInputs : PactHeaderInputs :=
  let classified := verdict library circumstances admission slug wallet factory response
  ⟨circumstances.callId, classified.outcome, classified.premium, classified.refund,
    max 0 (circumstances.tEnd - circumstances.tStart), some slug, true⟩

variable {library circumstances admission slug wallet factory response}

theorem fetched_of_buffers (buffers : Buffers circumstances response) :
    (createBufferedFetch library circumstances (some response)).fetched =
      some { response with
        body := some (encode (circumstances.decode (response.body.getD []))) } := by
  obtain ⟨readable, built⟩ := buffers
  simp only [createBufferedFetch, readable, if_true]
  exact newResponse_body built _

theorem fetched_of_not_buffers (lost : ¬Buffers circumstances response) :
    (createBufferedFetch library circumstances (some response)).fetched = none := by
  cases readable : circumstances.readable with
  | false => simp [createBufferedFetch, readable]
  | true =>
      simp only [createBufferedFetch, readable, if_true]
      refine Option.not_isSome_iff_eq_none.mp fun built => lost ⟨readable, ?_⟩
      obtain ⟨rebuilt, built⟩ := Option.isSome_iff_exists.mp built
      have same := newResponse_eq_some built
      subst same
      rw [newResponse_body (Option.isSome_iff_exists.mpr ⟨_, built⟩) []]
      rfl

def unreachable (library : JsonLibrary) (callId : String) : Response :=
  jsonResponse library 502 [("error", some (.string "upstream_unreachable")),
    ("callId", some (.string callId))]

theorem forward_response :
    (forward library (wrappedOptions library circumstances admission slug wallet factory
      response)).response =
      attachPactHeaders ((createBufferedFetch library circumstances (some response)).fetched.getD
          (unreachable library circumstances.callId))
        (pactInputs library circumstances admission slug wallet factory response) :=
  rfl

theorem forward_headers : ∃ annotated base,
    (forward library (wrappedOptions library circumstances admission slug wallet factory
      response)).response = some annotated ∧
    newResponse annotated = some annotated ∧
    annotated.headers = pactHeaders base
      (pactInputs library circumstances admission slug wallet factory response) ∧
    (Buffers circumstances response → base = response.headers) ∧
    (¬Buffers circumstances response → base = [("content-type", "application/json")]) := by
  let absent := unreachable library circumstances.callId
  let base :=
    (createBufferedFetch library circumstances (some response)).fetched.getD absent
  have buildable : newResponse base = some base := by
    cases fetched : (createBufferedFetch library circumstances (some response)).fetched with
    | none =>
        rw [show base = absent from congrArg (fun found => Option.getD found absent) fetched]
        exact buildable_json library _ (by decide) (by decide) (by decide)
    | some found =>
        rw [show base = found from congrArg (fun found => Option.getD found absent) fetched]
        exact fetched_buildable fetched
  refine ⟨_, base.headers, forward_response.trans (newResponse_headers buildable _),
    newResponse_headers buildable _, rfl, fun buffers => ?_, fun lost => ?_⟩
  · exact congrArg (fun found => (Option.getD found absent).headers) (fetched_of_buffers buffers)
  · exact congrArg (fun found => (Option.getD found absent).headers) (fetched_of_not_buffers lost)

theorem Outcome.text_injective {left right : Outcome} (same : left.text = right.text) :
    left = right := by
  cases left <;> cases right <;> first | rfl | (revert same; decide)

theorem authored_same_iff (response' : Response) :
    (∀ name ∈ authored,
      ((pactInputs library circumstances admission slug wallet factory response).authoredValues
        slug).get name =
      ((pactInputs library circumstances admission slug wallet factory response').authoredValues
        slug).get name) ↔
      verdict library circumstances admission slug wallet factory response =
        verdict library circumstances admission slug wallet factory response' := by
  have reads : ∀ (inputs : PactHeaderInputs) (name value : String),
      (name, value) ∈ inputs.authoredValues slug →
        (inputs.authoredValues slug).get name = some value := by
    intro inputs name value member
    have names : (inputs.authoredValues slug).map Prod.fst = authored := rfl
    exact get_of_distinct (names ▸ by decide) member
  have integers : ∀ {left right : Int}, toString left = toString right → left = right := by
    intro left right same
    have parsed := congrArg Requests.parseInt same
    rw [Requests.parseInt_toString, Requests.parseInt_toString] at parsed
    exact Option.some.inj parsed
  constructor
  · intro same
    have premium := same "x-pact-premium" (by decide)
    have refund := same "x-pact-refund" (by decide)
    have outcome := same "x-pact-outcome" (by decide)
    simp only [reads _ "x-pact-premium" _ (.head _), Option.some.injEq] at premium
    simp only [reads _ "x-pact-refund" _ (.tail _ (.head _)), Option.some.injEq] at refund
    simp only [reads _ "x-pact-outcome" _ (.tail _ (.tail _ (.tail _ (.head _)))),
      Option.some.injEq] at outcome
    have parts : ∀ {left right : ClassifierResult}, left.outcome = right.outcome →
        left.premium = right.premium → left.refund = right.refund → left = right := by
      rintro ⟨outcome, premium, refund⟩ ⟨_, _, _⟩ rfl rfl rfl
      rfl
    exact parts (Outcome.text_injective outcome) (integers premium) (integers refund)
  · intro same name _
    have inputs : pactInputs library circumstances admission slug wallet factory response =
        pactInputs library circumstances admission slug wallet factory response' := by
      rw [pactInputs, pactInputs, same]
    rw [inputs]

theorem insured_of_covers {urls : UrlLibrary} {request : Context} {upstreamReq : UpstreamRequest}
    (covers : admission.Covers urls circumstances request wallet)
    (built : admission.handler.buildRequest request admission.endpoint.upstreamBase =
      some upstreamReq)
    (classified : classifierRegistry.lookup slug = some factory) :
    let result := forward library
      (wrappedOptions library circumstances admission slug wallet factory response)
    insured library urls (circumstances.answering response) admission request slug wallet =
      ⟨result.response.bind fun response => buildSanitisedResponse response
          ((entries response.headers).filter fun header => isPactHeader header.1),
        [upstreamReq], result.published.toList⟩ := by
  intro result
  obtain ⟨delay, delayed⟩ := Option.ne_none_iff_exists'.mp covers.delayed
  have delayed' : computeDemoBreachDelayMs (circumstances.answering response)
      (demoBreach urls request) wallet admission.endpoint = some delay := delayed
  have wrapped : wrapFetch library (wrappedOptions library circumstances admission slug wallet
      factory response) = result :=
    wrapFetch_of_passes rfl covers.passes
  rw [insured, delayed']
  dsimp only
  rw [built, classified]
  exact congrArg (fun result : WrapFetchResult => Handled.mk
    (result.response.bind fun response => buildSanitisedResponse response
      ((entries response.headers).filter fun header => isPactHeader header.1))
    (if result.forwarded then [upstreamReq] else []) result.published.toList) wrapped

theorem covered_headers {urls : UrlLibrary} {request : Context} {upstreamReq : UpstreamRequest}
    (covers : admission.Covers urls circumstances request wallet)
    (built : admission.handler.buildRequest request admission.endpoint.upstreamBase =
      some upstreamReq)
    (classified : classifierRegistry.lookup slug = some factory) :
    ∃ base, SamePact (insured library urls (circumstances.answering response) admission request slug
        wallet).answered.headers (pactHeaders base
          (pactInputs library circumstances admission slug wallet factory response)) ∧
      (Buffers circumstances response → base = response.headers) ∧
      (¬Buffers circumstances response → base = [("content-type", "application/json")]) := by
  obtain ⟨annotated, base, forwarded, buildable, headers, kept, lost⟩ :=
    @forward_headers library circumstances admission slug wallet factory response
  refine ⟨base, ?_, kept, lost⟩
  obtain ⟨answer, sanitised⟩ : ∃ answer, buildSanitisedResponse annotated
      ((entries annotated.headers).filter fun header => isPactHeader header.1) = some answer :=
    ⟨_, newResponse_headers buildable _⟩
  have same := wrapped_headers sanitised
  rw [headers] at same
  rw [insured_of_covers covers built classified, Handled.answered]
  dsimp only
  rw [forwarded, Option.bind_some, sanitised, Option.getD_some]
  exact same

end Calls

section Runs

variable {library : JsonLibrary} {urls : UrlLibrary} {circumstances : Circumstances}
  {admission : Admission} {request : Context} {slug wallet : String}
  {upstreamReq : UpstreamRequest} {response response' : Response}

theorem SamePact.symm {left right : Headers} (same : SamePact left right) : SamePact right left :=
  fun name pact => (same name pact).symm

theorem SamePact.trans {left middle right : Headers} (same : SamePact left middle)
    (same' : SamePact middle right) : SamePact left right :=
  fun name pact => (same name pact).trans (same' name pact)

theorem SamePact.marked_iff {left right : Headers} (same : SamePact left right) :
    Marked left ↔ Marked right := by
  rw [Marked, Marked, same "x-pact-call-id" (by decide +kernel),
    same "x-pact-outcome" (by decide +kernel)]

theorem passes_headers
    (built : admission.handler.buildRequest request admission.endpoint.upstreamBase =
      some upstreamReq) :
    ((newResponse response).isSome → SamePact (passthrough (circumstances.answering response)
        admission request).answered.headers response.headers) ∧
      (newResponse response = none → (passthrough (circumstances.answering response) admission
        request).answered = textResponse 500 "Internal Server Error") := by
  have passed : (passthrough (circumstances.answering response) admission request).response =
      buildSanitisedResponse response [] := by
    rw [passthrough, built]
    rfl
  constructor
  · intro buildable
    obtain ⟨answer, buildable⟩ := Option.isSome_iff_exists.mp buildable
    have same := newResponse_eq_some buildable
    subst same
    obtain ⟨sanitised, made⟩ : ∃ sanitised, buildSanitisedResponse answer [] = some sanitised :=
      ⟨_, newResponse_headers buildable _⟩
    rw [Handled.answered, passed, made, Option.getD_some]
    exact passed_headers made
  · intro lost
    have unmade : buildSanitisedResponse response [] = none := by
      unfold newResponse at lost
      unfold buildSanitisedResponse newResponse
      split at lost
      case isTrue => cases lost
      case isFalse unfit => exact if_neg unfit
    rw [Handled.answered, passed, unmade]
    rfl

theorem unpaid_eq
    (unpaid : BalanceCheckResult.passes
      (admission.balanceCheck wallet admission.endpoint.flatPremiumLamports) = false) :
    insured library urls (circumstances.answering response) admission request slug wallet =
      insured library urls (circumstances.answering response') admission request slug wallet := by
  have unforwarded : ∀ factory,
      wrapFetch library (wrappedOptions library circumstances admission slug wallet factory
          response) =
        wrapFetch library (wrappedOptions library circumstances admission slug wallet factory
          response') :=
    fun factory => wrapFetch_of_unpaid rfl unpaid ⟨rfl, rfl, rfl, rfl, rfl⟩
  have delays : ∀ response, computeDemoBreachDelayMs (circumstances.answering response)
      (demoBreach urls request) wallet admission.endpoint = computeDemoBreachDelayMs circumstances
        (demoBreach urls request) wallet admission.endpoint := fun _ => rfl
  unfold insured
  dsimp only
  rw [delays, delays]
  cases computeDemoBreachDelayMs circumstances (demoBreach urls request) wallet
    admission.endpoint with
  | none => rfl
  | some delay =>
      cases admission.handler.buildRequest request admission.endpoint.upstreamBase with
      | none => rfl
      | some upstreamReq =>
          cases classifierRegistry.lookup slug with
          | none => rfl
          | some factory =>
              exact congrArg (fun result : WrapFetchResult => Handled.mk
                (result.response.bind fun response => buildSanitisedResponse response
                  ((entries response.headers).filter fun header => isPactHeader header.1))
                (if result.forwarded then [upstreamReq] else []) result.published.toList)
                (unforwarded factory)

theorem unbuilt_eq
    (unbuilt : admission.handler.buildRequest request admission.endpoint.upstreamBase = none) :
    serve library urls circumstances admission request slug = .answer none := by
  cases named : admission.pactWallet with
  | none => rw [serve, named, passthrough, unbuilt]
  | some wallet =>
      rw [serve, named]
      dsimp only
      split
      case isFalse => rw [passthrough, unbuilt]
      case isTrue =>
        rw [insured, unbuilt]
        dsimp only
        split <;> rfl

theorem undelayed_eq
    (undelayed : computeDemoBreachDelayMs circumstances (demoBreach urls request) wallet
      admission.endpoint = none) :
    insured library urls circumstances admission request slug wallet = .answer none := by
  rw [insured, undelayed]

end Runs

/-! ## The two runs -/

section TwoRuns

variable (library : JsonLibrary) (urls : UrlLibrary) (circumstances : Circumstances)
  (request : Context) (slug : String) (status : Nat) (body : Option (List UInt8))

def run (headers : Headers) : Handled :=
  proxyRoute library urls (circumstances.answering ⟨status, headers, body⟩) request slug

def Asks (admission : Admission) : Prop :=
  resolveEndpoint library urls circumstances request slug = .ok admission ∧
    (admission.handler.buildRequest request admission.endpoint.upstreamBase).isSome

/-- The headers of two answers agree where the gateway does not write them itself, and
the classifier makes the same of both. -/
structure Alike (headers headers' : Headers) : Prop where
  passed : ∀ admission, Asks library urls circumstances request slug admission →
    admission.Passes request → (newResponse ⟨status, headers, body⟩).isSome →
    SamePact headers headers'
  covered : ∀ admission wallet factory, Asks library urls circumstances request slug admission →
    admission.Covers urls circumstances request wallet →
    classifierRegistry.lookup slug = some factory →
    verdict library circumstances admission slug wallet factory ⟨status, headers, body⟩ =
        verdict library circumstances admission slug wallet factory ⟨status, headers', body⟩ ∧
      (Buffers circumstances ⟨status, headers, body⟩ → ∀ name, isPactHeader name = true →
        name ∉ authored → headers.get name = headers'.get name)

structure Unclaimed (headers : Headers) : Prop where
  passed : ∀ admission, Asks library urls circumstances request slug admission →
    admission.Passes request → (newResponse ⟨status, headers, body⟩).isSome → ¬Marked headers
  paid : ∀ admission wallet, Asks library urls circumstances request slug admission →
    admission.pactWallet = some wallet → admission.handler.isInsurableMethod request = true →
    computeDemoBreachDelayMs circumstances (demoBreach urls request) wallet admission.endpoint ≠
      none →
    BalanceCheckResult.passes
      (admission.balanceCheck wallet admission.endpoint.flatPremiumLamports) = true

variable {library urls circumstances request slug status body} {admission : Admission}
  {wallet : String} {factory : ClassifierFactory} {upstreamReq : UpstreamRequest}
  {headers headers' : Headers}

theorem buildable_same (headers headers' : Headers) :
    (newResponse ⟨status, headers, body⟩).isSome =
      (newResponse ⟨status, headers', body⟩).isSome := by
  unfold newResponse
  split <;> rfl

theorem passes_alike
    (built : admission.handler.buildRequest request admission.endpoint.upstreamBase =
      some upstreamReq) :
    SamePact
        (passthrough (circumstances.answering ⟨status, headers, body⟩) admission
          request).answered.headers
        (passthrough (circumstances.answering ⟨status, headers', body⟩) admission
          request).answered.headers ↔
      ((newResponse ⟨status, headers, body⟩).isSome → SamePact headers headers') := by
  obtain ⟨kept, lost⟩ := @passes_headers circumstances _ _ _ ⟨status, headers, body⟩ built
  obtain ⟨kept', lost'⟩ := @passes_headers circumstances _ _ _ ⟨status, headers', body⟩ built
  cases buildable : (newResponse ⟨status, headers, body⟩).isSome with
  | true =>
      have same := kept buildable
      have same' := kept' ((buildable_same headers headers').symm.trans buildable)
      constructor
      · exact fun agree _ => same.symm.trans (agree.trans same')
      · exact fun agree => same.trans ((agree rfl).trans same'.symm)
  | false =>
      have none_ := lost (Option.not_isSome_iff_eq_none.mp (by rw [buildable]; decide))
      have none' := lost' (Option.not_isSome_iff_eq_none.mp
        (by rw [← buildable_same headers headers', buildable]; decide))
      rw [none_, none']
      exact iff_of_true (fun name pact => rfl) fun impossible => by cases impossible

theorem covered_alike (covers : admission.Covers urls circumstances request wallet)
    (built : admission.handler.buildRequest request admission.endpoint.upstreamBase =
      some upstreamReq)
    (classified : classifierRegistry.lookup slug = some factory) :
    SamePact
        (insured library urls (circumstances.answering ⟨status, headers, body⟩) admission request
          slug wallet).answered.headers
        (insured library urls (circumstances.answering ⟨status, headers', body⟩) admission request
          slug wallet).answered.headers ↔
      verdict library circumstances admission slug wallet factory ⟨status, headers, body⟩ =
          verdict library circumstances admission slug wallet factory ⟨status, headers', body⟩ ∧
        (Buffers circumstances ⟨status, headers, body⟩ → ∀ name, isPactHeader name = true →
          name ∉ authored → headers.get name = headers'.get name) := by
  obtain ⟨base, same, kept, lost⟩ := @covered_headers library _ _ _ _ _
    ⟨status, headers, body⟩ _ _ _ covers built classified
  obtain ⟨base', same', kept', lost'⟩ := @covered_headers library _ _ _ _ _
    ⟨status, headers', body⟩ _ _ _ covers built classified
  let inputs := pactInputs library circumstances admission slug wallet factory
    ⟨status, headers, body⟩
  let inputs' := pactInputs library circumstances admission slug wallet factory
    ⟨status, headers', body⟩
  have together : Buffers circumstances ⟨status, headers, body⟩ ↔
      Buffers circumstances ⟨status, headers', body⟩ := by
    unfold Buffers
    rw [buildable_same headers headers']
  have bases : (∀ name, isPactHeader name = true → name ∉ authored →
        base.get name = base'.get name) ↔
      (Buffers circumstances ⟨status, headers, body⟩ → ∀ name, isPactHeader name = true →
        name ∉ authored → headers.get name = headers'.get name) := by
    by_cases buffers : Buffers circumstances ⟨status, headers, body⟩
    · rw [kept buffers, kept' (together.mp buffers)]
      exact ⟨fun agree _ => agree, fun agree => agree buffers⟩
    · rw [lost buffers, lost' fun other => buffers (together.mpr other)]
      exact iff_of_true (fun _ _ _ => rfl) fun other => absurd other buffers
  have annotated : SamePact (pactHeaders base inputs) (pactHeaders base' inputs') ↔
      verdict library circumstances admission slug wallet factory ⟨status, headers, body⟩ =
          verdict library circumstances admission slug wallet factory ⟨status, headers', body⟩ ∧
        ∀ name, isPactHeader name = true → name ∉ authored → base.get name = base'.get name := by
    rw [← authored_same_iff]
    have ours : ∀ name ∈ authored, isPactHeader name = true := by decide +kernel
    have reads : ∀ name, (pactHeaders base inputs).get name =
        if name ∈ authored then (inputs.authoredValues slug).get name else base.get name :=
      fun name => get_pactHeaders base rfl rfl
    have reads' : ∀ name, (pactHeaders base' inputs').get name =
        if name ∈ authored then (inputs'.authoredValues slug).get name else base'.get name :=
      fun name => get_pactHeaders base' rfl rfl
    constructor
    · intro agree
      refine ⟨fun name member => ?_, fun name pact foreign => ?_⟩
      · have both := agree name (ours name member)
        rwa [reads, reads', if_pos member, if_pos member] at both
      · have both := agree name pact
        rwa [reads, reads', if_neg foreign, if_neg foreign] at both
    · rintro ⟨values, others⟩ name pact
      rw [reads, reads']
      by_cases member : name ∈ authored
      · rw [if_pos member, if_pos member]
        exact values name member
      · rw [if_neg member, if_neg member]
        exact others name pact member
  rw [← bases, ← annotated]
  constructor
  · exact fun agree => same.symm.trans (agree.trans same')
  · exact fun agree => same.trans (agree.trans same'.symm)

theorem aside {response : Option Response}
    (answers : ∀ headers, run library urls circumstances request slug status body headers =
      .answer response)
    (plain : ∀ answer, response = some answer → ¬Marked answer.headers)
    (unmade : ∀ admission, Asks library urls circumstances request slug admission →
      ¬admission.Passes request ∧ ∀ wallet, admission.pactWallet = some wallet →
        computeDemoBreachDelayMs circumstances (demoBreach urls request) wallet
          admission.endpoint = none) :
    (SamePact (run library urls circumstances request slug status body headers).answered.headers
        (run library urls circumstances request slug status body headers').answered.headers ↔
      Alike library urls circumstances request slug status body headers headers') ∧
    (((run library urls circumstances request slug status body headers).published = [] →
        ¬Marked (run library urls circumstances request slug status body
          headers).answered.headers) ↔
      Unclaimed library urls circumstances request slug status body headers) := by
  rw [answers, answers]
  constructor
  · refine iff_of_true (fun _ _ => rfl) ⟨?_, ?_⟩
    · exact fun admission asks passes _ => absurd passes (unmade admission asks).1
    · exact fun admission wallet _ asks covers _ =>
        absurd ((unmade admission asks).2 wallet covers.identified) covers.delayed
  · refine iff_of_true (fun _ => unmarked_answer plain) ⟨?_, ?_⟩
    · exact fun admission asks passes _ => absurd passes (unmade admission asks).1
    · exact fun admission wallet asks named _ delayed =>
        absurd ((unmade admission asks).2 wallet named) delayed

theorem Asks.unique {other : Admission}
    (asks : Asks library urls circumstances request slug admission)
    (asks' : Asks library urls circumstances request slug other) : other = admission := by
  have found := asks'.1
  rw [asks.1] at found
  exact (Except.ok.inj found).symm

theorem run_eq (admitted : resolveEndpoint library urls circumstances request slug = .ok admission)
    (headers : Headers) :
    run library urls circumstances request slug status body headers =
      serve library urls (circumstances.answering ⟨status, headers, body⟩) admission request
        slug := by
  have found : resolveEndpoint library urls
      (circumstances.answering ⟨status, headers, body⟩) request slug = .ok admission := admitted
  rw [run, proxyRoute, found]

theorem passes_iff (asks : Asks library urls circumstances request slug admission)
    (passes : admission.Passes request) :
    (SamePact (run library urls circumstances request slug status body headers).answered.headers
        (run library urls circumstances request slug status body headers').answered.headers ↔
      Alike library urls circumstances request slug status body headers headers') ∧
    (((run library urls circumstances request slug status body headers).published = [] →
        ¬Marked (run library urls circumstances request slug status body
          headers).answered.headers) ↔
      Unclaimed library urls circumstances request slug status body headers) := by
  obtain ⟨upstreamReq, built⟩ := Option.isSome_iff_exists.mp asks.2
  have served : ∀ headers, run library urls circumstances request slug status body headers =
      passthrough (circumstances.answering ⟨status, headers, body⟩) admission request := by
    intro headers
    rw [run_eq asks.1, serve]
    cases named : admission.pactWallet with
    | none => rfl
    | some wallet =>
        cases passes with
        | inl anonymous =>
            rw [named] at anonymous
            cases anonymous
        | inr uninsurable =>
            dsimp only
            rw [uninsurable, if_neg Bool.false_ne_true]
  have uncovered : ∀ wallet, admission.pactWallet = some wallet →
      admission.handler.isInsurableMethod request ≠ true := by
    intro wallet named insurable
    cases passes with
    | inl anonymous =>
        rw [named] at anonymous
        cases anonymous
    | inr uninsurable =>
        rw [uninsurable] at insurable
        cases insurable
  have unpublished : (passthrough (circumstances.answering ⟨status, headers, body⟩) admission
      request).published = [] := by
    rw [passthrough, built]
  rw [served, served]
  constructor
  · rw [passes_alike built]
    constructor
    · refine fun agree => ⟨fun other asks' _ => ?_, fun other wallet _ asks' covers _ => ?_⟩
      · exact agree
      · cases asks.unique asks'
        exact absurd covers.insurable (uncovered wallet covers.identified)
    · exact fun alike => alike.passed admission asks passes
  · obtain ⟨kept, lost⟩ := @passes_headers circumstances _ _ _ ⟨status, headers, body⟩ built
    constructor
    · refine fun unmarked => ⟨fun other asks' _ buildable marked => ?_,
        fun other wallet asks' named insurable _ => ?_⟩
      · exact unmarked unpublished ((kept buildable).marked_iff.mpr marked)
      · cases asks.unique asks'
        exact absurd insurable (uncovered wallet named)
    · intro unclaimed _ marked
      cases buildable : (newResponse ⟨status, headers, body⟩).isSome with
      | true =>
          exact unclaimed.passed admission asks passes buildable
            ((kept buildable).marked_iff.mp marked)
      | false =>
          rw [lost (Option.not_isSome_iff_eq_none.mp (by rw [buildable]; decide))] at marked
          exact unmarked_text _ _ marked

theorem insured_iff {delay : ℚ} (asks : Asks library urls circumstances request slug admission)
    (named : admission.pactWallet = some wallet)
    (insurable : admission.handler.isInsurableMethod request = true)
    (delayed : computeDemoBreachDelayMs circumstances (demoBreach urls request) wallet
      admission.endpoint = some delay) :
    (SamePact (run library urls circumstances request slug status body headers).answered.headers
        (run library urls circumstances request slug status body headers').answered.headers ↔
      Alike library urls circumstances request slug status body headers headers') ∧
    (((run library urls circumstances request slug status body headers).published = [] →
        ¬Marked (run library urls circumstances request slug status body
          headers).answered.headers) ↔
      Unclaimed library urls circumstances request slug status body headers) := by
  obtain ⟨upstreamReq, built⟩ := Option.isSome_iff_exists.mp asks.2
  obtain ⟨factory, classified⟩ := classified (found_of_admitted asks.1).handled
  have served : ∀ headers, run library urls circumstances request slug status body headers =
      insured library urls (circumstances.answering ⟨status, headers, body⟩) admission request slug
        wallet := by
    intro headers
    rw [run_eq asks.1, serve, named]
    dsimp only
    rw [if_pos insurable]
  have wrapped : ¬admission.Passes request := by
    rintro (anonymous | uninsurable)
    · rw [named] at anonymous
      cases anonymous
    · rw [insurable] at uninsurable
      cases uninsurable
  obtain ⟨marked, -, published⟩ := @insured_marks library urls
    (circumstances.answering ⟨status, headers, body⟩) request slug admission factory wallet delay
    upstreamReq delayed built classified
  rw [served, served]
  constructor
  · cases pays : BalanceCheckResult.passes
      (admission.balanceCheck wallet admission.endpoint.flatPremiumLamports) with
    | false =>
        rw [@unpaid_eq library urls circumstances admission request slug wallet
          ⟨status, headers, body⟩ ⟨status, headers', body⟩ pays]
        refine iff_of_true (fun _ _ => rfl) ⟨fun other asks' passes => ?_,
          fun other wallet' _ asks' covers _ => ?_⟩
        · cases asks.unique asks'
          exact absurd passes wrapped
        · cases asks.unique asks'
          cases named.symm.trans covers.identified
          cases pays.symm.trans covers.passes
    | true =>
        have covers : admission.Covers urls circumstances request wallet :=
          ⟨named, insurable, by simp [delayed], pays⟩
        rw [covered_alike covers built classified]
        constructor
        · refine fun agree => ⟨fun other asks' passes => ?_,
            fun other wallet' factory' asks' covers' classified' => ?_⟩
          · cases asks.unique asks'
            exact absurd passes wrapped
          · cases asks.unique asks'
            cases named.symm.trans covers'.identified
            cases classified.symm.trans classified'
            exact agree
        · exact fun alike => alike.covered admission wallet factory asks covers classified
  · constructor
    · refine fun unmarked => ⟨fun other asks' passes => ?_,
        fun other wallet' asks' named' _ _ => ?_⟩
      · cases asks.unique asks'
        exact absurd passes wrapped
      · cases asks.unique asks'
        cases named.symm.trans named'
        exact published.mp fun unpublished => unmarked unpublished marked
    · exact fun unclaimed unpublished => absurd unpublished (published.mpr
        (unclaimed.paid admission wallet asks named insurable (by simp [delayed])))

end TwoRuns

namespace Demo

open Requests.Sdk.Demo (gateway)

def anonymous : Context where
  method := "GET"
  url := some gateway
  headers := []
  body := some []
  endpointNetwork := .ok none

end Demo

end MarketProxy

end PactNetwork.Coverage
