import PactNetwork.Coverage.WrapFetch

/-!
# The market proxy

The gateway from the routes of its server to the answer of a call: the beta gate,
the signature check, the registry of endpoints, the handlers of the providers, and
the two ways a call goes on, through the wrapped fetch or past it.
-/

set_option autoImplicit false

namespace PactNetwork.Coverage.MarketProxy

open Requests (Headers Url UrlParser Json JsonLibrary Crypto Nonces Answer Arrival encode
  toLowerCase)
open Requests.Headers (given)
open Requests.Gateway (Context Viem verifyPactSignature)
open Requests.Sdk (Response isPactHeader trim)

/-! ## The providers -/

/-- What the handlers take from `URL` and its search parameters, and from `Request`. -/
structure UrlLibrary where
  parser : UrlParser
  /-- `new URL(relative, base)`. -/
  resolve : (relative base : String) → Option Url
  query : Url → String → Option String
  deleteParam : String → Url → Url
  setParam : (name value : String) → Url → Url
  /-- What `new Request(url, { method, headers, body })` does not throw on. -/
  requestable : (url : Url) → (method : String) → Headers → Option (List UInt8) → Bool

structure UpstreamRequest where
  url : Url
  method : String
  headers : Headers
  body : Option (List UInt8)
  deriving DecidableEq

def baseAllowed : List String := ["content-type", "accept", "accept-encoding", "user-agent"]

def alwaysDenied : List String :=
  ["authorization", "cookie", "set-cookie", "proxy-authorization", "x-forwarded-for",
    "x-forwarded-host", "x-forwarded-proto", "x-real-ip", "host"]

def buildUpstreamHeaders (incoming : Headers) (extraAllowed : List String) : Headers :=
  incoming.filter fun header =>
    let name := toLowerCase header.1
    name ∉ alwaysDenied && (name ∈ baseAllowed || name ∈ extraAllowed)

structure EndpointHandler where
  /-- `none` where it throws. -/
  buildRequest : (req : Context) → (upstreamBase : String) → Option UpstreamRequest
  isInsurableMethod : Context → Bool

section Handlers

variable (urls : UrlLibrary)

/-- A request for another path of the provider, less the network's own parameters. -/
def buildRequest (path : Url → String) (addKey : Url → Url) (extraAllowed : List String)
    (req : Context) (upstreamBase : String) : Option UpstreamRequest := do
  let url ← req.url
  let resolved ← urls.resolve (path url ++ url.search) upstreamBase
  let upstreamUrl := addKey (urls.deleteParam "demo_breach" (urls.deleteParam "pact_wallet" resolved))
  let headers := buildUpstreamHeaders req.headers extraAllowed
  if urls.requestable upstreamUrl req.method headers req.body then
    some ⟨upstreamUrl, req.method, headers, req.body⟩
  else none

/-- A provider whose path is forwarded as it is and all of whose calls are insured. -/
def restHandler (extraAllowed : List String) : EndpointHandler where
  buildRequest := buildRequest urls Url.pathname id extraAllowed
  isInsurableMethod _ := true

def birdeyeHandler : EndpointHandler := restHandler urls ["x-api-key"]

def jupiterHandler : EndpointHandler := restHandler urls []

def elfaHandler : EndpointHandler := restHandler urls []

def falHandler : EndpointHandler := restHandler urls []

def moralisHandler : EndpointHandler := restHandler urls ["x-api-key"]

def covalentHandler : EndpointHandler := restHandler urls ["authorization"]

def insurableMethods : List String :=
  ["getAccountInfo", "sendTransaction", "getTransaction", "getBalance", "getSignatureStatuses",
    "getProgramAccounts"]

def addHeliusKey (heliusKey : Option String) (url : Url) : Url :=
  match urls.query url "api-key", given heliusKey with
  | none, some key => urls.setParam "api-key" key url
  | _, _ => url

def heliusHandler (library : JsonLibrary) (heliusKey : Option String) : EndpointHandler where
  buildRequest := buildRequest urls Url.pathname (addHeliusKey urls heliusKey) []
  isInsurableMethod req :=
    match (req.body.bind library.parse).bind (Json.property "method") with
    | some (some (.string method)) => method ∈ insurableMethods
    | _ => false

/-- `pathname.replace(/^\/v1\/[^/]+/, "") || "/"`. -/
def stripGateway (pathname : String) : String :=
  let rest :=
    match pathname.toList with
    | '/' :: 'v' :: '1' :: '/' :: slug :: rest =>
        if slug = '/' then pathname.toList else rest.dropWhile (· ≠ '/')
    | other => other
  if rest = [] then "/" else String.ofList rest

def dummyHandler : EndpointHandler where
  buildRequest := buildRequest urls (fun url => stripGateway url.pathname) id []
  isInsurableMethod _ := true

def handlerRegistry (library : JsonLibrary) (heliusKey : Option String) :
    List (String × EndpointHandler) :=
  [("helius", heliusHandler urls library heliusKey), ("birdeye", birdeyeHandler urls),
    ("jupiter", jupiterHandler urls), ("elfa", elfaHandler urls), ("fal", falHandler urls),
    ("moralis", moralisHandler urls), ("covalent", covalentHandler urls),
    ("dummy", dummyHandler urls)]

end Handlers

/-! ## The registry -/

structure EndpointRow where
  slug : String
  network : String
  flatPremiumLamports : Int
  slaLatencyMs : ℚ
  imputedCostLamports : Int
  paused : Bool
  upstreamBase : String

abbrev EndpointRegistry := List (String × EndpointRow)

def isOfSlug (slug key : String) : Bool := (slug ++ "::").toList.isPrefixOf key.toList

def EndpointRegistry.get (registry : EndpointRegistry) (slug : String) (network : Option String) :
    Option EndpointRow :=
  match given network with
  | some network => registry.lookup (slug ++ "::" ++ network)
  | none =>
      match registry.filter fun entry => isOfSlug slug entry.1 with
      | [entry] => some entry.2
      | _ => none

def EndpointRegistry.getNetworksForSlug (registry : EndpointRegistry) (slug : String) :
    List String :=
  (registry.filter fun entry => isOfSlug slug entry.1).map fun entry =>
    ((entry.1.splitOn "::")[1]?).getD ""

/-! ## What a request finds -/

inductive EligibilityReason
  | insufficientBalance
  | insufficientAllowance
  | noAccount
  deriving DecidableEq

inductive EligibilityCheckResult
  | eligible (balance allowance : Int)
  | ineligible (reason : EligibilityReason) (balance allowance : Option Int)

/-- `checkAgentEligibility` of a network's adapter, or the message it throws. -/
abbrev ChainAdapter := String → Int → Except String EligibilityCheckResult

def adapterToBalanceCheck (adapter : ChainAdapter) : BalanceCheck := fun walletPubkey required =>
  (adapter walletPubkey required).map fun
    | .eligible balance allowance => .eligible balance allowance
    | .ineligible reason balance allowance =>
        .ineligible
          (match reason with
            | .noAccount => .noAta
            | .insufficientBalance => .insufficientBalance
            | .insufficientAllowance => .insufficientAllowance) balance allowance

def withoutMark (text : String) : String :=
  match text.toList with
  | first :: rest => if first.toNat = 0xfeff then String.ofList rest else text
  | [] => text

/-- The configuration of the gateway and the answers of what it asks about a request:
`none` where asking throws. -/
structure Circumstances where
  /-- The slug of an address under the insured route; all others have routes of
  their own, whose answers tell of no call. -/
  route : Url → Option String
  otherRoutes : Context → Response
  unmarked : ∀ request, ¬ Marked (otherRoutes request).headers
  betaGate : Option Bool
  /-- The status of the row of a key's hash, if there is one. -/
  apiKeyStatus : String → Option (Option String)
  nonces : Nonces
  checkedAt : Int
  seenAt : Int
  /-- The registry as the middleware, the route and the route's second look find it. -/
  verifierRegistry : Option EndpointRegistry
  registry : Option EndpointRegistry
  networkRegistry : Option EndpointRegistry
  legacyDirectSolana : Bool
  legacyBalanceCheck : BalanceCheck
  adapters : List (String × ChainAdapter)
  insecureDemo : Bool
  heliusKey : Option String
  demoAllowed : String → Option Bool
  callId : String
  /-- The answer of a provider, and whether its body can be read. -/
  upstream : UpstreamRequest → Option Response
  readable : Bool
  /-- `Response.text()`, which leaves out a byte order mark in front. -/
  decode : List UInt8 → String
  decode_encode : ∀ text, decode (encode text) = withoutMark text
  tStart : Int
  tEnd : Int

/-- What a request comes to: its answer, unless the route throws, the calls of the
provider it made and the events it published. -/
structure Handled where
  response : Option Response
  forwarded : List UpstreamRequest
  published : List SettlementEvent

section Routes

variable (crypto : Crypto) (viem : Viem) (library : JsonLibrary) (urls : UrlLibrary)
  (circumstances : Circumstances)

/-! ## The middlewares -/

def Handled.answer (response : Option Response) : Handled := ⟨response, [], []⟩

def bearer : String := "Bearer "

/-- The denial of a request, or none where it is admitted. -/
def requireBetaKey (request : Context) : Option (Option Response) := do
  let gateOn ← circumstances.betaGate
  let denied := jsonResponse library 403 [("error", some (.string "pact_auth_not_in_beta"))]
  if gateOn = false then some none
  else
    match request.headers.get "authorization" with
    | none => some (some denied)
    | some authHeader =>
        if bearer.toList.isPrefixOf authHeader.toList then
          let plaintext := trim (authHeader.toList.drop bearer.length)
          if plaintext = [] then some (some denied)
          else
            match circumstances.apiKeyStatus (crypto.sha256Hex (encode (String.ofList plaintext))) with
            | some (some "active") => some none
            | _ => some (some denied)
        else some (some denied)

/-- The network whose key the request is to be signed with. -/
def getEndpointNetwork (request : Context) (slug : String) : Except String (Option String) :=
  match request.headers.get "x-pact-network" with
  | some network => .ok (some network)
  | none =>
      match circumstances.verifierRegistry with
      | some registry => .ok ((registry.get slug none).map EndpointRow.network)
      | none => .error "query failed"

/-! ## The route -/

/-- What the route has found out when it turns to the provider. -/
structure Admission where
  endpoint : EndpointRow
  handler : EndpointHandler
  balanceCheck : BalanceCheck
  pactWallet : Option String

def selectBalanceCheck (endpointNetwork : String) : Option BalanceCheck :=
  if circumstances.legacyDirectSolana ∧ "solana-".toList.isPrefixOf endpointNetwork.toList then
    some circumstances.legacyBalanceCheck
  else (circumstances.adapters.lookup endpointNetwork).map adapterToBalanceCheck

/-- The agent of a request, if it names one; a name in the query is refused but in the
demo mode. -/
def identify (request : Context) : Except Response (Option String) :=
  match given (request.headers.get "x-pact-agent") with
  | some headerAgent => .ok (some headerAgent)
  | none =>
      match given (request.url.bind fun url => urls.query url "pact_wallet") with
      | none => .ok none
      | some queryAgent =>
          if circumstances.insecureDemo then .ok (some queryAgent)
          else
            .error (jsonResponse library 401
              [("error", some (.string "pact_auth_missing")),
                ("message", some (.string ("?pact_wallet= is gated by PACT_PROXY_INSECURE_DEMO in " ++
                  "this environment. Send an authenticated x-pact-agent header instead.")))])

/-- The answer for a slug that stands for no endpoint. -/
def notFound (slug : String) (network : Option String) : Option Response := do
  let registry ← circumstances.networkRegistry
  let available := registry.getNetworksForSlug slug
  if available = [] then
    some (jsonResponse library 404 [("error", some (.string "endpoint not found"))])
  else
    match given network with
    | some network =>
        some (jsonResponse library 404
          [("error", some (.string "endpoint_not_found")),
            ("message", some (.string ("endpoint \"" ++ slug ++ "\" not found on network \"" ++
              network ++ "\". Available networks: " ++ ", ".intercalate available)))])
    | none =>
        some (jsonResponse library 404
          [("error", some (.string "endpoint_ambiguous")),
            ("message", some (.string ("Set X-Pact-Network header to disambiguate: " ++
              ", ".intercalate available)))])

def textResponse (status : Nat) (text : String) : Response :=
  ⟨status, [("content-type", "text/plain; charset=UTF-8")], some (encode text)⟩

/-- The route up to the provider, or the answer it ends with before. -/
def resolveEndpoint (request : Context) (slug : String) : Except (Option Response) Admission := do
  let network := request.headers.get "x-pact-network"
  let registry ← circumstances.registry.elim (.error none) .ok
  match registry.get slug network with
  | none => .error (notFound library circumstances slug network)
  | some endpoint =>
      if endpoint.paused then
        .error (some (jsonResponse library 503 [("error", some (.string "endpoint paused"))]))
      else
        match (handlerRegistry urls library circumstances.heliusKey).lookup slug with
        | none =>
            .error (some (jsonResponse library 501
              [("error", some (.string "no handler for endpoint"))]))
        | some handler =>
            match selectBalanceCheck circumstances endpoint.network with
            | none =>
                .error (some (textResponse 503
                  ("Network \"" ++ endpoint.network ++ "\" not enabled on this proxy")))
            | some balanceCheck =>
                match identify library urls circumstances request with
                | .error refused => .error (some refused)
                | .ok pactWallet => .ok ⟨endpoint, handler, balanceCheck, pactWallet⟩

def strippedHeaders : List String :=
  ["set-cookie", "server", "via", "x-powered-by", "x-aspnet-version", "x-aspnetmvc-version",
    "access-control-allow-origin", "access-control-allow-credentials",
    "access-control-allow-methods", "access-control-allow-headers",
    "access-control-expose-headers", "access-control-max-age"]

def sanitiseUpstreamResponseHeaders (upstream : Headers) : Headers :=
  setHeader ((entries upstream).filter fun header => toLowerCase header.1 ∉ strippedHeaders)
    "access-control-allow-origin" "*"

def buildSanitisedResponse (source : Response) (extraHeaders : Headers) : Option Response :=
  let headers := extraHeaders.foldl (fun headers header => setHeader headers header.1 header.2)
    (sanitiseUpstreamResponseHeaders source.headers)
  newResponse { source with headers := headers }

/-- The answer of the provider as the classifier gets it, and the value of its body. -/
structure BufferedFetch where
  fetched : Option Response
  parsedBody : Json

def includes (text part : String) : Bool := text.toList.tails.any (part.toList.isPrefixOf ·)

def createBufferedFetch (upstream : Option Response) : BufferedFetch :=
  match upstream with
  | none => ⟨none, .null⟩
  | some resp =>
      if circumstances.readable then
        let text := circumstances.decode (resp.body.getD [])
        let parsed :=
          if includes ((resp.headers.get "content-type").getD "") "application/json" then
            (library.parse (encode text)).getD .null
          else .null
        ⟨newResponse { resp with body := some (encode text) }, parsed⟩
      else ⟨none, .null⟩

def demoBreach (request : Context) : Bool :=
  (request.url.bind fun url => urls.query url "demo_breach") = some "1"

/-- The delay of a forced breach, which is slept between the two reads of the clock. -/
def computeDemoBreachDelayMs (demoBreach : Bool) (walletPubkey : String)
    (endpoint : EndpointRow) : Option ℚ :=
  if demoBreach then
    (circumstances.demoAllowed walletPubkey).map fun allowed =>
      if allowed then endpoint.slaLatencyMs + 300 else 0
  else some 0

def passthrough (admission : Admission) (request : Context) : Handled :=
  match admission.handler.buildRequest request admission.endpoint.upstreamBase with
  | none => .answer none
  | some upstreamReq =>
      ⟨(circumstances.upstream upstreamReq).bind fun upstreamResp =>
        buildSanitisedResponse upstreamResp [], [upstreamReq], []⟩

def wrapOptions (admission : Admission) (slug pactWallet : String) (factory : ClassifierFactory)
    (buffered : BufferedFetch) : WrapFetchOptions where
  endpointSlug := slug
  walletPubkey := pactWallet
  classifier := factory.classifier buffered.parsedBody
  balanceCheck := some admission.balanceCheck
  endpointConfig :=
    { flatPremiumLamports := admission.endpoint.flatPremiumLamports
      imputedCostLamports := admission.endpoint.imputedCostLamports
      slaLatencyMs := admission.endpoint.slaLatencyMs }
  fetched := buffered.fetched
  tStart := circumstances.tStart
  tEnd := circumstances.tEnd
  callId := circumstances.callId
  pool := some slug
  network := some admission.endpoint.network

/-- A call of an agent through the wrapped fetch. -/
def insured (admission : Admission) (request : Context) (slug pactWallet : String) : Handled :=
  let endpoint := admission.endpoint
  match computeDemoBreachDelayMs circumstances (demoBreach urls request) pactWallet endpoint with
  | none => .answer none
  | some _ =>
      match admission.handler.buildRequest request endpoint.upstreamBase,
        classifierRegistry.lookup slug with
      | some upstreamReq, some factory =>
          let buffered := createBufferedFetch library circumstances (circumstances.upstream upstreamReq)
          let result := wrapFetch library
            (wrapOptions circumstances admission slug pactWallet factory buffered)
          ⟨result.response.bind fun response =>
              buildSanitisedResponse response
                ((entries response.headers).filter fun header => isPactHeader header.1),
            if result.forwarded then [upstreamReq] else [], result.published.toList⟩
      | _, _ => .answer none

def serve (admission : Admission) (request : Context) (slug : String) : Handled :=
  match admission.pactWallet with
  | none => passthrough circumstances admission request
  | some pactWallet =>
      if admission.handler.isInsurableMethod request then
        insured library urls circumstances admission request slug pactWallet
      else passthrough circumstances admission request

def proxyRoute (request : Context) (slug : String) : Handled :=
  match resolveEndpoint library urls circumstances request slug with
  | .error response => .answer response
  | .ok admission => serve library urls circumstances admission request slug

/-! ## The server -/

def arrival (request : Context) (slug : String) : Arrival Context :=
  ⟨{ request with endpointNetwork := getEndpointNetwork circumstances request slug },
    circumstances.checkedAt, circumstances.seenAt⟩

/-- The middlewares and the route of an insured address. -/
def insuredRoute (request : Context) (slug : String) : Handled :=
  match requireBetaKey crypto library circumstances request with
  | none => .answer none
  | some (some denied) => .answer (some denied)
  | some none =>
      match (verifyPactSignature crypto viem circumstances.nonces
        (arrival circumstances request slug)).1 with
      | .failed => .answer none
      | .reject error message =>
          .answer (some (jsonResponse library 401
            [("error", some (.string error.code)), ("message", some (.string message))]))
      | .next _ => proxyRoute library urls circumstances request slug

/-- The answer to a request, which says that the server failed where a route throws. -/
def Handled.answered (handled : Handled) : Response :=
  handled.response.getD (textResponse 500 "Internal Server Error")

def app (request : Context) : Handled :=
  match request.url.bind circumstances.route with
  | none => .answer (some (circumstances.otherRoutes request))
  | some slug => insuredRoute crypto viem library urls circumstances request slug

end Routes

end PactNetwork.Coverage.MarketProxy
