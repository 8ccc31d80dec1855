import PactNetwork.Coverage.CallReports

/-!
# Upstream origin

Where the request of a handler goes: to the provider whose address the endpoint has,
unless the path behind the prefix of the gateway starts with two slashes and names a
host of its own.
-/

set_option autoImplicit false

namespace PactNetwork.Coverage.MarketProxy

open Requests (Url JsonLibrary Crypto)
open Requests.Gateway (Context Viem)

/-! ## Addresses -/

def origin (url : Url) : String × String × String := (url.protocol, url.hostname, url.port)

def isWeb (url : Url) : Bool := url.protocol = "http:" || url.protocol = "https:"

/-- Slashes, and what `URL` leaves out of a text before it reads it. -/
def separators : List Char := ['/', '\\', '\t', '\n', '\r']

def Rooted (text : List Char) : Prop :=
  ∃ rest, text = '/' :: rest ∧ ∀ second, rest.head? = some second → second ∉ separators

def slashes : List Char := ['/', '/']

/-- What the standard says of `URL` at addresses of the web. -/
structure UrlLibrary.Standard (urls : UrlLibrary) : Prop where
  plain : ∀ {text url}, urls.parser.parse text = some url → isWeb url = true →
    ∀ char ∈ url.pathname.toList, char = '/' ∨ char ∉ separators
  searched : ∀ {text url}, urls.parser.parse text = some url →
    url.search.toList = [] ∨ url.search.toList.head? = some '?'
  resolve_rooted : ∀ {text base relative url}, urls.parser.parse text = some base →
    isWeb base = true → Rooted relative.toList → urls.resolve relative text = some url →
    origin url = origin base
  resolve_host : ∀ {text base relative}, urls.parser.parse text = some base →
    isWeb base = true → slashes <+: relative.toList →
    urls.resolve relative text = urls.parser.parse (base.protocol ++ relative)
  origin_deleteParam : ∀ name url, origin (urls.deleteParam name url) = origin url
  origin_setParam : ∀ name value url, origin (urls.setParam name value url) = origin url
  query_deleteParam : ∀ name url, urls.query (urls.deleteParam name url) name = none
  query_deleteParam_ne : ∀ {name other} url, other ≠ name →
    urls.query (urls.deleteParam name url) other = urls.query url other
  query_setParam_ne : ∀ {name other} value url, other ≠ name →
    urls.query (urls.setParam name value url) other = urls.query url other

def Segmented (path : List Char) : Prop :=
  ∃ version slug rest, path = '/' :: (version ++ '/' :: (slug ++ rest)) ∧
    version ≠ [] ∧ '/' ∉ version ∧ slug ≠ [] ∧ '/' ∉ slug ∧ (rest = [] ∨ rest.head? = some '/')

/-- A received address that the route `/v1/:slug/*` matches. -/
structure Routed (urls : UrlLibrary) (url : Url) : Prop where
  received : ∃ text, urls.parser.parse text = some url
  web : isWeb url = true
  segmented : Segmented url.pathname.toList

/-! ## Paths -/

def forwardedPath (slug : String) (url : Url) : String :=
  if slug = "dummy" then stripGateway url.pathname else url.pathname

theorem rooted_append {path search : List Char} (rooted : Rooted path)
    (searched : search = [] ∨ search.head? = some '?') : Rooted (path ++ search) := by
  obtain ⟨rest, rfl, apart⟩ := rooted
  refine ⟨rest ++ search, List.cons_append, fun second found => ?_⟩
  cases rest with
  | nil =>
      cases searched with
      | inl empty => rw [empty] at found; cases found
      | inr marked =>
          rw [List.nil_append, marked] at found
          rw [← Option.some.inj found]
          decide
  | cons first rest => exact apart second found

theorem rooted_of_segmented {path : List Char} (segmented : Segmented path)
    (plain : ∀ char ∈ path, char = '/' ∨ char ∉ separators) : Rooted path := by
  obtain ⟨version, slug, rest, rfl, named, whole, -⟩ := segmented
  refine ⟨_, rfl, fun second found => ?_⟩
  cases version with
  | nil => exact absurd rfl named
  | cons first version =>
      have same : first = second := Option.some.inj found
      have apart : second ≠ '/' := fun slash =>
        whole (slash ▸ same ▸ List.mem_cons_self)
      have within : second ∈ '/' :: (first :: version ++ '/' :: (slug ++ rest)) := by
        rw [same]
        exact List.mem_cons_of_mem _ List.mem_cons_self
      exact (plain second within).resolve_left apart

theorem stripGateway_shape {pathname : String} {rest : List Char}
    (path : pathname.toList = '/' :: rest) :
    ∃ rest', (stripGateway pathname).toList = '/' :: rest' ∧
      ∀ char ∈ rest', char ∈ pathname.toList := by
  have whole : (if pathname.toList = [] then "/" else String.ofList pathname.toList).toList =
      '/' :: rest := by
    rw [path, if_neg (List.cons_ne_nil _ _), String.toList_ofList]
  have within : ∀ char ∈ rest, char ∈ pathname.toList := by
    rw [path]
    exact fun char member => List.mem_cons_of_mem _ member
  unfold stripGateway
  dsimp only
  split
  case h_2 => exact ⟨rest, whole, within⟩
  case h_1 slug behind prefixed =>
    by_cases empty : slug = '/'
    · simp only [if_pos empty]
      exact ⟨rest, whole, within⟩
    · simp only [if_neg empty]
      cases left : behind.dropWhile (· ≠ '/') with
      | nil => exact ⟨[], rfl, fun char member => absurd member List.not_mem_nil⟩
      | cons first rest' =>
          have slash : first = '/' := by
            have stops := List.head?_dropWhile_not (· ≠ '/') behind
            rw [left] at stops
            simpa using stops
          rw [if_neg (List.cons_ne_nil _ _), String.toList_ofList, slash]
          refine ⟨rest', rfl, fun char member => ?_⟩
          have kept : char ∈ behind.dropWhile (· ≠ '/') := left ▸ List.mem_cons_of_mem _ member
          rw [prefixed]
          exact List.mem_cons_of_mem _ (List.mem_cons_of_mem _ (List.mem_cons_of_mem _
            (List.mem_cons_of_mem _ (List.mem_cons_of_mem _
              ((List.dropWhile_suffix _).subset kept)))))

section Forwarding

variable {urls : UrlLibrary} {url : Url} {slug : String}

def namesHost (slug : String) (url : Url) : Bool :=
  slug = "dummy" && slashes.isPrefixOf (stripGateway url.pathname).toList

theorem forwardedPath_cases (slug : String) (standard : urls.Standard) (routed : Routed urls url) :
    if namesHost slug url then slashes <+: (forwardedPath slug url ++ url.search).toList
    else Rooted (forwardedPath slug url ++ url.search).toList := by
  obtain ⟨text, parsed⟩ := routed.received
  have plain := standard.plain parsed routed.web
  have searched := standard.searched parsed
  rw [String.toList_append, namesHost, forwardedPath]
  by_cases dummy : slug = "dummy"
  · obtain ⟨_, _, _, path, -⟩ := routed.segmented
    obtain ⟨rest, stripped, within⟩ := stripGateway_shape path
    rw [if_pos dummy, decide_eq_true dummy, Bool.true_and]
    split
    case isTrue host =>
      exact (List.isPrefixOf_iff_prefix.mp host).trans (List.prefix_append _ _)
    case isFalse path =>
      refine rooted_append ⟨rest, stripped, fun second found => ?_⟩ searched
      refine (plain second (within second (List.mem_of_head? found))).resolve_left fun slash => ?_
      rw [slash, List.head?_eq_some_iff] at found
      obtain ⟨behind, rfl⟩ := found
      exact path (stripped ▸ rfl)
  · rw [if_neg dummy, decide_eq_false dummy, Bool.false_and, if_neg Bool.false_ne_true]
    exact rooted_append (rooted_of_segmented routed.segmented plain) searched

/-! ## Requests -/

/-- What is to hold of a request to the provider at an address. -/
structure Confined (urls : UrlLibrary) (base : Url) (upstreamReq : UpstreamRequest) : Prop where
  home : origin upstreamReq.url = origin base
  wallet : urls.query upstreamReq.url "pact_wallet" = none
  breach : urls.query upstreamReq.url "demo_breach" = none

def NamesOther (urls : UrlLibrary) (slug : String) (base url : Url) : Prop :=
  namesHost slug url = true ∧ ∃ named, origin named ≠ origin base ∧
    urls.parser.parse (base.protocol ++ (stripGateway url.pathname ++ url.search)) = some named

/-- What handlers do to an address, parameters of the network aside. -/
structure Keeps (urls : UrlLibrary) (addKey : Url → Url) : Prop where
  origin : ∀ url, MarketProxy.origin (addKey url) = MarketProxy.origin url
  query : ∀ url name, name ≠ "api-key" → urls.query (addKey url) name = urls.query url name

theorem keeps_addHeliusKey (standard : urls.Standard) (heliusKey : Option String) :
    Keeps urls (addHeliusKey urls heliusKey) where
  origin url := by
    unfold addHeliusKey
    split
    case h_1 => exact standard.origin_setParam _ _ url
    case h_2 => rfl
  query url name other := by
    unfold addHeliusKey
    split
    case h_1 => exact standard.query_setParam_ne _ url other
    case h_2 => rfl

variable {library : JsonLibrary} {heliusKey : Option String} {handler : EndpointHandler}
  {request : Context} {upstreamReq : UpstreamRequest} {upstreamBase : String} {base : Url}

def Builds (urls : UrlLibrary) (slug : String) (handler : EndpointHandler) : Prop :=
  ∃ addKey extraAllowed, Keeps urls addKey ∧
    handler.buildRequest = buildRequest urls (forwardedPath slug) addKey extraAllowed

theorem forwardedPath_of_ne (other : slug ≠ "dummy") : forwardedPath slug = Url.pathname :=
  funext fun _ => if_neg other

theorem builds_restHandler (extraAllowed : List String) (other : slug ≠ "dummy") :
    Builds urls slug (restHandler urls extraAllowed) :=
  ⟨id, extraAllowed, ⟨fun _ => rfl, fun _ _ _ => rfl⟩, by rw [forwardedPath_of_ne other]; rfl⟩

theorem builds_of_lookup (standard : urls.Standard)
    (found : (handlerRegistry urls library heliusKey).lookup slug = some handler) :
    Builds urls slug handler := by
  obtain ⟨before, after, listed, -⟩ := List.lookup_eq_some_iff.mp found
  have member : (slug, handler) ∈ handlerRegistry urls library heliusKey := by
    rw [listed]
    exact List.mem_append_right _ List.mem_cons_self
  simp only [handlerRegistry, List.mem_cons, List.not_mem_nil, or_false, Prod.mk.injEq] at member
  obtain ⟨rfl, rfl⟩ | ⟨rfl, rfl⟩ | ⟨rfl, rfl⟩ | ⟨rfl, rfl⟩ | ⟨rfl, rfl⟩ | ⟨rfl, rfl⟩ | ⟨rfl, rfl⟩ |
    ⟨rfl, rfl⟩ := member
  · refine ⟨addHeliusKey urls heliusKey, [], keeps_addHeliusKey standard heliusKey, ?_⟩
    rw [forwardedPath_of_ne (by decide)]
    rfl
  · exact builds_restHandler ["x-api-key"] (by decide)
  · exact builds_restHandler [] (by decide)
  · exact builds_restHandler [] (by decide)
  · exact builds_restHandler [] (by decide)
  · exact builds_restHandler ["x-api-key"] (by decide)
  · exact builds_restHandler ["authorization"] (by decide)
  · exact ⟨id, [], ⟨fun _ => rfl, fun _ _ _ => rfl⟩, rfl⟩

theorem built_url {path : Url → String} {addKey : Url → Url} {extraAllowed : List String}
    (requested : request.url = some url)
    (built : buildRequest urls path addKey extraAllowed request upstreamBase = some upstreamReq) :
    ∃ resolved, urls.resolve (path url ++ url.search) upstreamBase = some resolved ∧
      upstreamReq.url =
        addKey (urls.deleteParam "demo_breach" (urls.deleteParam "pact_wallet" resolved)) := by
  rw [buildRequest, requested, Option.bind_eq_bind, Option.bind_some] at built
  cases resolves : urls.resolve (path url ++ url.search) upstreamBase with
  | none =>
      rw [resolves] at built
      cases built
  | some resolved =>
      rw [resolves] at built
      dsimp only [Option.bind_eq_bind, Option.bind_some] at built
      split at built
      case isTrue =>
        cases built
        exact ⟨resolved, rfl, rfl⟩
      case isFalse => cases built

theorem confined_resolved (standard : urls.Standard) (requested : request.url = some url)
    (found : (handlerRegistry urls library heliusKey).lookup slug = some handler)
    (built : handler.buildRequest request upstreamBase = some upstreamReq) :
    ∃ resolved, urls.resolve (forwardedPath slug url ++ url.search) upstreamBase = some resolved ∧
      ∀ base, Confined urls base upstreamReq ↔ origin resolved = origin base := by
  obtain ⟨addKey, extraAllowed, keeps, builds⟩ := builds_of_lookup standard found
  rw [builds] at built
  obtain ⟨resolved, resolves, addressed⟩ := built_url requested built
  have kept : origin upstreamReq.url = origin resolved := by
    rw [addressed, keeps.origin, standard.origin_deleteParam, standard.origin_deleteParam]
  refine ⟨resolved, resolves, fun base => ⟨fun confined => kept.symm.trans confined.home, ?_⟩⟩
  intro home
  refine ⟨kept.trans home, ?_, ?_⟩
  · rw [addressed, keeps.query _ _ (by decide), standard.query_deleteParam_ne _ (by decide),
      standard.query_deleteParam]
  · rw [addressed, keeps.query _ _ (by decide), standard.query_deleteParam]

theorem confined_of_path (standard : urls.Standard) (routed : Routed urls url)
    (requested : request.url = some url) (configured : urls.parser.parse upstreamBase = some base)
    (web : isWeb base = true)
    (found : (handlerRegistry urls library heliusKey).lookup slug = some handler)
    (built : handler.buildRequest request upstreamBase = some upstreamReq)
    (path : namesHost slug url = false) : Confined urls base upstreamReq := by
  obtain ⟨resolved, resolves, confined⟩ := confined_resolved standard requested found built
  have rooted := forwardedPath_cases slug standard routed
  rw [path, if_neg Bool.false_ne_true] at rooted
  exact (confined base).mpr (standard.resolve_rooted configured web rooted resolves)

/-- A request that a handler builds stays with the provider, unless the path behind the
prefix names a host of another origin. -/
theorem upstream_confined_iff (standard : urls.Standard) (routed : Routed urls url)
    (requested : request.url = some url) (configured : urls.parser.parse upstreamBase = some base)
    (web : isWeb base = true)
    (found : (handlerRegistry urls library heliusKey).lookup slug = some handler)
    (built : handler.buildRequest request upstreamBase = some upstreamReq) :
    Confined urls base upstreamReq ↔ ¬ NamesOther urls slug base url := by
  cases host : namesHost slug url with
  | false =>
      have confined :=
        confined_of_path standard routed requested configured web found built host
      exact iff_of_true confined fun other => Bool.false_ne_true (host.symm.trans other.1)
  | true =>
      obtain ⟨resolved, resolves, confined⟩ := confined_resolved standard requested found built
      have named := forwardedPath_cases slug standard routed
      rw [host, if_pos rfl] at named
      have read := (standard.resolve_host configured web named).symm.trans resolves
      have dummy : slug = "dummy" := of_decide_eq_true (Bool.and_eq_true_iff.mp host).1
      rw [forwardedPath, if_pos dummy] at read
      rw [confined]
      constructor
      · intro home other
        obtain ⟨-, named, apart, parsed⟩ := other
        rw [parsed] at read
        exact apart (Option.some.inj read ▸ home)
      · intro none
        by_contra away
        exact none ⟨host, resolved, away, read⟩

end Forwarding

/-! ## The gateway -/

section Gateway

variable {crypto : Crypto} {viem : Viem} {library : JsonLibrary} {urls : UrlLibrary}
  {circumstances : Circumstances} {request : Context} {upstreamReq : UpstreamRequest}
  {slug : String} {admission : Admission}

theorem passthrough_forwarded
    (sent : upstreamReq ∈ (passthrough circumstances admission request).forwarded) :
    admission.handler.buildRequest request admission.endpoint.upstreamBase = some upstreamReq := by
  unfold passthrough at sent
  split at sent
  case h_1 => cases sent
  case h_2 built =>
    rw [built, List.mem_singleton.mp sent]

theorem insured_forwarded {pactWallet : String}
    (sent : upstreamReq ∈
      (insured library urls circumstances admission request slug pactWallet).forwarded) :
    admission.handler.buildRequest request admission.endpoint.upstreamBase = some upstreamReq := by
  unfold insured at sent
  dsimp only at sent
  split at sent
  case h_1 => cases sent
  case h_2 =>
    split at sent
    case h_1 built classified =>
      dsimp only at sent
      split at sent
      case isTrue => rw [built, List.mem_singleton.mp sent]
      case isFalse => cases sent
    case h_2 => cases sent

theorem app_forwarded
    (sent : upstreamReq ∈ (app crypto viem library urls circumstances request).forwarded) :
    ∃ (slug : String) (admission : Admission),
      request.url.bind circumstances.route = some slug ∧
        admission.Found library urls circumstances request slug ∧
        admission.handler.buildRequest request admission.endpoint.upstreamBase =
          some upstreamReq := by
  unfold app at sent
  split at sent
  case h_1 => cases sent
  case h_2 slug routed =>
    unfold insuredRoute at sent
    split at sent
    case h_1 => cases sent
    case h_2 => cases sent
    case h_3 =>
      split at sent
      case h_1 => cases sent
      case h_2 => cases sent
      case h_3 =>
        unfold proxyRoute at sent
        split at sent
        case h_1 => cases sent
        case h_2 admission admitted =>
          refine ⟨slug, admission, routed, found_of_admitted admitted, ?_⟩
          unfold serve at sent
          split at sent
          case h_1 => exact passthrough_forwarded sent
          case h_2 pactWallet identified =>
            split at sent
            case isTrue => exact insured_forwarded sent
            case isFalse => exact passthrough_forwarded sent

theorem mem_of_get {registry : EndpointRegistry} {network : Option String} {row : EndpointRow}
    (found : registry.get slug network = some row) : ∃ key, (key, row) ∈ registry := by
  unfold EndpointRegistry.get at found
  split at found
  case h_1 network given =>
    obtain ⟨before, after, listed, -⟩ := List.lookup_eq_some_iff.mp found
    exact ⟨_, listed ▸ List.mem_append_right _ List.mem_cons_self⟩
  case h_2 =>
    split at found
    case h_1 entry alone =>
      have member : entry ∈ registry.filter fun entry => isOfSlug slug entry.1 := by
        rw [alone]
        exact List.mem_singleton_self entry
      rw [← Option.some.inj found]
      exact ⟨entry.1, (List.mem_filter.mp member).1⟩
    case h_2 => cases found

def Configured (urls : UrlLibrary) (circumstances : Circumstances) : Prop :=
  ∀ registry, circumstances.registry = some registry → ∀ key row, (key, row) ∈ registry →
    ∃ base, urls.parser.parse row.upstreamBase = some base ∧ isWeb base = true

theorem app_confined (standard : urls.Standard) (configured : Configured urls circumstances)
    (routes : ∀ url slug, circumstances.route url = some slug → Routed urls url)
    (sent : upstreamReq ∈ (app crypto viem library urls circumstances request).forwarded)
    (genuine : request.url.bind circumstances.route ≠ some "dummy") :
    ∃ registry key row base, circumstances.registry = some registry ∧ (key, row) ∈ registry ∧
      urls.parser.parse row.upstreamBase = some base ∧ Confined urls base upstreamReq := by
  obtain ⟨slug, admission, routed, found, built⟩ := app_forwarded sent
  obtain ⟨url, requested, slugged⟩ := Option.bind_eq_some_iff.mp routed
  obtain ⟨registry, cached, get⟩ := found.registered
  obtain ⟨key, member⟩ := mem_of_get get
  obtain ⟨base, parsed, web⟩ := configured registry cached key _ member
  refine ⟨registry, key, admission.endpoint, base, cached, member, parsed, ?_⟩
  have path : namesHost slug url = false := by
    rw [namesHost, decide_eq_false, Bool.false_and]
    rintro rfl
    exact genuine routed
  exact confined_of_path standard (routes url slug slugged) requested parsed web found.handled built
    path

end Gateway

namespace OriginDemo

open Requests (UrlParser)

def relocate (url : Url) (pathname search : String) : Url :=
  let host := if url.port = "" then url.hostname else url.hostname ++ ":" ++ url.port
  { url with
    href := url.protocol ++ "//" ++ host ++ pathname ++ search
    pathname := pathname
    search := search }

def site (hostname : String) : Url where
  href := "https://" ++ hostname ++ "/"
  protocol := "https:"
  username := ""
  password := ""
  hostname := hostname
  port := ""
  pathname := "/"
  search := ""

def provider : Url := site "dummy.pactnetwork.io"

def quote : Url :=
  relocate (site "api.pactnetwork.io") "/v1/dummy/quote/AAPL" "?fail=1&pact_wallet=9xQe"

/-- The path behind the prefix is `//evil.example/quote`. -/
def crafted : Url := relocate (site "api.pactnetwork.io") "/v1/dummy//evil.example/quote" ""

def addresses : List Url := [provider, quote, crafted, relocate (site "evil.example") "/quote" ""]

def parser : UrlParser where
  parse text := addresses.find? (·.href = text)
  reparse parsed := by
    have same := List.find?_some parsed
    rw [of_decide_eq_true same]
    exact parsed

def params (search : String) : List (List Char) :=
  match search.toList with
  | '?' :: query => query.splitOn '&'
  | _ => []

def search (params : List (List Char)) : String :=
  if params = [] then "" else String.ofList ('?' :: ['&'].intercalate params)

theorem params_search {written : List (List Char)} (apart : ∀ param ∈ written, '&' ∉ param) :
    params (search written) = written := by
  unfold search
  split
  case isTrue empty => rw [empty]; rfl
  case isFalse some =>
    rw [params, String.toList_ofList]
    exact List.splitOn_intercalate '&' apart some

theorem apart_of_mem_splitOn {text param : List Char} (member : param ∈ text.splitOn '&') :
    '&' ∉ param := by
  induction text generalizing param with
  | nil =>
      rw [List.splitOn_nil, List.mem_singleton] at member
      rw [member]
      exact List.not_mem_nil
  | cons char text ih =>
      rw [List.splitOn_cons_eq_if_modifyHead] at member
      split at member
      case isTrue =>
        cases member with
        | head => exact List.not_mem_nil
        | tail _ member => exact ih member
      case isFalse other =>
        cases parts : text.splitOn '&' with
        | nil =>
            rw [parts] at member
            cases member
        | cons first parts' =>
            rw [parts] at member ih
            cases member with
            | head =>
                intro within
                cases within with
                | head => exact other (beq_self_eq_true _)
                | tail _ within => exact ih List.mem_cons_self within
            | tail _ member => exact ih (List.mem_cons_of_mem _ member)

theorem apart_of_mem_params {written : String} {param : List Char}
    (member : param ∈ params written) : '&' ∉ param := by
  unfold params at member
  split at member
  case h_1 => exact apart_of_mem_splitOn member
  case h_2 => cases member

def isNamed (name : String) (param : List Char) : Bool := param.takeWhile (· ≠ '=') = name.toList

def others (name : String) (url : Url) : List (List Char) :=
  (params url.search).filter fun param => !isNamed name param

def urls : UrlLibrary where
  parser := parser
  resolve relative text :=
    (parser.parse text).bind fun base =>
      if slashes.isPrefixOf relative.toList then parser.parse (base.protocol ++ relative)
      else
        some (relocate base (String.ofList (relative.toList.takeWhile (· ≠ '?')))
          (String.ofList (relative.toList.dropWhile (· ≠ '?'))))
  query url name :=
    ((params url.search).find? (isNamed name)).map fun param =>
      String.ofList ((param.dropWhile (· ≠ '=')).drop 1)
  deleteParam name url := relocate url url.pathname (search (others name url))
  setParam name value url :=
    let param := name.toList ++ '=' :: value.toList
    if '=' ∈ name.toList ∨ '&' ∈ param then url
    else relocate url url.pathname (search (others name url ++ [param]))
  requestable _ _ _ _ := true

theorem params_others (name : String) (url : Url) :
    params (search (others name url)) = others name url :=
  params_search fun _ member => apart_of_mem_params (List.mem_of_mem_filter member)

theorem find_others {name other : String} (url : Url) (apart : other ≠ name) :
    (others name url).find? (isNamed other) = (params url.search).find? (isNamed other) := by
  unfold others
  induction params url.search with
  | nil => rfl
  | cons param rest ih =>
      cases deleted : isNamed name param with
      | false =>
          rw [List.filter_cons_of_pos (by rw [deleted]; rfl), List.find?_cons, List.find?_cons, ih]
      | true =>
          have unnamed : isNamed other param = false := by
            rw [Bool.eq_false_iff]
            intro named
            exact apart (String.toList_inj.mp
              ((of_decide_eq_true named).symm.trans (of_decide_eq_true deleted)))
          rw [List.filter_cons_of_neg (by rw [deleted]; decide), List.find?_cons, unnamed, ih]

theorem listed_of_parse {text : String} {url : Url} (parsed : urls.parser.parse text = some url) :
    url ∈ addresses := by
  have found : addresses.find? (·.href = text) = some url := parsed
  exact List.mem_of_find?_eq_some found

theorem addresses_plain :
    addresses.all (fun url => url.pathname.toList.all fun char =>
      char == '/' || !separators.elem char) = true := by
  decide +kernel

theorem addresses_searched :
    addresses.all (fun url => url.search.toList.isEmpty || url.search.toList.head? == some '?') =
      true := by
  decide +kernel

theorem lawful : urls.Standard where
  plain := by
    intro text url parsed _ char within
    have listed := listed_of_parse parsed
    have all := List.all_eq_true.mp (List.all_eq_true.mp addresses_plain url listed) char within
    rw [Bool.or_eq_true, beq_iff_eq, Bool.not_eq_true'] at all
    exact all.imp_right fun apart member => by
      rw [List.elem_eq_true_of_mem member] at apart
      cases apart
  searched := by
    intro text url parsed
    have listed := listed_of_parse parsed
    have all := List.all_eq_true.mp addresses_searched url listed
    rwa [Bool.or_eq_true, List.isEmpty_iff, beq_iff_eq] at all
  resolve_rooted := by
    intro text base relative url parsed web rooted resolved
    have read : (parser.parse text).bind _ = some url := resolved
    have found : parser.parse text = some base := parsed
    obtain ⟨rest, path, apart⟩ := rooted
    rw [found, Option.bind_some] at read
    split at read
    case isTrue host =>
      rw [path, List.isPrefixOf_iff_prefix] at host
      obtain ⟨behind, same⟩ := host
      rw [slashes, List.cons_append, List.cons.injEq] at same
      exact absurd (by decide) (apart '/' (by rw [← same.2]; rfl))
    case isFalse =>
      rw [← Option.some.inj read]
      rfl
  resolve_host := by
    intro text base relative parsed web host
    have found : parser.parse text = some base := parsed
    show (parser.parse text).bind _ = _
    rw [found, Option.bind_some, if_pos (List.isPrefixOf_iff_prefix.mpr host)]
    rfl
  origin_deleteParam _ _ := rfl
  origin_setParam name value url := by
    dsimp only [urls]
    split
    case isTrue => rfl
    case isFalse => rfl
  query_deleteParam name url := by
    dsimp only [urls, relocate]
    rw [params_others, List.find?_eq_none.mpr, Option.map_none]
    intro param member
    have kept := List.of_mem_filter member
    rw [Bool.not_eq_true'] at kept
    exact Bool.eq_false_iff.mp kept
  query_deleteParam_ne url apart := by
    dsimp only [urls, relocate]
    rw [params_others, find_others url apart]
  query_setParam_ne := by
    intro name other value url apart
    dsimp only [urls, relocate]
    split
    case isTrue => rfl
    case isFalse fits =>
      push Not at fits
      have written : ∀ param ∈ others name url ++ [name.toList ++ '=' :: value.toList],
          '&' ∉ param := by
        intro param member
        rw [List.mem_append, List.mem_singleton] at member
        cases member with
        | inl kept => exact apart_of_mem_params (List.mem_of_mem_filter kept)
        | inr added => exact added ▸ fits.2
      have unnamed : isNamed other (name.toList ++ '=' :: value.toList) = false := by
        rw [Bool.eq_false_iff]
        intro named
        have same := of_decide_eq_true named
        rw [List.takeWhile_append_of_pos, List.takeWhile_cons_of_neg (by decide), List.append_nil]
          at same
        · exact apart (String.toList_inj.mp same.symm)
        · exact fun char member => decide_eq_true fun equals => fits.1 (equals ▸ member)
      rw [params_search written, List.find?_append, find_others url apart, List.find?_cons, unnamed,
        List.find?_nil, Option.or_none]

def request (url : Url) : Context where
  method := "GET"
  url := some url
  headers := []
  body := none
  endpointNetwork := .ok none

def library : JsonLibrary where
  stringify _ := ""
  parse _ := none
  bigInt _ := none
  number _ := none

theorem routed_quote : Routed urls quote where
  received := ⟨quote.href, by decide +kernel⟩
  web := rfl
  segmented :=
    ⟨"v1".toList, "dummy".toList, "/quote/AAPL".toList, by decide +kernel, by decide +kernel,
      by decide +kernel, by decide +kernel, by decide +kernel, .inr (by decide +kernel)⟩

theorem routed_crafted : Routed urls crafted where
  received := ⟨crafted.href, by decide +kernel⟩
  web := rfl
  segmented :=
    ⟨"v1".toList, "dummy".toList, "//evil.example/quote".toList, by decide +kernel,
      by decide +kernel, by decide +kernel, by decide +kernel, by decide +kernel,
      .inr (by decide +kernel)⟩

/-- The request for the crafted path is built for another host. -/
theorem crafted_leaves : urls.Standard ∧ ¬ ∀ url upstreamReq, Routed urls url →
    (dummyHandler urls).buildRequest (request url) provider.href = some upstreamReq →
    Confined urls provider upstreamReq := by
  refine ⟨lawful, fun confined => ?_⟩
  have built : (dummyHandler urls).buildRequest (request crafted) provider.href =
      some ⟨relocate (site "evil.example") "/quote" "", "GET", [], none⟩ := by decide +kernel
  exact absurd (confined _ _ routed_crafted built).home (by decide +kernel)

theorem upstream_confined_quote :
    Confined urls provider
        ⟨relocate provider "/quote/AAPL" "?fail=1", "GET", [], none⟩ ↔
      ¬ NamesOther urls "dummy" provider quote := by
  have configured : urls.parser.parse provider.href = some provider := by decide +kernel
  have found : (handlerRegistry urls library none).lookup "dummy" = some (dummyHandler urls) := rfl
  have built : (dummyHandler urls).buildRequest (request quote) provider.href =
      some ⟨relocate provider "/quote/AAPL" "?fail=1", "GET", [], none⟩ := by decide +kernel
  exact upstream_confined_iff lawful routed_quote rfl configured rfl found built

end OriginDemo

end PactNetwork.Coverage.MarketProxy
