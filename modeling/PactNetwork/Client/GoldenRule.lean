import PactNetwork.Client.SlugResolver
import PactNetwork.Client.Storage
import PactNetwork.Requests.SigningContract

/-!
# The golden rule

`pact.fetch` as a whole: resolving, preparing, the gateway or the bare fetch, and
what is booked after it. It is to reject only where the bare fetch rejects, which
it does unless the discovery document cannot be read or the address cannot be
rewritten.
-/

set_option autoImplicit false

namespace PactNetwork.Client.Sdk

open Requests (Crypto JsonLibrary UrlParser)
open Requests.Sdk (SlugResolution DegradedReason RequestInit Deps Moment FetchCall Target Attempt
  Response GoldenFetchResult canonicalHostname prepare goldenFetch hasBody bodyToBytes
  validHeaders buildProxiedUrl parsePactHeaders isPactProcessed)

/-! ## What is booked -/

inductive PactEvent
  | degraded (reason : Option DegradedReason) (url ts : String)
  | failure (callId : Option String) (slug url outcome : String)
      (premiumLamports refundLamports : Option Int) (ts : String)

structure Bookings where
  events : List PactEvent
  appended : Option PendingObservation

/-- The events and the observation of an answered call. -/
def book (agentPubkey url ts : String) (result : GoldenFetchResult) : Bookings :=
  if result.degraded then ⟨[.degraded result.degradedReason url ts], none⟩
  else
    let pact := result.pactHeaders
    let outcome := pact.bind (·.outcome)
    let premium := pact.bind (·.premiumLamports)
    let refund := pact.bind (·.refundLamports)
    let breach := outcome.any fun outcome => outcome ≠ "ok"
    let observation : Option PendingObservation :=
      (result.callId.filter fun callId => callId ≠ "").map fun callId =>
        { callId := callId
          agentPubkey := agentPubkey
          slug := (result.target.slug.orElse fun _ => pact.bind (·.pool)).getD ""
          host := result.target.host.getD ""
          ts := ts
          premiumLamports := premium.map toString
          refundLamports := refund.map toString
          outcome := outcome
          breach := some breach
          reconciled := false }
    let failures : List PactEvent :=
      if breach then
        [.failure result.callId (result.target.slug.getD "") url (outcome.getD "") premium
          refund ts]
      else []
    ⟨failures, observation⟩

/-! ## The call -/

/-- What a call finds: the resolver when it comes, the times it reads, the discovery
request under way that it joins, if there is one, and what other calls do to the
resolver while it waits. -/
structure Circumstances where
  resolver : SlugResolver
  arrivedAt : ℚ
  refreshedAt : ℚ
  resumedAt : ℚ
  inflight : Option (Option Requests.Json)
  others : SlugResolver → SlugResolver
  moment : Moment
  ts : String

section

variable {σ : Type} (crypto : Crypto) (parser : UrlParser) (library : JsonLibrary) (deps : Deps)
  (circumstances : Circumstances) (url : String) (init : RequestInit)
  (hostnameOverride : Option String)

def discovery (discover : σ → Option Requests.Json × σ) (world : σ) :
    Option Requests.Json × σ :=
  match circumstances.inflight with
  | some answer => (answer, world)
  | none => discover world

/-- The resolution of a host; `none` where the refresh rejects. -/
def resolve (discover : σ → Option Requests.Json × σ) (hostname : String) (world : σ) :
    Option SlugResolution × σ :=
  match circumstances.resolver.cached circumstances.arrivedAt hostname with
  | some resolution => (some resolution, world)
  | none =>
      ((circumstances.resolver.doRefresh library circumstances.refreshedAt
          (discovery circumstances discover world).1).map fun refreshed =>
            ((circumstances.others refreshed.2).settle refreshed.1 circumstances.resumedAt
              hostname).1,
        (discovery circumstances discover world).2)

/-- What is left to do once the host is resolved. -/
def attempt (discover : σ → Option Requests.Json × σ) (world : σ) : Attempt × σ :=
  match canonicalHostname parser (hostnameOverride.getD url) with
  | none => (.bare .invalidHostname ⟨none, none, none⟩, world)
  | some host =>
      match resolve library circumstances discover host world with
      | (none, world) => (.threw, world)
      | (some resolution, world) =>
          (prepare crypto parser deps (fun _ => resolution) circumstances.moment url init
            hostnameOverride, world)

def turning (discover : σ → Option Requests.Json × σ)
    (proxyFetch : FetchCall → σ → Option Response × σ) (world : σ) : σ :=
  match attempt crypto parser library deps circumstances url init hostnameOverride discover world
  with
  | (.threw, world) | (.bare _ _, world) => world
  | (.proxied call _, world) => (proxyFetch call world).2

/-- The response, or `none` where the promise rejects, with what is booked. -/
def pactFetch (discover : σ → Option Requests.Json × σ)
    (proxyFetch : FetchCall → σ → Option Response × σ) (bareFetch : σ → Option Response × σ)
    (world : σ) : Option (Response × Bookings) × σ :=
  let prepared := attempt crypto parser library deps circumstances url init hostnameOverride
    discover world
  let fetched := goldenFetch library bareFetch proxyFetch prepared.1 prepared.2
  (fetched.1.map fun result =>
    (result.response, book deps.agentPubkey url circumstances.ts result), fetched.2)

/-! ## Where it breaks -/

def Misread (discover : σ → Option Requests.Json × σ) (world : σ) : Prop :=
  ∃ host, canonicalHostname parser (hostnameOverride.getD url) = some host ∧
    circumstances.resolver.cached circumstances.arrivedAt host = none ∧
    ¬Legible (discovery circumstances discover world).1

def Unrewritable (discover : σ → Option Requests.Json × σ) (world : σ) : Prop :=
  ∃ host slug premiumBps, canonicalHostname parser (hostnameOverride.getD url) = some host ∧
    (resolve library circumstances discover host world).1 = some (.ok slug premiumBps) ∧
    deps.signRequests = true ∧ deps.sign.isSome = true ∧
    ¬(hasBody init.body ∧ bodyToBytes init.body = none) ∧ parser.parse url = none

/-- The call rejects only if the bare fetch does where the call turns to it. -/
def Golden (discover : σ → Option Requests.Json × σ)
    (proxyFetch : FetchCall → σ → Option Response × σ) (bareFetch : σ → Option Response × σ)
    (world : σ) : Prop :=
  (pactFetch crypto parser library deps circumstances url init hostnameOverride discover proxyFetch
    bareFetch world).1 = none →
  (bareFetch (turning crypto parser library deps circumstances url init hostnameOverride discover
    proxyFetch world)).1 = none

end

section

variable {σ : Type} {crypto : Crypto} {parser : UrlParser} {library : JsonLibrary} {deps : Deps}
  {circumstances : Circumstances} {url : String} {init : RequestInit}
  {hostnameOverride : Option String}

theorem resolve_eq_none {discover : σ → Option Requests.Json × σ} {hostname : String}
    {world : σ} : (resolve library circumstances discover hostname world).1 = none ↔
      circumstances.resolver.cached circumstances.arrivedAt hostname = none ∧
        ¬Legible (discovery circumstances discover world).1 := by
  rw [resolve]
  cases circumstances.resolver.cached circumstances.arrivedAt hostname with
  | some resolution => simp
  | none =>
      dsimp only
      rw [Option.map_eq_none_iff, ← Option.not_isSome_iff_eq_none, doRefresh_isSome]
      simp

theorem prepare_threw {resolution : SlugResolution} {moment : Moment} {host : String}
    (named : canonicalHostname parser (hostnameOverride.getD url) = some host)
    (valid : validHeaders init.headers = true) :
    prepare crypto parser deps (fun _ => resolution) moment url init hostnameOverride = .threw ↔
      (∃ slug premiumBps, resolution = .ok slug premiumBps) ∧ deps.signRequests = true ∧
        deps.sign.isSome = true ∧ ¬(hasBody init.body ∧ bodyToBytes init.body = none) ∧
          parser.parse url = none := by
  unfold prepare
  rw [named]
  dsimp only
  cases resolution with
  | failed reason => simp
  | ok slug premiumBps =>
      cases deps.signRequests with
      | false => simp
      | true =>
          cases deps.sign with
          | none => simp
          | some sign =>
              dsimp only
              split
              · rename_i unsignable
                simp [unsignable]
              · rename_i signable
                simp only [buildProxiedUrl]
                cases parser.parse url with
                | none => simp [signable]
                | some parsed =>
                    simp only [Option.map_some]
                    split
                    · simp
                    · simp

theorem attempt_threw {discover : σ → Option Requests.Json × σ} {world : σ}
    (valid : validHeaders init.headers = true) :
    (attempt crypto parser library deps circumstances url init hostnameOverride discover world).1 =
      .threw ↔ Misread parser circumstances url hostnameOverride discover world ∨
        Unrewritable parser library deps circumstances url init hostnameOverride discover world := by
  unfold attempt
  cases named : canonicalHostname parser (hostnameOverride.getD url) with
  | none => simp [Misread, Unrewritable, named]
  | some host =>
      dsimp only
      cases resolved : (resolve library circumstances discover host world).1 with
      | none =>
          have misread : Misread parser circumstances url hostnameOverride discover world :=
            ⟨host, named, resolve_eq_none.mp resolved⟩
          rw [← Prod.eta (resolve library circumstances discover host world), resolved]
          exact iff_of_true rfl (.inl misread)
      | some resolution =>
          rw [← Prod.eta (resolve library circumstances discover host world), resolved]
          dsimp only
          rw [prepare_threw named valid]
          constructor
          · rintro ⟨⟨slug, premiumBps, rfl⟩, signs, signer, signable, relative⟩
            exact .inr ⟨host, slug, premiumBps, named, resolved, signs, signer, signable, relative⟩
          · rintro (⟨other, same, misread⟩ | ⟨other, slug, premiumBps, same, ok, rest⟩)
            · cases named.symm.trans same
              cases resolved.symm.trans (resolve_eq_none.mpr misread)
            · cases named.symm.trans same
              exact ⟨⟨slug, premiumBps, Option.some.inj (resolved.symm.trans ok)⟩, rest⟩

theorem bare_eq_none {bareFetch : σ → Option Response × σ} {reason : DegradedReason}
    {target : Target} {world : σ} :
    (Requests.Sdk.bare bareFetch reason target world).1 = none ↔ (bareFetch world).1 = none := by
  rw [Requests.Sdk.bare]
  generalize bareFetch world = answered
  obtain ⟨answer, after⟩ := answered
  cases answer with
  | none => exact iff_of_true rfl rfl
  | some response => exact iff_of_false (fun wrong => by cases wrong) fun wrong => by cases wrong

/-- The golden rule holds of a call unless it misreads the discovery document or
cannot rewrite its address while the bare fetch would answer. -/
theorem golden_rule {discover : σ → Option Requests.Json × σ}
    {proxyFetch : FetchCall → σ → Option Response × σ} {bareFetch : σ → Option Response × σ}
    {world : σ}
    (checked : validHeaders init.headers = false → ∀ world, (bareFetch world).1 = none) :
    Golden crypto parser library deps circumstances url init hostnameOverride discover proxyFetch
        bareFetch world ↔
      (Misread parser circumstances url hostnameOverride discover world ∨
        Unrewritable parser library deps circumstances url init hostnameOverride discover world →
          (bareFetch (turning crypto parser library deps circumstances url init hostnameOverride
            discover proxyFetch world)).1 = none) := by
  cases valid : validHeaders init.headers with
  | false => exact iff_of_true (fun _ => checked valid _) fun _ => checked valid _
  | true =>
      have gives : (attempt crypto parser library deps circumstances url init hostnameOverride
          discover world).1 = .threw ↔ _ := attempt_threw valid
      rw [← gives]
      unfold Golden pactFetch turning
      dsimp only
      rw [Option.map_eq_none_iff]
      generalize attempt crypto parser library deps circumstances url init hostnameOverride
        discover world = prepared
      obtain ⟨attempt, later⟩ := prepared
      cases attempt with
      | threw => exact imp_congr_left (iff_of_true rfl rfl)
      | bare reason target =>
          refine iff_of_true ?_ fun threw => by cases threw
          exact fun rejects => bare_eq_none.mp rejects
      | proxied call target =>
          refine iff_of_true ?_ fun threw => by cases threw
          intro rejects
          rw [goldenFetch] at rejects
          dsimp only at rejects ⊢
          generalize proxyFetch call later = answered at rejects ⊢
          obtain ⟨answer, after⟩ := answered
          cases answer with
          | none => exact bare_eq_none.mp rejects
          | some response =>
              dsimp only at rejects
              split at rejects
              · cases rejects
              · exact bare_eq_none.mp rejects

end

/-! ## A document that cannot be read -/

namespace Demo.Golden

open Requests.Sdk.Demo (crypto parser deps moment upstream init)

def numbers : JsonLibrary where
  stringify _ := ""
  parse _ := none
  bigInt _ := none
  number _ := some 0

def circumstances : Circumstances where
  resolver := ⟨[], [], 0, false⟩
  arrivedAt := 1
  refreshedAt := 2
  resumedAt := 3
  inflight := none
  others := id
  moment := moment
  ts := "2026"

def document : Requests.Json :=
  .object [("cacheTtlSec", .number 60), ("endpoints", .array
    [.object [("slug", .string "helius"), ("hostnames", .number 5)]])]

def discover (answer : Requests.Json) (world : Unit) : Option Requests.Json × Unit :=
  (some answer, world)

def unreachable (_ : FetchCall) (world : Unit) : Option Response × Unit := (none, world)

def answers (world : Unit) : Option Response × Unit := (some ⟨200, [], none⟩, world)

theorem golden_rule_demo :
    Golden crypto parser numbers deps circumstances upstream.href init none
        (discover document) unreachable answers () ↔
      (Misread parser circumstances upstream.href none (discover document) () ∨
        Unrewritable parser numbers deps circumstances upstream.href init none
          (discover document) () →
        (answers (turning crypto parser numbers deps circumstances upstream.href init none
          (discover document) unreachable ())).1 = none) :=
  golden_rule fun invalid => absurd invalid (by decide +kernel)

/-- The bare fetch answers, and the call rejects. -/
theorem not_golden_rule :
    ¬Golden crypto parser numbers deps circumstances upstream.href init none (discover document)
      unreachable answers () := by
  intro golden
  have rejects : (pactFetch crypto parser numbers deps circumstances upstream.href init none
      (discover document) unreachable answers ()).1.isNone = true := by decide +kernel
  cases golden (Option.isNone_iff_eq_none.mp rejects)

end Demo.Golden

end PactNetwork.Client.Sdk
