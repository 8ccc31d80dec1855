import PactNetwork.Requests.GoldenFetch

/-!
# Slug resolver

How the SDK finds the endpoint of a host in the gateway's discovery document, what
it keeps of it, and on which documents reading throws.
-/

set_option autoImplicit false

namespace PactNetwork.Client.Sdk

open Requests (Json JsonLibrary truthy toLowerCase)
open Requests.Sdk (SlugResolution dropTrailing)

structure SlugEntry where
  slug : String
  premiumBps : Option ℚ
  paused : Bool
  network : Option Json

/-- The resolver's caches, the latest entry of a host first. -/
structure SlugResolver where
  hostToEntry : List (String × SlugEntry)
  negative : List (String × ℚ)
  cacheExpiresAt : ℚ
  haveGoodCache : Bool

def negativeTtlMs : ℚ := 5 * 60000

def defaultCacheTtlMs : ℚ := 3600000

/-! ## The document -/

mutual

/-- Whether `Number(value)` and `String(value)` do not throw: a parsed object cannot
be converted when it has a property that hides `toString`. -/
def convertible : Json → Bool
  | .array items => convertibleItems items
  | .object fields => (fields.lookup "toString").isNone
  | .null | .bool _ | .number _ | .string _ => true

def convertibleItems : List Json → Bool
  | [] => true
  | item :: items => convertible item && convertibleItems items

end

def asString : Json → Option String
  | .string text => some text
  | _ => none

/-- The elements of `ep.hostnames ?? []`, or `none` where iterating or lower-casing
them throws. -/
def hostnames (ep : Json) : Option (List String) :=
  match ep.property "hostnames" with
  | some none | some (some .null) => some []
  | some (some (.array items)) => items.mapM asString
  | some (some (.string text)) => some (text.toList.map String.singleton)
  | _ => none

def premiumBps (ep : Json) : Json :=
  match ep.property "premiumBps" with
  | none | some none | some (some .null) => .number 0
  | some (some value) => value

section

variable (library : JsonLibrary)

def entry (ep : Json) (slug : String) : SlugEntry where
  slug := slug
  premiumBps := library.number (some (premiumBps ep))
  paused := truthy ((ep.property "paused").getD none)
  network := (ep.property "network").getD none

/-- The hosts of one endpoint of the document, or `none` where reading it throws. -/
def hostsOf (ep : Json) : Option (List (String × SlugEntry)) :=
  if truthy (some ep) then
    match ep.property "slug" with
    | some (some (.string slug)) =>
        if convertible (premiumBps ep) then
          (hostnames ep).map fun hosts => hosts.map fun h =>
            (dropTrailing '.' (toLowerCase h), entry library ep slug)
        else none
    | _ => some []
  else some []

def readEndpoints (endpoints : List Json) : Option (List (String × SlugEntry)) :=
  (endpoints.mapM (hostsOf library)).map fun hosts => hosts.flatten.reverse

def cacheTtlMs (body : Json) : ℚ :=
  match body.property "cacheTtlSec" with
  | some (some (.number seconds)) => if 0 < seconds then seconds * 1000 else defaultCacheTtlMs
  | _ => defaultCacheTtlMs

/-- Take over a discovery answer, which is `none` where it failed or is no JSON;
the whole is `none` where reading the document throws. -/
def SlugResolver.doRefresh (resolver : SlugResolver) (now : ℚ) (answer : Option Json) :
    Option (Bool × SlugResolver) :=
  match answer with
  | none => some (false, resolver)
  | some body =>
      if truthy (some body) then
        match body.property "endpoints" with
        | some (some (.array endpoints)) =>
            (readEndpoints library endpoints).map fun next =>
              (true, ⟨next, [], now + cacheTtlMs body, true⟩)
        | _ => some (false, resolver)
      else some (false, resolver)

end

/-! ## Resolving -/

def SlugEntry.resolution (entry : SlugEntry) : SlugResolution :=
  if entry.paused then .failed .paused else .ok entry.slug entry.premiumBps

/-- What the caches say about a host, if they say anything. -/
def SlugResolver.cached (resolver : SlugResolver) (now : ℚ) (hostname : String) :
    Option SlugResolution :=
  match resolver.hostToEntry.lookup hostname with
  | some entry =>
      if now < resolver.cacheExpiresAt then some entry.resolution
      else unlessKnown
  | none => unlessKnown
where
  unlessKnown : Option SlugResolution :=
    match resolver.negative.lookup hostname with
    | some negAt =>
        if now - negAt < negativeTtlMs ∧ now < resolver.cacheExpiresAt then
          some (.failed .unregistered)
        else none
    | none => none

def SlugResolver.settle (resolver : SlugResolver) (refreshed : Bool) (now : ℚ)
    (hostname : String) : SlugResolution × SlugResolver :=
  if !refreshed && !resolver.haveGoodCache then (.failed .discoveryFailed, resolver)
  else
    match resolver.hostToEntry.lookup hostname with
    | none =>
        (.failed .unregistered, { resolver with negative := (hostname, now) :: resolver.negative })
    | some entry => (entry.resolution, resolver)

/-! ## Legible documents -/

/-- An endpoint the resolver can read: one it skips, or one whose premium converts
to a number and whose hosts are strings. -/
def LegibleEndpoint (ep : Json) : Prop :=
  truthy (some ep) = true → ∀ slug, ep.property "slug" = some (some (.string slug)) →
    convertible (premiumBps ep) = true ∧
      match ep.property "hostnames" with
      | some none | some (some .null) | some (some (.string _)) => True
      | some (some (.array items)) => ∀ item ∈ items, ∃ text, item = .string text
      | _ => False

def Legible (answer : Option Json) : Prop :=
  ∀ body, answer = some body → truthy (some body) = true →
    ∀ endpoints, body.property "endpoints" = some (some (.array endpoints)) →
      ∀ ep ∈ endpoints, LegibleEndpoint ep

theorem mapM_isSome {α β : Type} {read : α → Option β} {items : List α} :
    (items.mapM read).isSome ↔ ∀ item ∈ items, (read item).isSome := by
  induction items with
  | nil => simp
  | cons item items ih =>
      rw [List.mapM_cons, List.forall_mem_cons, ← ih]
      cases read item with
      | none => simp
      | some value =>
          cases items.mapM read with
          | none => simp
          | some values => simp

theorem asString_isSome {item : Json} :
    (asString item).isSome ↔ ∃ text, item = .string text := by
  cases item with
  | string text => simp [asString]
  | null => simp [asString]
  | bool value => simp [asString]
  | number value => simp [asString]
  | array items => simp [asString]
  | object fields => simp [asString]

theorem hostnames_isSome {ep : Json} : (hostnames ep).isSome ↔
    match ep.property "hostnames" with
    | some none | some (some .null) | some (some (.string _)) => True
    | some (some (.array items)) => ∀ item ∈ items, ∃ text, item = .string text
    | _ => False := by
  rw [hostnames]
  cases ep.property "hostnames" with
  | none => simp
  | some value =>
      cases value with
      | none => simp
      | some value =>
          cases value with
          | array items => simp only [mapM_isSome, asString_isSome]
          | null => simp
          | bool value => simp
          | number value => simp
          | string text => simp
          | object fields => simp

theorem hostsOf_isSome {library : JsonLibrary} {ep : Json} :
    (hostsOf library ep).isSome ↔ LegibleEndpoint ep := by
  rw [hostsOf, LegibleEndpoint]
  split
  · rename_i truthy
    split
    · rename_i slug found
      rw [← hostnames_isSome]
      split
      · rename_i converts
        simp [truthy, found, converts]
      · rename_i throws
        simp [truthy, found, throws]
    · rename_i other
      exact iff_of_true rfl fun _ slug found => absurd found (other slug)
  · rename_i falsy
    exact iff_of_true rfl fun truthy => absurd truthy falsy

theorem doRefresh_isSome {library : JsonLibrary} {resolver : SlugResolver} {now : ℚ}
    {answer : Option Json} :
    (resolver.doRefresh library now answer).isSome ↔ Legible answer := by
  cases answer with
  | none => exact iff_of_true rfl fun body given => by cases given
  | some body =>
      rw [SlugResolver.doRefresh]
      split
      · rename_i truthy
        split
        · rename_i endpoints found
          rw [Option.isSome_map, readEndpoints, Option.isSome_map, mapM_isSome]
          constructor
          · rintro reads _ ⟨⟩ - others given ep member
            cases found.symm.trans given
            exact hostsOf_isSome.mp (reads ep member)
          · intro legible ep member
            exact hostsOf_isSome.mpr (legible body rfl truthy endpoints found ep member)
        · rename_i other
          refine iff_of_true rfl ?_
          rintro _ ⟨⟩ - endpoints given
          exact absurd given (other endpoints)
      · rename_i falsy
        refine iff_of_true rfl ?_
        rintro _ ⟨⟩ truthy
        exact absurd truthy falsy

end PactNetwork.Client.Sdk
