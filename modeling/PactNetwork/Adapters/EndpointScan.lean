import PactNetwork.Adapters.EvmAdapter
import PactNetwork.Evm.PactRegistry
import PactNetwork.Foundation.Agreement

/-!
# The endpoint scan

`EvmAdapter.readEndpointConfigsFrom`: the endpoints registered since a block,
found in the registry's logs, and the known ones are read again.
-/

set_option autoImplicit false

namespace PactNetwork.Adapters

open Chunks
open Evm (Slug Address EndpointConfig FeeRecipient)
open Settler (codeUnits hexDigit pairs parseIntHex length_pairs)

/-! ## Slugs -/

/-- The bytes of a text that matches `BYTES16_RE`. -/
def bytes16OfHex (text : String) : Option Slug :=
  match codeUnits text with
  | 48 :: 120 :: digits =>
      if even : digits.length = 2 * 16 then
        if ∀ digit ∈ digits, (hexDigit digit).isSome then
          some ⟨(pairs digits).map parseIntHex, by rw [List.length_map, length_pairs even]⟩
        else none
      else none
  | _ => none

def slugToBytes16 (slug : String) : Except String Slug :=
  let bytes := slug.toUTF8.data.toList
  if fits : bytes.length ≤ 16 then
    .ok ⟨bytes ++ List.replicate (16 - bytes.length) 0, by
      rw [List.length_append, List.length_replicate]
      omega⟩
  else .error s!"endpoint slug must be <= 16 bytes (got {bytes.length})"

def knownSlug (slug : String) : Except String Slug :=
  match bytes16OfHex slug with
  | some bytes => .ok bytes
  | none => slugToBytes16 slug

/-! ## The scan -/

structure EndpointConfigSnapshot where
  slug : Slug
  authority : Address
  maxTotalFeeBps : Nat
  feeRecipients : List FeeRecipient
  paused : Bool
  raw : EndpointConfig
  deriving DecidableEq

/-- Only the recipients that the contract pays are kept. -/
def EndpointConfigSnapshot.of (authority : Address) (slug : Slug) (config : EndpointConfig) :
    EndpointConfigSnapshot where
  slug
  authority
  maxTotalFeeBps := (config.recipients.map (·.bps.toNat)).sum
  feeRecipients := config.recipients
  paused := config.paused
  raw := config

/-- What the node answers to the requests of one scan. -/
structure RegistryClient where
  authority : Except String Address
  /-- The number of the finalized block. -/
  getBlock : Except String Nat
  /-- The slugs of the registrations in a window. -/
  getContractEvents : Window → Except String (List Slug)
  getEndpoint : Slug → Except String EndpointConfig

structure ScanResult where
  snapshots : List EndpointConfigSnapshot
  scannedToBlock : Nat
  deriving DecidableEq

namespace EvmAdapter

variable (adapter : EvmAdapter)

def readEndpointConfigsFrom (client : RegistryClient) (fromBlock : Nat)
    (knownSlugs : List String) : Except String ScanResult :=
  match adapter.registry with
  | none => .error
      s!"EvmAdapter.readEndpointConfigsFrom: no registry address for chain {adapter.chainId}"
  | some _ => do
      let authority ← client.authority
      let finalizedNumber ← client.getBlock
      let known ← knownSlugs.mapM knownSlug
      let logs ← (Window.all adapter.logRangeChunk fromBlock finalizedNumber).mapM
        client.getContractEvents
      let slugs := (known ++ logs.flatten).eraseDups
      -- The multicall allows no failure.
      let configs ← slugs.mapM client.getEndpoint
      .ok ⟨List.zipWith (EndpointConfigSnapshot.of authority) slugs configs, finalizedNumber⟩

end EvmAdapter

/-! ## What a scan finds -/

def RegistryClient.Serves (client : RegistryClient) (registered : Nat → List Slug) : Prop :=
  ∀ window slugs, client.getContractEvents window = .ok slugs →
    slugs = window.numbers.flatMap registered

section Scans

variable {adapter : EvmAdapter} {client : RegistryClient} {registered : Nat → List Slug}

theorem logs_of_windows (serves : client.Serves registered) {windows : List Window}
    {logs : List (List Slug)} (fetched : windows.mapM client.getContractEvents = .ok logs) :
    logs.flatten = (windows.flatMap Window.numbers).flatMap registered := by
  have each := mapM_eq_ok.mp fetched
  induction each with
  | nil => rfl
  | @cons window slugs windows logs answered later ih =>
      rw [List.flatten_cons, serves window slugs answered, ih (mapM_eq_ok.mpr later),
        List.flatMap_cons, List.flatMap_append]

theorem mem_zipWith_of_forall₂ {α β γ : Type} {relation : α → β → Prop} (combine : α → β → γ)
    {left : List α} {right : List β} {item : α} (paired : List.Forall₂ relation left right)
    (member : item ∈ left) : ∃ other, combine item other ∈ List.zipWith combine left right := by
  induction paired with
  | nil => cases member
  | @cons first second left right _ _ ih =>
      rcases List.mem_cons.mp member with rfl | later
      · exact ⟨second, List.mem_cons_self⟩
      · obtain ⟨other, found⟩ := ih later
        exact ⟨other, List.mem_cons_of_mem _ found⟩

/-- A scan that succeeds has a snapshot of every endpoint registered between its start
and the block it returns. -/
theorem scan_covers (serves : client.Serves registered) {fromBlock : Nat}
    {knownSlugs : List String} {result : ScanResult}
    (scanned : adapter.readEndpointConfigsFrom client fromBlock knownSlugs = .ok result)
    {block : Nat} {slug : Slug} (start : fromBlock ≤ block) (stop : block ≤ result.scannedToBlock)
    (event : slug ∈ registered block) : ∃ snapshot ∈ result.snapshots, snapshot.slug = slug := by
  unfold EvmAdapter.readEndpointConfigsFrom at scanned
  cases deployed : adapter.registry with
  | none =>
      rw [deployed] at scanned
      cases scanned
  | some registry =>
      rw [deployed] at scanned
      simp only [bind_eq_ok, Except.ok.injEq] at scanned
      obtain ⟨authority, -, finalized, -, known, -, logs, fetched, configs, read, rfl⟩ := scanned
      have listed : slug ∈ (known ++ logs.flatten).eraseDups := by
        rw [List.mem_eraseDups, List.mem_append, logs_of_windows serves fetched,
          Window.numbers_all adapter.chunkPositive]
        exact .inr (List.mem_flatMap.mpr ⟨block, mem_span.mpr ⟨start, stop⟩, event⟩)
      obtain ⟨config, found⟩ := mem_zipWith_of_forall₂ (EndpointConfigSnapshot.of authority)
        (mapM_eq_ok.mp read) listed
      exact ⟨_, found, rfl⟩

end Scans

end PactNetwork.Adapters
