import PactNetwork.Indexer.Ledgers
import PactNetwork.Settler.TransactionSize

/-!
# What the settler reports

`IndexerPusherService.push`, and the shares both settle paths hand to it: the rounded
fees of each event's own premium under the cached recipients.
-/

set_option autoImplicit false

namespace PactNetwork.Settler.IndexerPusher

open Solana V1Client Batching Paths
open Admission (Builds Formed)
open Indexer (Timestamp)

/-! ## The shares of a path -/

structure View where
  chain : Accounts
  now : Int
  caches : Caches

section Shares

variable (web3 : Web3) (runtime : Runtime) (deployment : Deployment)

/-- The shares `submitViaAdapter` computes after its transaction has landed. -/
def adapterShares (chain : Accounts) (config : EndpointConfig) : List MessageData → Caches →
    Except ClientError (List (List RecipientShare))
  | [], _ => .ok []
  | data :: rest, caches => do
      let premiumLamports ← runtime.toBigInt data.premiumLamports
      let (shares, caches) ←
        computeFeeSharesForEvent web3 deployment chain premiumLamports config caches
      let others ← adapterShares chain config rest caches
      .ok (shares :: others)

/-- The instruction and the shares of a batch, on either path. What the adapter path
reads after its transaction may be newer than its view. -/
inductive Submits (view : View) (batch : List MessageData) (snap : EndpointSnapshot) :
    TransactionInstruction → List (List RecipientShare) → Prop
  | legacy {ix : TransactionInstruction} {perEventShares : List (List RecipientShare)}
      (sent : Paths.submitLegacyDirect web3 runtime deployment view.chain view.now batch
        view.caches = .ok (ix, perEventShares)) : Submits view batch snap ix perEventShares
  | adapter {ix : TransactionInstruction} {perEventShares : List (List RecipientShare)}
      {chain : Accounts} {caches : Caches}
      (sent : Paths.submitViaAdapter web3 runtime deployment view.chain view.now batch view.caches =
        .ok ix)
      (computed : adapterShares web3 runtime deployment chain snap.config batch caches =
        .ok perEventShares) : Submits view batch snap ix perEventShares

end Shares

def cachedFees (config : EndpointConfig) (premiumLamports : Int) : List Int :=
  (config.feeRecipients.take config.feeRecipientCount).map fun recipient =>
    (premiumLamports * recipient.bps).tdiv 10000

/-! ## The body -/

/-- A call as it is posted. The provenance fields, which are passed on unread, are
left out. -/
structure PushedCall where
  callId : Json
  agentPubkey : Json
  endpointSlug : Json
  premiumLamports : String
  refundLamports : String
  latencyMs : Json
  outcome : Json
  network : Json
  ts : Json
  settledAt : Timestamp
  signature : String
  shares : List RecipientShare
  deriving DecidableEq

structure PushedBody where
  signature : String
  network : String
  batchSize : Nat
  totalPremiumsLamports : Int
  totalRefundsLamports : Int
  ts : Timestamp
  calls : List PushedCall
  deriving DecidableEq

def networkOf (message : SettleMessage) : String := stringOr "solana-devnet" message.network

def slugOf (message : SettleMessage) : String := stringOr "" message.data.endpointSlug

def resolveBatchNetwork : List SettleMessage → Except ClientError String
  | [] => .ok "solana-devnet"
  | first :: rest =>
      let network := networkOf first
      match (first :: rest).find? fun message => networkOf message ≠ network with
      | none => .ok network
      | some message => .error (.error (s!"indexer push received a mixed-network batch ({network} " ++
          s!"vs {networkOf message}); the batcher must partition by network before flush"))

def assertSingleSlug : List SettleMessage → Except ClientError Unit
  | [] => .ok ()
  | first :: rest =>
      let slug := slugOf first
      match (first :: rest).find? fun message => slugOf message ≠ slug with
      | none => .ok ()
      | some message => .error (.error (s!"indexer push received a mixed-slug batch ({slug} " ++
          s!"vs {slugOf message}); the batcher must partition by slug before flush"))

def pushedCall (signature : String) (settledAt : Timestamp) (message : SettleMessage)
    (shares : List RecipientShare) : PushedCall where
  callId := message.data.callId
  agentPubkey := message.data.agentPubkey
  endpointSlug := message.data.endpointSlug
  premiumLamports := message.data.premiumLamports.toStr
  refundLamports := (message.data.refundLamports.orElse (.string "0")).toStr
  latencyMs := message.data.latencyMs
  outcome := message.data.outcome.orElse (.string "ok")
  network := message.network.orElse (.string "solana-devnet")
  ts := message.data.ts
  settledAt := settledAt
  signature := signature
  shares := shares

def pushedCalls (signature : String) (settledAt : Timestamp) :
    List SettleMessage → List (List RecipientShare) → List PushedCall
  | [], _ => []
  | message :: rest, perEventShares =>
      pushedCall signature settledAt message (perEventShares.headD []) ::
        pushedCalls signature settledAt rest perEventShares.tail

section Push

variable (runtime : Runtime)

def push (signature : String) (settledAt : Timestamp) (batch : List SettleMessage)
    (perEventShares : List (List RecipientShare)) : Except ClientError PushedBody := do
  let network ← resolveBatchNetwork batch
  assertSingleSlug batch
  let calls := pushedCalls signature settledAt batch perEventShares
  let premiums ← calls.mapM fun call => runtime.toBigInt (.string call.premiumLamports)
  let refunds ← calls.mapM fun call => runtime.toBigInt (.string call.refundLamports)
  .ok ⟨signature, network, batch.length, premiums.sum, refunds.sum, settledAt, calls⟩

theorem length_pushedCalls {signature : String} {settledAt : Timestamp}
    {batch : List SettleMessage} {perEventShares : List (List RecipientShare)} :
    (pushedCalls signature settledAt batch perEventShares).length = batch.length := by
  induction batch generalizing perEventShares with
  | nil => rfl
  | cons message rest ih => rw [pushedCalls, List.length_cons, List.length_cons, ih]

variable {runtime} in
theorem length_calls {signature : String} {settledAt : Timestamp} {batch : List SettleMessage}
    {perEventShares : List (List RecipientShare)} {body : PushedBody}
    (pushed : push runtime signature settledAt batch perEventShares = .ok body) :
    body.calls.length = batch.length := by
  simp only [push, bind_eq_ok, Except.ok.injEq] at pushed
  obtain ⟨network, -, -, -, premiums, -, refunds, -, rfl⟩ := pushed
  exact length_pushedCalls

structure PushedCall.ReadAs (call : PushedCall) (dto : Indexer.WrapCallEventDto) : Prop where
  callId : call.callId = .string dto.callId
  agentPubkey : call.agentPubkey = .string dto.agentPubkey
  endpointSlug : call.endpointSlug = .string dto.endpointSlug
  premiumLamports : runtime.toBigInt (.string call.premiumLamports) = .ok dto.premiumLamports
  refundLamports : runtime.toBigInt (.string call.refundLamports) = .ok dto.refundLamports
  settledAt : dto.settledAt = call.settledAt
  signature : dto.signature = call.signature
  shares : dto.shares =
    some (call.shares.map fun share => ⟨share.kind, share.pubkey, share.amountLamports⟩)

structure PushedBody.ReadAs (body : PushedBody) (dto : Indexer.SettlementEventDto) : Prop where
  signature : dto.signature = body.signature
  network : dto.network = some body.network
  batchSize : dto.batchSize = body.batchSize
  totalPremiumsLamports : dto.totalPremiumsLamports = body.totalPremiumsLamports
  totalRefundsLamports : dto.totalRefundsLamports = body.totalRefundsLamports
  ts : dto.ts = body.ts
  calls : List.Forall₂ (PushedCall.ReadAs runtime) body.calls dto.calls

/-- A number or a boolean printed and read back: the number, and nothing. -/
structure Prints : Prop where
  number : ∀ (value result : Int), runtime.bigInt (toString value) = some result → result = value
  bool : ∀ value : Bool, runtime.bigInt (toString value) = none

end Push

/-! ## What is reported of an event -/

section Reports

variable {web3 : Web3} {runtime : Runtime} {deployment : Deployment}

theorem toBigInt_toStr (prints : Prints runtime) {value : Json} {number result : Int}
    (read : runtime.toBigInt value = .ok number)
    (printed : runtime.toBigInt (.string value.toStr) = .ok result) : result = number := by
  cases value with
  | undefined => cases read
  | null => cases read
  | bool truth =>
      rw [Runtime.toBigInt, Json.toStr, prints.bool truth] at printed
      cases printed
  | number value =>
      cases read
      exact prints.number _ _ ((okOr_eq_ok _ _ _).mp printed)
  | string text => exact Except.ok.inj (printed.symm.trans read)

theorem feeShares_amounts {chain : Accounts} {premium : Int} {recipients : List FeeRecipient}
    {shares : List RecipientShare} {caches later : Caches}
    (paid : feeShares web3 deployment chain premium recipients caches = .ok (shares, later)) :
    shares.map RecipientShare.amountLamports =
      recipients.map fun recipient => (premium * recipient.bps).tdiv 10000 := by
  induction recipients generalizing caches shares later with
  | nil =>
      cases paid
      rfl
  | cons recipient recipients ih =>
      simp only [feeShares, bind_eq_ok, Prod.exists, Except.ok.injEq, Prod.mk.injEq] at paid
      obtain ⟨dest, _, -, rest, _, others, rfl, -⟩ := paid
      rw [List.map_cons, List.map_cons, ih others]

theorem computeFeeShares_amounts {chain : Accounts} {premium : Int} {config : EndpointConfig}
    {shares : List RecipientShare} {caches later : Caches}
    (paid : computeFeeSharesForEvent web3 deployment chain premium config caches =
      .ok (shares, later)) :
    shares.map RecipientShare.amountLamports = cachedFees config premium := by
  simp only [computeFeeSharesForEvent, bind_eq_ok, failIf_eq_ok, exists_const] at paid
  exact feeShares_amounts paid.2

variable (runtime) in
def Shared (config : EndpointConfig) (data : MessageData) (shares : List RecipientShare) : Prop :=
  ∃ premium, runtime.toBigInt data.premiumLamports = .ok premium ∧
    shares.map RecipientShare.amountLamports = cachedFees config premium

theorem adapterShares_shared {chain : Accounts} {config : EndpointConfig}
    {batch : List MessageData} {perEventShares : List (List RecipientShare)} {caches : Caches}
    (computed : adapterShares web3 runtime deployment chain config batch caches =
      .ok perEventShares) : List.Forall₂ (Shared runtime config) batch perEventShares := by
  induction batch generalizing caches perEventShares with
  | nil =>
      cases computed
      exact .nil
  | cons data batch ih =>
      simp only [adapterShares, bind_eq_ok, Prod.exists, Except.ok.injEq] at computed
      obtain ⟨premium, paid, shares, _, shared, others, rest, rfl⟩ := computed
      exact .cons ⟨premium, paid, computeFeeShares_amounts shared⟩ (ih rest)

theorem legacyEvents_shared {chain : Accounts} {snapshots : List (String × EndpointSnapshot)}
    {snap : EndpointSnapshot} {slug : String} {batch : List MessageData}
    {events : List LegacyEvent} {caches later : Caches}
    (single : ∀ data ∈ batch, extractSlug data = .ok slug)
    (looked : snapshots.lookup slug = some snap)
    (built : legacyEvents web3 runtime deployment chain snapshots batch caches =
      .ok (events, later)) :
    List.Forall₂ (Shared runtime snap.config) batch (events.map LegacyEvent.shares) := by
  induction batch generalizing caches later events with
  | nil =>
      cases built
      exact .nil
  | cons data batch ih =>
      simp only [legacyEvents, bind_eq_ok, Prod.exists, Except.ok.injEq, Prod.mk.injEq] at built
      obtain ⟨first, _, one, rest, _, others, rfl, -⟩ := built
      simp only [legacyEvent, single data List.mem_cons_self, looked, okOr_some, ok_bind,
        bind_eq_ok, Prod.exists, Except.ok.injEq, Prod.mk.injEq] at one
      obtain ⟨-, -, -, -, premium, paid, -, -, -, -, -, -, shares, _, shared, -, -, rfl, -⟩ := one
      exact .cons ⟨premium, paid, computeFeeShares_amounts shared⟩
        (ih (fun other member => single other (List.mem_cons_of_mem _ member)) others)

/-- An event on the wire and the call reported of it. -/
structure Reported (slug : String) (config : EndpointConfig) (event : SettlementEvent × Address)
    (call : Indexer.WrapCallEventDto) : Prop where
  bytes : event.1.slug = (slugBytes slug).toList
  recipients : event.1.feeRecipientAtas.length ≤ 8
  premiumLamports : event.1.premiumLamports = call.premiumLamports
  refundLamports : event.1.refundLamports = call.refundLamports
  endpointSlug : call.endpointSlug = slug
  fees : call.feesPaid = (cachedFees config call.premiumLamports).sum

theorem extractSlug_eq_ok {data : MessageData} {slug : String}
    (named : extractSlug data = .ok slug) : data.endpointSlug = .string slug := by
  unfold extractSlug at named
  split at named
  case h_1 text found =>
    split at named
    case isTrue => cases named
    case isFalse => exact found.trans (congrArg Json.string (Except.ok.inj named))
  case h_2 => cases named

theorem reported_of_read (prints : Prints runtime) {slug : String} {config : EndpointConfig}
    {message : SettleMessage} {event : SettlementEvent × Address} {shares : List RecipientShare}
    {signature : String} {settledAt : Timestamp} {call : Indexer.WrapCallEventDto}
    (named : extractSlug message.data = .ok slug)
    (builds : Builds web3 runtime deployment slug message.data event)
    (shared : Shared runtime config message.data shares)
    (read : (pushedCall signature settledAt message shares).ReadAs runtime call) :
    Reported slug config event call := by
  obtain ⟨parsed, hydrated, accepted, few, rfl⟩ := builds
  simp only [parse, bind_eq_ok, Except.ok.injEq] at accepted
  obtain ⟨_, -, _, -, premium, paid, refund, owed, _, -, _, -, rfl⟩ := accepted
  have premium' : call.premiumLamports = premium :=
    toBigInt_toStr prints paid read.premiumLamports
  obtain ⟨_, again, amounts⟩ := shared
  cases paid.symm.trans again
  have fees : call.recipientShares.map (·.amountLamports) =
      shares.map RecipientShare.amountLamports := by
    rw [Indexer.WrapCallEventDto.recipientShares, read.shares, Option.getD_some, List.map_map]
    rfl
  exact {
    bytes := rfl
    recipients := few
    premiumLamports := premium'.symm
    refundLamports := (toBigInt_toStr prints owed read.refundLamports).symm
    endpointSlug := Json.string.inj (read.endpointSlug.symm.trans (extractSlug_eq_ok named))
    fees := by rw [Indexer.WrapCallEventDto.feesPaid, fees, amounts, premium'] }

theorem pushedCalls_forall₂ {related : MessageData → List RecipientShare → Prop}
    {signature : String} {settledAt : Timestamp} {batch : List SettleMessage}
    {perEventShares : List (List RecipientShare)}
    (paired : List.Forall₂ related (batch.map SettleMessage.data) perEventShares) :
    List.Forall₂ (fun message call => ∃ shares, related message.data shares ∧
      call = pushedCall signature settledAt message shares) batch
      (pushedCalls signature settledAt batch perEventShares) := by
  induction batch generalizing perEventShares with
  | nil => exact .nil
  | cons message rest ih =>
      obtain ⟨shares, others, first, later, rfl⟩ := List.forall₂_cons_left_iff.mp paired
      exact .cons ⟨shares, first, rfl⟩ (ih later)

theorem Submits.spec {view : View} {batch : List MessageData} {slug : String}
    {snap : EndpointSnapshot} {later : Caches} {ix : TransactionInstruction}
    {perEventShares : List (List RecipientShare)}
    (submits : Submits web3 runtime deployment view batch snap ix perEventShares)
    (nonempty : batch ≠ []) (single : ∀ data ∈ batch, extractSlug data = .ok slug)
    (cached : Cached web3 deployment view.caches)
    (found : Paths.loadEndpoint web3 deployment view.chain view.now slug view.caches =
      .ok (snap, later)) :
    List.Forall₂ (Shared runtime snap.config) batch perEventShares ∧
      ∃ events, List.Forall₂ (Builds web3 runtime deployment slug) batch events ∧
        buildSettleBatchIx (settleBatchParams deployment (events.map Prod.fst)
          (events.map Prod.snd)) = .ok ix := by
  have counted := cached.loaded found
  obtain ⟨first, rest, rfl⟩ := List.exists_cons_of_ne_nil nonempty
  cases submits with
  | legacy sent =>
      have looked : [(slug, snap)].lookup slug = some snap := by simp
      simp only [Paths.submitLegacyDirect, slugs_of_single single, ok_bind, List.length_cons,
        eraseDups_replicate, loadSnapshots, found, bind_eq_ok, Prod.exists, Except.ok.injEq,
        Prod.mk.injEq] at sent
      obtain ⟨events, _, collected, ix, built, rfl, rfl⟩ := sent
      refine ⟨legacyEvents_shared single looked collected, _,
        Admission.legacyEvents_builds single looked counted collected, ?_⟩
      simpa only [List.map_map, Function.comp_def] using built
  | adapter sent computed =>
      refine ⟨adapterShares_shared computed, ?_⟩
      simp only [Paths.submitViaAdapter, submitSettleBatch, List.head?_cons, okOr_some, ok_bind,
        single first List.mem_cons_self, found, bind_eq_ok, mapM_eq_ok] at sent
      obtain ⟨sent, mapped, hydrated, read, events, completed, built⟩ := sent
      have few : hydrated.feeRecipientAtas.length ≤ 8 := by
        obtain ⟨snapshot, onChain, -, dests, paid, rfl⟩ := (@hydrate_iff _ _ _ view.now _ _).mp read
        simp only [payees, bind_eq_ok, failIf_eq_ok, exists_const, mapM_eq_ok] at paid
        have sized := paid.2.length_eq
        rw [List.length_take] at sized
        have counted := counted_of_read onChain
        simp only [EndpointSnapshot.hydrated]
        omega
      refine ⟨events, (forall₂_comp.mp ⟨sent, mapped, completed⟩).imp fun data event both => ?_,
        built⟩
      obtain ⟨parsed, accepted, -, same⟩ := adapterEvent_iff.mp both
      exact ⟨parsed, hydrated, accepted, few, same⟩

theorem Submits.reported (prints : Prints runtime) {view : View} {batch : List SettleMessage}
    {slug : String} {snap : EndpointSnapshot} {later : Caches} {ix : TransactionInstruction}
    {perEventShares : List (List RecipientShare)} {signature : String} {settledAt : Timestamp}
    {body : PushedBody} {dto : Indexer.SettlementEventDto}
    (submits : Submits web3 runtime deployment view (batch.map SettleMessage.data) snap ix
      perEventShares)
    (nonempty : batch ≠ [])
    (single : ∀ data ∈ batch.map SettleMessage.data, extractSlug data = .ok slug)
    (cached : Cached web3 deployment view.caches)
    (found : Paths.loadEndpoint web3 deployment view.chain view.now slug view.caches =
      .ok (snap, later))
    (pushed : push runtime signature settledAt batch perEventShares = .ok body)
    (read : body.ReadAs runtime dto) :
    ∃ events, List.Forall₂ (Reported slug snap.config) events dto.calls ∧
      buildSettleBatchIx (settleBatchParams deployment (events.map Prod.fst)
        (events.map Prod.snd)) = .ok ix := by
  obtain ⟨shared, events, builds, built⟩ := submits.spec
    (fun empty => nonempty (List.map_eq_nil_iff.mp empty)) single cached found
  simp only [push, bind_eq_ok, Except.ok.injEq] at pushed
  obtain ⟨network, -, -, -, premiums, -, refunds, -, rfl⟩ := pushed
  have posted := forall₂_comp.mp ⟨_, pushedCalls_forall₂ shared, read.calls⟩
  have named : List.Forall₂ (fun event message => message ∈ batch ∧
      Builds web3 runtime deployment slug message.data event) events batch := by
    have paired := (List.forall₂_map_left_iff.mp builds)
    exact List.Forall₂.flip ((List.forall₂_and_left _ _).mpr ⟨fun _ member => member, paired⟩)
  refine ⟨events, (forall₂_comp.mp ⟨batch, named, posted⟩).imp fun event call through => ?_, built⟩
  obtain ⟨message, ⟨member, builds⟩, posted, ⟨shares, shared, rfl⟩, read⟩ := through
  exact reported_of_read prints (single _ (List.mem_map_of_mem member)) builds shared read

end Reports

end PactNetwork.Settler.IndexerPusher
