import PactNetwork.Foundation.Agreement
import PactNetwork.Settler.SettlePaths
import PactNetwork.V1Client.StateLayout

/-!
# The two settle paths agree

With caches that show what is on chain, the legacy path and the adapter path
build one instruction, or neither builds any.
-/

set_option autoImplicit false

namespace PactNetwork.Settler.Paths

open Solana V1Client

section Parity

variable {web3 : Web3} {runtime : Runtime} {deployment : Deployment} {chain : Accounts} {now : Int}

/-! ## What a message says -/

structure Parsed where
  callId : V1.CallId
  agentOwner : Address
  premiumLamports : Int
  refundLamports : Int
  latencyMs : Int
  breach : Bool
  timestamp : Int

variable (web3 runtime deployment chain) in
def parse (data : MessageData) : Except ClientError Parsed := do
  let callId ← parseCallId (data.callId.orElse (.string "")).toStr
  let agentOwner ← newPublicKey web3 (data.agentPubkey.orElse (.string "")).toStr
  let premiumLamports ← runtime.toBigInt data.premiumLamports
  let refundLamports ← runtime.toBigInt (data.refundLamports.orElse (.string "0"))
  let latencyMs ← runtime.toNumber (data.latencyMs.orElse (.number 0))
  let timestamp ← parseEventTimestamp runtime data
  .ok ⟨callId, agentOwner, premiumLamports, refundLamports, latencyMs,
    breachFromOutcome (data.outcome.orElse (.string "ok")).toStr, timestamp⟩

variable (web3 deployment) in
def Parsed.event (parsed : Parsed) (slug : String) (hydrated : Hydrated) :
    SettlementEvent × Address :=
  ({ callId := parsed.callId.toList
     agentOwner := parsed.agentOwner
     agentAta := web3.findAssociated parsed.agentOwner deployment.usdcMint
     endpointConfig := hydrated.endpointConfigPda
     coveragePool := hydrated.coveragePoolPda
     poolVault := hydrated.poolVault
     slug := (slugBytes slug).toList
     premiumLamports := parsed.premiumLamports
     refundLamports := parsed.refundLamports
     latencyMs := parsed.latencyMs
     breach := parsed.breach
     timestamp := parsed.timestamp
     feeRecipientAtas := hydrated.feeRecipientAtas },
   deployment.addresses.of (.callRecord parsed.callId))

def EndpointSnapshot.hydrated (snapshot : EndpointSnapshot) (feeRecipientAtas : List Address) :
    Hydrated :=
  ⟨snapshot.endpointConfigPda, snapshot.coveragePool, snapshot.poolVault, feeRecipientAtas⟩

/-! ## Who is paid -/

variable (web3 deployment chain) in
def payee (recipient : FeeRecipient) : Except ClientError Address :=
  if recipient.kind = 0 then loadTreasuryVault web3 deployment chain
  else newPublicKey web3 recipient.destination

variable (web3 deployment chain) in
def payees (config : EndpointConfig) : Except ClientError (List Address) := do
  failIf (config.feeRecipients.length < config.feeRecipientCount)
    (.error "Cannot read properties of undefined")
  (config.feeRecipients.take config.feeRecipientCount).mapM (payee web3 deployment chain)

def named (recipient : FeeRecipient) : Option Pubkey :=
  if recipient.kind = 0 then none else some recipient.destination

theorem payee_congr {recipient recipient' : FeeRecipient} (same : named recipient = named recipient') :
    payee web3 deployment chain recipient = payee web3 deployment chain recipient' := by
  unfold payee
  by_cases treasury : recipient.kind = 0
  · have treasury' : recipient'.kind = 0 := by
      by_contra other
      simp [named, treasury, other] at same
    rw [if_pos treasury, if_pos treasury']
  · have affiliate : recipient'.kind ≠ 0 := by
      intro other
      simp [named, treasury, other] at same
    have dest : recipient.destination = recipient'.destination := by
      simpa [named, treasury, affiliate] using same
    rw [if_neg treasury, if_neg affiliate, dest]

structure EndpointSnapshot.SameAccounts (snapshot other : EndpointSnapshot) : Prop where
  endpointConfigPda : snapshot.endpointConfigPda = other.endpointConfigPda
  coveragePool : snapshot.coveragePool = other.coveragePool
  poolVault : snapshot.poolVault = other.poolVault
  feeRecipientCount : snapshot.config.feeRecipientCount = other.config.feeRecipientCount
  feeRecipients : snapshot.config.feeRecipients.map named = other.config.feeRecipients.map named

theorem EndpointSnapshot.SameAccounts.refl (snapshot : EndpointSnapshot) :
    snapshot.SameAccounts snapshot :=
  ⟨rfl, rfl, rfl, rfl, rfl⟩

theorem EndpointSnapshot.SameAccounts.hydrated {snapshot other : EndpointSnapshot}
    (same : snapshot.SameAccounts other) (dests : List Address) :
    snapshot.hydrated dests = other.hydrated dests := by
  simp only [EndpointSnapshot.hydrated, same.endpointConfigPda, same.coveragePool, same.poolVault]

theorem mapM_payee_congr {recipients recipients' : List FeeRecipient}
    (same : recipients.map named = recipients'.map named) :
    recipients.mapM (payee web3 deployment chain) =
      recipients'.mapM (payee web3 deployment chain) := by
  induction recipients generalizing recipients' with
  | nil => rw [List.map_eq_nil_iff.mp same.symm]
  | cons recipient recipients ih =>
      obtain ⟨recipient', rest, rfl, first, later⟩ := List.map_eq_cons_iff.mp same.symm
      rw [List.mapM_cons, List.mapM_cons, payee_congr first, ih later.symm]

theorem EndpointSnapshot.SameAccounts.payees {snapshot other : EndpointSnapshot}
    (same : snapshot.SameAccounts other) :
    payees web3 deployment chain snapshot.config = payees web3 deployment chain other.config := by
  have lengths : snapshot.config.feeRecipients.length = other.config.feeRecipients.length := by
    simpa using congrArg List.length same.feeRecipients
  have taken : (snapshot.config.feeRecipients.take snapshot.config.feeRecipientCount).map named =
      (other.config.feeRecipients.take other.config.feeRecipientCount).map named := by
    rw [List.map_take, List.map_take, same.feeRecipients, same.feeRecipientCount]
  unfold Paths.payees
  rw [lengths, same.feeRecipientCount, mapM_payee_congr (same.feeRecipientCount ▸ taken)]

variable (web3 deployment chain) in
def VaultCurrent (caches : Caches) : Prop :=
  ∀ vault, caches.treasuryVault = some vault → loadTreasuryVault web3 deployment chain = .ok vault

theorem resolveRecipient_agree {caches : Caches}
    (current : VaultCurrent web3 deployment chain caches) (recipient : FeeRecipient) :
    Agree (fun found dest => found.1 = dest ∧ VaultCurrent web3 deployment chain found.2)
      (resolveRecipient web3 deployment chain recipient caches)
      (payee web3 deployment chain recipient) := by
  unfold resolveRecipient payee
  split
  case isTrue treasury =>
    unfold requireTreasuryVault
    cases cached : caches.treasuryVault with
    | some vault =>
        rw [current vault cached]
        exact .ok ⟨rfl, current⟩
    | none =>
        cases loaded : loadTreasuryVault web3 deployment chain with
        | error failure => exact .error _ _
        | ok vault =>
            refine .ok ⟨rfl, fun other same => ?_⟩
            cases same
            exact loaded
  case isFalse affiliate =>
    cases newPublicKey web3 recipient.destination with
    | error failure => exact .error _ _
    | ok dest => exact .ok ⟨rfl, current⟩

theorem feeShares_agree (premiumLamports : Int) (recipients : List FeeRecipient) {caches : Caches}
    (current : VaultCurrent web3 deployment chain caches) :
    Agree (fun found dests => found.1.map RecipientShare.pubkey =
        dests.map (fun dest => web3.toBase58 dest.toList) ∧
        VaultCurrent web3 deployment chain found.2)
      (feeShares web3 deployment chain premiumLamports recipients caches)
      (recipients.mapM (payee web3 deployment chain)) := by
  induction recipients generalizing caches with
  | nil => exact .ok ⟨rfl, current⟩
  | cons recipient recipients ih =>
      rw [feeShares, List.mapM_cons]
      refine (resolveRecipient_agree current recipient).bind fun found dest resolved => ?_
      obtain ⟨dest', later⟩ := found
      obtain ⟨rfl, current⟩ := resolved
      refine (ih current).bind fun found dests rest => ?_
      exact .ok ⟨congrArg _ rest.1, rest.2⟩

theorem newPublicKey_shares {shares : List RecipientShare} {dests : List Address}
    (named : shares.map RecipientShare.pubkey =
      dests.map fun dest => web3.toBase58 dest.toList) :
    shares.mapM (fun share => newPublicKey web3 share.pubkey) = .ok dests := by
  refine mapM_eq_ok.mpr ?_
  have paired : List.Forall₂ (fun text dest => text = web3.toBase58 dest.toList)
      (shares.map RecipientShare.pubkey) dests := by
    rw [named, List.forall₂_map_left_iff]
    exact List.forall₂_same.mpr fun _ _ => rfl
  refine (List.forall₂_map_left_iff.mp paired).imp fun share dest same => ?_
  rw [newPublicKey, same, web3.publicKey_toBase58]
  rfl

/-! ## The legacy path -/

theorem legacyEvent_agree {snapshots : List (String × EndpointSnapshot)} {snap : EndpointSnapshot}
    {data : MessageData} {slug : String} {caches : Caches} (single : extractSlug data = .ok slug)
    (loaded : snapshots.lookup slug = some snap)
    (current : VaultCurrent web3 deployment chain caches) :
    Agree (fun found event => (found.1.event, found.1.callRecordPda) = event ∧
        VaultCurrent web3 deployment chain found.2)
      (legacyEvent web3 runtime deployment chain snapshots data caches)
      (parse web3 runtime data >>= fun parsed => payees web3 deployment chain snap.config >>=
        fun dests => .ok (parsed.event web3 deployment slug (snap.hydrated dests))) := by
  unfold legacyEvent parse payees computeFeeSharesForEvent
  rw [single, ok_bind, loaded, okOr_some, ok_bind]
  simp only [except_bind_assoc, ok_bind]
  refine (Agree.same _).bind fun callId _ same => ?_
  subst same
  refine (Agree.same _).bind fun agentOwner _ same => ?_
  subst same
  refine (Agree.same _).bind fun premiumLamports _ same => ?_
  subst same
  refine (Agree.same _).bind fun refundLamports _ same => ?_
  subst same
  refine (Agree.same _).bind fun latencyMs _ same => ?_
  subst same
  refine (Agree.same _).bind fun timestamp _ same => ?_
  subst same
  refine .guard Iff.rfl fun _ => ?_
  refine (feeShares_agree premiumLamports _ current).bind fun found dests named => ?_
  obtain ⟨shares, later⟩ := found
  rw [newPublicKey_shares named.1, ok_bind]
  exact .ok ⟨rfl, named.2⟩

theorem legacyEvents_agree {snapshots : List (String × EndpointSnapshot)} {snap : EndpointSnapshot}
    {batch : List MessageData} {slug : String} {caches : Caches}
    (single : ∀ data ∈ batch, extractSlug data = .ok slug)
    (loaded : snapshots.lookup slug = some snap)
    (current : VaultCurrent web3 deployment chain caches) :
    Agree (fun found events => found.1.map (fun event => (event.event, event.callRecordPda)) =
        events)
      (legacyEvents web3 runtime deployment chain snapshots batch caches)
      (batch.mapM fun data => parse web3 runtime data >>= fun parsed =>
        payees web3 deployment chain snap.config >>= fun dests =>
          .ok (parsed.event web3 deployment slug (snap.hydrated dests))) := by
  induction batch generalizing caches with
  | nil => exact .ok rfl
  | cons data batch ih =>
      rw [legacyEvents, List.mapM_cons]
      refine (legacyEvent_agree (single data List.mem_cons_self) loaded current).bind
        fun found event first => ?_
      obtain ⟨found, later⟩ := found
      refine (ih (fun other member => single other (List.mem_cons_of_mem _ member)) first.2).bind
        fun rest events others => ?_
      refine .ok ?_
      rw [List.map_cons, others, first.1]

/-! ## Caches that show the chain -/

variable (web3 deployment chain now) in
/-- What is cached for a slug names the accounts that are on chain, and the
treasury's account is there for an endpoint without a treasury recipient. -/
structure Current (caches : Caches) (slug : String) : Prop where
  endpoint : ∀ cached, caches.fresh now slug = some cached →
    ∃ snapshot, readEndpoint web3 deployment chain now slug = .ok snapshot ∧
      cached.SameAccounts snapshot
  vault : VaultCurrent web3 deployment chain caches
  treasury : accepts (loadTreasuryVault web3 deployment chain) ∨
    ∀ snapshot, readEndpoint web3 deployment chain now slug = .ok snapshot →
      ∃ recipient ∈ snapshot.config.feeRecipients.take snapshot.config.feeRecipientCount,
        recipient.kind = 0

theorem loadEndpoint_agree {caches : Caches} {slug : String}
    (current : Current web3 deployment chain now caches slug) :
    Agree (fun found snapshot => found.1.SameAccounts snapshot ∧
        found.2.treasuryVault = caches.treasuryVault)
      (loadEndpoint web3 deployment chain now slug caches)
      (readEndpoint web3 deployment chain now slug) := by
  unfold loadEndpoint
  cases cached : caches.fresh now slug with
  | some found =>
      obtain ⟨snapshot, read, same⟩ := current.endpoint found cached
      rw [read]
      exact .ok ⟨same, rfl⟩
  | none =>
      cases readEndpoint web3 deployment chain now slug with
      | error failure => exact .error _ _
      | ok snapshot => exact .ok ⟨.refl snapshot, rfl⟩

theorem eraseDups_replicate (slug : String) (count : Nat) :
    (List.replicate (count + 1) slug).eraseDups = [slug] := by
  rw [List.replicate_succ, List.eraseDups_cons, List.filter_eq_nil_iff.mpr]
  · rfl
  · intro other member
    rw [List.eq_of_mem_replicate member]
    simp

theorem slugs_of_single {batch : List MessageData} {slug : String}
    (single : ∀ data ∈ batch, extractSlug data = .ok slug) :
    batch.mapM extractSlug = .ok (List.replicate batch.length slug) := by
  induction batch with
  | nil => rfl
  | cons data batch ih =>
      rw [List.mapM_cons, single data List.mem_cons_self,
        ih fun other member => single other (List.mem_cons_of_mem _ member)]
      rfl

variable (web3 runtime deployment chain now) in
/-- What both paths come to when nothing is stale. -/
def settle (batch : List MessageData) (slug : String) :
    Except ClientError TransactionInstruction := do
  let snapshot ← readEndpoint web3 deployment chain now slug
  let events ← batch.mapM fun data => parse web3 runtime data >>= fun parsed =>
    payees web3 deployment chain snapshot.config >>= fun dests =>
      .ok (parsed.event web3 deployment slug (snapshot.hydrated dests))
  buildSettleBatchIx (settleBatchParams deployment (events.map Prod.fst) (events.map Prod.snd))

theorem legacy_agrees {batch : List MessageData} {slug : String} {caches : Caches}
    (nonempty : batch ≠ []) (single : ∀ data ∈ batch, extractSlug data = .ok slug)
    (current : Current web3 deployment chain now caches slug) :
    Agree (fun legacy ix => legacy.1 = ix)
      (submitLegacyDirect web3 runtime deployment chain now batch caches)
      (settle web3 runtime deployment chain now batch slug) := by
  obtain ⟨data, rest, rfl⟩ := List.exists_cons_of_ne_nil nonempty
  unfold submitLegacyDirect settle
  rw [slugs_of_single single, ok_bind, List.length_cons, eraseDups_replicate]
  simp only [loadSnapshots, except_bind_assoc, ok_bind]
  refine (loadEndpoint_agree current).bind fun found snapshot loaded => ?_
  obtain ⟨found, later⟩ := found
  obtain ⟨accounts, vault⟩ := loaded
  have lookup : [(slug, found)].lookup slug = some found := by simp
  have vaultCurrent : VaultCurrent web3 deployment chain later := by
    intro other cached
    exact current.vault other (vault ▸ cached)
  have legacy : Agree _ (legacyEvents web3 runtime deployment chain _ (data :: rest) later) _ :=
    legacyEvents_agree single lookup vaultCurrent
  simp only [accounts.payees, accounts.hydrated] at legacy
  refine legacy.bind fun events pairs same => ?_
  subst same
  obtain ⟨events, final⟩ := events
  simp only [List.map_map, Function.comp_def]
  cases buildSettleBatchIx (settleBatchParams deployment (events.map LegacyEvent.event)
      (events.map LegacyEvent.callRecordPda)) with
  | error failure => exact .error _ _
  | ok ix => exact .ok rfl

/-! ## The adapter path -/

theorem breach_eq (breach : Bool) :
    decide ((if breach = true then "breach" else "ok") = "breach") = breach := by
  cases breach <;> decide

theorem getCallRecordPda_format (callId : V1.CallId) :
    getCallRecordPda deployment
        (bufferFromHex (String.ofList (callId.toList.flatMap byteHex))) =
      .ok (deployment.addresses.of (.callRecord callId)) := by
  rw [bufferFromHex_byteHex, getCallRecordPda, dif_pos callId.toList_length]
  rfl

theorem adapterEvent_iff {data : MessageData} {hint : Nat} {slug : String} {hydrated : Hydrated}
    {event : SettlementEvent × Address} :
    (∃ e, batchEvent runtime hint data = .ok e ∧
        adapterEvent web3 deployment slug hydrated e = .ok event) ↔
      ∃ parsed, parse web3 runtime data = .ok parsed ∧
        web3.isOnCurve parsed.agentOwner = true ∧
        parsed.event web3 deployment slug hydrated = event := by
  simp only [batchEvent, adapterEvent, parse, getAssociatedTokenAddressSync, bind_eq_ok,
    failIf_eq_ok, exists_const, Except.ok.injEq, formatAdapterCallId_eq_ok]
  constructor
  · intro both
    obtain ⟨e, ⟨hex, ⟨callId, found, formatted⟩, premium, paid, refund, owed, latency, took,
      timestamp, stamped, rfl⟩, agent, named, ata, ⟨onCurve, rfl⟩, pda, derived, same⟩ := both
    subst formatted
    rw [getCallRecordPda_format] at derived
    cases derived
    refine ⟨_, ⟨callId, found, agent, named, premium, paid, refund, owed, latency, took, timestamp,
      stamped, rfl⟩, by simpa using onCurve, ?_⟩
    rw [← same, bufferFromHex_byteHex, breach_eq]
    rfl
  · intro parsed
    obtain ⟨parsed, ⟨callId, found, agent, named, premium, paid, refund, owed, latency, took,
      timestamp, stamped, rfl⟩, onCurve, same⟩ := parsed
    refine ⟨_, ⟨_, ⟨callId, found, rfl⟩, premium, paid, refund, owed, latency, took, timestamp,
      stamped, rfl⟩, agent, named, _, ⟨by simpa using onCurve, rfl⟩, _,
      getCallRecordPda_format callId, ?_⟩
    rw [← same, bufferFromHex_byteHex, breach_eq]
    rfl

theorem payee_of_vault {vault : Address}
    (loaded : loadTreasuryVault web3 deployment chain = .ok vault) :
    payee web3 deployment chain = sharedRecipient web3 vault := by
  funext recipient
  unfold payee sharedRecipient
  rw [loaded]

theorem hydrate_iff {slug : String} {hydrated : Hydrated} :
    hydrate web3 deployment chain slug = .ok hydrated ↔
      ∃ snapshot, readEndpoint web3 deployment chain now slug = .ok snapshot ∧
        accepts (loadTreasuryVault web3 deployment chain) ∧
        ∃ dests, payees web3 deployment chain snapshot.config = .ok dests ∧
          snapshot.hydrated dests = hydrated := by
  constructor
  · intro read
    simp only [hydrate, bind_eq_ok, okOr_eq_ok, failIf_eq_ok, exists_const,
      Except.ok.injEq] at read
    obtain ⟨ecAcct, foundEc, cpAcct, foundCp, tsAcct, foundTs, config, decoded, pool, decodedPool,
      treasury, decodedTs, poolVault, named, vault, namedVault, complete, dests, paid, same⟩ := read
    have loaded : loadTreasuryVault web3 deployment chain = .ok vault := by
      simp only [loadTreasuryVault, bind_eq_ok, okOr_eq_ok]
      exact ⟨tsAcct, foundTs, treasury, decodedTs, namedVault⟩
    refine ⟨⟨now, config, _, _, poolVault⟩, ?_, ⟨vault, loaded⟩, dests, ?_, same⟩
    · simp only [readEndpoint, bind_eq_ok, okOr_eq_ok, Except.ok.injEq]
      exact ⟨ecAcct, foundEc, cpAcct, foundCp, config, decoded, pool, decodedPool, poolVault, named,
        rfl⟩
    · rw [payees, failIf_of_not complete, ok_bind, payee_of_vault loaded]
      exact paid
  · intro ready
    obtain ⟨snapshot, read, ⟨vault, loaded⟩, dests, paid, same⟩ := ready
    have payable := payee_of_vault loaded
    simp only [readEndpoint, bind_eq_ok, okOr_eq_ok, Except.ok.injEq] at read
    obtain ⟨ecAcct, foundEc, cpAcct, foundCp, config, decoded, pool, decodedPool, poolVault, named,
      rfl⟩ := read
    simp only [loadTreasuryVault, bind_eq_ok, okOr_eq_ok] at loaded
    obtain ⟨tsAcct, foundTs, treasury, decodedTs, namedVault⟩ := loaded
    simp only [payees, bind_eq_ok, failIf_eq_ok, exists_const, payable] at paid
    obtain ⟨complete, paid⟩ := paid
    simp only [hydrate, bind_eq_ok, okOr_eq_ok, failIf_eq_ok, exists_const, Except.ok.injEq]
    exact ⟨ecAcct, foundEc, cpAcct, foundCp, tsAcct, foundTs, config, decoded, pool, decodedPool,
      treasury, decodedTs, poolVault, named, vault, namedVault, complete, dests, paid, same⟩

theorem adapter_agrees {batch : List MessageData} {slug : String} {caches : Caches}
    (nonempty : batch ≠ []) (single : ∀ data ∈ batch, extractSlug data = .ok slug)
    (onCurve : ∀ data ∈ batch, ∀ agent,
      web3.publicKey (data.agentPubkey.orElse (.string "")).toStr = some agent →
        web3.isOnCurve agent = true)
    (current : Current web3 deployment chain now caches slug) :
    Agree (fun first second => first = second)
      (settle web3 runtime deployment chain now batch slug)
      (submitViaAdapter web3 runtime deployment chain now batch caches) := by
  obtain ⟨data, rest, rfl⟩ := List.exists_cons_of_ne_nil nonempty
  have curved : ∀ message ∈ data :: rest, ∀ parsed, parse web3 runtime message = .ok parsed →
      web3.isOnCurve parsed.agentOwner = true := by
    intro message member parsed accepted
    simp only [parse, newPublicKey, bind_eq_ok, okOr_eq_ok, Except.ok.injEq] at accepted
    obtain ⟨_, -, agent, named, _, -, _, -, _, -, _, -, rfl⟩ := accepted
    exact onCurve message member agent named
  refine Agree.of_iff fun ix => ?_
  simp only [settle, submitViaAdapter, submitSettleBatch, List.head?_cons, okOr_some, ok_bind,
    single data List.mem_cons_self, bind_eq_ok, mapM_eq_ok, Except.ok.injEq]
  constructor
  · intro settled
    obtain ⟨snapshot, read, events, all, built⟩ := settled
    obtain ⟨_, _, ⟨_, -, dests, paid, -⟩, -, -⟩ := List.forall₂_cons_left_iff.mp all
    have vault : accepts (loadTreasuryVault web3 deployment chain) := by
      cases current.treasury with
      | inl loaded => exact loaded
      | inr pays =>
          obtain ⟨recipient, member, treasury⟩ := pays snapshot read
          have payable := paid
          simp only [payees, bind_eq_ok, failIf_eq_ok, exists_const] at payable
          have found := accepts_of_mapM payable.2 member
          rwa [payee, if_pos treasury] at found
    obtain ⟨loaded, found⟩ := (loadEndpoint_agree current).accepts_iff.mpr ⟨snapshot, read⟩
    have hydrated : hydrate web3 deployment chain slug = .ok (snapshot.hydrated dests) :=
      hydrate_iff.mpr ⟨snapshot, read, vault, dests, paid, rfl⟩
    have mapped : List.Forall₂ (fun message event => ∃ e,
        batchEvent runtime loaded.1.config.feeRecipientCount message = .ok e ∧
          adapterEvent web3 deployment slug (snapshot.hydrated dests) e = .ok event)
        (data :: rest) events := by
      refine ((List.forall₂_and_left _ _).mpr ⟨curved, all⟩).imp fun message event parsed => ?_
      obtain ⟨curve, parsed, accepted, others, paid', same⟩ := parsed
      rw [paid] at paid'
      cases paid'
      exact adapterEvent_iff.mpr ⟨parsed, accepted, curve parsed accepted, same⟩
    obtain ⟨sent, mapped, completed⟩ := forall₂_comp.mpr mapped
    exact ⟨loaded, found, sent, mapped, _, hydrated, events, completed, built⟩
  · intro submitted
    obtain ⟨loaded, found, sent, mapped, hydrated, read, events, completed, built⟩ := submitted
    obtain ⟨snapshot, read, -, dests, paid, rfl⟩ := hydrate_iff.mp read
    refine ⟨snapshot, read, events, ?_, built⟩
    refine (forall₂_comp.mp ⟨sent, mapped, completed⟩).imp fun message event both => ?_
    obtain ⟨parsed, accepted, -, same⟩ := adapterEvent_iff.mp both
    exact ⟨parsed, accepted, dests, paid, same⟩

/-- With current caches and owners on the curve, the two paths build the same
instruction, or neither builds one. -/
theorem settle_paths_agree (web3 : Web3) (runtime : Runtime) (deployment : Deployment)
    (chain : Accounts) (now : Int) (caches : Caches) (batch : List MessageData) (slug : String)
    (nonempty : batch ≠ []) (single : ∀ data ∈ batch, extractSlug data = .ok slug)
    (onCurve : ∀ data ∈ batch, ∀ agent,
      web3.publicKey (data.agentPubkey.orElse (.string "")).toStr = some agent →
        web3.isOnCurve agent = true)
    (current : Current web3 deployment chain now caches slug) :
    Agree (fun legacy adapter => legacy.1 = adapter)
      (submitLegacyDirect web3 runtime deployment chain now batch caches)
      (submitViaAdapter web3 runtime deployment chain now batch caches) := by
  refine ((legacy_agrees nonempty single current).trans
    (adapter_agrees nonempty single onCurve current)).mono fun legacy adapter through => ?_
  obtain ⟨_, first, second⟩ := through
  exact first.trans second

end Parity

/-! ## A batch of two paths -/

namespace PathDemo

def key (byte : UInt8) : Address := List.Vector.replicate 32 byte

def base58 : List (Address × Pubkey) :=
  [(key 0, "11111111111111111111111111111111"),
    (key 2, "8qbHbw2BbbTHBW1sbeqakYXVKRQM8Ne7pLK7m6CVfeR"),
    (key 3, "CktRuQ2mttgRGkXJtyksdKHjUdc2C4TgDzyB98oEzy8"),
    (key 4, "GgBaCs3NCBuZN12kCJgAW63ydqohFkHEdfdEXBPzLHq")]

def toBase58 (bytes : List UInt8) : Pubkey :=
  match base58.find? (fun entry => entry.1.toList = bytes) with
  | some entry => entry.2
  | none => String.ofList (bytes.flatMap byteHex)

def publicKey (text : String) : Option Address :=
  match base58.find? (fun entry => entry.2 = text) with
  | some entry => some entry.1
  | none =>
      if sized : (bufferFromHex text).length = 32 then some ⟨bufferFromHex text, sized⟩ else none

theorem find_name : ∀ entry ∈ base58,
    base58.find? (fun other => other.2 = entry.2) = some entry := by
  decide +kernel

theorem short_name : ∀ entry ∈ base58, entry.2.length < 64 := by
  decide +kernel

theorem publicKey_toBase58 (address : Address) :
    publicKey (toBase58 address.toList) = some address := by
  unfold toBase58
  cases found : base58.find? (fun entry => entry.1.toList = address.toList) with
  | some entry =>
      have same : entry.1.toList = address.toList := by simpa using List.find?_some found
      unfold publicKey
      rw [find_name entry (List.mem_of_find?_eq_some found)]
      exact congrArg some (Bytes.toList_inj.mp same)
  | none =>
      have length : (String.ofList (address.toList.flatMap byteHex)).length = 64 := by
        simp [byteHex, List.length_flatMap]
      have fresh : base58.find? (fun entry =>
          entry.2 = String.ofList (address.toList.flatMap byteHex)) = none := by
        rw [List.find?_eq_none]
        intro entry member same
        have short := short_name entry member
        rw [of_decide_eq_true same, length] at short
        exact absurd short (by decide)
      dsimp only [publicKey]
      rw [fresh]
      dsimp only
      rw [dif_pos (by rw [bufferFromHex_byteHex, List.Vector.toList_length])]
      simp only [bufferFromHex_byteHex]
      rfl

def web3 : Web3 where
  publicKey := publicKey
  toBase58 := toBase58
  isOnCurve address := address ∈ [key 0, key 3]
  findAssociated _ _ := ⟨[16, 130, 8, 204, 51, 43, 48, 89, 2, 146, 161, 145, 65, 31, 96, 164, 93, 168,
    115, 187, 87, 140, 219, 59, 203, 41, 218, 111, 109, 206, 178, 6], rfl⟩
  publicKey_toBase58 := publicKey_toBase58

def runtime : Runtime where
  bigInt text := [("0", 0), ("1000", 1000)].lookup text
  number _ := none
  dateParse _ := none

def deployment : Deployment where
  programId := V1.programId
  usdcMint := V1.usdcDevnet
  settler := key 3
  addresses := V1.Addresses.packed

def slug : V1.Slug := slugBytes "api"

def zeros (size : Nat) : Bytes size := List.Vector.replicate size 0

def treasuryRecipient : V1.FeeRecipient := ⟨0, zeros 7, key 3, 1000, zeros 6⟩

def affiliate : V1.FeeRecipient := ⟨1, zeros 7, key 4, 500, zeros 6⟩

/-- The endpoint after some calls, with a first and maybe a second recipient. -/
def endpoint (totalCalls : UInt64) (feeRecipientCount : UInt8) : V1.EndpointConfig where
  bump := 255
  paused := 0
  padding0 := zeros 6
  slug := slug
  flatPremiumLamports := 1000
  percentBps := 0
  padding1 := zeros 6
  slaLatencyMs := 2000
  padding2 := zeros 4
  imputedCostLamports := 5000
  exposureCapPerHourLamports := 1000000
  currentPeriodStart := 0
  currentPeriodRefunds := 0
  totalCalls := totalCalls
  totalBreaches := 0
  totalPremiums := 0
  totalRefunds := 0
  lastUpdated := 0
  coveragePool := deployment.addresses.of (.coveragePool slug)
  feeRecipientCount := feeRecipientCount
  padding3 := zeros 7
  feeRecipients := ⟨treasuryRecipient :: affiliate :: List.replicate 6 V1.FeeRecipient.zero, rfl⟩

def pool : V1.CoveragePool where
  bump := 255
  padding0 := zeros 7
  authority := key 3
  usdcMint := V1.usdcDevnet
  usdcVault := key 2
  endpointSlug := slug
  totalDeposits := 0
  totalPremiums := 0
  totalRefunds := 0
  currentBalance := 0
  createdAt := 0

def treasury : V1.Treasury where
  bump := 255
  padding0 := zeros 7
  authority := key 3
  usdcVault := key 4
  setAt := 0

def chain (endpoint : V1.EndpointConfig) : Accounts := fun address =>
  if address = deployment.addresses.of (.endpointConfig slug) then
    some (V1.EndpointConfig.layout.encode endpoint)
  else if address = deployment.addresses.of (.coveragePool slug) then
    some (V1.CoveragePool.layout.encode pool)
  else if address = deployment.addresses.of .treasury then
    some (V1.Treasury.layout.encode treasury)
  else none

def message : MessageData where
  endpointSlug := .string "api"
  callId := .string "01234567-89ab-cdef-0123-456789abcdef"
  agentPubkey := .string "11111111111111111111111111111111"
  premiumLamports := .string "1000"
  refundLamports := .undefined
  latencyMs := .number 150
  outcome := .undefined
  ts := .undefined
  timestamp := .number 1700000000

def snapshot (loadedAt : Int) (endpoint : V1.EndpointConfig) : EndpointSnapshot where
  loadedAt := loadedAt
  config := EndpointConfig.ofProgram toBase58 endpoint
  endpointConfigPda := deployment.addresses.of (.endpointConfig slug)
  coveragePool := deployment.addresses.of (.coveragePool slug)
  poolVault := key 2

def caches : Caches where
  endpointCache name := if name = "api" then some (snapshot 0 (endpoint 0 1)) else none
  treasuryVault := some (key 4)

example : (loadEndpoint web3 deployment (chain (endpoint 0 1)) 0 "api" ⟨fun _ => none, none⟩).map
    Prod.fst = .ok (snapshot 0 (endpoint 0 1)) := by
  decide +kernel

end PathDemo

open PathDemo in
/-- With one recipient still paid, both paths build the instruction. -/
theorem settle_paths_agree_api :
    Agree (fun legacy adapter => legacy.1 = adapter)
        (submitLegacyDirect web3 runtime deployment (chain (endpoint 1 1)) 30000 [message] caches)
        (submitViaAdapter web3 runtime deployment (chain (endpoint 1 1)) 30000 [message] caches) ∧
      accepts (submitViaAdapter web3 runtime deployment (chain (endpoint 1 1)) 30000 [message]
        caches) := by
  refine ⟨settle_paths_agree web3 runtime deployment (chain (endpoint 1 1)) 30000 caches [message]
    "api" (by decide) ?_ ?_ ⟨?_, ?_, .inl ?_⟩, ?_⟩
  · intro data member
    rw [List.mem_singleton.mp member]
    decide +kernel
  · intro data member agent named
    rw [List.mem_singleton.mp member] at named
    have zero : web3.publicKey "11111111111111111111111111111111" = some (key 0) := by
      decide +kernel
    cases zero.symm.trans named
    decide +kernel
  · intro cached fresh
    have same : caches.fresh 30000 "api" = some (snapshot 0 (endpoint 0 1)) := by
      decide +kernel
    cases same.symm.trans fresh
    exact ⟨snapshot 30000 (endpoint 1 1), by decide +kernel, rfl, rfl, rfl, rfl, rfl⟩
  · intro vault cached
    cases cached
    decide +kernel
  · exact ⟨key 4, by decide +kernel⟩
  · have built : (submitViaAdapter web3 runtime deployment (chain (endpoint 1 1)) 30000 [message]
        caches).isOk = true := by decide +kernel
    revert built
    cases submitViaAdapter web3 runtime deployment (chain (endpoint 1 1)) 30000 [message] caches with
    | error failure => exact nofun
    | ok ix => exact fun _ => ⟨ix, rfl⟩

open PathDemo in
/-- After a second recipient is added, the legacy path still pays one for the
rest of the minute. -/
theorem settle_paths_diverge :
    ¬∀ (web3 : Web3) (runtime : Runtime) (deployment : Deployment) (chain : Accounts) (now : Int)
      (caches : Caches) (batch : List MessageData) (slug : String), batch ≠ [] →
      (∀ data ∈ batch, extractSlug data = .ok slug) →
      Agree (fun legacy adapter => legacy.1 = adapter)
        (submitLegacyDirect web3 runtime deployment chain now batch caches)
        (submitViaAdapter web3 runtime deployment chain now batch caches) := by
  intro claim
  have agree := claim web3 runtime deployment (chain (endpoint 1 2)) 30000 caches [message] "api"
    (by decide) (fun data member => by rw [List.mem_singleton.mp member]; decide +kernel)
  have legacy : ((submitLegacyDirect web3 runtime deployment (chain (endpoint 1 2)) 30000 [message]
      caches).toOption.map fun built => built.1.keys.length) = some 11 := by decide +kernel
  have adapter : ((submitViaAdapter web3 runtime deployment (chain (endpoint 1 2)) 30000 [message]
      caches).toOption.map fun ix => ix.keys.length) = some 12 := by decide +kernel
  generalize submitLegacyDirect web3 runtime deployment (chain (endpoint 1 2)) 30000 [message]
    caches = built at agree legacy
  generalize submitViaAdapter web3 runtime deployment (chain (endpoint 1 2)) 30000 [message]
    caches = ix at agree adapter
  cases agree with
  | error _ _ => cases legacy
  | ok same =>
      have eleven : _ = 11 := Option.some.inj legacy
      have twelve : _ = 12 := Option.some.inj adapter
      have keys := congrArg (fun ix => ix.keys.length) same
      exact absurd (eleven.symm.trans (keys.trans twelve)) (by decide)

end PactNetwork.Settler.Paths
