import PactNetwork.Settler.MessageData
import PactNetwork.V1.Pda
import PactNetwork.V1Client.State

/-!
# The two settle paths

What `submitLegacyDirect` and `SolanaAdapter.submitSettleBatch` do up to the
`settle_batch` instruction they send, from the same messages, caches and
accounts. Both paths of a network read the same program id, mint and signer.
-/

set_option autoImplicit false

namespace PactNetwork.Settler.Paths

open Solana V1Client

/-! ## The outside -/

/-- What the paths use of web3.js and of the token library. -/
structure Web3 where
  /-- `new PublicKey(text)`. -/
  publicKey : String → Option Address
  toBase58 : List UInt8 → Pubkey
  isOnCurve : Address → Bool
  /-- The program address of an owner, the token program and a mint under the
  associated token program. -/
  findAssociated : Address → Address → Address
  publicKey_toBase58 : ∀ address : Address, publicKey (toBase58 address.toList) = some address

structure Deployment where
  programId : Address
  usdcMint : Address
  settler : Address
  addresses : V1.Addresses

/-- `getAccountInfo`: the data of the accounts that exist. -/
abbrev Accounts := Address → Option (List UInt8)

structure EndpointSnapshot where
  loadedAt : Int
  config : EndpointConfig
  endpointConfigPda : Address
  coveragePool : Address
  poolVault : Address
  deriving DecidableEq

structure Caches where
  endpointCache : String → Option EndpointSnapshot
  treasuryVault : Option Address

def endpointCacheTtlMs : Int := 60000

def slugBytes (slug : String) : V1.Slug :=
  ⟨(slug.toUTF8.data.toList ++ List.replicate 16 0).take 16, by simp⟩

section Web3

variable (web3 : Web3)

def newPublicKey (text : String) : Except ClientError Address :=
  okOr (web3.publicKey text) (.error "Invalid public key input")

def deriveAssociatedTokenAccount (owner mint : Address) : Address :=
  web3.findAssociated owner mint

def getAssociatedTokenAddressSync (mint owner : Address) : Except ClientError Address := do
  failIf (web3.isOnCurve owner = false) (.error "TokenOwnerOffCurveError")
  .ok (web3.findAssociated owner mint)

end Web3

section Paths

variable (web3 : Web3) (runtime : Runtime) (deployment : Deployment) (chain : Accounts) (now : Int)

/-! ## Caches of the submitter -/

def readEndpoint (slug : String) : Except ClientError EndpointSnapshot := do
  let slugBuf := slugBytes slug
  let endpointConfigPda := deployment.addresses.of (.endpointConfig slugBuf)
  let coveragePool := deployment.addresses.of (.coveragePool slugBuf)
  let epAcct ← okOr (chain endpointConfigPda)
    (.error s!"EndpointConfig for slug \"{slug}\" not found on-chain")
  let poolAcct ← okOr (chain coveragePool)
    (.error s!"CoveragePool for slug \"{slug}\" not found on-chain")
  let config ← decodeEndpointConfig web3.toBase58 epAcct
  let pool ← decodeCoveragePool web3.toBase58 poolAcct
  let poolVault ← newPublicKey web3 pool.usdcVault
  .ok ⟨now, config, endpointConfigPda, coveragePool, poolVault⟩

def Caches.fresh (caches : Caches) (slug : String) : Option EndpointSnapshot :=
  (caches.endpointCache slug).filter fun cached => now - cached.loadedAt < endpointCacheTtlMs

def loadEndpoint (slug : String) (caches : Caches) :
    Except ClientError (EndpointSnapshot × Caches) :=
  match caches.fresh now slug with
  | some cached => .ok (cached, caches)
  | none => do
      let snapshot ← readEndpoint web3 deployment chain now slug
      .ok (snapshot, { caches with
        endpointCache := Function.update caches.endpointCache slug (some snapshot) })

def loadTreasuryVault : Except ClientError Address := do
  let treasuryPda := deployment.addresses.of .treasury
  let acct ← okOr (chain treasuryPda)
    (.error s!"Treasury PDA {web3.toBase58 treasuryPda.toList} not initialised")
  let treasury ← decodeTreasury web3.toBase58 acct
  newPublicKey web3 treasury.usdcVault

def requireTreasuryVault (caches : Caches) : Except ClientError (Address × Caches) :=
  match caches.treasuryVault with
  | some vault => .ok (vault, caches)
  | none => do
      let vault ← loadTreasuryVault web3 deployment chain
      .ok (vault, { caches with treasuryVault := some vault })

/-! ## Shares -/

def resolveRecipient (recipient : FeeRecipient) (caches : Caches) :
    Except ClientError (Address × Caches) :=
  if recipient.kind = 0 then requireTreasuryVault web3 deployment chain caches
  else do
    let dest ← newPublicKey web3 recipient.destination
    .ok (dest, caches)

def feeShares (premiumLamports : Int) : List FeeRecipient → Caches →
    Except ClientError (List RecipientShare × Caches)
  | [], caches => .ok ([], caches)
  | recipient :: rest, caches => do
      let (dest, caches) ← resolveRecipient web3 deployment chain recipient caches
      let (shares, caches) ← feeShares premiumLamports rest caches
      .ok (⟨recipient.kind, web3.toBase58 dest.toList,
        (premiumLamports * recipient.bps).tdiv 10000⟩ :: shares, caches)

def computeFeeSharesForEvent (premiumLamports : Int) (config : EndpointConfig) (caches : Caches) :
    Except ClientError (List RecipientShare × Caches) := do
  failIf (config.feeRecipients.length < config.feeRecipientCount)
    (.error "Cannot read properties of undefined")
  feeShares web3 deployment chain premiumLamports
    (config.feeRecipients.take config.feeRecipientCount) caches

/-! ## The legacy path -/

/-- The snapshots of the batch's slugs, each loaded once. -/
def loadSnapshots : List String → Caches →
    Except ClientError (List (String × EndpointSnapshot) × Caches)
  | [], caches => .ok ([], caches)
  | slug :: rest, caches => do
      let (snapshot, caches) ← loadEndpoint web3 deployment chain now slug caches
      let (snapshots, caches) ← loadSnapshots rest caches
      .ok ((slug, snapshot) :: snapshots, caches)

structure LegacyEvent where
  event : SettlementEvent
  callRecordPda : Address
  shares : List RecipientShare

def legacyEvent (snapshots : List (String × EndpointSnapshot)) (data : MessageData)
    (caches : Caches) : Except ClientError (LegacyEvent × Caches) := do
  let slug ← extractSlug data
  let snap ← okOr (snapshots.lookup slug) (.error "Cannot read properties of undefined")
  let callId ← parseCallId (data.callId.orElse (.string "")).toStr
  let agentOwner ← newPublicKey web3 (data.agentPubkey.orElse (.string "")).toStr
  let agentAta := deriveAssociatedTokenAccount web3 agentOwner deployment.usdcMint
  let premiumLamports ← runtime.toBigInt data.premiumLamports
  let refundLamports ← runtime.toBigInt (data.refundLamports.orElse (.string "0"))
  let latencyMs ← runtime.toNumber (data.latencyMs.orElse (.number 0))
  let breach := breachFromOutcome (data.outcome.orElse (.string "ok")).toStr
  let timestamp ← parseEventTimestamp runtime data
  let (shares, caches) ←
    computeFeeSharesForEvent web3 deployment chain premiumLamports snap.config caches
  let feeRecipientAtas ← shares.mapM fun share => newPublicKey web3 share.pubkey
  .ok (⟨{ callId := callId.toList, agentOwner, agentAta, premiumLamports, refundLamports, latencyMs,
          breach, timestamp, feeRecipientAtas
          endpointConfig := snap.endpointConfigPda
          coveragePool := snap.coveragePool
          poolVault := snap.poolVault
          slug := (slugBytes slug).toList },
        deployment.addresses.of (.callRecord callId), shares⟩, caches)

def legacyEvents (snapshots : List (String × EndpointSnapshot)) : List MessageData → Caches →
    Except ClientError (List LegacyEvent × Caches)
  | [], caches => .ok ([], caches)
  | data :: rest, caches => do
      let (event, caches) ← legacyEvent web3 runtime deployment chain snapshots data caches
      let (events, caches) ← legacyEvents snapshots rest caches
      .ok (event :: events, caches)

def settleBatchParams (events : List SettlementEvent) (callRecordPdas : List Address) :
    SettleBatchParams where
  programId := some deployment.programId
  settler := deployment.settler
  settlementAuthority := deployment.addresses.of .settlementAuthority
  protocolConfig := deployment.addresses.of .protocolConfig
  events := events
  callRecordPdas := callRecordPdas

/-- `submitLegacyDirect`, up to the instruction and the shares. -/
def submitLegacyDirect (batch : List MessageData) (caches : Caches) :
    Except ClientError (TransactionInstruction × List (List RecipientShare)) := do
  let slugs ← batch.mapM extractSlug
  let (snapshots, caches) ← loadSnapshots web3 deployment chain now slugs.eraseDups caches
  let (events, _) ← legacyEvents web3 runtime deployment chain snapshots batch caches
  let ix ← buildSettleBatchIx (settleBatchParams deployment (events.map LegacyEvent.event)
    (events.map LegacyEvent.callRecordPda))
  .ok (ix, events.map LegacyEvent.shares)

/-! ## The adapter path -/

/-- An event of `SettleBatchInput`. -/
structure BatchEvent where
  callId : String
  agent : String
  premiumBaseUnits : Int
  outcome : String
  refundBaseUnits : Int
  feeRecipientCountHint : Nat
  latencyMs : Int
  eventTimestamp : Int

def batchEvent (feeRecipientCount : Nat) (data : MessageData) : Except ClientError BatchEvent := do
  let callId ← formatAdapterCallId .solana (data.callId.orElse (.string "")).toStr
  let outcome := (data.outcome.orElse (.string "ok")).toStr
  let premiumBaseUnits ← runtime.toBigInt data.premiumLamports
  let refundBaseUnits ← runtime.toBigInt (data.refundLamports.orElse (.string "0"))
  let latencyMs ← runtime.toNumber (data.latencyMs.orElse (.number 0))
  let eventTimestamp ← parseEventTimestamp runtime data
  .ok {
    callId, premiumBaseUnits, refundBaseUnits, latencyMs, eventTimestamp
    agent := (data.agentPubkey.orElse (.string "")).toStr
    outcome := if breachFromOutcome outcome then "breach" else "ok"
    feeRecipientCountHint := feeRecipientCount }

/-- `getCallRecordPda`, which wants sixteen bytes. -/
def getCallRecordPda (callId : List UInt8) : Except ClientError Address :=
  if sized : callId.length = 16 then .ok (deployment.addresses.of (.callRecord ⟨callId, sized⟩))
  else .error (.error s!"call_id must be exactly 16 bytes (got {callId.length})")

def sharedRecipient (treasuryVault : Address) (recipient : FeeRecipient) :
    Except ClientError Address :=
  if recipient.kind = 0 then .ok treasuryVault else newPublicKey web3 recipient.destination

structure Hydrated where
  endpointConfigPda : Address
  coveragePoolPda : Address
  poolVault : Address
  feeRecipientAtas : List Address
  deriving DecidableEq

def hydrate (slug : String) : Except ClientError Hydrated := do
  let slugBuf := slugBytes slug
  let endpointConfigPda := deployment.addresses.of (.endpointConfig slugBuf)
  let coveragePoolPda := deployment.addresses.of (.coveragePool slugBuf)
  let treasuryPda := deployment.addresses.of .treasury
  let ecAcct ← okOr (chain endpointConfigPda)
    (.error s!"EndpointConfig PDA not found: {web3.toBase58 endpointConfigPda.toList}")
  let cpAcct ← okOr (chain coveragePoolPda)
    (.error s!"CoveragePool PDA not found: {web3.toBase58 coveragePoolPda.toList}")
  let tsAcct ← okOr (chain treasuryPda)
    (.error s!"Treasury PDA not found: {web3.toBase58 treasuryPda.toList}")
  let endpointCfg ← decodeEndpointConfig web3.toBase58 ecAcct
  let coveragePool ← decodeCoveragePool web3.toBase58 cpAcct
  let treasury ← decodeTreasury web3.toBase58 tsAcct
  let poolVault ← newPublicKey web3 coveragePool.usdcVault
  let treasuryVault ← newPublicKey web3 treasury.usdcVault
  failIf (endpointCfg.feeRecipients.length < endpointCfg.feeRecipientCount)
    (.error "Cannot read properties of undefined")
  let feeRecipientAtas ← (endpointCfg.feeRecipients.take endpointCfg.feeRecipientCount).mapM
    (sharedRecipient web3 treasuryVault)
  .ok ⟨endpointConfigPda, coveragePoolPda, poolVault, feeRecipientAtas⟩

def adapterEvent (slug : String) (hydrated : Hydrated) (e : BatchEvent) :
    Except ClientError (SettlementEvent × Address) := do
  let callIdBuf := bufferFromHex e.callId
  let agentOwner ← newPublicKey web3 e.agent
  let agentAta ← getAssociatedTokenAddressSync web3 deployment.usdcMint agentOwner
  let callRecordPda ← getCallRecordPda deployment callIdBuf
  .ok ({
    callId := callIdBuf
    agentOwner, agentAta
    endpointConfig := hydrated.endpointConfigPda
    coveragePool := hydrated.coveragePoolPda
    poolVault := hydrated.poolVault
    slug := (slugBytes slug).toList
    premiumLamports := e.premiumBaseUnits
    refundLamports := e.refundBaseUnits
    latencyMs := e.latencyMs
    breach := e.outcome = "breach"
    timestamp := e.eventTimestamp
    feeRecipientAtas := hydrated.feeRecipientAtas }, callRecordPda)

/-- `SolanaAdapter.submitSettleBatch`, up to the instruction. -/
def submitSettleBatch (slug : String) (events : List BatchEvent) :
    Except ClientError TransactionInstruction := do
  let hydrated ← hydrate web3 deployment chain slug
  let events ← events.mapM (adapterEvent web3 deployment slug hydrated)
  buildSettleBatchIx (settleBatchParams deployment (events.map Prod.fst) (events.map Prod.snd))

/-- `submitViaAdapter` for a Solana adapter, up to the instruction. -/
def submitViaAdapter (batch : List MessageData) (caches : Caches) :
    Except ClientError TransactionInstruction := do
  let first ← okOr batch.head? (.error "Cannot read properties of undefined")
  let slug ← extractSlug first
  let (snap, _) ← loadEndpoint web3 deployment chain now slug caches
  let events ← batch.mapM (batchEvent runtime snap.config.feeRecipientCount)
  submitSettleBatch web3 deployment chain slug events

end Paths

end PactNetwork.Settler.Paths
