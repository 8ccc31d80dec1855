import PactNetwork.Foundation.Table
import PactNetwork.Foundation.Traces
import PactNetwork.Requests.Http

/-!
# Self-serve keys

The challenges that agents sign and the keys that signed challenges are redeemed
for: the checks of the two routes, the rows they work on, and what a key may be
minted for. Issuance here is one act; its statements are interleaved elsewhere.
-/

set_option autoImplicit false

namespace PactNetwork.Backend.Keys

open Requests (encode)

def challengeTtlMs : Nat := 60000

def maxSelfServeKeysPerAgent : Nat := 5

inductive SolanaNetwork
  | mainnetBeta
  | devnet
  | testnet
  | localnet
  | unknown
  deriving DecidableEq

def SolanaNetwork.text : SolanaNetwork → String
  | .mainnetBeta => "mainnet-beta"
  | .devnet => "devnet"
  | .testnet => "testnet"
  | .localnet => "localnet"
  | .unknown => "unknown"

/-- What the routes take from `@solana/web3.js`, Node and the crypto packages. -/
structure Library where
  crypto : Requests.Crypto
  /-- `new PublicKey(raw)`, or the message it throws with. -/
  publicKey : String → Except String (List UInt8)
  isOnCurve : List UInt8 → Bool
  /-- `Buffer.from(text, "base64")`. -/
  bufferFromBase64 : String → List UInt8

structure Reply where
  code : Nat
  body : List (String × String)
  deriving DecidableEq

/-! ## The checks before the tables -/

section Checks

variable (library : Library)

def validateRecipient (raw : String) : Except String (List UInt8) :=
  if raw.length = 0 then .error "recipient is required"
  else
    match library.publicKey raw with
    | .error message => .error ("recipient is not a valid base58 pubkey: " ++ message)
    | .ok pk =>
        if library.isOnCurve pk then .ok pk
        else .error
          "recipient must be a wallet address (on-curve ed25519 pubkey), not a PDA"

def buildChallengeMessage (nonce agentPubkey : String) : String :=
  "\n".intercalate ["Pact Network self-serve API key issuance", "Agent: " ++ agentPubkey,
    "Nonce: " ++ nonce]

def hashKey (key : String) : String := library.crypto.sha256Hex (encode key)

def pubkeyLockId (pubkey : String) : Nat :=
  (((library.crypto.sha256 (encode pubkey)).take 8).foldl
    (fun result byte => (result <<< 8) ||| byte.toNat) 0) &&& 0x7fffffffffffffff

def selfServeDisabled (network : SolanaNetwork) : Reply :=
  ⟨410, [("error", "SelfServeDisabled"),
    ("reason",
      if network = .mainnetBeta ∨ network = .testnet then
        "Self-serve API keys are devnet/localnet only (this backend is on " ++ network.text ++ ")"
      else "Self-serve API keys disabled — backend has not detected a devnet/localnet cluster"),
    ("network", network.text)]⟩

/-- The pubkey of a body, for a network where the routes are open. A field that is
not a string is none. -/
def checkAgent (network : SolanaNetwork) (agentPubkey : Option String) : Except Reply String :=
  if network ≠ .devnet ∧ network ≠ .localnet then .error (selfServeDisabled network)
  else
    match validateRecipient library (agentPubkey.getD "") with
    | .error message => .error ⟨400, [("error", "InvalidAgentPubkey"), ("message", message)]⟩
    | .ok pk => .ok (library.crypto.bs58Encode pk)

structure SelfServeBody where
  agentPubkey : Option String
  nonce : Option String
  signature : Option String

/-- What a request asks a key for, once its signature verifies. -/
structure Redemption where
  agentPubkey : String
  nonce : String
  sigBytes : List UInt8
  deriving DecidableEq

/-- The signature is the pubkey's, over the message of this nonce and this pubkey. -/
def Redemption.Verifies (redemption : Redemption) : Prop :=
  redemption.sigBytes.length = 64 ∧
    ∃ pubkeyBytes, library.crypto.bs58Decode redemption.agentPubkey = some pubkeyBytes ∧
      library.crypto.detachedVerify
        (encode (buildChallengeMessage redemption.nonce redemption.agentPubkey))
        redemption.sigBytes pubkeyBytes = true

/-- A decoder that throws leaves the signature invalid. -/
def validSig (redemption : Redemption) : Bool :=
  match library.crypto.bs58Decode redemption.agentPubkey with
  | none => false
  | some pubkeyBytes =>
      library.crypto.detachedVerify
        (encode (buildChallengeMessage redemption.nonce redemption.agentPubkey))
        redemption.sigBytes pubkeyBytes

/-- The part of the issuance route before its transaction. -/
def checkBody (network : SolanaNetwork) (body : SelfServeBody) : Except Reply Redemption := do
  let agentPubkey ← checkAgent library network body.agentPubkey
  let nonce := body.nonce.getD ""
  if nonce.length = 0 then
    .error ⟨400, [("error", "MissingNonce"),
      ("message", "Call POST /api/v1/keys/self-serve/challenge first to obtain a nonce.")]⟩
  else
    let signature := body.signature.getD ""
    if signature.length = 0 then
      .error ⟨400, [("error", "MissingSignature"),
        ("message", "Sign the challenge message with the agent_pubkey keypair and submit " ++
          "base64 signature.")]⟩
    else
      let redemption : Redemption := ⟨agentPubkey, nonce, library.bufferFromBase64 signature⟩
      if redemption.sigBytes.length ≠ 64 then
        .error ⟨400, [("error", "MalformedSignature"),
          ("message", "Expected 64-byte ed25519 signature, got " ++
            toString redemption.sigBytes.length ++ " bytes after base64 decode.")]⟩
      else if validSig library redemption then .ok redemption
      else
        .error ⟨401, [("error", "InvalidSignature"),
          ("message",
            "Signature does not verify against agent_pubkey for the challenge message.")]⟩

variable {library}

theorem verifies_of_checkBody {network : SolanaNetwork} {body : SelfServeBody}
    {redemption : Redemption} (checked : checkBody library network body = .ok redemption) :
    redemption.Verifies library := by
  obtain ⟨agentPubkey, -, rest⟩ := (bind_eq_ok _ _ _).mp checked
  dsimp only at rest
  split at rest
  case isTrue => cases rest
  case isFalse =>
    split at rest
    case isTrue => cases rest
    case isFalse =>
      split at rest
      case isTrue => cases rest
      case isFalse sized =>
        split at rest
        case isFalse => cases rest
        case isTrue valid =>
          cases rest
          refine ⟨not_not.mp sized, ?_⟩
          unfold validSig at valid
          split at valid
          case h_1 => cases valid
          case h_2 pubkeyBytes decoded => exact ⟨pubkeyBytes, decoded, valid⟩

end Checks

/-! ## The tables -/

structure Challenge where
  agentPubkey : String
  expiresAt : Nat
  deriving DecidableEq

inductive KeyStatus
  | active
  | suspended
  deriving DecidableEq

structure ApiKey where
  keyHash : String
  label : String
  agentPubkey : Option String
  status : KeyStatus
  deriving DecidableEq

structure Database where
  challenges : Table String Challenge
  keys : List ApiKey

def ApiKey.isSelfServe (key : ApiKey) : Bool := "self-serve-".toList.isPrefixOf key.label.toList

def ApiKey.countsFor (pubkey : String) (key : ApiKey) : Bool :=
  key.agentPubkey = some pubkey && key.status = .active && key.isSelfServe

def ApiKey.identity (key : ApiKey) : String × String × Option String :=
  (key.keyHash, key.label, key.agentPubkey)

def ApiKey.suspend (label : String) (key : ApiKey) : ApiKey :=
  if key.label = label then { key with status := .suspended } else key

def Database.count (db : Database) (pubkey : String) : Nat := db.keys.countP (·.countsFor pubkey)

def newChallenge (agentPubkey : String) (now : Nat) : Challenge :=
  ⟨agentPubkey, now + challengeTtlMs⟩

def newKey (library : Library) (agentPubkey apiKey : String) (now : Nat) : ApiKey where
  keyHash := hashKey library apiKey
  label := "self-serve-" ++ String.ofList (agentPubkey.toList.take 8) ++ "-" ++ toString now
  agentPubkey := some agentPubkey
  status := .active

/-- A redemption whose challenge passed its checks, with the clock that was read. -/
structure Redeemed where
  redemption : Redemption
  challenge : Challenge
  checkedAt : Nat
  deriving DecidableEq

structure Mint where
  redeemed : Redeemed
  key : ApiKey
  deriving DecidableEq

def Mint.nonce (mint : Mint) : String := mint.redeemed.redemption.nonce

def Mint.agentPubkey (mint : Mint) : String := mint.redeemed.redemption.agentPubkey

variable {ι : Type}

/-- What changes the tables: the challenge route, the admin's suspension of a key,
and a request whose transaction commits. -/
inductive Event (ι : Type)
  | challenged (nonce : String) (challenge : Challenge)
  | suspended (label : String)
  | minted (request : ι) (mint : Mint)
  deriving DecidableEq

def Database.apply (db : Database) : Event ι → Database
  | .challenged nonce challenge => { db with challenges := db.challenges.insert nonce challenge }
  | .suspended label => { db with keys := db.keys.map (·.suspend label) }
  | .minted _ mint => ⟨db.challenges.erase mint.nonce, db.keys ++ [mint.key]⟩

/-! ## The law of issuance -/

/-- The challenge is the pubkey's and has not expired. -/
structure Redeemed.Lawful (library : Library) (redeemed : Redeemed) : Prop where
  verifies : redeemed.redemption.Verifies library
  issuedTo : redeemed.challenge.agentPubkey = redeemed.redemption.agentPubkey
  unexpired : redeemed.checkedAt ≤ redeemed.challenge.expiresAt

structure Mint.Lawful (library : Library) (mint : Mint) : Prop where
  redeemed : mint.redeemed.Lawful library
  active : ∃ apiKey now, mint.key = newKey library mint.agentPubkey apiKey now

def Database.Clear (library : Library) (db : Database) : Event ι → Prop
  | .challenged nonce _ => nonce ∉ db.challenges
  | .suspended _ => True
  | .minted _ mint => mint.Lawful library ∧
      db.challenges.lookup mint.nonce = some mint.redeemed.challenge ∧
      db.count mint.agentPubkey < maxSelfServeKeysPerAgent

def Event.mint? : Event ι → Option Mint
  | .minted _ mint => some mint
  | _ => none

def Event.nonce? : Event ι → Option String
  | .challenged nonce _ => some nonce
  | _ => none

def mints (history : List (Event ι)) : List Mint := history.filterMap Event.mint?

def nonces (start : Database) (history : List (Event ι)) : List String :=
  start.challenges.keys ++ history.filterMap Event.nonce?

def Issued (start : Database) (history : List (Event ι)) (nonce : String)
    (challenge : Challenge) : Prop :=
  start.challenges.lookup nonce = some challenge ∨ Event.challenged nonce challenge ∈ history

section Law

variable {library : Library} {db : Database} {event : Event ι} {history : List (Event ι)}

@[simp] theorem mints_cons_minted (request : ι) (mint : Mint) (history : List (Event ι)) :
    mints (.minted request mint :: history) = mint :: mints history := rfl

@[simp] theorem mints_cons_challenged (nonce : String) (challenge : Challenge)
    (history : List (Event ι)) : mints (.challenged nonce challenge :: history) = mints history :=
  rfl

@[simp] theorem mints_cons_suspended (label : String) (history : List (Event ι)) :
    mints (.suspended label :: history) = mints history := rfl

theorem identity_suspend (label : String) (key : ApiKey) :
    (key.suspend label).identity = key.identity := by
  unfold ApiKey.suspend
  split <;> rfl

theorem countsFor_of_suspend {label pubkey : String} {key : ApiKey}
    (counts : (key.suspend label).countsFor pubkey = true) : key.countsFor pubkey = true := by
  unfold ApiKey.suspend at counts
  split at counts
  case isTrue => simp [ApiKey.countsFor] at counts
  case isFalse => exact counts

theorem agentPubkey_of_countsFor {pubkey : String} {key : ApiKey}
    (counts : key.countsFor pubkey = true) : key.agentPubkey = some pubkey := by
  unfold ApiKey.countsFor at counts
  rw [Bool.and_eq_true, Bool.and_eq_true] at counts
  exact of_decide_eq_true counts.1.1

theorem count_suspend_le (label pubkey : String) :
    (db.apply (.suspended label : Event ι)).count pubkey ≤ db.count pubkey := by
  unfold Database.count Database.apply
  rw [List.countP_map]
  exact List.countP_mono_left fun key _ counts => countsFor_of_suspend counts

theorem count_minted {pubkey : String} (request : ι) (mint : Mint) :
    (db.apply (.minted request mint)).count pubkey =
      db.count pubkey + if mint.key.countsFor pubkey then 1 else 0 := by
  unfold Database.count Database.apply
  rw [List.countP_append, List.countP_singleton]

theorem newKey_countsFor (agentPubkey apiKey : String) (now : Nat) :
    (newKey library agentPubkey apiKey now).countsFor agentPubkey = true := by
  have labelled : (newKey library agentPubkey apiKey now).isSelfServe = true := by
    unfold ApiKey.isSelfServe newKey
    simp only [String.toList_append, List.append_assoc]
    exact List.isPrefixOf_iff_prefix.mpr (List.prefix_append _ _)
  unfold ApiKey.countsFor
  rw [labelled]
  simp [newKey]

theorem Mint.Lawful.counts {mint : Mint} (lawful : mint.Lawful library) :
    mint.key.countsFor mint.agentPubkey = true := by
  obtain ⟨apiKey, now, minted⟩ := lawful.active
  rw [minted]
  exact newKey_countsFor mint.agentPubkey apiKey now

theorem Mint.Lawful.agent {mint : Mint} (lawful : mint.Lawful library) :
    mint.key.agentPubkey = some mint.agentPubkey :=
  agentPubkey_of_countsFor lawful.counts

theorem count_minted_of_ne {pubkey : String} {request : ι} {mint : Mint}
    (lawful : mint.Lawful library) (other : mint.agentPubkey ≠ pubkey) :
    (db.apply (.minted request mint)).count pubkey = db.count pubkey := by
  rw [count_minted, if_neg]
  · rfl
  · intro counts
    exact other (Option.some.inj (lawful.agent.symm.trans (agentPubkey_of_countsFor counts)))

theorem count_le (clear : db.Clear library event)
    (capped : ∀ pubkey, db.count pubkey ≤ maxSelfServeKeysPerAgent) (pubkey : String) :
    (db.apply event).count pubkey ≤ maxSelfServeKeysPerAgent := by
  cases event with
  | challenged nonce challenge => exact capped pubkey
  | suspended label => exact (count_suspend_le label pubkey).trans (capped pubkey)
  | minted request mint =>
      obtain ⟨lawful, -, below⟩ := clear
      by_cases same : mint.agentPubkey = pubkey
      · subst same
        rw [count_minted]
        split
        · exact below
        · exact below.le
      · rw [count_minted_of_ne lawful same]
        exact capped pubkey

theorem capped_of_allows {start : Database}
    (allows : Allows Database.apply (Database.Clear library) start history)
    (capped : ∀ pubkey, start.count pubkey ≤ maxSelfServeKeysPerAgent) :
    ∀ pubkey,
      (history.foldl Database.apply start).count pubkey ≤ maxSelfServeKeysPerAgent := by
  induction history generalizing start with
  | nil => exact capped
  | cons event rest ih => exact ih allows.2 (count_le allows.1 capped)

theorem conserved_step (clear : db.Clear library event) :
    (db.challenges.keys ++ event.nonce?.toList).Perm
      ((event.mint?.map Mint.nonce).toList ++ (db.apply event).challenges.keys) := by
  cases event with
  | challenged nonce challenge =>
      have absent : nonce ∉ db.challenges.keys := clear
      change (db.challenges.keys ++ [nonce]).Perm (db.challenges.insert nonce challenge).keys
      rw [AList.keys_insert, List.erase_of_not_mem absent]
      exact List.perm_append_singleton _ _
  | suspended label =>
      change (db.challenges.keys ++ []).Perm db.challenges.keys
      rw [List.append_nil]
  | minted request mint =>
      have present : mint.nonce ∈ db.challenges.keys :=
        AList.lookup_isSome.mp (Option.isSome_of_eq_some clear.2.1)
      change (db.challenges.keys ++ []).Perm (mint.nonce :: (db.challenges.erase mint.nonce).keys)
      rw [List.append_nil, AList.keys_erase]
      exact List.perm_cons_erase present

theorem conserved {start : Database}
    (allows : Allows Database.apply (Database.Clear library) start history) :
    (nonces start history).Perm
      ((mints history).map Mint.nonce ++ (history.foldl Database.apply start).challenges.keys) := by
  induction history generalizing start with
  | nil =>
      change (start.challenges.keys ++ []).Perm start.challenges.keys
      rw [List.append_nil]
  | cons event rest ih =>
      have later := ih allows.2
      have heads : nonces start (event :: rest) =
          start.challenges.keys ++ (event.nonce?.toList ++ rest.filterMap Event.nonce?) := by
        cases event <;> rfl
      have tails : (mints (event :: rest)).map Mint.nonce =
          (event.mint?.map Mint.nonce).toList ++ (mints rest).map Mint.nonce := by
        cases event <;> rfl
      rw [heads, tails, List.foldl_cons, List.append_assoc, ← List.append_assoc]
      refine ((conserved_step allows.1).append_right _).trans ?_
      rw [List.append_assoc]
      exact later.append_left _

theorem identities (start : Database) (history : List (Event ι)) :
    (history.foldl Database.apply start).keys.map ApiKey.identity =
      start.keys.map ApiKey.identity ++ (mints history).map (·.key.identity) := by
  induction history generalizing start with
  | nil => exact (List.append_nil _).symm
  | cons event rest ih =>
      rw [List.foldl_cons, ih]
      cases event with
      | challenged nonce challenge => rfl
      | suspended label =>
          congr 1
          change (start.keys.map (·.suspend label)).map ApiKey.identity = _
          rw [List.map_map]
          exact List.map_congr_left fun key _ => identity_suspend label key
      | minted request mint =>
          change (start.keys ++ [mint.key]).map ApiKey.identity ++ _ = _
          rw [List.map_append, List.append_assoc]
          rfl

theorem Issued.of_next {start : Database} {nonce : String} {challenge : Challenge}
    (issued : Issued (start.apply event) history nonce challenge) :
    Issued start (event :: history) nonce challenge := by
  rcases issued with there | later
  · cases event with
    | suspended label => exact .inl there
    | challenged other row =>
        by_cases same : nonce = other
        · subst same
          have found : (start.challenges.insert nonce row).lookup nonce = some challenge := there
          rw [AList.lookup_insert] at found
          cases found
          exact .inr List.mem_cons_self
        · have found : (start.challenges.insert other row).lookup nonce = some challenge := there
          rw [AList.lookup_insert_ne same] at found
          exact .inl found
    | minted request mint =>
        have found : (start.challenges.erase mint.nonce).lookup nonce = some challenge := there
        by_cases same : nonce = mint.nonce
        · rw [same, AList.lookup_erase] at found
          cases found
        · rw [AList.lookup_erase_ne same] at found
          exact .inl found
  · exact .inr (List.mem_cons_of_mem _ later)

theorem lawful_of_mem {start : Database}
    (allows : Allows Database.apply (Database.Clear library) start history) {mint : Mint}
    (member : mint ∈ mints history) :
    mint.Lawful library ∧ Issued start history mint.nonce mint.redeemed.challenge := by
  induction history generalizing start with
  | nil => cases member
  | cons event rest ih =>
      have tail : mint ∈ mints rest → mint.Lawful library ∧
          Issued start (event :: rest) mint.nonce mint.redeemed.challenge := by
        intro later
        obtain ⟨lawful, issued⟩ := ih allows.2 later
        exact ⟨lawful, issued.of_next⟩
      cases event with
      | challenged nonce challenge => exact tail member
      | suspended label => exact tail member
      | minted request first =>
          rcases List.mem_cons.mp member with rfl | later
          · exact ⟨allows.1.1, .inl allows.1.2.1⟩
          · exact tail later

end Law

end PactNetwork.Backend.Keys
