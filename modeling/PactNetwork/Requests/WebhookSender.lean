import PactNetwork.Requests.Webhook

/-!
# Webhook sender

The indexer's side of a delivery: the addresses it refuses to post to, the one
signature it makes for all attempts, what it does with each answer, and the
count of failures that disables a webhook.
-/

set_option autoImplicit false

namespace PactNetwork.Requests

namespace WebhookSender

/-! ## Addresses -/

def dotted (text : List Char) : Option (List Nat) :=
  let parts := text.splitOn '.'
  if parts.length = 4 ∧ parts.all (fun part => part ≠ [] && part.all Char.isDigit) then
    some (parts.map decimalValue)
  else none

def isUnsafeIpv4 : List Nat → Bool
  | [a, b, c, d] =>
      [a, b, c, d].any (255 < ·) || a = 0 || a = 10 || a = 127 || (a = 169 && b = 254) ||
        (a = 172 && 16 ≤ b && b ≤ 31) || (a = 192 && b = 168) || (a = 100 && 64 ≤ b && b ≤ 127) ||
        224 ≤ a
  | _ => true

def isHex (char : Char) : Bool := (Settler.hexDigit char.toNat).isSome

/-- Loopback, unique local, link local and multicast addresses. -/
def isUnsafeIpv6 (lo : List Char) : Bool :=
  lo = "::1".toList || lo = "::".toList || lo = "::0".toList ||
    match lo with
    | 'f' :: kind :: first :: second :: ':' :: _ =>
        ((kind = 'c' || kind = 'd' || kind = 'f') && isHex first && isHex second) ||
          (kind = 'e' && (first = '8' || first = '9' || first = 'a' || first = 'b') && isHex second)
    | _ => false

def isUnsafeIp (ip : String) : Bool :=
  let opened := if ip.toList.head? = some '[' then ip.toList.tail else ip.toList
  let bare := if opened.getLast? = some ']' then opened.dropLast else opened
  let h := bare.takeWhile (· ≠ '%')
  let lo := h.map Char.toLower
  let mapped := if "::ffff:".toList.isPrefixOf lo then dotted (h.drop 7) else none
  match mapped, dotted h with
  | some octets, _ => isUnsafeIpv4 octets
  | none, some octets => isUnsafeIpv4 octets
  | none, none => ':' ∈ h && isUnsafeIpv6 lo

def rejected (reason : String) : String := "webhook target rejected: " ++ reason

def assertSafeWebhookUrl (parser : UrlParser) (raw : String) : Except String Url :=
  match parser.parse raw with
  | none => .error (rejected "unparseable URL")
  | some url =>
      if url.protocol ≠ "https:" then .error (rejected "must be https")
      else if url.username ≠ "" ∨ url.password ≠ "" then
        .error (rejected "URL must not contain credentials")
      else if url.port ≠ "" ∧ url.port ≠ "443" then
        .error (rejected ("port " ++ url.port ++ " not allowed (443 only)"))
      else if isUnsafeIp url.hostname then .error (rejected "private/loopback IP literal")
      else .ok url

/-! ## Payloads -/

structure WebhookCall where
  callId : String
  agentPubkey : String
  endpointSlug : String
  premiumLamports : String
  refundLamports : String
  breach : Bool
  settledAt : String
  signature : String

structure WebhookPayload where
  type : String
  version : Int
  indexerTs : String
  agentPubkey : String
  calls : List WebhookCall

def WebhookCall.toJson (call : WebhookCall) : Json :=
  .object [("callId", .string call.callId), ("agentPubkey", .string call.agentPubkey),
    ("endpointSlug", .string call.endpointSlug), ("premiumLamports", .string call.premiumLamports),
    ("refundLamports", .string call.refundLamports), ("breach", .bool call.breach),
    ("settledAt", .string call.settledAt), ("signature", .string call.signature)]

def WebhookPayload.toJson (payload : WebhookPayload) : Json :=
  .object [("type", .string payload.type), ("version", .number payload.version),
    ("indexerTs", .string payload.indexerTs), ("agentPubkey", .string payload.agentPubkey),
    ("calls", .array (payload.calls.map WebhookCall.toJson))]

/-! ## Signing -/

/-- The indexer's key: `nacl.sign.detached(message, secretKey)` and the public
half of it. -/
structure Signer where
  sign : List UInt8 → List UInt8
  publicKey : List UInt8

structure Signed where
  headers : List (String × String)
  body : String

def buildWebhookCanonical (path : String) (timestampMs : Int) (nonce bodyHash : String) : String :=
  joinLines ["v1", "POST", path, toString timestampMs, nonce, bodyHash]

def signWebhook (crypto : Crypto) (library : JsonLibrary) (signer : Signer) (url : Url)
    (payload : WebhookPayload) (ts : Int) (randomBytes : List UInt8) : Signed :=
  let body := library.stringify payload.toJson
  let nonce := crypto.bs58Encode randomBytes
  let canonical := buildWebhookCanonical url.path ts nonce (crypto.sha256Hex (encode body))
  let sig := signer.sign (encode canonical)
  { body
    headers := [("content-type", "application/json"), ("x-pact-event", "refund.settled"),
      ("x-pact-agent", crypto.bs58Encode signer.publicKey), ("x-pact-timestamp", toString ts),
      ("x-pact-nonce", nonce), ("x-pact-signature", crypto.bs58Encode sig)] }

/-! ## Attempts -/

structure Config where
  maxAttempts : Nat
  maxBodyBytes : Nat

/-- Where a delivery stands: an attempt waits for its answer, the next one
waits for its turn, or the delivery has returned. -/
inductive Phase
  | waiting (attempt : Nat)
  | resting (attempt : Nat)
  | finished (ok : Bool)
  deriving DecidableEq

def retry (config : Config) (attempt : Nat) : Phase :=
  if attempt < config.maxAttempts then .resting attempt else .finished false

def afterStatus (config : Config) (attempt status : Nat) : Phase :=
  if 200 ≤ status ∧ status < 300 then .finished true
  else if 400 ≤ status ∧ status < 500 then .finished false
  else retry config attempt

def firstAttempt (config : Config) : Phase :=
  if 1 ≤ config.maxAttempts then .waiting 1 else .finished false

/-- What is posted, if anything is: the address has to be safe and the body
within its limit. -/
def prepare (crypto : Crypto) (library : JsonLibrary) (parser : UrlParser) (signer : Signer)
    (config : Config) (raw : String) (payload : WebhookPayload) (ts : Int)
    (randomBytes : List UInt8) : Option (Url × Signed) :=
  match assertSafeWebhookUrl parser raw with
  | .error _ => none
  | .ok safeUrl =>
      -- Signing parses the address once more.
      match parser.parse safeUrl.href with
      | none => none
      | some url =>
          let signed := signWebhook crypto library signer url payload ts randomBytes
          if config.maxBodyBytes < (encode signed.body).length then none
          else some (url, signed)

/-! ## The agent's row -/

structure AgentRow where
  webhookUrl : Option String
  webhookLastDeliveryAt : Option Int
  webhookFailCount : Nat

def recordResult (maxFailCount : Nat) (now : Int) (ok : Bool) (row : AgentRow) : AgentRow :=
  if ok then { row with webhookLastDeliveryAt := some now, webhookFailCount := 0 }
  else
    let counted := { row with webhookFailCount := row.webhookFailCount + 1 }
    if maxFailCount ≤ counted.webhookFailCount then
      { counted with webhookUrl := none, webhookFailCount := 0 }
    else counted

end WebhookSender

end PactNetwork.Requests
