import PactNetwork.Requests.GoldenFetch
import PactNetwork.Requests.SingleUse

/-!
# The request-signing contract

The SDK's signer and the gateway's verifier keep their own copies of a format
of lines. What the signer sends is accepted, and what is accepted was signed,
field by field.
-/

set_option autoImplicit false

namespace PactNetwork.Requests

open Headers (given given_eq_some)
open ReplayCache (live unlessSeen_fst)

/-! ## The format -/

theorem joinLines_injective {first second : List String} (some : first ≠ [])
    (other : second ≠ []) (plain : ∀ line ∈ first, '\n' ∉ line.toList)
    (otherPlain : ∀ line ∈ second, '\n' ∉ line.toList)
    (same : joinLines first = joinLines second) : first = second := by
  have split : ∀ lines : List String, lines ≠ [] → (∀ line ∈ lines, '\n' ∉ line.toList) →
      (joinLines lines).toList.splitOn '\n' = lines.map String.toList := by
    intro lines filled plain
    have breaks : "\n".toList = ['\n'] := rfl
    rw [joinLines, String.toList_intercalate, breaks,
      List.splitOn_intercalate _ ?_ (by simpa using filled)]
    intro line member
    obtain ⟨text, inside, rfl⟩ := List.mem_map.mp member
    exact plain text inside
  have lists : first.map String.toList = second.map String.toList := by
    rw [← split first some plain, ← split second other otherPlain, same]
  exact List.map_injective_iff.mpr (fun _ _ alike => String.toList_injective alike) lists

theorem encode_injective {first second : String} (same : encode first = encode second) :
    first = second :=
  String.toByteArray_inj.mp (ByteArray.ext (Array.toList_inj.mp same))

/-! ## Headers on the wire -/

namespace Sdk

@[simp] theorem isPactHeader_toLowerCase (name : String) :
    isPactHeader (toLowerCase name) = isPactHeader name := by
  rw [isPactHeader, isPactHeader, toLowerCase_toLowerCase]

@[simp] theorem toHeaders_append (front back : List (String × String)) :
    toHeaders (front ++ back) = toHeaders front ++ toHeaders back := List.map_append

theorem get_append_left {front back : Headers} {name : String}
    (absent : ∀ header ∈ back, header.1 ≠ name) : (front ++ back).get name = front.get name := by
  have none : (back.filter fun header => header.1 = name) = [] :=
    List.filter_eq_nil_iff.mpr fun header member => by simpa using absent header member
  rw [Headers.get, Headers.get, List.filter_append, none, List.append_nil]

theorem get_append_right {front back : Headers} {name : String}
    (absent : ∀ header ∈ front, header.1 ≠ name) : (front ++ back).get name = back.get name := by
  have none : (front.filter fun header => header.1 = name) = [] :=
    List.filter_eq_nil_iff.mpr fun header member => by simpa using absent header member
  rw [Headers.get, Headers.get, List.filter_append, none, List.nil_append]

theorem unmarked_of_clean {headers : List (String × String)}
    (callers : ∀ header ∈ headers, isPactHeader header.1 = false) :
    ∀ header ∈ cleanForwardHeaders (headersToRecord headers), isPactHeader header.1 = false := by
  have recorded : ∀ header ∈ headersToRecord headers, isPactHeader header.1 = false := by
    intro header member
    obtain ⟨name, named, rfl⟩ := List.mem_map.mp member
    rw [List.mem_dedup, toHeaders, List.map_map] at named
    obtain ⟨caller, inside, rfl⟩ := List.mem_map.mp named
    exact (isPactHeader_toLowerCase _).trans (callers caller inside)
  intro header member
  have encoding : isPactHeader "accept-encoding" = false := by decide
  unfold cleanForwardHeaders at member
  dsimp only at member
  split at member
  case isTrue => exact recorded header (List.mem_of_mem_filter member)
  case isFalse =>
    rcases List.mem_append.mp member with inside | added
    · exact recorded header (List.mem_of_mem_filter inside)
    · rw [List.mem_singleton.mp added]
      exact encoding

theorem get_wire {clean auth : List (String × String)} {added : Headers} {name : String}
    (marked : isPactHeader name = true)
    (unmarked : ∀ header ∈ clean, isPactHeader header.1 = false)
    (unmarkedAdded : ∀ header ∈ added, isPactHeader header.1 = false) :
    Headers.get (toHeaders (spread clean auth) ++ added) name = (toHeaders auth).get name := by
  have apart : ∀ {headers : Headers}, (∀ header ∈ headers, isPactHeader header.1 = false) →
      ∀ header ∈ headers, header.1 ≠ name := by
    rintro headers unmarked header member rfl
    exact Bool.false_ne_true ((unmarked header member).symm.trans marked)
  rw [get_append_left (apart unmarkedAdded), spread, toHeaders_append]
  refine get_append_right (apart fun header member => ?_)
  obtain ⟨caller, inside, rfl⟩ := List.mem_map.mp member
  exact (isPactHeader_toLowerCase _).trans (unmarked caller (List.mem_of_mem_filter inside))

def Solid (text : String) : Prop := ∀ char ∈ text.toList, isBlank char = false

theorem Solid.trimBlanks {text : String} (solid : Solid text) : trimBlanks text = text := by
  have kept : ∀ chars : List Char, (∀ char ∈ chars, isBlank char = false) →
      chars.dropWhile isBlank = chars := by
    intro chars solid
    rw [List.dropWhile_eq_self_iff]
    intro filled
    rw [solid _ (List.getElem_mem filled)]
    exact Bool.false_ne_true
  rw [Sdk.trimBlanks, kept _ solid, kept _ fun char member => solid char (List.mem_reverse.mp member),
    List.reverse_reverse, String.ofList_toList]

/-- A text that a header carries and the gateway does not take for a missing one. -/
structure Plain (text : String) : Prop where
  solid : Solid text
  filled : text ≠ ""

theorem Solid.oneLine {text : String} (solid : Solid text) : '\n' ∉ text.toList :=
  fun member => absurd (solid _ member) (by decide)

theorem solid_toString (number : Int) : Solid (toString number) := by
  have digits : ∀ number : Nat, ∀ char ∈ number.repr.toList, isBlank char = false := by
    intro number char member
    rw [Nat.toList_repr] at member
    have digit := Nat.isDigit_of_mem_toDigits (by decide) (by decide) member
    rw [Bool.eq_false_iff]
    intro blank
    simp only [isBlank, Bool.or_eq_true, decide_eq_true_eq] at blank
    rcases blank with ((rfl | rfl) | rfl) | rfl <;> exact absurd digit (by decide)
  intro char member
  rw [Int.toString_eq_repr, Int.repr_eq_if] at member
  split at member
  case isTrue => exact digits _ char member
  case isFalse =>
    rw [String.toList_append, List.mem_append] at member
    rcases member with dash | digit
    · rw [List.mem_singleton.mp dash]
      decide
    · exact digits _ char digit

theorem solid_sha256Hex (crypto : Crypto) (bytes : List UInt8) :
    Solid (crypto.sha256Hex bytes) := by
  have digits : ∀ digit < 16, isBlank (Settler.hexChar digit) = false := by decide
  intro char member
  rw [Crypto.sha256Hex, String.toList_ofList, List.mem_flatMap] at member
  obtain ⟨byte, -, member⟩ := member
  have small : byte.toNat < 256 := byte.toNat_lt
  rcases List.mem_pair.mp member with rfl | rfl
  · exact digits _ (by omega)
  · exact digits _ (by omega)

theorem solid_bodyHash (crypto : Crypto) (body : List UInt8) : Solid (crypto.bodyHash body) := by
  unfold Crypto.bodyHash
  split
  case isTrue =>
    intro char member
    cases member
  case isFalse => exact solid_sha256Hex crypto body

end Sdk

theorem oneLine_toUpperCase {text : String} (oneLine : '\n' ∉ text.toList) :
    '\n' ∉ (toUpperCase text).toList := by
  rw [toUpperCase, String.toList_ofList, List.mem_map]
  rintro ⟨char, member, upper⟩
  suffices same : char = '\n' from oneLine (same ▸ member)
  by_cases lower : char.val ≥ 97 ∧ char.val ≤ 122
  · have raised : char.toUpper.val = char.val + ('A'.val - 'a'.val) := by
      rw [show char.toUpper = _ from dif_pos lower]
    have low := lower.1
    have high := lower.2
    rw [upper] at raised
    have := congrArg UInt32.toNat raised
    rw [ge_iff_le, UInt32.le_iff_toNat_le] at low
    rw [UInt32.le_iff_toNat_le] at high
    rw [UInt32.toNat_add] at this
    simp at low high this
    omega
  · exact (dif_neg lower).symm.trans upper

theorem bodyHash_injective {crypto : Crypto} {first second : List UInt8}
    (filled : ∀ bytes, crypto.sha256 bytes ≠ [])
    (binds : crypto.sha256 first = crypto.sha256 second → first = second)
    (same : crypto.bodyHash first = crypto.bodyHash second) : first = second := by
  have digest : ∀ bytes, Settler.bufferFromHex (crypto.sha256Hex bytes) = crypto.sha256 bytes :=
    fun bytes => Settler.bufferFromHex_byteHex _
  have written : ∀ bytes, crypto.sha256Hex bytes ≠ "" := by
    intro bytes empty
    refine filled bytes ?_
    rw [← digest, empty]
    rfl
  unfold Crypto.bodyHash at same
  split at same <;> split at same
  case isTrue.isTrue one two => rw [one, two]
  case isTrue.isFalse => exact absurd same.symm (written second)
  case isFalse.isTrue => exact absurd same (written first)
  case isFalse.isFalse => exact binds (by rw [← digest, ← digest, same])

/-! ## What is signed -/

structure SignedPayload where
  method : String
  path : String
  network : String
  timestampMs : Int
  nonce : String
  body : List UInt8

namespace SignedPayload

variable (crypto : Crypto)

def v2 (payload : SignedPayload) : String :=
  Sdk.buildSignaturePayload payload.method payload.path payload.network payload.timestampMs
    payload.nonce (crypto.bodyHash payload.body)

def v1 (payload : SignedPayload) : String :=
  Facilitator.buildSignaturePayload payload.method payload.path payload.timestampMs payload.nonce
    (crypto.bodyHash payload.body)

structure OneLine (payload : SignedPayload) : Prop where
  method : '\n' ∉ payload.method.toList
  path : '\n' ∉ payload.path.toList
  network : '\n' ∉ payload.network.toList
  nonce : '\n' ∉ payload.nonce.toList

/-- Two payloads of one request, whatever their networks. -/
structure Agree (first second : SignedPayload) : Prop where
  method : toUpperCase first.method = toUpperCase second.method
  path : first.path = second.path
  timestampMs : first.timestampMs = second.timestampMs
  nonce : first.nonce = second.nonce
  bodyHash : crypto.bodyHash first.body = crypto.bodyHash second.body

variable {crypto} {first second : SignedPayload}

theorem timestampMs_injective {first second : Int} (same : toString first = toString second) :
    first = second :=
  Option.some.inj ((parseInt_toString first).symm.trans (same ▸ parseInt_toString second))

theorem v2_injective (one : first.OneLine) (other : second.OneLine)
    (same : first.v2 crypto = second.v2 crypto) :
    first.Agree crypto second ∧ first.network = second.network := by
  have plain : ∀ {payload : SignedPayload}, payload.OneLine →
      ∀ line ∈ ["v2", toUpperCase payload.method, payload.path, payload.network,
        toString payload.timestampMs, payload.nonce, crypto.bodyHash payload.body],
        '\n' ∉ line.toList := by
    intro payload oneLine
    simp only [List.forall_mem_cons, List.not_mem_nil, false_imp_iff, implies_true, and_true]
    exact ⟨by decide, oneLine_toUpperCase oneLine.method, oneLine.path, oneLine.network,
      (Sdk.solid_toString _).oneLine, oneLine.nonce, (Sdk.solid_bodyHash crypto _).oneLine⟩
  have lines := joinLines_injective (List.cons_ne_nil _ _) (List.cons_ne_nil _ _) (plain one)
    (plain other) same
  simp only [List.cons.injEq, and_true, true_and] at lines
  obtain ⟨method, path, network, stamp, nonce, bodyHash⟩ := lines
  exact ⟨⟨method, path, timestampMs_injective stamp, nonce, bodyHash⟩, network⟩

theorem v1_injective (one : first.OneLine) (other : second.OneLine)
    (same : first.v1 crypto = second.v1 crypto) : first.Agree crypto second := by
  have plain : ∀ {payload : SignedPayload}, payload.OneLine →
      ∀ line ∈ ["v1", toUpperCase payload.method, payload.path, toString payload.timestampMs,
        payload.nonce, crypto.bodyHash payload.body], '\n' ∉ line.toList := by
    intro payload oneLine
    simp only [List.forall_mem_cons, List.not_mem_nil, false_imp_iff, implies_true, and_true]
    exact ⟨by decide, oneLine_toUpperCase oneLine.method, oneLine.path,
      (Sdk.solid_toString _).oneLine, oneLine.nonce, (Sdk.solid_bodyHash crypto _).oneLine⟩
  have lines := joinLines_injective (List.cons_ne_nil _ _) (List.cons_ne_nil _ _) (plain one)
    (plain other) same
  simp only [List.cons.injEq, and_true, true_and] at lines
  obtain ⟨method, path, stamp, nonce, bodyHash⟩ := lines
  exact ⟨method, path, timestampMs_injective stamp, nonce, bodyHash⟩

theorem v2_ne_v1 (first second : SignedPayload) : first.v2 crypto ≠ second.v1 crypto := by
  intro same
  have chars := congrArg String.toList same
  simp [v2, v1, Sdk.buildSignaturePayload, Facilitator.buildSignaturePayload, joinLines,
    String.intercalate_cons_cons] at chars

end SignedPayload

/-! ## What the gateway accepts -/

namespace Gateway

variable (crypto : Crypto) (viem : Viem)

def Verifies (agent signature payload : String) : Prop :=
  match agentVm viem agent with
  | .evm => viem.verifyMessage (normalizedAgent viem agent) payload signature = some true
  | .solana => ∃ pubkey sig, crypto.bs58Decode agent = some pubkey ∧
      crypto.bs58Decode signature = some sig ∧ verifyDetached crypto pubkey sig payload = true

def Unforgeable (made : (agent signature : String) → Option String) : Prop :=
  ∀ {agent signature payload}, Verifies crypto viem agent signature payload →
    made agent signature = some payload

/-- What the gateway read of a request to check a signature over it. -/
structure Received (context : Context) (payload : SignedPayload) : Prop where
  method : payload.method = context.method
  path : context.url.map Url.path = some payload.path
  network : payload.network = (context.headers.get "x-pact-network").getD ""
  timestampMs : (context.headers.get "x-pact-timestamp").bind timestampMs =
    some payload.timestampMs
  nonce : context.headers.get "x-pact-nonce" = some payload.nonce
  body : context.body = some payload.body

variable {crypto viem}

theorem verifies_of_next {agent signature : String} {payloads : List String} {verified : String}
    (next : verifySignature crypto viem agent signature payloads = .next (some verified)) :
    verified = normalizedAgent viem agent ∧
      ∃ payload ∈ payloads, Verifies crypto viem agent signature payload := by
  unfold verifySignature at next
  unfold Verifies
  cases vm : agentVm viem agent with
  | evm =>
      simp only [vm] at next ⊢
      split at next
      case isFalse => cases next
      case isTrue some =>
        cases next
        obtain ⟨payload, member, verified⟩ := List.any_eq_true.mp some
        refine ⟨rfl, payload, member, ?_⟩
        cases outcome : viem.verifyMessage (normalizedAgent viem agent) payload signature with
        | none => simp [outcome] at verified
        | some value => exact congrArg _ (by simpa [outcome] using verified)
  | solana =>
      simp only [vm] at next ⊢
      split at next
      case h_2 => cases next
      case h_1 pubkey sig keyRead sigRead =>
        split at next
        case isTrue => cases next
        case isFalse =>
          split at next
          case isFalse => cases next
          case isTrue some =>
            cases next
            obtain ⟨payload, member, verified⟩ := List.any_eq_true.mp some
            exact ⟨rfl, payload, member, pubkey, sig, keyRead, sigRead, verified⟩

theorem verifies_of_authenticate {context : Context} {agent nonce signature verified : String}
    {tsMs : Int}
    (next : authenticate crypto viem context agent nonce signature tsMs = .next (some verified)) :
    ∃ url body, context.url = some url ∧ context.body = some body ∧
      verified = normalizedAgent viem agent ∧
      ∃ payload ∈ [buildSignaturePayload context.method url.path tsMs nonce (crypto.bodyHash body)
          (some ((context.headers.get "x-pact-network").getD "")),
        buildSignaturePayload context.method url.path tsMs nonce (crypto.bodyHash body) none],
        Verifies crypto viem agent signature payload := by
  unfold authenticate at next
  split at next
  case h_1 => cases next
  case h_2 body bodyRead =>
    split at next
    case h_1 => cases next
    case h_2 url parsed =>
      dsimp only at next
      split at next
      case h_1 => cases next
      case h_2 endpointNetwork _ =>
        split at next
        case h_1 => exact ⟨url, body, parsed, bodyRead, verifies_of_next next⟩
        case h_2 network _ =>
          split at next
          case isTrue => cases next
          case isFalse => exact ⟨url, body, parsed, bodyRead, verifies_of_next next⟩

theorem received_of_accepted {cache : Nonces} {arrival : Arrival Context} {verified : String}
    (next : (verifyPactSignature crypto viem cache arrival).1 = .next (some verified)) :
    ∃ agent signature received,
      arrival.request.headers.get "x-pact-agent" = some agent ∧
      arrival.request.headers.get "x-pact-signature" = some signature ∧
      verified = normalizedAgent viem agent ∧ Received arrival.request received ∧
      (Verifies crypto viem agent signature (received.v2 crypto) ∨
        Verifies crypto viem agent signature (received.v1 crypto)) := by
  unfold verifyPactSignature at next
  split at next
  case h_1 => cases next
  case h_2 agent agentGiven =>
    split at next
    case h_2 => cases next
    case h_1 timestamp nonce signature project timestampGiven nonceGiven signatureGiven _ =>
      split at next
      case h_1 => cases next
      case h_2 tsMs parsed =>
        split at next
        case isTrue => cases next
        case isFalse =>
          rw [unlessSeen_fst] at next
          split at next
          case isTrue => cases next
          case isFalse =>
            obtain ⟨url, body, address, read, rfl, payload, member, verifies⟩ :=
              verifies_of_authenticate next
            refine ⟨agent, signature, ⟨arrival.request.method, url.path,
              (arrival.request.headers.get "x-pact-network").getD "", tsMs, nonce, body⟩,
              (given_eq_some.mp agentGiven).1, (given_eq_some.mp signatureGiven).1, rfl, ?_, ?_⟩
            · refine ⟨rfl, by rw [address]; rfl, rfl, ?_, (given_eq_some.mp nonceGiven).1, read⟩
              rw [(given_eq_some.mp timestampGiven).1]
              exact parsed
            · rcases List.mem_pair.mp member with rfl | rfl
              · exact .inl verifies
              · exact .inr verifies

theorem accepted_of_read {context : Context} {agent stamp nonce signature project : String}
    {tsMs checkedAt seenAt : Int} {cache : Nonces} {url : Url} {body : List UInt8}
    {known : Option String} {answer : Answer}
    (agentRead : given (context.headers.get "x-pact-agent") = some agent)
    (stampRead : given (context.headers.get "x-pact-timestamp") = some stamp)
    (nonceRead : given (context.headers.get "x-pact-nonce") = some nonce)
    (signatureRead : given (context.headers.get "x-pact-signature") = some signature)
    (projectRead : given (context.headers.get "x-pact-project") = some project)
    (parsed : timestampMs stamp = some tsMs) (skew : |checkedAt - tsMs| ≤ defaultSkewMs)
    (fresh : live cache (replayKey (normalizedAgent viem agent) nonce) seenAt = false)
    (address : context.url = some url) (bodyRead : context.body = some body)
    (endpoint : context.endpointNetwork = .ok known)
    (matching : ∀ network, given known = some network → networkToVm network = agentVm viem agent)
    (next : verifySignature crypto viem agent signature
      [buildSignaturePayload context.method url.path tsMs nonce (crypto.bodyHash body)
          (some ((context.headers.get "x-pact-network").getD "")),
        buildSignaturePayload context.method url.path tsMs nonce (crypto.bodyHash body) none] =
      answer) :
    (verifyPactSignature crypto viem cache ⟨context, checkedAt, seenAt⟩).1 = answer := by
  unfold verifyPactSignature
  simp only [agentRead, stampRead, nonceRead, signatureRead, projectRead, parsed]
  rw [if_neg (not_lt.mpr skew), unlessSeen_fst, fresh, if_neg Bool.false_ne_true, authenticate,
    bodyRead]
  simp only [address, endpoint]
  cases named : given known with
  | none => exact next
  | some network =>
      dsimp only
      rw [if_neg (not_not.mpr (matching network named))]
      exact next

end Gateway

/-! ## What the SDK sends -/

namespace Sdk

/-- A key of the configured agent: what it signs verifies, and its texts go
through a header as they are. -/
inductive ValidKey (crypto : Crypto) (viem : Gateway.Viem) (agent : String) : SignFn → Prop
  | evm {sign} (address : viem.isAddress agent = true)
      (verifies : ∀ {payload signature}, sign (encode payload) = some signature →
        Plain signature ∧
          viem.verifyMessage (Gateway.normalizedAgent viem agent) payload signature = some true) :
      ValidKey crypto viem agent (.evm sign)
  | solana {sign pubkey} (base58 : viem.isAddress agent = false)
      (decodes : crypto.bs58Decode agent = some pubkey) (length : pubkey.length = 32)
      (verifies : ∀ {payload signature}, sign (encode payload) = some signature →
        Plain (crypto.bs58Encode signature) ∧
          crypto.bs58Decode (crypto.bs58Encode signature) = some signature ∧
          signature.length = 64 ∧ verifyDetached crypto pubkey signature payload = true) :
      ValidKey crypto viem agent (.solana sign)

variable {crypto : Crypto} {viem : Gateway.Viem} {parser : UrlParser}

theorem ValidKey.next {agent payload signature : String} {sign : SignFn}
    (payloads : List String) (key : ValidKey crypto viem agent sign)
    (signed : sign.signature crypto (encode payload) = some signature) :
    Plain signature ∧
      Gateway.verifySignature crypto viem agent signature (payload :: payloads) =
        .next (some (Gateway.normalizedAgent viem agent)) := by
  cases key with
  | evm address verifies =>
      obtain ⟨plain, verified⟩ := verifies signed
      refine ⟨plain, ?_⟩
      have vm : Gateway.agentVm viem agent = .evm := if_pos address
      simp only [Gateway.verifySignature, vm, List.any_cons, verified, Option.getD_some,
        Bool.true_or, if_true]
  | @solana sign pubkey base58 decodes length verifies =>
      obtain ⟨raw, made, rfl⟩ := Option.map_eq_some_iff.mp signed
      obtain ⟨plain, decoded, sized, verified⟩ := verifies made
      refine ⟨plain, ?_⟩
      have vm : Gateway.agentVm viem agent = .solana := by
        rw [Gateway.agentVm, base58]
        rfl
      simp only [Gateway.verifySignature, vm, decodes, decoded, length, sized, List.any_cons,
        verified, Bool.true_or, ne_eq, not_true_eq_false, or_self, if_false, if_true]

theorem signed_of_buildAuthHeaders {deps : Deps} {sign : SignFn} {moment : Moment}
    {method proxiedUrl : String} {bodyBytes : Option (List UInt8)}
    {headers : List (String × String)}
    (built : buildAuthHeaders crypto parser deps sign moment method proxiedUrl bodyBytes =
      some headers) :
    ∃ url signature, parser.parse proxiedUrl = some url ∧
      sign.signature crypto (encode (buildSignaturePayload method url.path
        (deps.network.getD "") moment.now (moment.nonce crypto)
        (crypto.bodyHash (bodyBytes.getD [])))) = some signature ∧
      headers = [("x-pact-agent", deps.agentPubkey), ("x-pact-timestamp", toString moment.now),
        ("x-pact-nonce", moment.nonce crypto), ("x-pact-signature", signature),
        ("x-pact-project", deps.project)] ++
          (given deps.network).toList.map fun network => ("x-pact-network", network) := by
  obtain ⟨url, parsed, rest⟩ := Option.bind_eq_some_iff.mp built
  obtain ⟨signature, signed, made⟩ := Option.bind_eq_some_iff.mp rest
  exact ⟨url, signature, parsed, signed, (Option.some.inj made).symm⟩

theorem signed_of_prepare {deps : Deps} {resolve : String → SlugResolution} {moment : Moment}
    {url : String} {init : RequestInit} {hostnameOverride : Option String} {call : FetchCall}
    {target : Target}
    (prepared : prepare crypto parser deps resolve moment url init hostnameOverride =
      .proxied call target) :
    ∃ sign auth, deps.sign = some sign ∧
      buildAuthHeaders crypto parser deps sign moment call.method call.url
        (bodyToBytes call.body) = some auth ∧
      call.headers = spread (cleanForwardHeaders (headersToRecord init.headers)) auth ∧
      call.method = toUpperCase (init.method.getD "GET") ∧
      (bodyToBytes call.body).getD [] = wireBody call.body := by
  unfold prepare at prepared
  dsimp only at prepared
  split at prepared
  case h_1 => cases prepared
  case h_2 =>
    split at prepared
    case h_1 => cases prepared
    case h_2 =>
      split at prepared
      case h_2 => cases prepared
      case h_1 sign _ signer =>
        split at prepared
        case isTrue => cases prepared
        case isFalse signable =>
          split at prepared
          case h_1 => cases prepared
          case h_2 =>
            split at prepared
            case h_1 => cases prepared
            case h_2 auth built =>
              split at prepared
              case isFalse => cases prepared
              case isTrue =>
                cases prepared
                refine ⟨sign, auth, signer, built, rfl, rfl, ?_⟩
                dsimp only
                cases body : init.body with
                | absent => rfl
                | text content =>
                    rw [bodyToBytes, wireBody]
                    split
                    case isTrue empty => rw [empty]; rfl
                    case isFalse => rfl
                | uint8Array raw => rfl
                | arrayBuffer raw => rfl
                | view raw => rfl
                | other =>
                    rw [body] at signable
                    exact absurd ⟨rfl, rfl⟩ signable

theorem get_auth {agent stamp nonce signature project network : String} {named : Option String}
    {auth : List (String × String)}
    (made : auth = [("x-pact-agent", agent), ("x-pact-timestamp", stamp), ("x-pact-nonce", nonce),
      ("x-pact-signature", signature), ("x-pact-project", project)] ++
        named.toList.map fun network => ("x-pact-network", network))
    (agentPlain : Solid agent) (stampPlain : Solid stamp) (noncePlain : Solid nonce)
    (signaturePlain : Solid signature) (networkTrimmed : trimBlanks network = network)
    (name : named = if network = "" then none else some network) :
    (toHeaders auth).get "x-pact-agent" = some agent ∧
      (toHeaders auth).get "x-pact-timestamp" = some stamp ∧
      (toHeaders auth).get "x-pact-nonce" = some nonce ∧
      (toHeaders auth).get "x-pact-signature" = some signature ∧
      (toHeaders auth).get "x-pact-project" = some (trimBlanks project) ∧
      ((toHeaders auth).get "x-pact-network").getD "" = network := by
  have lower : toLowerCase "x-pact-agent" = "x-pact-agent" ∧
      toLowerCase "x-pact-timestamp" = "x-pact-timestamp" ∧
      toLowerCase "x-pact-nonce" = "x-pact-nonce" ∧
      toLowerCase "x-pact-signature" = "x-pact-signature" ∧
      toLowerCase "x-pact-project" = "x-pact-project" ∧
      toLowerCase "x-pact-network" = "x-pact-network" := by decide
  obtain ⟨agentName, stampName, nonceName, signatureName, projectName, networkName⟩ := lower
  subst name made
  split
  case isTrue empty =>
    simp [toHeaders, Headers.get, agentName, stampName, nonceName, signatureName, projectName,
      agentPlain.trimBlanks, stampPlain.trimBlanks, noncePlain.trimBlanks,
      signaturePlain.trimBlanks, empty]
  case isFalse =>
    simp [toHeaders, Headers.get, agentName, stampName, nonceName, signatureName, projectName,
      networkName, agentPlain.trimBlanks, stampPlain.trimBlanks, noncePlain.trimBlanks,
      signaturePlain.trimBlanks, networkTrimmed]

def GuardMatches (viem : Gateway.Viem) (agent : String)
    (endpointNetwork : Except String (Option String)) : Prop :=
  ∃ known, endpointNetwork = .ok known ∧ ∀ network, given known = some network →
    Gateway.networkToVm network = Gateway.agentVm viem agent

theorem accepted_of_sent {wire : Wire} {deps : Deps} {resolve : String → SlugResolution}
    {moment : Moment} {url : String} {init : RequestInit} {hostnameOverride : Option String}
    {call : FetchCall} {target : Target} {context : Gateway.Context} {cache : Nonces}
    {endpointNetwork : Except String (Option String)} {checkedAt seenAt : Int}
    (prepared : prepare crypto parser deps resolve moment url init hostnameOverride =
      .proxied call target)
    (transmitted : transmit parser wire endpointNetwork call = some context)
    (callers : ∀ header ∈ init.headers, isPactHeader header.1 = false)
    (network : trimBlanks (deps.network.getD "") = deps.network.getD "")
    (project : trimBlanks deps.project ≠ "")
    (agent : Plain deps.agentPubkey) (nonce : Plain (moment.nonce crypto))
    (key : ∀ sign, deps.sign = some sign → ValidKey crypto viem deps.agentPubkey sign)
    (clock : isFinite moment.now = true) (skew : |checkedAt - moment.now| ≤ defaultSkewMs)
    (fresh : live cache (replayKey (Gateway.normalizedAgent viem deps.agentPubkey)
      (moment.nonce crypto)) seenAt = false)
    (guard : GuardMatches viem deps.agentPubkey endpointNetwork) :
    (Gateway.verifyPactSignature crypto viem cache ⟨context, checkedAt, seenAt⟩).1 =
      .next (some (Gateway.normalizedAgent viem deps.agentPubkey)) := by
  obtain ⟨sign, auth, signer, built, headers, -, sentBody⟩ := signed_of_prepare prepared
  obtain ⟨address, signature, parsed, signed, made⟩ := signed_of_buildAuthHeaders built
  rw [sentBody] at signed
  obtain ⟨plain, next⟩ := ValidKey.next
    [Gateway.buildSignaturePayload call.method address.path moment.now (moment.nonce crypto)
      (crypto.bodyHash (wireBody call.body)) none] (key sign signer) signed
  obtain ⟨known, rfl, matching⟩ := guard
  -- The gateway parses the serialized address and gets the one that was signed.
  have received : context = { method := call.method
                              url := some address
                              headers := toHeaders call.headers ++ wire.added call
                              body := some (wireBody call.body)
                              endpointNetwork := .ok known } := by
    unfold transmit at transmitted
    rw [parsed] at transmitted
    dsimp only at transmitted
    rw [parser.reparse parsed] at transmitted
    split at transmitted
    case isTrue => exact (Option.some.inj transmitted).symm
    case isFalse => cases transmitted
  have named : given deps.network =
      if deps.network.getD "" = "" then none else some (deps.network.getD "") := by
    cases deps.network with
    | none => rfl
    | some network =>
        rw [given, Option.filter_some, Option.getD_some]
        by_cases empty : network = "" <;> simp [empty]
  have read : ∀ name, isPactHeader name = true →
      context.headers.get name = (toHeaders auth).get name := by
    intro name marked
    rw [received]
    dsimp only
    rw [headers]
    exact get_wire marked (unmarked_of_clean callers) (wire.unmarked call)
  obtain ⟨readAgent, readStamp, readNonce, readSignature, readProject, readNetwork⟩ :=
    get_auth made agent.solid (solid_toString moment.now) nonce.solid plain.solid network named
  refine Gateway.accepted_of_read (given_eq_some.mpr ⟨(read _ rfl).trans readAgent, agent.filled⟩)
    (given_eq_some.mpr ⟨(read _ rfl).trans readStamp, ?stamped⟩)
    (given_eq_some.mpr ⟨(read _ rfl).trans readNonce, nonce.filled⟩)
    (given_eq_some.mpr ⟨(read _ rfl).trans readSignature, plain.filled⟩)
    (given_eq_some.mpr ⟨(read _ rfl).trans readProject, project⟩)
    (timestampMs_toString clock) skew fresh (congrArg _ received) (congrArg _ received)
    (congrArg _ received) matching ?signed
  case stamped =>
    intro empty
    have number := parseInt_toString moment.now
    rw [empty] at number
    cases number
  case signed =>
    rw [read _ rfl, readNetwork, received]
    exact next

end Sdk

/-! ## The contract -/

/-- What the SDK sends with a valid key is accepted, and what is accepted was
signed: field by field, and in the version that was signed. -/
theorem signing_contract (crypto : Crypto) (parser : UrlParser) (viem : Gateway.Viem)
    (made : (agent signature : String) → Option String)
    (filled : ∀ bytes, crypto.sha256 bytes ≠ [])
    (unforgeable : Gateway.Unforgeable crypto viem made) :
    (∀ (wire : Sdk.Wire) (deps : Sdk.Deps) (resolve : String → Sdk.SlugResolution)
      (moment : Sdk.Moment) (url : String) (init : Sdk.RequestInit)
      (hostnameOverride : Option String) (call : Sdk.FetchCall) (target : Sdk.Target)
      (context : Gateway.Context) (cache : Nonces)
      (endpointNetwork : Except String (Option String)) (checkedAt seenAt : Int),
      Sdk.prepare crypto parser deps resolve moment url init hostnameOverride =
        .proxied call target →
      Sdk.transmit parser wire endpointNetwork call = some context →
      (∀ header ∈ init.headers, Sdk.isPactHeader header.1 = false) →
      Sdk.trimBlanks (deps.network.getD "") = deps.network.getD "" →
      Sdk.trimBlanks deps.project ≠ "" →
      Sdk.Plain deps.agentPubkey → Sdk.Plain (moment.nonce crypto) →
      (∀ sign, deps.sign = some sign → Sdk.ValidKey crypto viem deps.agentPubkey sign) →
      isFinite moment.now = true → |checkedAt - moment.now| ≤ defaultSkewMs →
      live cache (replayKey (Gateway.normalizedAgent viem deps.agentPubkey)
        (moment.nonce crypto)) seenAt = false →
      Sdk.GuardMatches viem deps.agentPubkey endpointNetwork →
      (Gateway.verifyPactSignature crypto viem cache ⟨context, checkedAt, seenAt⟩).1 =
        .next (some (Gateway.normalizedAgent viem deps.agentPubkey))) ∧
    (∀ (cache : Nonces) (arrival : Arrival Gateway.Context) (verified : String),
      (Gateway.verifyPactSignature crypto viem cache arrival).1 = .next (some verified) →
      ∃ agent signature received,
        arrival.request.headers.get "x-pact-agent" = some agent ∧
        arrival.request.headers.get "x-pact-signature" = some signature ∧
        verified = Gateway.normalizedAgent viem agent ∧
        Gateway.Received arrival.request received ∧
        (made agent signature = some (received.v2 crypto) ∨
          made agent signature = some (received.v1 crypto)) ∧
        ∀ signed : SignedPayload, received.OneLine → signed.OneLine →
          (crypto.sha256 signed.body = crypto.sha256 received.body →
            signed.body = received.body) →
          (made agent signature = some (signed.v2 crypto) →
            signed.Agree crypto received ∧ signed.network = received.network ∧
              signed.body = received.body) ∧
          (made agent signature = some (signed.v1 crypto) →
            signed.Agree crypto received ∧ signed.body = received.body)) ∧
    ∀ (agent signature : String) (signed other : SignedPayload),
      (made agent signature = some (signed.v2 crypto) →
        ¬ Gateway.Verifies crypto viem agent signature (other.v1 crypto)) ∧
      (made agent signature = some (signed.v1 crypto) →
        ¬ Gateway.Verifies crypto viem agent signature (other.v2 crypto)) := by
  refine ⟨?sent, ?accepted, ?versions⟩
  case sent =>
    intro wire deps resolve moment url init hostnameOverride call target context cache
      endpointNetwork checkedAt seenAt prepared transmitted callers network project agent nonce key
      clock skew fresh guard
    exact Sdk.accepted_of_sent prepared transmitted callers network project agent nonce key clock
      skew fresh guard
  case accepted =>
    intro cache arrival verified next
    obtain ⟨agent, signature, received, agentRead, signatureRead, normal, reads, verifies⟩ :=
      Gateway.received_of_accepted next
    have origin : made agent signature = some (received.v2 crypto) ∨
        made agent signature = some (received.v1 crypto) :=
      verifies.imp unforgeable unforgeable
    refine ⟨agent, signature, received, agentRead, signatureRead, normal, reads, origin, ?_⟩
    intro signed receivedPlain signedPlain binds
    refine ⟨fun v2 => ?_, fun v1 => ?_⟩
    · rcases origin with same | other
      · obtain ⟨agree, network⟩ := SignedPayload.v2_injective signedPlain receivedPlain
          (Option.some.inj (v2.symm.trans same))
        exact ⟨agree, network, bodyHash_injective filled binds agree.bodyHash⟩
      · exact absurd (Option.some.inj (v2.symm.trans other)) (SignedPayload.v2_ne_v1 _ _)
    · rcases origin with other | same
      · exact absurd (Option.some.inj (other.symm.trans v1)) (SignedPayload.v2_ne_v1 _ _)
      · have agree := SignedPayload.v1_injective signedPlain receivedPlain
          (Option.some.inj (v1.symm.trans same))
        exact ⟨agree, bodyHash_injective filled binds agree.bodyHash⟩
  case versions =>
    intro agent signature signed other
    refine ⟨fun v2 verifies => ?_, fun v1 verifies => ?_⟩
    · exact SignedPayload.v2_ne_v1 signed other
        (Option.some.inj (v2.symm.trans (unforgeable verifies)))
    · exact SignedPayload.v2_ne_v1 other signed
        (Option.some.inj ((unforgeable verifies).symm.trans v1))

namespace Sdk.Demo

open Requests.Demo (agent agentBytes nonce viem)

def signature : String :=
  "4Ek8RhvCYu7vdsT7siVRsoB155y9PDXRNLU7mDwjCSpxWtspoYBHXDewitAAWPsK1oDDQM1xxw556r5GGZNxx6ak"

def signatureBytes : List UInt8 :=
  [161, 231, 39, 64, 208, 83, 77, 112, 36, 27, 77, 164, 25, 69, 224, 136, 85, 206, 200, 92, 226,
    247, 47, 114, 14, 76, 68, 20, 137, 27, 91, 34, 145, 190, 120, 206, 239, 169, 71, 66, 10, 243,
    112, 166, 134, 130, 104, 121, 83, 228, 200, 25, 58, 60, 7, 147, 196, 246, 122, 121, 136, 27,
    165, 1]

def body : String := "\x7b\"id\":7\x7d"

/-- The text that was signed for a call of the endpoint `helius`. -/
def text : String :=
  joinLines ["v2", "POST", "/v1/helius/v0/quote?x=1", "solana-devnet", "1735689600000", nonce,
    "a3c90e3b7448d23d9eacebd0ebf15cae100e21f9b2c688f3f9d238edcd26d67f"]

def crypto : Crypto where
  sha256 bytes :=
    if bytes = encode body then
      [163, 201, 14, 59, 116, 72, 210, 61, 158, 172, 235, 208, 235, 241, 92, 174, 16, 14, 33, 249,
        178, 198, 136, 243, 249, 210, 56, 237, 205, 38, 214, 127]
    else [0]
  bs58Encode bytes :=
    if bytes = agentBytes then agent else if bytes = signatureBytes then signature else nonce
  bs58Decode text :=
    if text = agent then some agentBytes
    else if text = signature then some signatureBytes
    else none
  detachedVerify message sig pubkey :=
    message = encode text && sig = signatureBytes && pubkey = agentBytes

def address (hostname pathname search : String) : Url where
  href := "https://" ++ hostname ++ pathname ++ search
  protocol := "https:"
  username := ""
  password := ""
  hostname := hostname
  port := ""
  pathname := pathname
  search := search

def upstream : Url := address "api.helius.xyz" "/v0/quote" "?x=1"

def gateway : Url := address "market.example.com" "/v1/helius/v0/quote" "?x=1"

def parser : UrlParser where
  parse text :=
    if text = upstream.href then some upstream
    else if text = gateway.href then some gateway
    else none
  reparse := by
    intro text url parsed
    split at parsed
    case isTrue => rw [← Option.some.inj parsed, if_pos rfl]
    case isFalse =>
      split at parsed
      case isTrue =>
        rw [← Option.some.inj parsed, if_neg (by decide +kernel), if_pos rfl]
      case isFalse => cases parsed

def deps : Deps where
  proxyBaseUrl := "https://market.example.com/"
  project := "default"
  network := some "solana-devnet"
  signRequests := true
  agentPubkey := agent
  sign := some (.solana fun message => if message = encode text then some signatureBytes else none)

def moment : Moment where
  now := 1735689600000
  randomBytes := [1, 2, 3, 4, 5, 6, 7, 8, 9, 10, 11, 12, 13, 14, 15, 16]

def init : RequestInit where
  method := some "post"
  headers := [("Content-Type", "application/json")]
  body := .text body

def call : FetchCall where
  url := gateway.href
  method := "POST"
  headers := [("content-type", "application/json"), ("accept-encoding", "identity;q=1, *;q=0"),
    ("x-pact-agent", agent), ("x-pact-timestamp", "1735689600000"), ("x-pact-nonce", nonce),
    ("x-pact-signature", signature), ("x-pact-project", "default"),
    ("x-pact-network", "solana-devnet")]
  body := .text body

def target : Target := ⟨some "api.helius.xyz", some "helius", some (some 100)⟩

def wire : Wire where
  sendable _ := true
  added _ := []
  unmarked _ _ member := by cases member

def context : Gateway.Context where
  method := "POST"
  url := some gateway
  headers := call.headers
  body := some (encode body)
  endpointNetwork := .ok (some "solana-devnet")

theorem prepared : prepare crypto parser deps (fun _ => (.ok "helius" (some 100))) moment upstream.href init
    none = .proxied call target := by decide +kernel

theorem transmitted : transmit parser wire (.ok (some "solana-devnet")) call = some context := by
  have parsed : parser.parse call.url = some gateway := by decide +kernel
  have headers : toHeaders call.headers ++ wire.added call = context.headers := by decide +kernel
  have sendable : wire.sendable call = true := rfl
  unfold transmit
  rw [parsed]
  dsimp only
  rw [parser.reparse parsed, headers, if_pos sendable]
  rfl

theorem plain_of {text : String} (solid : text.toList.all (!isBlank ·) = true)
    (filled : text ≠ "") : Plain text :=
  ⟨fun char member => by simpa using List.all_eq_true.mp solid char member, filled⟩

theorem key : ∀ sign, deps.sign = some sign → ValidKey crypto viem deps.agentPubkey sign := by
  intro sign signer
  rw [← Option.some.inj signer]
  have decodes : crypto.bs58Decode deps.agentPubkey = some agentBytes := by decide +kernel
  refine .solana (by decide) decodes (by decide) fun {payload bytes} signed => ?_
  have same : encode payload = encode text := by
    by_contra other
    rw [if_neg other] at signed
    cases signed
  rw [if_pos same] at signed
  cases signed
  refine ⟨plain_of (by decide +kernel) (by decide +kernel), by decide +kernel, rfl, ?_⟩
  simp [verifyDetached, crypto, same]

def made (by_ of : String) : Option String :=
  if by_ = agent ∧ of = signature then some text else none

theorem unforgeable : Gateway.Unforgeable crypto viem made := by
  intro someone signed payload verifies
  unfold Gateway.Verifies at verifies
  split at verifies
  case h_1 => cases verifies
  case h_2 =>
    obtain ⟨pubkey, sig, keyRead, sigRead, verified⟩ := verifies
    simp only [verifyDetached, crypto, Bool.and_eq_true, decide_eq_true_eq] at verified
    obtain ⟨⟨covered, rfl⟩, rfl⟩ := verified
    have apart : agentBytes ≠ signatureBytes := by decide +kernel
    have agent : someone = agent := by
      by_contra other
      simp only [crypto, if_neg other] at keyRead
      split at keyRead
      case isTrue => exact apart (Option.some.inj keyRead).symm
      case isFalse => cases keyRead
    have signature : signed = signature := by
      by_contra other
      simp only [crypto, if_neg other] at sigRead
      split at sigRead
      case isTrue => exact apart (Option.some.inj sigRead)
      case isFalse => cases sigRead
    rw [made, if_pos ⟨agent, signature⟩, encode_injective covered]

theorem filled (bytes : List UInt8) : crypto.sha256 bytes ≠ [] := by
  unfold crypto
  dsimp only
  split <;> exact List.cons_ne_nil _ _

def payload : SignedPayload where
  method := "POST"
  path := "/v1/helius/v0/quote?x=1"
  network := "solana-devnet"
  timestampMs := 1735689600000
  nonce := nonce
  body := encode body

/-- The call is accepted, and its signature is good for nothing else. -/
theorem signing_contract_demo :
    (Gateway.verifyPactSignature crypto viem ∅ ⟨context, 1735689600000, 1735689600000⟩).1 =
      .next (some agent) ∧
    (∃ received, Gateway.Received context received ∧ payload.Agree crypto received ∧
      payload.network = received.network ∧ payload.body = received.body) ∧
    ¬ Gateway.Verifies crypto viem agent signature (payload.v1 crypto) := by
  obtain ⟨sent, accepted, versions⟩ := signing_contract crypto parser viem made filled unforgeable
  have signed : made agent signature = some (payload.v2 crypto) := by decide +kernel
  have next := sent wire deps _ moment _ init none call target context ∅ _ 1735689600000
    1735689600000 prepared transmitted (by decide) (by decide +kernel) (by decide)
    (plain_of (by decide +kernel) (by decide)) (plain_of (by decide +kernel) (by decide)) key
    (by decide +kernel) (by decide) rfl
    ⟨some "solana-devnet", rfl, fun network known => by
      cases (given_eq_some.mp known).1
      decide⟩
  have normal : Gateway.normalizedAgent viem deps.agentPubkey = agent := by decide +kernel
  rw [normal] at next
  refine ⟨next, ?_, (versions agent signature payload payload).1 signed⟩
  obtain ⟨someone, header, received, agentRead, signatureRead, -, reads, -, covers⟩ :=
    accepted _ _ _ next
  have agentSent : context.headers.get "x-pact-agent" = some agent := by decide +kernel
  have headerSent : context.headers.get "x-pact-signature" = some signature := by decide +kernel
  have agentSame := Option.some.inj (agentRead.symm.trans agentSent)
  have headerSame := Option.some.inj (signatureRead.symm.trans headerSent)
  subst agentSame headerSame
  have oneLine : received.OneLine := by
    have path := Option.some.inj reads.path.symm
    have nonceSent : context.headers.get "x-pact-nonce" = some nonce := by decide +kernel
    have nonceSame := Option.some.inj (reads.nonce.symm.trans nonceSent)
    constructor
    · rw [reads.method]
      decide
    · rw [path]
      decide
    · rw [reads.network]
      decide +kernel
    · rw [nonceSame]
      decide
  have bodies : payload.body = received.body := Option.some.inj reads.body
  obtain ⟨agree, network, body⟩ := (covers payload oneLine ⟨by decide, by decide, by decide,
    by decide⟩ fun _ => bodies).1 signed
  exact ⟨received, reads, agree, network, body⟩

end Sdk.Demo

end PactNetwork.Requests
