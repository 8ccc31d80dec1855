import PactNetwork.Settler.Submitter
import PactNetwork.V1Client.Instructions

/-!
# Message data

The data of a queue message as parsed JSON, and the settler's functions that
read it. Numbers are the integers a well-formed message holds. What JavaScript
makes of a string as a number or a date is a parameter.
-/

set_option autoImplicit false

namespace PactNetwork.Settler

open V1Client (ClientError)

inductive Json where
  | undefined
  | null
  | bool (value : Bool)
  | number (value : Int)
  | string (value : String)
  deriving DecidableEq

namespace Json

def orElse (value fallback : Json) : Json :=
  match value with
  | .undefined | .null => fallback
  | other => other

def toStr : Json → String
  | .undefined => "undefined"
  | .null => "null"
  | .bool value => toString value
  | .number value => toString value
  | .string value => value

end Json

/-- What the language makes of a string. `none` is an exception, a `NaN`, or a
number that is not whole. -/
structure Runtime where
  bigInt : String → Option Int
  number : String → Option Int
  dateParse : String → Option Int

namespace Runtime

variable (runtime : Runtime)

def toBigInt : Json → Except ClientError Int
  | .undefined | .null => .error (.error "Cannot convert to a BigInt")
  | .bool value => .ok (if value then 1 else 0)
  | .number value => .ok value
  | .string value => okOr (runtime.bigInt value) (.error "Cannot convert to a BigInt")

def toNumber : Json → Except ClientError Int
  | .undefined => .error .outOfRange
  | .null => .ok 0
  | .bool value => .ok (if value then 1 else 0)
  | .number value => .ok value
  | .string value => okOr (runtime.number value) .outOfRange

end Runtime

/-- `message.data`, with the fields the submitter reads. -/
structure MessageData where
  endpointSlug : Json
  callId : Json
  agentPubkey : Json
  premiumLamports : Json
  refundLamports : Json
  latencyMs : Json
  outcome : Json
  ts : Json
  timestamp : Json
  deriving DecidableEq

/-! ## The submitter's parsers -/

def extractSlug (data : MessageData) : Except ClientError String :=
  match data.endpointSlug with
  | .string slug =>
      if slug.length = 0 then .error (.error "settlement event missing endpointSlug")
      else .ok slug
  | _ => .error (.error "settlement event missing endpointSlug")

def charUnits (char : Char) : List Nat :=
  if char.toNat < 0x10000 then [char.toNat]
  else [0xD800 + (char.toNat - 0x10000) / 0x400, 0xDC00 + (char.toNat - 0x10000) % 0x400]

def codeUnits (text : String) : List Nat := text.toList.flatMap charUnits

def hexDigit (unit : Nat) : Option Nat :=
  if 48 ≤ unit ∧ unit ≤ 57 then some (unit - 48)
  else if 97 ≤ unit ∧ unit ≤ 102 then some (unit - 87)
  else if 65 ≤ unit ∧ unit ≤ 70 then some (unit - 55)
  else none

def isSpace (unit : Nat) : Bool :=
  unit ∈ [9, 10, 11, 12, 13, 32, 0xA0, 0x1680, 0x2028, 0x2029, 0x202F, 0x205F, 0x3000, 0xFEFF] ||
    (0x2000 ≤ unit && unit ≤ 0x200A)

def leadingHex (value : Nat) : List Nat → Nat
  | [] => value
  | unit :: rest =>
      match hexDigit unit with
      | some digit => leadingHex (value * 16 + digit) rest
      | none => value

/-- `parseInt(pair, 16)` stored in a byte; `NaN` is stored as zero. Two units
without a dash leave room for white space, a plus sign or an empty `0x`. -/
def parseIntHex (units : List Nat) : UInt8 :=
  let trimmed := units.dropWhile isSpace
  let unsigned := if trimmed.head? = some 43 then trimmed.tail else trimmed
  UInt8.ofNat (leadingHex 0 unsigned)

def pairs : List Nat → List (List Nat)
  | first :: second :: rest => [first, second] :: pairs rest
  | _ => []

theorem length_pairs {units : List Nat} {count : Nat} (even : units.length = 2 * count) :
    (pairs units).length = count := by
  induction count generalizing units with
  | zero => rw [List.length_eq_zero_iff.mp even]; rfl
  | succ count ih =>
      match units, even with
      | first :: second :: rest, even =>
          rw [pairs, List.length_cons, ih (by simpa [Nat.mul_succ] using even)]

def parseCallId (callId : String) : Except ClientError V1.CallId :=
  let hex := (codeUnits callId).filter (· ≠ 45)
  if even : hex.length = 2 * 16 then
    .ok ⟨(pairs hex).map parseIntHex, by rw [List.length_map, length_pairs even]⟩
  else .error (.error s!"callId must be 16 bytes (32 hex chars); got \"{callId}\"")

def breachFromOutcome (outcome : String) : Bool := outcome ≠ "ok"

def parseEventTimestamp (runtime : Runtime) (data : MessageData) : Except ClientError Int :=
  match data.ts.orElse data.timestamp with
  | .number value => .ok value
  | .string text =>
      if 'T' ∈ text.toList ∨ text.toList.getLast? = some 'Z' then do
        let ms ← okOr (runtime.dateParse text) (.error s!"unparseable ts \"{text}\"")
        .ok (ms.fdiv 1000)
      else runtime.toNumber (.string text)
  | _ => .error (.error "settlement event missing ts/timestamp")

/-! ## Call ids on the adapter path -/

def hexChar (digit : Nat) : Char :=
  Char.ofNat (if digit < 10 then 48 + digit else 87 + digit)

def byteHex (byte : UInt8) : List Char :=
  [hexChar (byte.toNat / 16), hexChar (byte.toNat % 16)]

def formatAdapterCallId (vm : Vm) (callId : String) : Except ClientError String := do
  let bytes ← parseCallId callId
  let hex := String.ofList (bytes.toList.flatMap byteHex)
  .ok (match vm with
    | .evm => "0x" ++ hex
    | .solana => hex)

def hexBytes : List Nat → List UInt8
  | high :: low :: rest =>
      match hexDigit high, hexDigit low with
      | some high, some low => UInt8.ofNat (16 * high + low) :: hexBytes rest
      | _, _ => []
  | _ => []

def bufferFromHex (text : String) : List UInt8 := hexBytes (codeUnits text)

theorem hexDigit_byteHex : ∀ byte : UInt8, ((byteHex byte).flatMap charUnits).map hexDigit =
    [some (byte.toNat / 16), some (byte.toNat % 16)] := by
  decide +kernel

theorem bufferFromHex_byteHex (bytes : List UInt8) :
    bufferFromHex (String.ofList (bytes.flatMap byteHex)) = bytes := by
  rw [bufferFromHex, codeUnits, String.toList_ofList]
  induction bytes with
  | nil => rfl
  | cons byte bytes ih =>
      obtain ⟨high, rest, same, first, later⟩ := List.map_eq_cons_iff.mp (hexDigit_byteHex byte)
      obtain ⟨low, none, alone, second, ended⟩ := List.map_eq_cons_iff.mp later
      have whole : byte.toNat / 16 * 16 + byte.toNat % 16 = byte.toNat := Nat.div_add_mod' _ _
      rw [List.flatMap_cons, List.flatMap_append, same, alone, List.map_eq_nil_iff.mp ended]
      show hexBytes (high :: low :: (bytes.flatMap byteHex).flatMap charUnits) = _
      rw [hexBytes, first, second]
      dsimp only
      rw [ih, Nat.mul_comm, whole, UInt8.ofNat_toNat]

theorem formatAdapterCallId_eq_ok {callId hex : String} :
    formatAdapterCallId .solana callId = .ok hex ↔
      ∃ bytes, parseCallId callId = .ok bytes ∧ String.ofList (bytes.toList.flatMap byteHex) = hex := by
  simp only [formatAdapterCallId, bind_eq_ok, Except.ok.injEq]

end PactNetwork.Settler
