import PactNetwork.Foundation.ByteLayout
import PactNetwork.Foundation.Interaction

/-!
# The submitter

`SubmitterService` as a program that asks RPC nodes and the chain. A promise
that rejects is the answer `failed`; building instructions is not modelled
beyond what can make it throw.
-/

set_option autoImplicit false

namespace PactNetwork.Settler

abbrev CallId := Bytes 16
abbrev Signature := Nat

inductive Vm where
  | solana
  | evm
  deriving DecidableEq

/-- `AdaptersService`: the rollback flag and the adapters that booted. -/
structure Settings where
  legacyDirectSolana : Bool
  adapter : String → Option Vm

/-- A queue message with the fields the settler reads. `none` is a network or
slug that is missing or of the wrong type, and any other field that does not
parse. An absent refund is zero, an absent outcome is "ok". -/
structure Message where
  id : Nat
  network : Option String
  endpointSlug : Option String
  callId : Option CallId
  agentPubkey : Option String
  premiumLamports : Int
  refundLamports : Option Int
  latencyMs : Nat
  outcome : String
  timestamp : Option Int
  deriving DecidableEq

def Message.networkName (message : Message) : String := message.network.getD "solana-devnet"

inductive Target where
  | legacyDirect
  | adapter (network : String)
  deriving DecidableEq

structure RecipientShare where
  kind : Nat
  pubkey : String
  amountLamports : Int
  deriving DecidableEq

inductive Question where
  /-- Load endpoints, pools and the treasury, and compute the shares. -/
  | load (messages : List Message)
  /-- Sign, send and confirm one transaction for these calls. -/
  | send (target : Target) (calls : List CallId)
  /-- `findExistingCallRecordSignature`. -/
  | probe (target : Target) (call : CallId)
  /-- `indexerPusher.push`. -/
  | push (signature : Signature) (perEventShares : List (List RecipientShare))
  deriving DecidableEq

inductive Answer where
  | loaded (perEventShares : List (List RecipientShare))
  | sent (signature : Signature)
  /-- A probe found the account and the latest signature that touched it. -/
  | found (signature : Signature)
  /-- A probe found no account, or no signature for it. -/
  | missing
  | pushed
  /-- An `IndexerPushError`. -/
  | pushRejected
  /-- The promise rejected. -/
  | failed
  deriving DecidableEq

abbrev Program := Interaction Question Answer

structure SettlementOutcome where
  signature : Signature
  perEventShares : List (List RecipientShare)
  deriving DecidableEq

inductive SubmitError where
  | skipBatch (network : String)
  | batchSubmit
  /-- Any other exception. -/
  | other
  deriving DecidableEq

open Interaction (query)

/-! ## Sending with retries -/

/-- The idempotency probe. It looks at the first call's record only; `none`
means the lookup rejected. -/
def probeFirst (target : Target) (calls : List CallId) : Program (Option (Option Signature)) :=
  match calls with
  | [] => pure (some none)
  | first :: _ => do
      match ← query (.probe target first) with
      | .found signature => pure (some (some signature))
      | .missing => pure (some none)
      | _ => pure none

def retryProbe (target : Target) (calls : List CallId) (retry : Bool) :
    Program (Option (Option Signature)) :=
  if retry then probeFirst target calls else pure (some none)

def send (target : Target) (calls : List CallId) : Program (Option Signature) := do
  match ← query (.send target calls) with
  | .sent signature => pure (some signature)
  | _ => pure none

/-- One turn of the retry loop; `none` is an exception the loop catches. -/
def attempt (target : Target) (calls : List CallId) (retry : Bool) :
    Program (Option Signature) := do
  match ← retryProbe target calls retry with
  | none => pure none
  | some (some signature) => pure (some signature)
  | some none => send target calls

def attempts (target : Target) (calls : List CallId) : Nat → Bool → Program (Option Signature)
  | 0, _ => pure none
  | left + 1, retry => do
      match ← attempt target calls retry with
      | some signature => pure (some signature)
      | none => attempts target calls left true

def sendWithRetry (target : Target) (calls : List CallId) (maxAttempts : Nat) :
    Program (Except SubmitError Signature) := do
  match ← attempts target calls maxAttempts false with
  | some signature => pure (.ok signature)
  | none =>
      match ← probeFirst target calls with
      | some (some signature) => pure (.ok signature)
      | _ => pure (.error .batchSubmit)

/-! ## The submit paths -/

/-- `extractSlug` throws on a missing or empty slug. -/
def Message.hasSlug (message : Message) : Bool :=
  match message.endpointSlug with
  | some slug => !slug.isEmpty
  | none => false

/-- The call id of the event built from a message, if nothing throws: the call
id, the agent's key, the refund and the timestamp have to parse. -/
def Message.eventCallId (message : Message) : Option CallId := do
  let callId ← message.callId
  let _ ← message.agentPubkey
  let _ ← message.refundLamports
  let _ ← message.timestamp
  return callId

def callIds (batch : List Message) : Option (List CallId) := batch.mapM Message.eventCallId

def submitLegacyDirect (batch : List Message) :
    Program (Except SubmitError SettlementOutcome) :=
  if batch.any fun message => !message.hasSlug then pure (.error .other)
  else do
    match ← query (.load batch) with
    | .loaded perEventShares =>
        match callIds batch with
        | none => pure (.error .other)
        | some calls =>
            match ← sendWithRetry .legacyDirect calls 3 with
            | .ok signature => pure (.ok ⟨signature, perEventShares⟩)
            | .error error => pure (.error error)
    | _ => pure (.error .other)

/-- The adapter path, the same for both VMs here: the fee configuration is
loaded, the adapter sends once, and the shares are computed afterwards. -/
def submitViaAdapter (batch : List Message) (network : String) :
    Program (Except SubmitError SettlementOutcome) :=
  if !batch.head?.any Message.hasSlug then pure (.error .other)
  else do
    match ← query (.load batch) with
    | .loaded _ =>
        match callIds batch with
        | none => pure (.error .other)
        | some calls =>
            match ← query (.send (.adapter network) calls) with
            | .sent signature =>
                match ← query (.load batch) with
                | .loaded perEventShares => pure (.ok ⟨signature, perEventShares⟩)
                | _ => pure (.error .other)
            | _ => pure (.error .other)
    | _ => pure (.error .other)

def batchNetwork (batch : List Message) : String :=
  match batch.head? with
  | some first => first.networkName
  | none => "solana-devnet"

def Settings.target (settings : Settings) (network : String) : Option Target :=
  if settings.legacyDirectSolana && network.startsWith "solana-" then some .legacyDirect
  else if (settings.adapter network).isSome then some (.adapter network)
  else none

def submit (settings : Settings) (batch : List Message) :
    Program (Except SubmitError SettlementOutcome) :=
  let network := batchNetwork batch
  if settings.legacyDirectSolana && network.startsWith "solana-" then submitLegacyDirect batch
  else if !(settings.adapter network).isSome then pure (.error (.skipBatch network))
  else submitViaAdapter batch network

/-! ## The chain -/

/-- A successful settlement transaction and the records it created. -/
structure Tx where
  target : Target
  calls : List CallId
  signature : Signature
  deriving DecidableEq

/-- The settlement transactions that landed, latest first. -/
abbrev Chain := List Tx

def Recorded (chain : Chain) (target : Target) (call : CallId) : Prop :=
  ∃ tx ∈ chain, tx.target = target ∧ call ∈ tx.calls

instance (chain : Chain) (target : Target) (call : CallId) :
    Decidable (Recorded chain target call) := by
  unfold Recorded
  infer_instance

/-- A transaction creates all its records or none: it lands only if it names
no record that exists, and none twice. Signatures are unique. -/
def CanLand (chain : Chain) (tx : Tx) : Prop :=
  tx.calls.Nodup ∧ (∀ call ∈ tx.calls, ¬Recorded chain tx.target call) ∧
    ∀ earlier ∈ chain, earlier.signature ≠ tx.signature

instance (chain : Chain) (tx : Tx) : Decidable (CanLand chain tx) :=
  -- Call ids are a `Fintype`, too large to be searched: go through the list.
  haveI : Decidable (∀ call ∈ tx.calls, ¬Recorded chain tx.target call) :=
    List.decidableBAll _ _
  inferInstanceAs (Decidable (_ ∧ _ ∧ _))

inductive Grows (before : Chain) : Chain → Prop
  | refl : Grows before before
  | land {middle : Chain} {tx : Tx} (earlier : Grows before middle) (lands : CanLand middle tx) :
      Grows before (tx :: middle)

theorem Grows.trans {first second third : Chain} (left : Grows first second)
    (right : Grows second third) : Grows first third := by
  induction right with
  | refl => exact left
  | land _ lands ih => exact .land ih lands

theorem Grows.subset {before after : Chain} (grows : Grows before after) : before ⊆ after := by
  induction grows with
  | refl => exact List.Subset.refl _
  | land _ _ ih => exact List.subset_cons_of_subset _ ih

theorem Recorded.later {before after : Chain} {target : Target} {call : CallId}
    (recorded : Recorded before target call) (grows : Grows before after) :
    Recorded after target call := by
  obtain ⟨tx, member, same, named⟩ := recorded
  exact ⟨tx, grows.subset member, same, named⟩

/-- What may be answered while the chain stands: a confirmed send landed, and a
probe finds only records that exist. Anything else may fail or be stale. -/
def Truthful (chain : Chain) : Question → Answer → Prop
  | .send target calls, .sent signature => ⟨target, calls, signature⟩ ∈ chain
  | .probe target call, .found _ => Recorded chain target call
  | .load _, .loaded _ => True
  | .probe _ _, .missing => True
  | .push _ _, .pushed => True
  | .push _ _, .pushRejected => True
  | _, .failed => True
  | _, _ => False

instance (chain : Chain) (question : Question) (answer : Answer) :
    Decidable (Truthful chain question answer) := by
  cases question <;> cases answer <;> unfold Truthful <;> infer_instance

end PactNetwork.Settler
