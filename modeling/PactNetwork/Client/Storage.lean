import PactNetwork.Foundation.LineLog
import PactNetwork.Foundation.Transition

/-!
# Durable storage

The files in which the SDK keeps what it observed and the monitor what it
recorded. Both append a line before anything else happens and rewrite the file
to mark progress; the SDK's reader skips a torn line, the monitor's fails on it.
-/

set_option autoImplicit false

namespace PactNetwork.Client

open LineLog

/-! ## The SDK's buffer -/

structure PendingObservation where
  callId : String
  agentPubkey : String
  slug : String
  host : String
  ts : String
  premiumLamports : Option String
  refundLamports : Option String
  outcome : Option String
  breach : Option Bool
  reconciled : Bool
  deriving DecidableEq

namespace FsObservationBuffer

variable (codec : Codec PendingObservation)

def append (file : File) (obs : PendingObservation) : File := LineLog.append codec file obs

def readAll (file : File) : List PendingObservation := readLenient codec file

def loadPending (file : File) : List PendingObservation :=
  (readAll codec file).filter fun o => !o.reconciled

def reconcile (callId : String) (o : PendingObservation) : PendingObservation :=
  if o.callId = callId ∧ o.reconciled = false then { o with reconciled := true } else o

def markReconciled (file : File) (callId : String) : File :=
  let all := readAll codec file
  if all.any fun o => o.callId = callId && !o.reconciled then
    rewrite codec (all.map (reconcile callId))
  else file

end FsObservationBuffer

/-! ## The interface of the SDK's storage -/

structure ObservationStorage (σ : Type) where
  append : σ → PendingObservation → σ
  loadPending : σ → List PendingObservation
  markReconciled : σ → String → σ

/-- A storage that works holds the observations appended, and marking a call changes
its pending observations only. -/
structure ObservationStorage.Works {σ : Type} (storage : ObservationStorage σ) (good : σ → Prop)
    (content : σ → List PendingObservation) : Prop where
  loadPending : ∀ store, good store →
    storage.loadPending store = (content store).filter fun o => !o.reconciled
  append : ∀ store obs, good store →
    good (storage.append store obs) ∧ content (storage.append store obs) = content store ++ [obs]
  markReconciled : ∀ store callId, good store → good (storage.markReconciled store callId) ∧
    content (storage.markReconciled store callId) =
      (content store).map (FsObservationBuffer.reconcile callId)

def FsObservationBuffer.storage (codec : Codec PendingObservation) : ObservationStorage File where
  append := append codec
  loadPending := loadPending codec
  markReconciled := markReconciled codec

theorem FsObservationBuffer.works {codec : Codec PendingObservation}
    (lawful : codec.Lawful fun _ => True) :
    (storage codec).Works (fun file => ∃ rows, file = render codec rows) (readAll codec) := by
  have read : ∀ rows, readAll codec (render codec rows) = rows := by
    intro rows
    have whole : readLenient codec (render codec rows ++ []) = rows ++ (readLine codec []).toList :=
      readLenient_render lawful (fun _ _ => trivial) List.not_mem_nil
    rw [List.append_nil] at whole
    rw [readAll, whole]
    exact List.append_nil rows
  refine ⟨fun _ _ => rfl, ?_, ?_⟩
  · rintro file obs ⟨rows, rfl⟩
    have after : (storage codec).append (render codec rows) obs = render codec (rows ++ [obs]) :=
      append_render rows obs
    rw [after, read, read]
    exact ⟨⟨_, rfl⟩, rfl⟩
  · rintro file callId ⟨rows, rfl⟩
    by_cases changed : rows.any fun o => o.callId = callId && !o.reconciled
    · have filled : rows.map (reconcile callId) ≠ [] := by
        intro empty
        rw [List.map_eq_nil_iff.mp empty] at changed
        cases changed
      have after : (storage codec).markReconciled (render codec rows) callId =
          render codec (rows.map (reconcile callId)) := by
        change markReconciled codec (render codec rows) callId = _
        rw [markReconciled, read, if_pos changed, rewrite_eq_render filled]
      rw [after, read, read]
      exact ⟨⟨_, rfl⟩, rfl⟩
    · have after : (storage codec).markReconciled (render codec rows) callId =
          render codec rows := by
        change markReconciled codec (render codec rows) callId = _
        rw [markReconciled, read, if_neg changed]
      have same : rows.map (reconcile callId) = rows := by
        refine (List.map_congr_left fun row member => ?_).trans (List.map_id rows)
        refine if_neg fun matched => changed (List.any_eq_true.mpr ⟨row, member, ?_⟩)
        simp [matched.1, matched.2]
      rw [after, read, same]
      exact ⟨⟨_, rfl⟩, rfl⟩

/-- The storage in memory, whose mirror in the browser matters to the next load only. -/
def MemoryStorage : ObservationStorage (List PendingObservation) where
  append rows obs := rows ++ [obs]
  loadPending rows := rows.filter fun o => !o.reconciled
  markReconciled rows callId := rows.map (FsObservationBuffer.reconcile callId)

theorem MemoryStorage.works : MemoryStorage.Works (fun _ => True) id :=
  ⟨fun _ _ => rfl, fun _ _ _ => ⟨trivial, rfl⟩, fun _ _ _ => ⟨trivial, rfl⟩⟩

/-! ## The monitor's storage -/

inductive Classification
  | success
  | timeout
  | clientError
  | serverError
  | schemaMismatch
  deriving DecidableEq

structure PaymentData where
  protocol : String
  amount : Int
  asset : String
  network : String
  payerAddress : String
  recipientAddress : String
  txHash : String
  settlementSuccess : Bool
  deriving DecidableEq

structure CallRecord where
  hostname : String
  endpoint : String
  timestamp : String
  statusCode : Nat
  latencyMs : Int
  classification : Classification
  payment : Option PaymentData
  synced : Bool
  deriving DecidableEq

namespace PactStorage

variable (codec : Codec CallRecord)

def append (file : File) (record : CallRecord) : File := LineLog.append codec file record

/-- All records, or `none` where reading throws. -/
def readAll (file : File) : Option (List CallRecord) := readStrict codec file

def getUnsynced (file : File) : Option (List CallRecord) :=
  (readAll codec file).map fun records => records.filter fun r => !r.synced

/-- The first `count` records that are not synced are. -/
def mark : Nat → List CallRecord → List CallRecord
  | _, [] => []
  | 0, records => records
  | count + 1, record :: records =>
      if record.synced then record :: mark (count + 1) records
      else { record with synced := true } :: mark count records

/-- The file after marking, or `none` where reading it throws. -/
def markSynced (file : File) (count : Nat) : Option File :=
  (readAll codec file).map fun records => rewrite codec (mark count records)

theorem filter_mark (count : Nat) (records : List CallRecord) :
    (mark count records).filter (fun r => !r.synced) =
      (records.filter fun r => !r.synced).drop count := by
  induction records generalizing count with
  | nil => cases count <;> rfl
  | cons record records ih =>
      cases count with
      | zero => rfl
      | succ count =>
          cases synced : record.synced with
          | true =>
              rw [mark, if_pos synced, List.filter_cons_of_neg (by simp [synced]),
                List.filter_cons_of_neg (by simp [synced]), ih]
          | false =>
              rw [mark, if_neg (by simp [synced]), List.filter_cons_of_neg (by simp),
                List.filter_cons_of_pos (by simp [synced]), List.drop_succ_cons, ih]

theorem known_mark {known : CallRecord → Prop}
    (closed : ∀ record, known record → known { record with synced := true })
    {count : Nat} {records : List CallRecord} (all : ∀ record ∈ records, known record) :
    ∀ record ∈ mark count records, known record := by
  induction records generalizing count with
  | nil => cases count <;> exact all
  | cons record records ih =>
      rw [List.forall_mem_cons] at all
      cases count with
      | zero => exact List.forall_mem_cons.mpr all
      | succ count =>
          rw [mark]
          split
          · exact List.forall_mem_cons.mpr ⟨all.1, ih all.2⟩
          · exact List.forall_mem_cons.mpr ⟨closed record all.1, ih all.2⟩

end PactStorage

end PactNetwork.Client
