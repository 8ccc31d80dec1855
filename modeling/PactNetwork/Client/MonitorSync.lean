import PactNetwork.Client.Durability
import PactNetwork.Foundation.CountedMarks

/-!
# The monitor's sync

One process that appends records and flushes them to the backend. A flush reads
the file, posts the first records that are not synced, and after a good answer
marks as many as it posted; flushes that come while one is under way join it.
-/

set_option autoImplicit false

namespace PactNetwork.Client

open LineLog CountedMarks

namespace PactSync

/-! ## Requests -/

structure RecordPayload where
  hostname : String
  endpoint : String
  timestamp : String
  status_code : Nat
  latency_ms : Int
  classification : Classification
  payment_protocol : Option String
  payment_amount : Option Int
  payment_asset : Option String
  payment_network : Option String
  payer_address : Option String
  recipient_address : Option String
  tx_hash : Option String
  settlement_success : Option Bool
  deriving DecidableEq

def toPayload (r : CallRecord) : RecordPayload where
  hostname := r.hostname
  endpoint := r.endpoint
  timestamp := r.timestamp
  status_code := r.statusCode
  latency_ms := r.latencyMs
  classification := r.classification
  payment_protocol := r.payment.map (·.protocol)
  payment_amount := r.payment.map (·.amount)
  payment_asset := r.payment.map (·.asset)
  payment_network := r.payment.map (·.network)
  payer_address := r.payment.map (·.payerAddress)
  recipient_address := r.payment.map (·.recipientAddress)
  tx_hash := r.payment.map (·.txHash)
  settlement_success := r.payment.map (·.settlementSuccess)

/-- A key pair: the public key as text, and the signature of some records, or
`none` where signing throws. -/
structure Keypair where
  publicKey : String
  createSignature : List RecordPayload → Option String

structure Config where
  backendUrl : String
  apiKey : String
  batchSize : Int
  keypair : Option Keypair

structure Request where
  url : String
  headers : List (String × String)
  records : List RecordPayload
  deriving DecidableEq

def signatureHeaders (config : Config) (records : List RecordPayload) : List (String × String) :=
  match config.keypair with
  | none => []
  | some keypair =>
      match keypair.createSignature records with
      | none => []
      | some signature =>
          [("X-Pact-Signature", signature), ("X-Pact-Pubkey", keypair.publicKey)]

def request (config : Config) (batch : List CallRecord) : Request where
  url := config.backendUrl ++ "/api/v1/records"
  headers := [("Content-Type", "application/json"), ("User-Agent", "pact-monitor-sdk/0.1.0"),
    ("Authorization", "Bearer " ++ config.apiKey)] ++
      signatureHeaders config (batch.map toPayload)
  records := batch.map toPayload

/-- `records.slice(0, size)`; a negative size counts from the end. -/
def slice (size : Int) (records : List CallRecord) : List CallRecord :=
  records.take (if size < 0 then records.length + size else size).toNat

/-! ## The process -/

/-- A request that was sent, with the positions of its records in the file and the
status of its answer. -/
structure Post where
  request : Request
  positions : List Nat
  status : Option Nat

def isOk (status : Nat) : Bool := 200 ≤ status && status ≤ 299

def Post.acked (post : Post) : Bool := post.status.any isOk

/-- Where the flush under way waits: for the answer, for the body of a bad answer,
or, being over, for its promise to be cleared. -/
inductive Phase
  | idle
  | posting (batch : List CallRecord)
  | answered (status : Nat)
  | settled

/-- The process, with the requests sent, latest first, and whether each record was
synced when it came into the file. -/
structure State where
  file : File
  phase : Phase
  authFailed : Bool
  posts : List Post
  came : List Bool

inductive Event
  | append (record : CallRecord)
  | flush
  | answer (status : Nat)
  | networkFailure
  | body
  | clear

section

variable (config : Config) (codec : Codec CallRecord)

def marks (file : File) : List Bool :=
  ((PactStorage.readAll codec file).getD []).map fun r => r.synced

def doFlush (state : State) : State :=
  if state.authFailed then { state with phase := .settled }
  else
    match PactStorage.getUnsynced codec state.file with
    | none | some [] => { state with phase := .settled }
    | some (record :: records) =>
        let batch := slice config.batchSize (record :: records)
        { state with
          phase := .posting batch
          posts := ⟨request config batch, (pending (marks codec state.file)).take batch.length,
            none⟩ :: state.posts }

def answered (status : Nat) : List Post → List Post
  | [] => []
  | post :: older => { post with status := some status } :: older

def State.apply (state : State) : Event → State
  | .append record =>
      { state with
        file := PactStorage.append codec state.file record
        came := state.came ++ [record.synced] }
  | .flush =>
      match state.phase with
      | .idle => doFlush config codec state
      | .posting _ | .answered _ | .settled => state
  | .answer status =>
      match state.phase with
      | .posting batch =>
          if isOk status then
            { state with
              file := (PactStorage.markSynced codec state.file batch.length).getD state.file
              phase := .settled
              posts := answered status state.posts }
          else { state with phase := .answered status, posts := answered status state.posts }
      | .idle | .answered _ | .settled => state
  | .networkFailure =>
      match state.phase with
      | .posting _ => { state with phase := .settled }
      | .idle | .answered _ | .settled => state
  | .body =>
      match state.phase with
      | .answered status =>
          { state with
            phase := .settled
            authFailed := state.authFailed || (status == 401 || status == 403) }
      | .idle | .posting _ | .settled => state
  | .clear =>
      match state.phase with
      | .settled => { state with phase := .idle }
      | .idle | .posting _ | .answered _ => state

def State.Initial (known : CallRecord → Prop) (state : State) : Prop :=
  ∃ rows, (∀ row ∈ rows, known row) ∧ Holds codec state.file rows ∧
    state = ⟨state.file, .idle, false, [], rows.map fun r => r.synced⟩

def Event.Possible (known : CallRecord → Prop) : Event → Prop
  | .append record => known record
  | .flush | .answer _ | .networkFailure | .body | .clear => True

def State.Step (known : CallRecord → Prop) (before after : State) : Prop :=
  ∃ event : Event, event.Possible known ∧ after = before.apply config codec event

def State.Reached (known : CallRecord → Prop) : State → Prop :=
  Reachable (State.Initial codec known) (State.Step config codec known)

end

/-! ## What the requests say -/

def Acked (posts : List Post) (position : Nat) : Prop :=
  ∃ post ∈ posts, post.acked = true ∧ position ∈ post.positions

/-- A request that follows others posts records in the order of the file, none that
was synced or acknowledged before, and passes over none that was not. -/
structure Follows (came : List Bool) (older : List Post) (post : Post) : Prop where
  sorted : post.positions.Pairwise (· < ·)
  fresh : ∀ position ∈ post.positions, came[position]? = some false ∧ ¬Acked older position
  inOrder : ∀ position ∈ post.positions, ∀ earlier < position, came[earlier]? = some false →
    earlier ∈ post.positions ∨ Acked older earlier

def InOrder (came : List Bool) : List Post → Prop
  | [] => True
  | post :: older => Follows came older post ∧ InOrder came older

/-- The records marked are exactly those that came so or were acknowledged, and the
requests, which hold the records at their positions, follow one another. -/
structure MarksAcknowledged (state : State) (rows : List CallRecord) : Prop where
  marked : ∀ position row, rows[position]? = some row → (row.synced = true ↔
    state.came[position]? = some true ∨ Acked state.posts position)
  contents : ∀ post ∈ state.posts,
    (post.positions.map fun position => (rows[position]?).map toPayload) =
      post.request.records.map some
  ordered : InOrder state.came state.posts

/-! ## Marks -/

theorem map_synced_mark (count : Nat) (rows : List CallRecord) :
    (PactStorage.mark count rows).map (fun r => r.synced) =
      markFirst count (rows.map fun r => r.synced) := by
  induction rows generalizing count with
  | nil => cases count <;> rfl
  | cons row rows ih =>
      cases count with
      | zero => rfl
      | succ count =>
          cases synced : row.synced with
          | true =>
              rw [PactStorage.mark, if_pos synced, List.map_cons, ih, List.map_cons, synced]
              rfl
          | false =>
              rw [PactStorage.mark, if_neg (by simp [synced]), List.map_cons, ih, List.map_cons,
                synced]
              rfl

theorem map_toPayload_mark (count : Nat) (rows : List CallRecord) :
    (PactStorage.mark count rows).map toPayload = rows.map toPayload := by
  induction rows generalizing count with
  | nil => cases count <;> rfl
  | cons row rows ih =>
      cases count with
      | zero => rfl
      | succ count =>
          rw [PactStorage.mark]
          split
          · rw [List.map_cons, ih, List.map_cons]
          · rw [List.map_cons, ih, List.map_cons]
            rfl

theorem getElem?_mark (count : Nat) (rows : List CallRecord) (position : Nat) :
    (PactStorage.mark count rows)[position]?.map toPayload = rows[position]?.map toPayload := by
  rw [← List.getElem?_map, map_toPayload_mark, List.getElem?_map]

theorem length_mark (count : Nat) (rows : List CallRecord) :
    (PactStorage.mark count rows).length = rows.length := by
  have lengths := congrArg List.length (map_toPayload_mark count rows)
  rwa [List.length_map, List.length_map] at lengths

theorem map_pending (rows : List CallRecord) :
    (pending (rows.map fun r => r.synced)).map (fun position => rows[position]?) =
      (rows.filter fun r => !r.synced).map some := by
  induction rows with
  | nil => rfl
  | cons row rows ih =>
      rw [List.map_cons, pending_cons, List.map_append, List.map_map]
      have later : ((fun position => (row :: rows)[position]?) ∘ (· + 1)) =
          fun position : Nat => rows[position]? := by
        funext position
        exact List.getElem?_cons_succ
      rw [later, ih]
      cases synced : row.synced with
      | true => rw [List.filter_cons_of_neg (by simp [synced])]; rfl
      | false => rw [List.filter_cons_of_pos (by simp [synced])]; rfl

theorem length_pending (rows : List CallRecord) :
    (pending (rows.map fun r => r.synced)).length = (rows.filter fun r => !r.synced).length := by
  have lengths := congrArg List.length (map_pending rows)
  rwa [List.length_map, List.length_map] at lengths

theorem take_unsynced (count : Nat) (rows : List CallRecord) :
    ((pending (rows.map fun r => r.synced)).take count).map
        (fun position => rows[position]?.map toPayload) =
      (((rows.filter fun r => !r.synced).take count).map toPayload).map some := by
  have both := congrArg (List.map (Option.map toPayload)) (congrArg (List.take count)
    (map_pending rows))
  rw [← List.map_take, ← List.map_take, List.map_map, List.map_map] at both
  rw [List.map_map]
  exact both

/-! ## Steps -/

section

variable {came : List Bool} {older posts : List Post} {post : Post} {position : Nat}

theorem acked_cons : Acked (post :: older) position ↔
    (post.acked = true ∧ position ∈ post.positions) ∨ Acked older position := by
  rw [Acked, List.exists_mem_cons_iff]
  rfl

theorem Follows.grow (follows : Follows came older post) (mark : Bool) :
    Follows (came ++ [mark]) older post where
  sorted := follows.sorted
  fresh position member := by
    obtain ⟨unmarked, fresh⟩ := follows.fresh position member
    exact ⟨List.getElem?_append_left (List.getElem?_eq_some_iff.mp unmarked).1 ▸ unmarked, fresh⟩
  inOrder position member earlier before unmarked := by
    have inside := (List.getElem?_eq_some_iff.mp (follows.fresh position member).1).1
    rw [List.getElem?_append_left (Nat.lt_trans before inside)] at unmarked
    exact follows.inOrder position member earlier before unmarked

theorem InOrder.grow (inOrder : InOrder came posts) (mark : Bool) :
    InOrder (came ++ [mark]) posts := by
  induction posts with
  | nil => trivial
  | cons post older ih => exact ⟨inOrder.1.grow mark, ih inOrder.2⟩

end

/-- The marks in the file are the ones the records came with and the acknowledged
ones, and a request under way holds the first pending records. -/
structure State.Sound (codec : Codec CallRecord) (known : CallRecord → Prop) (state : State)
    (rows : List CallRecord) : Prop where
  holds : Holds codec state.file rows
  known : ∀ row ∈ rows, known row
  length : state.came.length = rows.length
  marks : ∀ position, (rows.map fun r => r.synced)[position]? = some true ↔
    state.came[position]? = some true ∨ Acked state.posts position
  contents : ∀ post ∈ state.posts,
    (post.positions.map fun position => rows[position]?.map toPayload) =
      post.request.records.map some
  ordered : InOrder state.came state.posts
  posting : ∀ batch, state.phase = .posting batch → ∃ post older, state.posts = post :: older ∧
    post.status = none ∧ batch.length ≤ (pending (rows.map fun r => r.synced)).length ∧
    post.positions = (pending (rows.map fun r => r.synced)).take batch.length

section

variable {config : Config} {codec : Codec CallRecord} {known : CallRecord → Prop}
  {state : State} {rows : List CallRecord}

theorem State.Sound.rest (sound : state.Sound codec known rows) (authFailed : Bool) {phase : Phase}
    (quiet : ∀ batch, phase ≠ .posting batch) :
    { state with phase, authFailed }.Sound codec known rows where
  holds := sound.holds
  known := sound.known
  length := sound.length
  marks := sound.marks
  contents := sound.contents
  ordered := sound.ordered
  posting batch posting := absurd posting (quiet batch)

theorem getElem?_concat_iff {α : Type} {items : List α} {item wanted : α} {position : Nat} :
    (items ++ [item])[position]? = some wanted ↔
      items[position]? = some wanted ∨ (position = items.length ∧ item = wanted) := by
  rcases Nat.lt_trichotomy position items.length with inside | rfl | outside
  · rw [List.getElem?_append_left inside]
    simp [Nat.ne_of_lt inside]
  · simp
  · rw [List.getElem?_eq_none (by simp; omega), List.getElem?_eq_none (Nat.le_of_lt outside)]
    simp [Nat.ne_of_gt outside]

theorem State.Sound.inside (sound : state.Sound codec known rows) {post : Post}
    (member : post ∈ state.posts) {position : Nat} (posted : position ∈ post.positions) :
    position < rows.length := by
  have contents := sound.contents post member
  obtain ⟨index, found⟩ := List.getElem_of_mem posted
  by_contra outside
  have missing : rows[position]?.map toPayload = none := by
    rw [List.getElem?_eq_none (Nat.le_of_not_lt outside), Option.map_none]
  have none : none ∈ post.request.records.map some := by
    rw [← contents, ← missing]
    exact List.mem_map_of_mem posted
  obtain ⟨record, -, wrong⟩ := List.mem_map.mp none
  cases wrong

theorem State.Sound.append (sound : state.Sound codec known rows) {record : CallRecord}
    (is : known record) :
    (state.apply config codec (.append record)).Sound codec known (rows ++ [record]) where
  holds := sound.holds.append record
  known row member := by
    rcases List.mem_append.mp member with inside | last
    · exact sound.known row inside
    · exact List.mem_singleton.mp last ▸ is
  length := by
    rw [List.length_append, ← sound.length]
    exact List.length_append
  marks position := by
    rw [List.map_append, List.map_singleton, getElem?_concat_iff, sound.marks]
    change _ ↔ (state.came ++ [record.synced])[position]? = some true ∨ Acked state.posts position
    rw [getElem?_concat_iff, List.length_map, sound.length]
    exact or_right_comm
  contents post member := by
    rw [← sound.contents post member]
    refine List.map_congr_left fun position posted => ?_
    rw [List.getElem?_append_left (sound.inside member posted)]
  ordered := sound.ordered.grow record.synced
  posting batch posting := by
    obtain ⟨post, older, posts, open_, fits, positions⟩ := sound.posting batch posting
    refine ⟨post, older, posts, open_, ?_, ?_⟩
    · rw [List.map_append]
      exact fits.trans (pending_append _ _).length_le
    · rw [List.map_append, take_pending_append fits, positions]

theorem State.Sound.unmarked (sound : state.Sound codec known rows) {position : Nat}
    (pending : (rows.map fun r => r.synced)[position]? = some false) :
    state.came[position]? = some false ∧ ¬Acked state.posts position := by
  have none : ¬(state.came[position]? = some true ∨ Acked state.posts position) := by
    rw [← sound.marks, pending]
    simp
  have inside : position < state.came.length := by
    rw [sound.length, ← List.length_map fun r : CallRecord => r.synced]
    exact (List.getElem?_eq_some_iff.mp pending).1
  refine ⟨?_, fun acked => none (.inr acked)⟩
  rw [List.getElem?_eq_getElem inside] at none ⊢
  cases mark : state.came[position] with
  | true => exact absurd (.inl (congrArg some mark)) none
  | false => rfl

theorem State.Sound.follows (sound : state.Sound codec known rows) (request : Request)
    (count : Nat) : Follows state.came state.posts
      ⟨request, (pending (rows.map fun r => r.synced)).take count, none⟩ where
  sorted := (pending_sorted _).sublist (List.take_sublist _ _)
  fresh position member := sound.unmarked (mem_pending.mp (List.mem_of_mem_take member))
  inOrder position member earlier before came := by
    have inside : earlier < (rows.map fun r => r.synced).length := by
      rw [List.length_map, ← sound.length]
      exact (List.getElem?_eq_some_iff.mp came).1
    cases mark : (rows.map fun r => r.synced)[earlier] with
    | false =>
        exact .inl (take_pending_closed member before
          (List.getElem?_eq_some_iff.mpr ⟨inside, mark⟩))
    | true =>
        have marked := (sound.marks earlier).mp (List.getElem?_eq_some_iff.mpr ⟨inside, mark⟩)
        rw [came] at marked
        exact .inr (marked.resolve_left (by simp))

section

variable (lawful : codec.Lawful known)

include lawful

theorem State.Sound.read (sound : state.Sound codec known rows) :
    PactStorage.readAll codec state.file = some rows := sound.holds.readStrict lawful sound.known

theorem State.Sound.flush (sound : state.Sound codec known rows) :
    (doFlush config codec state).Sound codec known rows := by
  have settled : ({ state with phase := .settled } : State).Sound codec known rows :=
    sound.rest state.authFailed fun _ posting => by cases posting
  have marks : PactSync.marks codec state.file = rows.map fun r => r.synced := by
    rw [PactSync.marks, sound.read lawful, Option.getD_some]
  rw [doFlush, PactStorage.getUnsynced, sound.read lawful, Option.map_some]
  split
  · exact settled
  · cases unsynced : rows.filter fun r => !r.synced with
    | nil => exact settled
    | cons record records =>
        have fits : (slice config.batchSize (record :: records)).length ≤
            (pending (rows.map fun r => r.synced)).length := by
          rw [length_pending, unsynced]
          exact List.length_take_le' _ _
        have batch : (rows.filter fun r => !r.synced).take
            (slice config.batchSize (record :: records)).length =
              slice config.batchSize (record :: records) := by
          rw [unsynced, slice, List.length_take]
          exact List.take_eq_take_min.symm
        refine ⟨sound.holds, sound.known, sound.length, ?_, ?_, ?_, ?_⟩
        · intro position
          rw [sound.marks, acked_cons]
          simp [Post.acked]
        · intro post member
          rcases List.mem_cons.mp member with rfl | old
          · rw [marks, take_unsynced, batch]
            rfl
          · exact sound.contents post old
        · rw [marks]
          exact ⟨sound.follows _ _, sound.ordered⟩
        · intro posted posting
          cases posting
          rw [marks]
          exact ⟨_, _, rfl, rfl, fits, rfl⟩

theorem State.Sound.acknowledged
    (closed : ∀ record, known record → known { record with synced := true })
    (sound : state.Sound codec known rows) {batch : List CallRecord}
    (posting : state.phase = .posting batch) {status : Nat} (good : isOk status = true) :
    (state.apply config codec (.answer status)).Sound codec known
      (PactStorage.mark batch.length rows) := by
  obtain ⟨post, older, posts, open_, fits, positions⟩ := sound.posting batch posting
  have next : state.apply config codec (.answer status) =
      { state with
        file := rewrite codec (PactStorage.mark batch.length rows)
        phase := .settled
        posts := { post with status := some status } :: older } := by
    rw [State.apply, posting]
    simp only [good, if_true, PactStorage.markSynced, sound.read lawful, Option.map_some,
      Option.getD_some, posts, answered]
  have acked : ∀ position, Acked state.posts position ↔ Acked older position := by
    intro position
    rw [posts, acked_cons, Post.acked, open_]
    simp
  rw [next]
  refine ⟨holds_rewrite _, ?_, ?_, ?_, ?_, ?_, fun _ posting => by cases posting⟩
  · exact PactStorage.known_mark closed sound.known
  · exact sound.length.trans (length_mark _ _).symm
  · intro position
    rw [map_synced_mark, getElem?_markFirst, sound.marks, acked, acked_cons, ← positions]
    simp only [Post.acked, Option.any_some, good, true_and]
    rw [or_assoc, or_comm (a := Acked older position)]
  · intro sent member
    simp only [getElem?_mark]
    rcases List.mem_cons.mp member with rfl | old
    · exact sound.contents post (posts ▸ List.mem_cons_self)
    · exact sound.contents sent (posts ▸ List.mem_cons_of_mem _ old)
  · have ordered := sound.ordered
    rw [posts] at ordered
    exact ⟨⟨ordered.1.sorted, ordered.1.fresh, ordered.1.inOrder⟩, ordered.2⟩

omit lawful in
theorem State.Sound.refused (sound : state.Sound codec known rows) {batch : List CallRecord}
    (posting : state.phase = .posting batch) {status : Nat} (bad : isOk status = false) :
    (state.apply config codec (.answer status)).Sound codec known rows := by
  obtain ⟨post, older, posts, open_, -, -⟩ := sound.posting batch posting
  have next : state.apply config codec (.answer status) =
      { state with
        phase := .answered status
        posts := { post with status := some status } :: older } := by
    rw [State.apply, posting]
    simp only [bad, Bool.false_eq_true, if_false, posts, answered]
  have unacked : ∀ position, Acked ({ post with status := some status } :: older) position ↔
      Acked state.posts position := by
    intro position
    rw [posts, acked_cons, acked_cons, Post.acked, Post.acked, open_]
    simp [bad]
  rw [next]
  refine ⟨sound.holds, sound.known, sound.length, ?_, ?_, ?_, fun _ posting => by cases posting⟩
  · intro position
    rw [sound.marks, unacked]
  · intro sent member
    rcases List.mem_cons.mp member with rfl | old
    · exact sound.contents post (posts ▸ List.mem_cons_self)
    · exact sound.contents sent (posts ▸ List.mem_cons_of_mem _ old)
  · have ordered := sound.ordered
    rw [posts] at ordered
    exact ⟨⟨ordered.1.sorted, ordered.1.fresh, ordered.1.inOrder⟩, ordered.2⟩

theorem State.Sound.step
    (closed : ∀ record, known record → known { record with synced := true })
    {before after : State} (sound : ∃ rows, before.Sound codec known rows)
    (moves : State.Step config codec known before after) :
    ∃ rows, after.Sound codec known rows := by
  obtain ⟨rows, sound⟩ := sound
  obtain ⟨event, possible, rfl⟩ := moves
  have settled : ∀ authFailed, ({ before with phase := .settled, authFailed } : State).Sound
      codec known rows := fun authFailed => sound.rest authFailed fun _ posting => by cases posting
  cases event with
  | append record => exact ⟨_, sound.append possible⟩
  | flush =>
      refine ⟨rows, ?_⟩
      rw [State.apply]
      cases phase : before.phase with
      | idle => exact sound.flush lawful
      | posting batch => exact sound
      | answered status => exact sound
      | settled => exact sound
  | answer status =>
      cases phase : before.phase with
      | posting batch =>
          cases good : isOk status with
          | true => exact ⟨_, sound.acknowledged lawful closed phase good⟩
          | false => exact ⟨rows, sound.refused phase good⟩
      | idle => exact ⟨rows, by rw [State.apply, phase]; exact sound⟩
      | answered status => exact ⟨rows, by rw [State.apply, phase]; exact sound⟩
      | settled => exact ⟨rows, by rw [State.apply, phase]; exact sound⟩
  | networkFailure =>
      refine ⟨rows, ?_⟩
      rw [State.apply]
      cases phase : before.phase with
      | posting batch => exact settled before.authFailed
      | idle => exact sound
      | answered status => exact sound
      | settled => exact sound
  | body =>
      refine ⟨rows, ?_⟩
      rw [State.apply]
      cases phase : before.phase with
      | answered status => exact settled _
      | idle => exact sound
      | posting batch => exact sound
      | settled => exact sound
  | clear =>
      refine ⟨rows, ?_⟩
      rw [State.apply]
      cases phase : before.phase with
      | settled => exact sound.rest before.authFailed fun _ posting => by cases posting
      | idle => exact sound
      | posting batch => exact sound
      | answered status => exact sound

end

end

/-! ## Runs -/

/-- A run of the process marks exactly what was acknowledged, posts nothing again
after that, and posts in the order of the file. -/
theorem marks_acknowledged {config : Config} {codec : Codec CallRecord}
    {known : CallRecord → Prop} (lawful : codec.Lawful known)
    (syncs : ∀ record, known record → known { record with synced := true }) {state : State}
    (reached : State.Reached config codec known state) :
    ∃ rows, PactStorage.readAll codec state.file = some rows ∧ MarksAcknowledged state rows := by
  have sound := Reachable.invariant (fun state => ∃ rows, state.Sound codec known rows) reached ?_
    fun _ _ sound moves => State.Sound.step lawful syncs sound moves
  · obtain ⟨rows, sound⟩ := sound
    refine ⟨rows, sound.read lawful, ?_, sound.contents, sound.ordered⟩
    intro position row found
    rw [← sound.marks, List.getElem?_map, found, Option.map_some, Option.some_inj]
  · rintro first ⟨rows, known, holds, new⟩
    rw [new]
    refine ⟨rows, holds, known, List.length_map _, ?_, fun _ member => ?_, trivial, ?_⟩
    · intro position
      simp [Acked]
    · exact absurd member List.not_mem_nil
    · exact fun _ posting => by cases posting

/-! ## A run -/

namespace Demo

def config : Config where
  backendUrl := "https://backend.demo"
  apiKey := "key"
  batchSize := 100
  keypair := none

def start : State := ⟨[], .idle, false, [], []⟩

def acknowledged : State :=
  [.append Client.Demo.record, .flush, .answer 200].foldl
    (State.apply config Client.Demo.monitorCodec) start

theorem acknowledged_reached :
    State.Reached config Client.Demo.monitorCodec Client.Demo.recorded acknowledged := by
  refine .next (.next (.next (.start ⟨[], ?_, holds_nil, rfl⟩)
    ⟨.append Client.Demo.record, .inl rfl, rfl⟩) ⟨.flush, trivial, rfl⟩)
    ⟨.answer 200, trivial, rfl⟩
  exact fun _ member => absurd member List.not_mem_nil

theorem marks_acknowledged_demo :
    ∃ rows, PactStorage.readAll Client.Demo.monitorCodec acknowledged.file = some rows ∧
      MarksAcknowledged acknowledged rows := by
  refine marks_acknowledged Client.Demo.monitor_lawful ?_ acknowledged_reached
  rintro r (rfl | rfl) <;> exact .inr rfl

example : marks Client.Demo.monitorCodec acknowledged.file = [true] := by decide +kernel

end Demo

end PactSync

end PactNetwork.Client
