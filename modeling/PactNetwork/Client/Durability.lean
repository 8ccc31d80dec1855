import PactNetwork.Client.Storage

/-!
# What survives a crash

Runs of the two files through appends, marks and crashes in the middle of an
append, with what each file still owes its reader. Both keep what they owe as
long as nothing is appended behind a torn line; the monitor's reader also fails
on the torn line itself.
-/

set_option autoImplicit false

namespace PactNetwork.Client

open LineLog

/-! ## The SDK's buffer -/

namespace FsObservationBuffer

/-- A file with the pending observations whose append had completed. -/
structure Durable where
  file : File
  owed : List PendingObservation
  deriving DecidableEq

inductive Event
  | append (obs : PendingObservation)
  | mark (callId : String)
  | crash (obs : PendingObservation) (kept : File)

section

variable (codec : Codec PendingObservation)

def Durable.apply (state : Durable) : Event → Durable
  | .append obs => ⟨append codec state.file obs, state.owed ++ [obs].filter fun o => !o.reconciled⟩
  | .mark callId =>
      ⟨markReconciled codec state.file callId, state.owed.filter fun o => o.callId ≠ callId⟩
  | .crash _ kept => ⟨state.file ++ kept, state.owed⟩

def Event.Possible (known : PendingObservation → Prop) : Event → Prop
  | .append obs => known obs
  | .mark _ => True
  | .crash obs kept => known obs ∧ kept <+: codec.line obs ++ [lineBreak] ∧
      kept ≠ codec.line obs ++ [lineBreak]

def Durable.Clear (state : Durable) : Event → Prop
  | .append _ => Intact state.file
  | .mark _ | .crash _ _ => True

def Durable.Step (known : PendingObservation → Prop) (clear : Durable → Event → Prop)
    (before after : Durable) : Prop :=
  ∃ event : Event, event.Possible codec known ∧ clear before event ∧
    after = before.apply codec event

def Durable.Reached (known : PendingObservation → Prop) (clear : Durable → Event → Prop) :
    Durable → Prop :=
  Reachable (fun first => first = ⟨[], []⟩) (Durable.Step codec known clear)

end

variable {codec : Codec PendingObservation} {known : PendingObservation → Prop}

/-- The file is whole lines and then pieces of lines, and what is owed is among the
pending observations of the whole lines. -/
structure Durable.Sound (codec : Codec PendingObservation) (known : PendingObservation → Prop)
    (state : Durable) (rows : List PendingObservation) (pieces : List File) : Prop where
  file : state.file = render codec rows ++ pieces.flatten
  read : ∀ row ∈ rows, known row
  torn : ∀ piece ∈ pieces, ∃ obs, known obs ∧ piece <+: codec.line obs
  owed : state.owed.Sublist (rows.filter fun o => !o.reconciled)

theorem unbroken_pieces (lawful : codec.Lawful known) {pieces : List File}
    (scraps : ∀ piece ∈ pieces, ∃ obs, known obs ∧ piece <+: codec.line obs) :
    lineBreak ∉ pieces.flatten := by
  intro member
  obtain ⟨piece, inside, byte⟩ := List.mem_flatten.mp member
  obtain ⟨obs, is, start⟩ := scraps piece inside
  exact lawful.unbroken obs is (start.subset byte)

theorem Durable.Sound.readable (lawful : codec.Lawful known) {state : Durable}
    {rows : List PendingObservation} {pieces : List File}
    (sound : state.Sound codec known rows pieces) :
    ∃ extra, (∀ row ∈ extra, known row) ∧ readAll codec state.file = rows ++ extra := by
  refine ⟨(readLine codec pieces.flatten).toList, ?_, ?_⟩
  · intro row member
    rw [Option.mem_toList, readLine] at member
    split at member
    · cases member
    · exact lawful.scraps pieces sound.torn row member
  · rw [FsObservationBuffer.readAll, sound.file]
    exact readLenient_render lawful sound.read (unbroken_pieces lawful sound.torn)

theorem filter_reconcile (callId : String) (rows : List PendingObservation) :
    (rows.map (reconcile callId)).filter (fun o => !o.reconciled) =
      (rows.filter fun o => !o.reconciled).filter fun o => o.callId ≠ callId := by
  induction rows with
  | nil => rfl
  | cons row rows ih =>
      rw [List.map_cons]
      cases settled : row.reconciled with
      | true =>
          have same : reconcile callId row = row := by simp [reconcile, settled]
          rw [same, List.filter_cons_of_neg (by simp [settled]),
            List.filter_cons_of_neg (by simp [settled]), ih]
      | false =>
          by_cases named : row.callId = callId
          · rw [List.filter_cons_of_neg (by simp [reconcile, settled, named]),
              List.filter_cons_of_pos (by simp [settled]),
              List.filter_cons_of_neg (by simp [named]), ih]
          · have same : reconcile callId row = row := by simp [reconcile, named]
            rw [same, List.filter_cons_of_pos (by simp [settled]),
              List.filter_cons_of_pos (by simp [settled]),
              List.filter_cons_of_pos (by simp [named]), ih]

section

variable (lawful : codec.Lawful known)
  (closed : ∀ obs, known obs → known { obs with reconciled := true })

include lawful

theorem Durable.Sound.append {state : Durable} {rows : List PendingObservation}
    {pieces : List File} (sound : state.Sound codec known rows pieces) {obs : PendingObservation}
    (is : known obs) (intact : Intact state.file) :
    (state.apply codec (.append obs)).Sound codec known (rows ++ [obs]) [] where
  file := by
    have whole : pieces.flatten = [] :=
      intact_rest (unbroken_pieces lawful sound.torn) (sound.file ▸ intact)
    rw [List.flatten_nil, List.append_nil, ← append_render]
    change LineLog.append codec state.file obs = _
    rw [sound.file, whole, List.append_nil]
  read row member := by
    rcases List.mem_append.mp member with inside | last
    · exact sound.read row inside
    · exact List.mem_singleton.mp last ▸ is
  torn _ member := absurd member List.not_mem_nil
  owed := by
    rw [List.filter_append]
    exact sound.owed.append (List.Sublist.refl _)

include closed

theorem Durable.Sound.mark {state : Durable} {rows : List PendingObservation}
    {pieces : List File} (sound : state.Sound codec known rows pieces) (callId : String) :
    ∃ rows pieces, (state.apply codec (.mark callId)).Sound codec known rows pieces := by
  obtain ⟨extra, others, read⟩ := sound.readable lawful
  by_cases changed : (readAll codec state.file).any fun o => o.callId = callId && !o.reconciled
  · refine ⟨(rows ++ extra).map (reconcile callId), [], ?_, ?_, ?_, ?_⟩
    · have filled : (rows ++ extra).map (reconcile callId) ≠ [] := by
        intro empty
        rw [read, List.map_eq_nil_iff.mp empty] at changed
        cases changed
      rw [List.flatten_nil, List.append_nil, ← rewrite_eq_render filled, ← read]
      exact if_pos changed
    · intro row member
      obtain ⟨old, inside, rfl⟩ := List.mem_map.mp member
      have is : known old := by
        rcases List.mem_append.mp inside with before | after
        · exact sound.read old before
        · exact others old after
      rw [reconcile]
      split
      · exact closed old is
      · exact is
    · exact fun _ member => absurd member List.not_mem_nil
    · rw [filter_reconcile, List.filter_append, List.filter_append]
      exact (sound.owed.filter _).trans (List.sublist_append_left _ _)
  · refine ⟨rows, pieces, ?_, sound.read, sound.torn, List.filter_sublist.trans sound.owed⟩
    exact (if_neg changed).trans sound.file

theorem Durable.Sound.step {before after : Durable}
    (sound : ∃ rows pieces, before.Sound codec known rows pieces)
    (moves : Durable.Step codec known Durable.Clear before after) :
    ∃ rows pieces, after.Sound codec known rows pieces := by
  obtain ⟨rows, pieces, sound⟩ := sound
  obtain ⟨event, possible, clear, rfl⟩ := moves
  cases event with
  | append obs => exact ⟨_, _, sound.append lawful possible clear⟩
  | mark callId => exact sound.mark lawful closed callId
  | crash obs kept =>
      obtain ⟨is, start, proper⟩ := possible
      refine ⟨rows, pieces ++ [kept], ?_, sound.read, ?_, sound.owed⟩
      · rw [List.flatten_append, List.flatten_singleton, ← List.append_assoc, ← sound.file]
        rfl
      · intro piece member
        rcases List.mem_append.mp member with inside | last
        · exact sound.torn piece inside
        · rw [List.mem_singleton.mp last]
          exact ⟨obs, is, (List.prefix_concat_iff.mp start).resolve_left proper⟩

theorem Durable.Reached.owed {state : Durable}
    (reached : Durable.Reached codec known Durable.Clear state) :
    state.owed.Sublist (loadPending codec state.file) := by
  have sound := Reachable.invariant (fun state => ∃ rows pieces,
    state.Sound codec known rows pieces) reached ?_ fun _ _ sound moves =>
      Durable.Sound.step lawful closed sound moves
  · obtain ⟨rows, pieces, sound⟩ := sound
    obtain ⟨extra, -, read⟩ := sound.readable lawful
    rw [loadPending, read, List.filter_append]
    exact sound.owed.trans (List.sublist_append_left _ _)
  · rintro first rfl
    exact ⟨[], [], rfl, fun _ member => absurd member List.not_mem_nil,
      fun _ member => absurd member List.not_mem_nil, List.Sublist.refl _⟩

end

end FsObservationBuffer

/-! ## The monitor's storage -/

namespace PactStorage

/-- A file with its records that are not marked, each with whether its append had
completed. -/
structure Durable where
  file : File
  unmarked : List (CallRecord × Bool)
  deriving DecidableEq

def Durable.owed (state : Durable) : List CallRecord :=
  (state.unmarked.filter fun entry => entry.2).map Prod.fst

inductive Event
  | append (record : CallRecord)
  | mark (count : Nat)
  | crash (record : CallRecord) (kept : File)

section

variable (codec : Codec CallRecord)

/-- A record is in the file without its line break when a crash took only that. -/
def Durable.apply (state : Durable) : Event → Durable
  | .append record => ⟨append codec state.file record,
      state.unmarked ++ ([record].filter fun r => !r.synced).map fun r => (r, true)⟩
  | .mark count =>
      match markSynced codec state.file count with
      | some file => ⟨file, state.unmarked.drop count⟩
      | none => state
  | .crash record kept => ⟨state.file ++ kept,
      if kept = codec.line record then
        state.unmarked ++ ([record].filter fun r => !r.synced).map fun r => (r, false)
      else state.unmarked⟩

def Event.Possible (known : CallRecord → Prop) : Event → Prop
  | .append record => known record
  | .mark _ => True
  | .crash record kept => known record ∧ kept <+: codec.line record ++ [lineBreak] ∧
      kept ≠ codec.line record ++ [lineBreak]

/-- A crash leaves nothing or all but the line break, and nothing is appended behind
a line without one. -/
def Durable.Clear (state : Durable) : Event → Prop
  | .append _ => Intact state.file
  | .mark _ => True
  | .crash record kept => kept = [] ∨ (kept = codec.line record ∧ Intact state.file)

def Durable.Step (known : CallRecord → Prop) (clear : Durable → Event → Prop)
    (before after : Durable) : Prop :=
  ∃ event : Event, event.Possible codec known ∧ clear before event ∧
    after = before.apply codec event

def Durable.Reached (known : CallRecord → Prop) (clear : Durable → Event → Prop) :
    Durable → Prop :=
  Reachable (fun first => first = ⟨[], []⟩) (Durable.Step codec known clear)

end

variable {codec : Codec CallRecord} {known : CallRecord → Prop}

/-- The file is blank space, whole lines, and the line of at most one more record
without its line break. -/
structure Durable.Sound (codec : Codec CallRecord) (known : CallRecord → Prop)
    (state : Durable) (front : File) (rows : List CallRecord) (rest : Option CallRecord) :
    Prop where
  file : state.file = front ++ (render codec rows ++ rest.elim [] codec.line)
  blank : ∀ byte ∈ front, isSpace byte = true
  read : ∀ row ∈ rows ++ rest.toList, known row
  unmarked : state.unmarked.map Prod.fst = (rows ++ rest.toList).filter fun r => !r.synced

section

variable (lawful : codec.Lawful known) {state : Durable} {front : File} {rows : List CallRecord}
  {rest : Option CallRecord}

include lawful

theorem Durable.Sound.readable (sound : state.Sound codec known front rows rest) :
    readAll codec state.file = some (rows ++ rest.toList) := by
  have all := sound.read
  rw [readAll, sound.file]
  cases rest with
  | none =>
      rw [Option.toList_none, List.append_nil] at all ⊢
      rw [Option.elim_none, List.append_nil]
      exact readStrict_render lawful all sound.blank
  | some record =>
      rw [Option.toList_some, List.forall_mem_append] at all
      exact readStrict_rest lawful all.1 (all.2 record (List.mem_singleton_self _)) sound.blank

theorem Durable.Sound.whole (sound : state.Sound codec known front rows rest)
    (intact : Intact state.file) : rest = none := by
  cases rest with
  | none => rfl
  | some record =>
      have is : known record :=
        sound.read record (List.mem_append_right _ (List.mem_singleton_self _))
      have file := sound.file
      rw [Option.elim_some, ← List.append_assoc] at file
      exact absurd (intact_rest (lawful.unbroken record is) (file ▸ intact))
        (line_ne_nil lawful is)

theorem Durable.Sound.append (sound : state.Sound codec known front rows rest)
    {record : CallRecord} (is : known record) (intact : Intact state.file) :
    (state.apply codec (.append record)).Sound codec known front (rows ++ [record]) none := by
  obtain rfl := sound.whole lawful intact
  have file := sound.file
  have all := sound.read
  have unmarked := sound.unmarked
  rw [Option.elim_none, List.append_nil] at file
  rw [Option.toList_none, List.append_nil] at all unmarked
  refine ⟨?_, sound.blank, ?_, ?_⟩
  · rw [Option.elim_none, List.append_nil, ← append_render, LineLog.append, ← List.append_assoc,
      ← file]
    rfl
  · rw [Option.toList_none, List.append_nil]
    rw [List.forall_mem_append]
    exact ⟨all, fun row last => List.mem_singleton.mp last ▸ is⟩
  · rw [Option.toList_none, List.append_nil, List.filter_append, ← unmarked]
    change (state.unmarked ++ _).map Prod.fst = _
    rw [List.map_append, List.map_map]
    exact congrArg _ (List.map_id _)

theorem Durable.Sound.tear (sound : state.Sound codec known front rows rest)
    {record : CallRecord} (is : known record) (intact : Intact state.file) :
    (state.apply codec (.crash record (codec.line record))).Sound codec known front rows
      (some record) := by
  obtain rfl := sound.whole lawful intact
  have file := sound.file
  have all := sound.read
  have unmarked := sound.unmarked
  rw [Option.elim_none, List.append_nil] at file
  rw [Option.toList_none, List.append_nil] at all unmarked
  refine ⟨?_, sound.blank, ?_, ?_⟩
  · rw [Option.elim_some, ← List.append_assoc, ← file]
    rfl
  · rw [Option.toList_some, List.forall_mem_append]
    exact ⟨all, fun row last => List.mem_singleton.mp last ▸ is⟩
  · rw [Option.toList_some, List.filter_append, ← unmarked]
    rw [Durable.apply, if_pos rfl, List.map_append, List.map_map]
    exact congrArg _ (List.map_id _)

theorem Durable.Sound.mark (closed : ∀ record, known record → known { record with synced := true })
    (sound : state.Sound codec known front rows rest) (count : Nat) :
    ∃ front rows, (state.apply codec (.mark count)).Sound codec known front rows none := by
  have marked : Holds codec (rewrite codec (PactStorage.mark count (rows ++ rest.toList)))
      (PactStorage.mark count (rows ++ rest.toList)) := holds_rewrite _
  have next : state.apply codec (.mark count) =
      ⟨rewrite codec (PactStorage.mark count (rows ++ rest.toList)), state.unmarked.drop count⟩ := by
    rw [Durable.apply, markSynced, sound.readable lawful]
    rfl
  have all : ∀ record ∈ PactStorage.mark count (rows ++ rest.toList), known record :=
    known_mark closed sound.read
  have left : (state.unmarked.drop count).map Prod.fst =
      (PactStorage.mark count (rows ++ rest.toList)).filter fun r => !r.synced := by
    rw [List.map_drop, sound.unmarked, filter_mark]
  obtain ⟨front, blank, file⟩ := marked
  refine ⟨front, PactStorage.mark count (rows ++ rest.toList), ?_, blank, ?_, ?_⟩
  · rw [next, file, Option.elim_none, List.append_nil]
  · rwa [Option.toList_none, List.append_nil]
  · rwa [next, Option.toList_none, List.append_nil]

theorem Durable.Sound.step (closed : ∀ record, known record → known { record with synced := true })
    {before after : Durable} (sound : ∃ front rows rest, before.Sound codec known front rows rest)
    (moves : Durable.Step codec known (Durable.Clear codec) before after) :
    ∃ front rows rest, after.Sound codec known front rows rest := by
  obtain ⟨front, rows, rest, sound⟩ := sound
  obtain ⟨event, possible, clear, rfl⟩ := moves
  cases event with
  | append record => exact ⟨_, _, _, sound.append lawful possible clear⟩
  | mark count =>
      obtain ⟨front, rows, sound⟩ := sound.mark lawful closed count
      exact ⟨front, rows, none, sound⟩
  | crash record kept =>
      rcases clear with rfl | ⟨rfl, intact⟩
      · have same : before.apply codec (.crash record []) = before := by
          rw [Durable.apply, if_neg (line_ne_nil lawful possible.1).symm, List.append_nil]
        exact ⟨front, rows, rest, by rwa [same]⟩
      · exact ⟨_, _, _, sound.tear lawful possible.1 intact⟩

theorem Durable.Reached.owed
    (closed : ∀ record, known record → known { record with synced := true })
    (reached : Durable.Reached codec known (Durable.Clear codec) state) :
    ∃ unsynced, getUnsynced codec state.file = some unsynced ∧ state.owed.Sublist unsynced := by
  have sound := Reachable.invariant (fun state => ∃ front rows rest,
    state.Sound codec known front rows rest) reached ?_ fun _ _ sound moves =>
      Durable.Sound.step lawful closed sound moves
  · obtain ⟨front, rows, rest, sound⟩ := sound
    refine ⟨_, by rw [getUnsynced, sound.readable lawful, Option.map_some], ?_⟩
    rw [← sound.unmarked]
    exact List.filter_sublist.map _
  · rintro first rfl
    have all : ∀ row ∈ ([] : List CallRecord) ++ (none : Option CallRecord).toList, known row :=
      fun _ member => absurd member List.not_mem_nil
    exact ⟨[], [], none, rfl, fun _ member => absurd member List.not_mem_nil, all, rfl⟩

end

end PactStorage

/-! ## Both logs -/

/-- Every record whose append had completed is read until it is marked, and reading
does not fail, in all runs whose events are clear. -/
structure DurableLogs (sdk : Codec PendingObservation) (observed : PendingObservation → Prop)
    (sdkClear : FsObservationBuffer.Durable → FsObservationBuffer.Event → Prop)
    (monitor : Codec CallRecord) (recorded : CallRecord → Prop)
    (monitorClear : PactStorage.Durable → PactStorage.Event → Prop) : Prop where
  loadPending : ∀ state, FsObservationBuffer.Durable.Reached sdk observed sdkClear state →
    state.owed.Sublist (FsObservationBuffer.loadPending sdk state.file)
  getUnsynced : ∀ state, PactStorage.Durable.Reached monitor recorded monitorClear state →
    ∃ unsynced, PactStorage.getUnsynced monitor state.file = some unsynced ∧
      state.owed.Sublist unsynced

theorem durable_logs {sdk : Codec PendingObservation} {observed : PendingObservation → Prop}
    {monitor : Codec CallRecord} {recorded : CallRecord → Prop} (sdkLawful : sdk.Lawful observed)
    (monitorLawful : monitor.Lawful recorded)
    (reconciles : ∀ obs, observed obs → observed { obs with reconciled := true })
    (syncs : ∀ record, recorded record → recorded { record with synced := true }) :
    DurableLogs sdk observed FsObservationBuffer.Durable.Clear monitor recorded
      (PactStorage.Durable.Clear monitor) where
  loadPending _ reached := FsObservationBuffer.Durable.Reached.owed sdkLawful reconciles reached
  getUnsynced _ reached := PactStorage.Durable.Reached.owed monitorLawful syncs reached

namespace Demo

def obs : PendingObservation :=
  ⟨"call", "agent", "demo", "api.demo", "2026", none, none, none, none, false⟩

def obsText (reconciled : String) : File :=
  ("\x7b\"callId\":\"call\",\"agentPubkey\":\"agent\",\"slug\":\"demo\",\"host\":\"api.demo\"," ++
    "\"ts\":\"2026\",\"reconciled\":" ++ reconciled ++ "\x7d").toUTF8.toList

def sdkCodec : Codec PendingObservation where
  line o := if o.reconciled then obsText "true" else obsText "false"
  parse text :=
    if text = obsText "false" then some obs
    else if text = obsText "true" then some { obs with reconciled := true }
    else none

def record : CallRecord :=
  ⟨"api.demo", "/", "2026", 200, 5, .success, none, false⟩

def recordText (synced : String) : File :=
  ("\x7b\"hostname\":\"api.demo\",\"endpoint\":\"/\",\"timestamp\":\"2026\",\"statusCode\":200," ++
    "\"latencyMs\":5,\"classification\":\"success\",\"synced\":" ++ synced ++ "\x7d").toUTF8.toList

def monitorCodec : Codec CallRecord where
  line r := if r.synced then recordText "true" else recordText "false"
  parse text :=
    if text = recordText "false" then some record
    else if text = recordText "true" then some { record with synced := true }
    else none

def observed (o : PendingObservation) : Prop := o = obs ∨ o = { obs with reconciled := true }

def recorded (r : CallRecord) : Prop := r = record ∨ r = { record with synced := true }

theorem sdk_lawful : sdkCodec.Lawful observed where
  parse_line o is := by rcases is with rfl | rfl <;> decide +kernel
  parse_nil := by decide +kernel
  unbroken o is := by rcases is with rfl | rfl <;> decide +kernel
  head_solid o is := by rcases is with rfl | rfl <;> decide +kernel
  last_solid o is := by rcases is with rfl | rfl <;> decide +kernel
  scraps pieces _ o parsed := by
    simp only [sdkCodec] at parsed
    split at parsed
    · exact .inl (Option.some.inj parsed).symm
    · split at parsed
      · exact .inr (Option.some.inj parsed).symm
      · cases parsed

theorem monitor_lawful : monitorCodec.Lawful recorded where
  parse_line r is := by rcases is with rfl | rfl <;> decide +kernel
  parse_nil := by decide +kernel
  unbroken r is := by rcases is with rfl | rfl <;> decide +kernel
  head_solid r is := by rcases is with rfl | rfl <;> decide +kernel
  last_solid r is := by rcases is with rfl | rfl <;> decide +kernel
  scraps pieces _ r parsed := by
    simp only [monitorCodec] at parsed
    split at parsed
    · exact .inl (Option.some.inj parsed).symm
    · split at parsed
      · exact .inr (Option.some.inj parsed).symm
      · cases parsed

theorem durable_logs_demo : DurableLogs sdkCodec observed FsObservationBuffer.Durable.Clear
    monitorCodec recorded (PactStorage.Durable.Clear monitorCodec) := by
  refine durable_logs sdk_lawful monitor_lawful ?_ ?_
  · rintro o (rfl | rfl) <;> exact .inr rfl
  · rintro r (rfl | rfl) <;> exact .inr rfl

def tornBuffer : FsObservationBuffer.Durable :=
  ⟨(obsText "false").take 20 ++ (obsText "false" ++ [lineBreak]), [obs]⟩

theorem tornBuffer_reached :
    FsObservationBuffer.Durable.Reached sdkCodec observed (fun _ _ => True) tornBuffer := by
  have crashed : FsObservationBuffer.Durable.Reached sdkCodec observed (fun _ _ => True)
      ⟨(obsText "false").take 20, []⟩ :=
    .next (.start rfl) ⟨.crash obs ((obsText "false").take 20),
      ⟨.inl rfl, by decide +kernel, by decide +kernel⟩, trivial, rfl⟩
  refine .next crashed ⟨.append obs, .inl rfl, trivial, ?_⟩
  decide +kernel

def tornStorage : PactStorage.Durable := ⟨(recordText "false").take 20, []⟩

theorem tornStorage_reached :
    PactStorage.Durable.Reached monitorCodec recorded (fun _ _ => True) tornStorage := by
  refine .next (.start rfl) ⟨.crash record ((recordText "false").take 20),
    ⟨.inl rfl, by decide +kernel, by decide +kernel⟩, trivial, ?_⟩
  decide +kernel

/-- The buffer loses an observation appended behind a torn line, and the monitor's
storage cannot be read. -/
theorem not_durable_logs :
    ¬(∀ state, FsObservationBuffer.Durable.Reached sdkCodec observed (fun _ _ => True) state →
      state.owed.Sublist (FsObservationBuffer.loadPending sdkCodec state.file)) ∧
    ¬(∀ state, PactStorage.Durable.Reached monitorCodec recorded (fun _ _ => True) state →
      ∃ unsynced, PactStorage.getUnsynced monitorCodec state.file = some unsynced ∧
        state.owed.Sublist unsynced) := by
  constructor
  · intro kept
    have none : FsObservationBuffer.loadPending sdkCodec tornBuffer.file = [] := by decide +kernel
    have owed := kept tornBuffer tornBuffer_reached
    rw [none] at owed
    cases owed
  · intro read
    have fails : PactStorage.getUnsynced monitorCodec tornStorage.file = none := by decide +kernel
    obtain ⟨unsynced, some, -⟩ := read tornStorage tornStorage_reached
    rw [fails] at some
    cases some

end Demo

end PactNetwork.Client
