import DocumentStore.Proofs.Store.DataFile
import DocumentStore.Proofs.Store.Effects

/-!
# Durability

A run carries out operations one after the other, whatever becomes of their saves. At its end the
data file holds what the last save that succeeded wrote, the memory has taken over every change,
and the two agree as soon as the last change, or a flush after it, was answered.
-/

namespace DocumentStore

/-- A call of an operation, with the stamps that it may use. -/
structure Call where
  operation : Operation
  supply : Nat → Stamp

/-- A database and the disk that it is saved on. -/
structure State where
  database : Database
  disk : Disk

/-- A call that was carried out. -/
structure Event where
  call : Call
  before : State
  result : Result Answer

/-- Whether an operation that gives an answer has saved the collections: reading never does, and
neither does an operation that finds nothing to change. -/
def Operation.saves : Operation → Answer → Bool
  | .ensure _, .created made => made
  | .remove _ _, .removed removed => removed
  | .names, _ | .documents _, _ | .find _ _, _ | .query _, _ => false
  | _, _ => true

namespace State

/-- The collections in memory. -/
def snapshot (state : State) : Snapshot := state.database.memory.snapshot

/-- The bytes that a save of the state writes. -/
def encoded (state : State) : ByteArray := state.snapshot.encode.toUTF8

end State

namespace Event

/-- The state after an event. -/
def after (event : Event) : State := ⟨event.result.database, event.result.disk⟩

/-- An event ended in an answer, not in an error. -/
def Answered (event : Event) : Prop := ∃ answer, event.result.answer = .ok answer

/-- An event changed the collections. -/
def Changed (event : Event) : Prop := event.after.snapshot ≠ event.before.snapshot

/-- Whether an event saved the collections, and the save succeeded. -/
def saved (event : Event) : Bool :=
  match event.result.answer with
  | .ok answer => event.call.operation.saves answer
  | .error _ => false

/-- What the data file holds after an event, from what it held before. -/
def written (bytes : Option ByteArray) (event : Event) : Option ByteArray :=
  if event.saved then some event.after.encoded else bytes

/-- What the last event that saved has written, or what was there if none has. -/
def lastWritten (initial : Option ByteArray) (events : List Event) : Option ByteArray :=
  events.foldl written initial

end Event

namespace State

/-- Carries out a call. -/
def event (state : State) (call : Call) : Event :=
  ⟨call, state, state.database.perform state.disk call.supply call.operation⟩

/-- The state after a call. -/
def next (state : State) (call : Call) : State := (state.event call).after

/-- The state after a run. -/
def run (state : State) (calls : List Call) : State := calls.foldl next state

/-- The events of a run. -/
def history (state : State) : List Call → List Event
  | [] => []
  | call :: calls => state.event call :: (state.next call).history calls

end State

/-- The collections after a call. -/
def Snapshot.afterCall (snapshot : Snapshot) (call : Call) : Snapshot :=
  snapshot.after call.supply call.operation

namespace Database

theorem saves_of_change {database : Database} {supply : Nat → Stamp} {operation : Operation}
    {change : Change Answer} (asked : database.change supply operation = .ok change) :
    change.saves = operation.saves change.answer := by
  cases operation with
  | create name | clear | flush | names =>
    cases asked
    rfl
  | ensure name =>
    cases asked
    unfold Memory.ensure
    split <;> rfl
  | insert name document | insertAll name documents =>
    obtain ⟨_, inserted, rfl⟩ := map_eq_ok_iff.mp asked
    obtain ⟨collection, -, stored⟩ := bind_eq_ok_iff.mp inserted
    cases stored
    rfl
  | update name changes =>
    obtain ⟨_, updated, rfl⟩ := map_eq_ok_iff.mp asked
    obtain ⟨collection, -, stored⟩ := bind_eq_ok_iff.mp updated
    split at stored
    · cases stored
    · split at stored
      · cases stored
      · cases stored
        rfl
  | remove name id =>
    obtain ⟨_, removed, rfl⟩ := map_eq_ok_iff.mp asked
    obtain ⟨collection, -, stored⟩ := bind_eq_ok_iff.mp removed
    dsimp only at stored
    split at stored <;> (cases stored; rfl)
  | documents name | find name condition | query statement =>
    obtain ⟨documents, -, rfl⟩ := map_eq_ok_iff.mp asked
    rfl

/-- A change that is to be saved is taken over whether or not the save succeeds. -/
theorem commit_cases {α : Type} {database : Database} {file : DataFile}
    (persistent : database.dataFile? = some file) (disk : Disk) (answer : α)
    (memory : Memory) :
    (∃ disk', file.save memory.snapshot disk = (.ok (), disk') ∧
      database.commit disk ⟨answer, memory, true⟩ =
        ⟨.ok answer, { database with memory }, disk'⟩) ∨
    ∃ error disk', file.save memory.snapshot disk = (.error error, disk') ∧
      database.commit disk ⟨answer, memory, true⟩ =
        ⟨.error (.disk error), { database with memory }, disk'⟩ := by
  rw [commit_saved]
  rcases outcome : file.save memory.snapshot disk with ⟨error | ⟨⟩, disk'⟩
  · exact .inr ⟨error, disk', rfl, by simp [save, persistent, outcome, Except.map]⟩
  · exact .inl ⟨disk', rfl, by simp [save, persistent, outcome, Except.map]⟩

end Database

namespace Event

theorem saved_of_answer {event : Event} {answer : Answer}
    (answered : event.result.answer = .ok answer) :
    event.saved = event.call.operation.saves answer := by
  rw [saved, answered]

theorem answered_of_saved {event : Event} (isSaved : event.saved = true) : event.Answered := by
  unfold saved at isSaved
  split at isSaved
  · rename_i answer answered
    exact ⟨answer, answered⟩
  · cases isSaved

/-- What an event of a database with a data file does to the file and to the collections. -/
structure Sound (event : Event) (file : DataFile) : Prop where
  persistent : event.after.database.dataFile? = some file
  snapshot : event.after.snapshot = event.before.snapshot.afterCall event.call
  bytes : file.bytes? event.after.disk = written (file.bytes? event.before.disk) event
  saved : event.Answered → event.Changed ∨ event.call.operation = .flush → event.saved = true

end Event

namespace State

theorem sound_event {state : State} {file : DataFile}
    (persistent : state.database.dataFile? = some file) (call : Call) :
    (state.event call).Sound file := by
  have effect := state.database.effect_change call.supply call.operation
  generalize asked : state.database.change call.supply call.operation = change at effect
  have performed : state.event call =
      ⟨call, state, state.database.attempt state.disk change⟩ := by
    rw [event, Database.perform_eq_attempt, asked]
  rw [performed]
  cases effect with
  | rejected error same =>
    refine ⟨persistent, same.symm, rfl, ?_⟩
    rintro ⟨answer, answered⟩
    cases answered
  | unsaved answer same =>
    have unsaved : false = call.operation.saves answer := Database.saves_of_change asked
    refine ⟨persistent, same.symm, ?_, ?_⟩
    · rw [Event.written, Event.saved_of_answer rfl, ← unsaved]
      rfl
    · rintro - (changed | flushed)
      · exact absurd rfl changed
      · change call.operation = .flush at flushed
        rw [flushed] at unsaved
        cases unsaved
  | saved answer changed =>
    have saves : true = call.operation.saves answer := Database.saves_of_change asked
    obtain ⟨disk', saved, committed⟩ | ⟨error, disk', failed, committed⟩ :=
      Database.commit_cases persistent state.disk answer _
    · rw [Database.attempt, committed]
      refine ⟨persistent, changed.symm, ?_, fun _ _ => saves.symm⟩
      rw [Event.written, Event.saved_of_answer rfl, ← saves]
      exact DataFile.bytes?_of_save saved
    · rw [Database.attempt, committed]
      refine ⟨persistent, changed.symm, DataFile.bytes?_of_failed_save failed, ?_⟩
      rintro ⟨answer, answered⟩
      cases answered

theorem run_persistent {state : State} {file : DataFile}
    (persistent : state.database.dataFile? = some file) (calls : List Call) :
    (state.run calls).database.dataFile? = some file := by
  induction calls generalizing state with
  | nil => exact persistent
  | cons call calls ih => exact ih (sound_event persistent call).persistent

theorem bytes?_run {state : State} {file : DataFile}
    (persistent : state.database.dataFile? = some file) (calls : List Call) :
    file.bytes? (state.run calls).disk =
      Event.lastWritten (file.bytes? state.disk) (state.history calls) := by
  induction calls generalizing state with
  | nil => rfl
  | cons call calls ih =>
    have sound := sound_event persistent call
    rw [history, Event.lastWritten, List.foldl_cons]
    exact (ih sound.persistent).trans (congrArg (List.foldl _ · _) sound.bytes)

theorem snapshot_run {state : State} {file : DataFile}
    (persistent : state.database.dataFile? = some file) (calls : List Call) :
    (state.run calls).snapshot = calls.foldl Snapshot.afterCall state.snapshot := by
  induction calls generalizing state with
  | nil => rfl
  | cons call calls ih =>
    have sound := sound_event persistent call
    rw [List.foldl_cons]
    exact (ih sound.persistent).trans (congrArg (List.foldl _ · _) sound.snapshot)

/-- Every event of a run is the call of a state that the run reaches. -/
theorem split_history {state : State} {calls : List Call} {earlier later : List Event}
    {event : Event} (split : state.history calls = earlier ++ event :: later) :
    ∃ before call after, calls = before ++ call :: after ∧
      event = (state.run before).event call ∧
      later = ((state.run before).next call).history after := by
  induction earlier generalizing state calls with
  | nil =>
    cases calls with
    | nil => cases split
    | cons call calls =>
      obtain ⟨rfl, rfl⟩ := List.cons.inj split
      exact ⟨[], call, calls, rfl, rfl, rfl⟩
  | cons first earlier ih =>
    cases calls with
    | nil => cases split
    | cons call calls =>
      obtain ⟨-, rest⟩ := List.cons.inj split
      obtain ⟨before, other, after, rfl, this, those⟩ := ih rest
      exact ⟨call :: before, other, after, rfl, this, those⟩

/-- Once the data file holds the collections, it does so until they change. -/
theorem encoded_run {state : State} {file : DataFile}
    (persistent : state.database.dataFile? = some file)
    (holds : file.bytes? state.disk = some state.encoded) {calls : List Call}
    (quiet : ∀ event ∈ state.history calls, ¬ event.Changed) :
    file.bytes? (state.run calls).disk = some (state.run calls).encoded := by
  induction calls generalizing state with
  | nil => exact holds
  | cons call calls ih =>
    have sound := sound_event persistent call
    obtain ⟨unchanged, quiet⟩ := List.forall_mem_cons.1 quiet
    refine ih sound.persistent ?_ quiet
    have same : (state.next call).encoded = state.encoded :=
      congrArg (fun snapshot : Snapshot => snapshot.encode.toUTF8) (Classical.not_not.1 unchanged)
    refine sound.bytes.trans ?_
    rw [Event.written]
    split
    · rfl
    · exact holds.trans (congrArg some same.symm)

/-- After any run of a database with a data file, whatever becomes of the saves: the data file holds
what the last save that succeeded wrote; the memory has taken over every change, that of a failed
save included; and once the last event that changed the collections, or a flush after it, was
answered, the file holds exactly the collections in memory. -/
theorem run_durable {state : State} {file : DataFile}
    (persistent : state.database.dataFile? = some file) (calls : List Call) :
    file.bytes? (state.run calls).disk =
        Event.lastWritten (file.bytes? state.disk) (state.history calls) ∧
      (state.run calls).snapshot = calls.foldl Snapshot.afterCall state.snapshot ∧
      ∀ earlier event later, state.history calls = earlier ++ event :: later →
        event.Changed ∨ event.call.operation = .flush → event.Answered →
        (∀ other ∈ later, ¬ other.Changed) →
        file.bytes? (state.run calls).disk = some (state.run calls).encoded := by
  refine ⟨bytes?_run persistent calls, snapshot_run persistent calls, ?_⟩
  intro earlier event later split last answered quiet
  obtain ⟨before, call, after, rfl, rfl, rfl⟩ := split_history split
  have sound := sound_event (run_persistent persistent before) call
  have holds : file.bytes? ((state.run before).next call).disk =
      some ((state.run before).next call).encoded := by
    refine sound.bytes.trans ?_
    rw [Event.written, if_pos (sound.saved answered last)]
    rfl
  rw [run, List.foldl_append]
  exact encoded_run sound.persistent holds quiet

/-- A disk that is full once a directory is made loses nothing: the next flush saves the collection
that the memory has kept. -/
theorem flush_makes_up :
    let file : DataFile := ⟨"data"⟩
    let state : State := ⟨⟨Memory.empty, some file, false⟩, ⟨[], [.granted, .full 3]⟩⟩
    let create : Call := ⟨.create "tasks", fun _ => ⟨"", ""⟩⟩
    let flush : Call := ⟨.flush, create.supply⟩
    (state.event create).saved = false ∧
      file.bytes? (state.run [create]).disk = none ∧
      file.bytes? (state.run [create, flush]).disk = some (state.run [create, flush]).encoded := by
  intro file state create flush
  have persistent : state.database.dataFile? = some file := rfl
  have failed : (state.event create).saved = false := by decide +kernel
  have saved : ((state.next create).event flush).saved = true := by decide +kernel
  refine ⟨failed, ?_, ?_⟩
  · have bytes := (run_durable persistent [create]).1
    rw [history, Event.lastWritten, List.foldl_cons, Event.written, failed] at bytes
    have missing : file.bytes? state.disk = none := by decide +kernel
    exact bytes.trans missing
  · have durable := (run_durable persistent [create, flush]).2.2
    refine durable [state.event create] _ [] rfl (.inr rfl) (Event.answered_of_saved saved) ?_
    simp

end State

end DocumentStore
