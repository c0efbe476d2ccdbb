import DocumentStore.Proofs.Service.Reopening

/-!
# Requests that are refused

An operation fails before it changes anything, or in saving what it changed. A command is a single
operation, apart from an insertion, which makes its collection first; but then the collection is
there and nothing but the save is left that can fail. So a request that is refused leaves no trace
as long as every save succeeds, and neither does one that reads.
-/

namespace DocumentStore

theorem State.Recorded.alwaysSaved {state : State} {file : DataFile}
    (recorded : state.Recorded file) : state.database.AlwaysSaved state.disk := by
  intro other found
  rw [recorded.persistent] at found
  cases found
  exact recorded.ready.alwaysSaved

/-- What failed has left everything as it was before, or has failed to be saved. -/
def Result.Atomic {α : Type} (result : Result α) (before : State) : Prop :=
  ∀ error, result.answer = .error error → result.state = before ∨
    (∃ cause, error = .disk cause) ∧ ¬ before.database.AlwaysSaved before.disk

theorem Result.Atomic.map {α β : Type} {result : Result α} {before : State}
    (atomic : result.Atomic before) (f : α → β) : (result.map f).Atomic before := by
  intro error failed
  obtain ⟨answer, database, disk⟩ := result
  cases answer with
  | error error' =>
    cases failed
    exact atomic error rfl
  | ok a => cases failed

namespace Database

variable {α : Type}

theorem atomic_commit (database : Database) (disk : Disk) (change : Change α) :
    (database.commit disk change).Atomic ⟨database, disk⟩ := by
  intro error failed
  obtain ⟨later, committed, -⟩ | ⟨⟨cause, unsaved⟩, sometimes⟩ :=
    database.commit_answered disk change
  · rw [committed] at failed
    cases failed
  · rw [unsaved] at failed
    cases failed
    exact .inr ⟨⟨cause, rfl⟩, sometimes⟩

theorem atomic_attempt (database : Database) (disk : Disk)
    (change : Except StoreError (Change α)) :
    (database.attempt disk change).Atomic ⟨database, disk⟩ := by
  cases change with
  | error error => exact fun _ _ => .inl rfl
  | ok change => exact database.atomic_commit disk change

end Database

/-- A collection that was made if there was none can be inserted into. -/
theorem Memory.insert_ensure (memory : Memory) (name : String) (stamp : Stamp)
    (document : Document) :
    ∃ inserted, (memory.ensure name).memory.insert stamp name document =
      .ok ⟨document.stamped stamp, inserted, true⟩ := by
  have required : ∃ collection, (memory.ensure name).memory.require name = .ok collection := by
    rw [ensure, require]
    cases found : memory.live.get? name with
    | none => exact ⟨_, by rw [reset, Catalog.get?_insert_self]⟩
    | some collection => exact ⟨collection, by rw [found]⟩
  obtain ⟨collection, required⟩ := required
  exact ⟨_, by rw [insert, required]; rfl⟩

namespace Command

/-- An insertion makes its collection, so it finds one and only its saves can fail. -/
theorem atomic_insert (database : Database) (disk : Disk) (supply : Nat → Stamp) (name : String)
    (item : Document) :
    (execute (.insert name item) database disk supply).Atomic ⟨database, disk⟩ := by
  intro error failed
  rw [execute, Result.andThen, Database.ensure] at failed ⊢
  obtain ⟨later, ensured, stillAlways⟩ | ⟨⟨cause, unsaved⟩, sometimes⟩ :=
    database.commit_answered disk (database.memory.ensure name)
  · -- The collection is there, so the change is not rejected and only its own save is left.
    obtain ⟨after, inserted⟩ := database.memory.insert_ensure name (supply 0) item
    rw [ensured] at failed
    dsimp only at failed
    rw [Database.insert, inserted, Database.attempt] at failed
    obtain ⟨last, committed, -⟩ | ⟨⟨cause, unsaved⟩, sometimes⟩ :=
      Database.commit_answered { database with memory := (database.memory.ensure name).memory }
        later ⟨item.stamped (supply 0), after, true⟩
    · rw [committed] at failed
      cases failed
    · rw [Result.map, unsaved] at failed
      cases failed
      exact .inr ⟨⟨cause, rfl⟩, fun always => sometimes (stillAlways always)⟩
  · rw [unsaved] at failed
    cases failed
    exact .inr ⟨⟨cause, rfl⟩, sometimes⟩

/-- A command fails before it changes anything, or in saving. -/
theorem atomic_execute (command : Command) (database : Database) (disk : Disk)
    (supply : Nat → Stamp) : (command.execute database disk supply).Atomic ⟨database, disk⟩ := by
  cases command with
  | createCollection name => exact (database.atomic_commit disk _).map _
  | insert name item => exact atomic_insert database disk supply name item
  | update name item => exact (database.atomic_attempt disk _).map _
  | remove name id => exact (database.atomic_attempt disk _).map _
  | bulkInsert name items => exact (database.atomic_attempt disk _).map _
  | deleteDb => exact (database.atomic_commit disk _).map _
  | find name condition | exportCollection name | query statement => exact fun _ _ => .inl rfl

/-- Whether a command only reads. -/
def reads : Command → Bool
  | .find _ _ | .exportCollection _ | .query _ => true
  | _ => false

theorem state_execute_of_reads {command : Command} (reads : command.reads = true) (state : State)
    (supply : Nat → Stamp) :
    (command.execute state.database state.disk supply).state = state := by
  cases command with
  | find name condition | exportCollection name | query statement => rfl
  | createCollection | insert | update | remove | bulkInsert | deleteDb => cases reads

end Command

namespace Service

section

variable {database : Database} {disk : Disk} {supply : Nat → Stamp} {request : Request}
  {command : Command}

theorem respond_of_read (readable : read request = .ok command) :
    (respond database disk supply request).2 =
      ((command.execute database disk supply).database,
        (command.execute database disk supply).disk) := by
  rw [respond, readable]
  dsimp only
  split <;> rfl

/-- A command that can be read is refused only if it fails, and for the reason of its failure. -/
theorem failed_of_status (readable : read request = .ok command)
    (refused : (respond database disk supply request).1.status ≠ 200) :
    ∃ error, (command.execute database disk supply).answer = .error error ∧
      (respond database disk supply request).1 = .ofRefusal (.store error) := by
  rw [respond, readable] at refused ⊢
  dsimp only at refused ⊢
  split at refused
  · rename_i outcome _
    cases outcome <;> exact absurd rfl refused
  · rename_i error failed
    exact ⟨error, failed, rfl⟩

end

/-- A request that is refused leaves the database and the disk as they were, if every save succeeds.
Otherwise it does so too unless the answer tells that a save failed. A request that only reads
leaves them as they were in any case. -/
theorem respond_leaves_no_trace (database : Database) (disk : Disk) (supply : Nat → Stamp)
    (request : Request) :
    let answered := respond database disk supply request
    (database.AlwaysSaved disk → answered.1.status ≠ 200 → answered.2 = (database, disk)) ∧
      (answered.1.status ≠ 200 → answered.2 = (database, disk) ∨
        ∃ cause, answered.1 = .ofRefusal (.store (.disk cause))) ∧
      ∀ command, read request = .ok command → command.reads = true →
        answered.2 = (database, disk) := by
  have unchanged {command : Command} (readable : read request = .ok command)
      (same : (command.execute database disk supply).state = ⟨database, disk⟩) :
      (respond database disk supply request).2 = (database, disk) :=
    (respond_of_read readable).trans
      (congrArg (fun state : State => (state.database, state.disk)) same)
  have refusal (refused : (respond database disk supply request).1.status ≠ 200) :
      (respond database disk supply request).2 = (database, disk) ∨
        (∃ cause, (respond database disk supply request).1 = .ofRefusal (.store (.disk cause))) ∧
          ¬ database.AlwaysSaved disk := by
    rcases readable : read request with reason | command
    · left
      rw [respond, readable]
    · obtain ⟨error, failed, answered⟩ := failed_of_status readable refused
      obtain same | ⟨⟨cause, rfl⟩, sometimes⟩ :=
        command.atomic_execute database disk supply error failed
      · exact .inl (unchanged readable same)
      · exact .inr ⟨⟨cause, answered⟩, sometimes⟩
  refine ⟨fun always refused => ?_, fun refused => ?_, fun command readable reads => ?_⟩
  · exact (refusal refused).resolve_right fun unsaved => unsaved.2 always
  · exact (refusal refused).imp_right And.left
  · exact unchanged readable (Command.state_execute_of_reads reads ⟨database, disk⟩ supply)

/-- An update of a document that is not there is refused, and the collection that was made before is
kept as it was. -/
theorem respond_leaves_no_trace_of_tasks :
    let settings : Settings := ⟨"data", true, false⟩
    let send (body : Json) : Request := ⟨"POST", "/command", body.text.toUTF8⟩
    let create := send (.object [("action", .string "createCollection"),
      ("collectionName", .string "tasks")])
    let update := send (.object [("action", .string "update"), ("collectionName", .string "tasks"),
      ("item", .object [("_id", .string "other")])])
    let supply : Nat → Stamp := fun _ => ⟨"id", "time"⟩
    ∃ database, (Database.load settings Disk.empty).1 = .ok database ∧
      let state := (State.mk database (Database.load settings Disk.empty).2).serve [⟨create, supply⟩]
      let answered := respond state.database state.disk supply update
      answered.1.status = 500 ∧ answered.2 = (state.database, state.disk) := by
  intro settings send create update supply
  have served : ((Database.load settings Disk.empty).1.map fun database =>
      let state := (State.mk database (Database.load settings Disk.empty).2).serve [⟨create, supply⟩]
      (respond state.database state.disk supply update).1.status).toOption = some 500 := by
    decide +kernel
  rcases loaded : (Database.load settings Disk.empty).1 with error | database
  · rw [loaded] at served
    cases served
  · rw [loaded] at served
    have persistent : settings.persistent = true := rfl
    have recorded := (State.recorded_of_load persistent rfl (by decide) loaded
      (by decide)).serve [⟨create, supply⟩]
    have refused := Option.some.inj served
    exact ⟨database, rfl, refused, (respond_leaves_no_trace _ _ supply update).1
      recorded.alwaysSaved (ne_of_eq_of_ne refused (by decide))⟩

end Service

end DocumentStore
