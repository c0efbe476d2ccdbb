import DocumentStore.Proofs.Json.Doubles
import DocumentStore.Proofs.Service.Requests
import DocumentStore.Proofs.Store.Reopening

/-!
# Reopening after requests

A database that is opened on an empty directory, on a disk that grants every access, saves each of
its changes. So the data file holds the collections after every request, and whether they are found
again when the database is opened once more depends on the depth of the documents alone: the reader
takes 127 levels, of which the file needs two around each document. A request needs only one level
around a document, so there are documents that can be stored and not be loaded.
-/

namespace DocumentStore

namespace State

variable {state : State} {file : DataFile}

/-- The data file of a state can be saved and holds the collections, unless there are none and the
file was never written. All their numbers fit 64 bits. -/
structure Recorded (state : State) (file : DataFile) : Prop where
  persistent : state.database.dataFile? = some file
  ready : file.Ready state.disk
  holds : file.bytes? state.disk = some state.encoded ∨
    file.bytes? state.disk = none ∧ state.snapshot = Catalog.empty
  fit : state.snapshot.NumbersFit

theorem Recorded.next (recorded : state.Recorded file) {call : Call}
    (fit : ∀ document ∈ call.operation.brought, document.NumbersFit) :
    (state.next call).Recorded file := by
  have after := recorded.fit.after call.supply fit
  have effect := state.database.effect_change call.supply call.operation
  generalize asked : state.database.change call.supply call.operation = change at effect
  have performed : state.next call =
      ⟨(state.database.attempt state.disk change).database,
        (state.database.attempt state.disk change).disk⟩ := by
    rw [State.next, event, Database.perform_eq_attempt, asked]
    rfl
  rw [performed]
  cases effect with
  | rejected | unsaved => exact recorded
  | saved answer changed =>
    obtain ⟨later, saved, ready⟩ := DataFile.save_of_ready recorded.ready _
    obtain ⟨later', saved', committed⟩ | ⟨error, later', failed, -⟩ :=
      Database.commit_cases recorded.persistent state.disk answer _
    · rw [saved] at saved'
      cases saved'
      rw [State.snapshot, changed] at after
      rw [Database.attempt, committed]
      exact ⟨recorded.persistent, ready, .inl (DataFile.bytes?_of_save saved), after⟩
    · rw [saved] at failed
      cases failed

theorem Recorded.run (recorded : state.Recorded file) {calls : List Call}
    (fit : ∀ call ∈ calls, ∀ document ∈ call.operation.brought, document.NumbersFit) :
    (state.run calls).Recorded file := by
  induction calls generalizing state with
  | nil => exact recorded
  | cons call calls ih =>
    obtain ⟨first, others⟩ := List.forall_mem_cons.1 fit
    exact ih (recorded.next first) others

theorem Recorded.serve (recorded : state.Recorded file) (exchanges : List Exchange) :
    (state.serve exchanges).Recorded file := by
  obtain ⟨calls, fit, served⟩ := state.serve_eq_run exchanges
  rw [served]
  exact recorded.run fit

theorem recorded_of_load {settings : Settings} {disk : Disk} {database : Database}
    (persistent : settings.persistent = true) (granting : disk.fates = [])
    (fine : Path.error? (DataFile.ofSettings settings).temporaryPath = none)
    (loaded : (Database.load settings disk).1 = .ok database)
    (empty : (Database.load settings disk).2.names (Path.location settings.directory) = []) :
    (State.mk database (Database.load settings disk).2).Recorded
      (DataFile.ofSettings settings) := by
  obtain ⟨opened, created, rest, rfl⟩ := Database.load_eq_ok persistent loaded
  rw [rest] at empty ⊢
  have nothing : opened.node? (DataFile.ofSettings settings).place = none :=
    Disk.node?_of_names_eq_nil empty
  have nothingElse : opened.node? (DataFile.ofSettings settings).temporaryPlace = none :=
    Disk.node?_of_names_eq_nil empty
  have free {place : Place} (nothing : opened.node? place = none) (inner : Directory) :
      opened.node? place ≠ some (.directory inner) := by
    rw [nothing]
    exact (Option.some_ne_none _).symm
  have missing : (DataFile.ofSettings settings).bytes? opened = none := by
    rw [DataFile.bytes?, DataFile.path_fine_of_temporaryPath fine]
    dsimp only
    rw [Disk.read?, nothing]
  have stillGranting := Disk.fates_createDirectories granting created
  rw [DataFile.content_of_missing missing]
  exact {
    persistent := rfl
    ready := {
      granting := stillGranting
      fine := fine
      made := Disk.createDirectories_of_granting created (fun _ stands => stands) stillGranting
      holder := Disk.directory?_of_createDirectories created
      free := free nothing
      temporaryFree := free nothingElse }
    holds := .inr ⟨missing, rfl⟩
    fit := Snapshot.numbersFit_empty }

/-- A database whose collections are in the data file opens again. It has the same names, or no name
at all if a document is nested too deeply. -/
theorem Recorded.load {settings : Settings}
    (recorded : state.Recorded (DataFile.ofSettings settings))
    (persistent : settings.persistent = true) :
    ∃ reopened, (Database.load settings state.disk).1 = .ok reopened ∧
      (state.snapshot.Shallow ∧ reopened.names = state.database.names ∨
        ¬ state.snapshot.Shallow ∧ reopened.names = []) := by
  have reopens : (Database.load settings state.disk).1 =
      .ok ⟨Memory.ofSnapshot ((DataFile.ofSettings settings).content state.disk),
        some (DataFile.ofSettings settings), settings.strict⟩ := by
    rw [Database.load_of_dataFile_load persistent, DataFile.load, recorded.ready.made]
  refine ⟨_, reopens, ?_⟩
  rw [Database.names_eq, Database.names_eq, Memory.snapshot_ofSnapshot]
  change _ ∧ _ = state.snapshot.names ∨ _
  rcases recorded.holds with holds | ⟨missing, empty⟩
  · have readable : state.snapshot.NumbersReadable := fun entry stored document member n inside =>
      Number.readable_of_fits (recorded.fit entry stored document member n inside)
    rw [DataFile.content_eq_of_bytes? holds]
    obtain ⟨shallow, reread, decoded, names⟩ | ⟨deep, refused⟩ :=
      Snapshot.decode?_encode_of_readable readable
    · rw [decoded]
      exact .inl ⟨shallow, names⟩
    · rw [refused]
      exact .inr ⟨deep, rfl⟩
  · rw [DataFile.content_of_missing missing, empty]
    exact .inl ⟨Snapshot.shallow_empty, rfl⟩

end State

/-- A request for an insertion is read if the reader can cut its body and the body is not nested too
deeply. -/
theorem Service.read_insert {name : String} {fields : List (String × Json)} :
    let body := Json.object [("action", .string "insert"), ("collectionName", .string name),
      ("item", .object fields)]
    Json.Lexeme.readAll? (body.compact []) = some body.lexemes → body.depth ≤ Json.maxDepth →
    (Json.object fields).Ordered →
    Service.read ⟨"POST", "/command", body.text.toUTF8⟩ =
      .ok (.insert name (Document.ofFields fields)) := by
  intro body cut fits ordered
  have parsed : Json.read? body.text.toList = some body := by
    rw [Json.text, String.toList_ofList]
    exact Json.read?_of_lexemes cut fits
  have names : ["action", "collectionName", "item"].Pairwise (· < ·) := by decide
  have arranged := Service.readBody_toUTF8 parsed
  rw [Json.arrange_of_ordered
    (show body.Ordered from ⟨Entries.ordered_iff_names.2 names, trivial, trivial, ordered, trivial⟩)]
    at arranged
  rw [Service.read, arranged]
  exact Service.readCommand_insert name fields

namespace Database

/-- A database that is opened on an empty directory, on a disk that grants every access, opens again
after any requests. It finds its collections if and only if no stored document is nested more than
125 levels deep; otherwise it finds none. -/
theorem load_after_requests {settings : Settings} {disk : Disk} {database : Database}
    (persistent : settings.persistent = true) (granting : disk.fates = [])
    (fine : Path.error? (DataFile.ofSettings settings).temporaryPath = none)
    (loaded : (load settings disk).1 = .ok database)
    (empty : (load settings disk).2.names (Path.location settings.directory) = [])
    (exchanges : List Exchange) :
    let state := (State.mk database (load settings disk).2).serve exchanges
    ∃ reopened, (load settings state.disk).1 = .ok reopened ∧
      (reopened.names = state.database.names ↔ state.snapshot.Shallow) ∧
      (¬ state.snapshot.Shallow → reopened.names = []) := by
  intro state
  have recorded := (State.recorded_of_load persistent granting fine loaded empty).serve exchanges
  obtain ⟨reopened, opened, outcome⟩ := recorded.load persistent
  refine ⟨reopened, opened, ?_⟩
  obtain ⟨shallow, names⟩ | ⟨deep, names⟩ := outcome
  · exact ⟨iff_of_true names shallow, fun deep => absurd shallow deep⟩
  · refine ⟨iff_of_false ?_ deep, fun _ => names⟩
    -- A document that is nested too deeply stands in a collection, and this has a name.
    rw [names, names_eq]
    intro none
    have entries : state.snapshot.entries = [] := List.map_eq_nil_iff.1 none.symm
    exact deep fun entry stored => by
      rw [entries] at stored
      cases stored

/-- A document with an array in an array is found again. -/
theorem load_after_requests_of_tasks :
    let settings : Settings := ⟨"data", true, false⟩
    let body := Json.object [("action", .string "insert"), ("collectionName", .string "tasks"),
      ("item", .object [("tags", .array [.array [.number (.integer 1)]])])]
    let exchange : Exchange := ⟨⟨"POST", "/command", body.text.toUTF8⟩, fun _ => ⟨"id", "time"⟩⟩
    ∃ database, (load settings Disk.empty).1 = .ok database ∧
      let state := (State.mk database (load settings Disk.empty).2).serve [exchange]
      ∃ reopened, (load settings state.disk).1 = .ok reopened ∧ reopened.names = ["tasks"] := by
  intro settings body exchange
  have served : (match load settings Disk.empty with
      | (.ok database, opened) =>
        decide (((State.mk database opened).serve [exchange]).database.names = ["tasks"]) &&
          decide ((State.mk database opened).serve [exchange]).snapshot.Shallow
      | (.error _, _) => false) = true := by decide +kernel
  rcases opened : load settings Disk.empty with ⟨error | database, disk⟩
  · rw [opened] at served
    cases served
  · rw [opened] at served
    simp only [Bool.and_eq_true, decide_eq_true_eq] at served
    have loaded : (load settings Disk.empty).1 = .ok database := by rw [opened]
    have persistent : settings.persistent = true := rfl
    obtain ⟨reopened, again, names, -⟩ := load_after_requests persistent rfl (by decide +kernel)
      loaded (by decide +kernel) [exchange]
    rw [opened] at again names
    exact ⟨database, rfl, reopened, again, (names.2 served.2).trans served.1⟩

/-- As many arrays in each other as given, around null. -/
def nest : Nat → Json
  | 0 => .null
  | n + 1 => .array [nest n]

theorem ordered_nest : ∀ n, (nest n).Ordered
  | 0 => trivial
  | n + 1 => ⟨ordered_nest n, trivial⟩

/-- A request can bring a document of 126 levels. It is stored, but the database that has it opens
empty. -/
theorem load_loses_nested :
    let settings : Settings := ⟨"data", true, false⟩
    let body := Json.object [("action", .string "insert"), ("collectionName", .string "c"),
      ("item", .object [("a", nest 125)])]
    let exchange : Exchange := ⟨⟨"POST", "/command", body.text.toUTF8⟩, fun _ => ⟨"id", "time"⟩⟩
    ∃ database, (load settings Disk.empty).1 = .ok database ∧
      let state := (State.mk database (load settings Disk.empty).2).serve [exchange]
      state.database.names = ["c"] ∧
        ∃ reopened, (load settings state.disk).1 = .ok reopened ∧ reopened.names = [] := by
  intro settings body exchange
  let item := Document.ofFields [("a", nest 125)]
  have read : Service.read exchange.request = .ok (.insert "c" item) :=
    Service.read_insert (by decide +kernel) (by decide +kernel)
      ⟨List.pairwise_singleton _ _, ordered_nest 125, trivial⟩
  have served : (match load settings Disk.empty with
      | (.ok database, opened) =>
        let state := (Command.execute (.insert "c" item) database opened exchange.supply).state
        decide (state.database.names = ["c"]) && !decide state.snapshot.Shallow
      | (.error _, _) => false) = true := by decide +kernel
  rcases opened : load settings Disk.empty with ⟨error | database, disk⟩
  · rw [opened] at served
    cases served
  · rw [opened] at served
    simp only [Bool.and_eq_true, Bool.not_eq_true', decide_eq_true_eq, decide_eq_false_iff_not]
      at served
    have once : (State.mk database disk).serve [exchange] =
        (Command.execute (.insert "c" item) database disk exchange.supply).state := by
      rw [State.serve, List.foldl_cons, List.foldl_nil]
      exact State.answer_of_read read ⟨database, disk⟩
    rw [← once] at served
    have persistent : settings.persistent = true := rfl
    have loaded : (load settings Disk.empty).1 = .ok database := by rw [opened]
    have recorded := State.recorded_of_load persistent rfl (by decide +kernel) loaded
      (by decide +kernel)
    rw [opened] at recorded
    obtain ⟨reopened, again, outcome⟩ := (recorded.serve [exchange]).load persistent
    obtain ⟨shallow, -⟩ | ⟨-, none⟩ := outcome
    · exact absurd shallow served.2
    · exact ⟨database, rfl, served.1, reopened, again, none⟩

end Database

end DocumentStore
