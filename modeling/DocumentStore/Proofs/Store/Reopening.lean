import DocumentStore.Proofs.Store.Durability
import DocumentStore.Proofs.Store.Saving
import DocumentStore.Proofs.Store.Snapshot

/-!
# Reopening a database

What a flush has saved is found again when a database is opened with the same settings: the names of
all collections, and under each of them the same documents in the same order.
-/

namespace DocumentStore

namespace DataFile

theorem content_eq_of_bytes? {file : DataFile} {snapshot : Snapshot} {disk : Disk}
    (bytes : file.bytes? disk = some snapshot.encode.toUTF8) :
    file.content disk = (Snapshot.decode? snapshot.encode).getD Catalog.empty := by
  have text : String.fromUTF8? snapshot.encode.toUTF8 = some snapshot.encode := by
    rw [String.toUTF8_eq_toByteArray, String.fromUTF8?, dif_pos (String.isValidUTF8 _)]
    rfl
  rw [content, bytes, Option.bind_some, text, Option.bind_some]

theorem content_of_missing {file : DataFile} {disk : Disk} (missing : file.bytes? disk = none) :
    file.content disk = Catalog.empty := by
  rw [content, missing]
  rfl

/-- A file that was saved is loaded as it was saved, unless the disk refuses to have its directory
made. -/
theorem load_of_save {file : DataFile} {snapshot : Snapshot} {disk later : Disk}
    (storable : snapshot.Storable) (saved : file.save snapshot disk = (.ok (), later)) :
    (file.load later).1 = .ok snapshot ∨
      later.nextFate.1 ≠ .granted ∧ ∃ error, (file.load later).1 = .error error := by
  obtain ⟨made, created, keeps⟩ := keeps_of_saveSteps (steps_of_save saved)
  have bytes := bytes?_of_save saved
  have unchanged := later.read?_createDirectories file.directory file.place
  rcases again : later.createDirectories file.directory with ⟨error | ⟨⟩, opened⟩
  · refine .inr ⟨fun granted => ?_, error, by rw [load, again]⟩
    obtain ⟨rest, stands, -⟩ := Disk.createDirectories_again created keeps granted
    rw [again] at stands
    cases stands
  · rw [again] at unchanged
    have same : file.content opened = snapshot := by
      rw [content_eq_of_bytes? ((bytes?_of_read? unchanged).trans bytes),
        Snapshot.decode?_encode storable, Option.getD_some]
    exact .inl (by rw [load, again, ← same])

end DataFile

namespace Database

theorem storable_snapshot {database : Database}
    (storable : ∀ name documents, database.documents name = .ok documents →
      ∀ document ∈ documents, document.Storable) : database.memory.snapshot.Storable := by
  intro entry inside
  refine storable entry.1 entry.2 ?_
  rw [Database.documents, Memory.documents_eq, Catalog.get?_of_mem inside]

theorem names_eq (database : Database) : database.names = database.memory.snapshot.names :=
  (Catalog.names_map ..).symm

theorem shown_of_snapshot {left right : Database}
    (same : left.memory.snapshot = right.memory.snapshot) :
    left.names = right.names ∧ ∀ name, left.documents name = right.documents name := by
  refine ⟨?_, fun name => ?_⟩
  · rw [names_eq, names_eq, same]
  · rw [Database.documents, Database.documents, Memory.documents_eq, Memory.documents_eq, same]

theorem load_of_dataFile_load {settings : Settings} (persistent : settings.persistent = true)
    (disk : Disk) :
    (load settings disk).1 = match ((DataFile.ofSettings settings).load disk).1 with
      | .ok snapshot =>
        .ok ⟨Memory.ofSnapshot snapshot, some (DataFile.ofSettings settings), settings.strict⟩
      | .error error => .error (.disk error) := by
  rw [load, if_pos persistent]
  dsimp only
  rcases (DataFile.ofSettings settings).load disk with ⟨error | snapshot, later⟩ <;> rfl

theorem load_eq_ok {settings : Settings} {disk : Disk} {database : Database}
    (persistent : settings.persistent = true) (loaded : (load settings disk).1 = .ok database) :
    ∃ opened, disk.createDirectories settings.directory = (.ok (), opened) ∧
      (load settings disk).2 = opened ∧
      database = ⟨Memory.ofSnapshot ((DataFile.ofSettings settings).content opened),
        some (DataFile.ofSettings settings), settings.strict⟩ := by
  rw [load, if_pos persistent] at loaded ⊢
  dsimp only [DataFile.load, DataFile.ofSettings] at loaded ⊢
  rcases created : disk.createDirectories settings.directory with ⟨error | ⟨⟩, opened⟩ <;>
    rw [created] at loaded
  · cases loaded
  · cases loaded
    exact ⟨opened, rfl, rfl, rfl⟩

/-- After a flush that was answered, a database that is opened with the same settings has the same
collections with the same documents in the same order. It cannot be opened only if the disk refuses
to have the directory of the data file made. -/
theorem load_after_flush {settings : Settings} {database : Database} {disk : Disk}
    (persistent : settings.persistent = true)
    (configured : database.dataFile? = some (DataFile.ofSettings settings))
    (storable : ∀ name documents, database.documents name = .ok documents →
      ∀ document ∈ documents, document.Storable)
    (flushed : (database.flush disk).answer = .ok ()) :
    (∃ reopened, (load settings (database.flush disk).disk).1 = .ok reopened ∧
      reopened.names = database.names ∧
      ∀ name, reopened.documents name = database.documents name) ∨
    (database.flush disk).disk.nextFate.1 ≠ .granted ∧
      ∃ error, (load settings (database.flush disk).disk).1 = .error error := by
  obtain ⟨later, saved, result⟩ | ⟨error, later, -, result⟩ :=
    commit_cases configured disk () database.memory
  · change database.flush disk = _ at result
    rw [result, load_of_dataFile_load persistent]
    obtain loaded | ⟨refused, error, failed⟩ :=
      DataFile.load_of_save (storable_snapshot storable) saved
    · rw [loaded]
      exact .inl ⟨_, rfl, shown_of_snapshot (Memory.snapshot_ofSnapshot _)⟩
    · rw [failed]
      exact .inr ⟨refused, _, rfl⟩
  · change database.flush disk = _ at result
    rw [result] at flushed
    cases flushed

/-- A collection without documents, and one with a document of empty and nested values, numbers of
all kinds and characters that must be escaped. -/
theorem load_after_flush_of_nested :
    let settings : Settings := ⟨"data", true, false⟩
    let document := Document.ofFields
      [("a \"name\"", .array [.array [], .object [], .number (.integer (-7)),
        .number (.float 0.5), .string "\\ \n \x01 ü"])]
    let snapshot : Snapshot := ⟨[("", []), ("tasks", [document])], List.pairwise_pair.2 (by decide)⟩
    let database : Database := ⟨Memory.ofSnapshot snapshot, some ⟨"data"⟩, false⟩
    ∃ reopened, (load settings (database.flush Disk.empty).disk).1 = .ok reopened ∧
      reopened.names = database.names ∧
      ∀ name, reopened.documents name = database.documents name := by
  intro settings document snapshot database
  have float : (Number.float 0.5).Kept := by
    have cut : Json.Lexeme.readAll? (Json.writeNumber (.float 0.5)) =
      some [.number (some (.float 0.5))] := by decide +kernel
    rw [Number.Kept, Json.read?, Json.readIgnoring?, cut]
    rfl
  have storable : document.Storable := by
    refine ⟨by decide, ⟨trivial, trivial, ?_, float, trivial, trivial⟩, trivial⟩
    exact ⟨by decide, by decide⟩
  have all : ∀ name documents, database.documents name = .ok documents →
      ∀ document ∈ documents, document.Storable := by
    intro name documents shown other inside
    rw [Database.documents, Memory.documents_eq, Memory.snapshot_ofSnapshot] at shown
    cases found : snapshot.get? name with
    | none =>
      rw [found] at shown
      cases shown
    | some stored =>
      rw [found] at shown
      cases shown
      rcases List.mem_cons.1 (Entries.mem_of_get? found) with empty | tasks
      · cases empty
        cases inside
      · cases List.mem_singleton.1 tasks
        rw [List.mem_singleton.1 inside]
        exact storable
  have persistent : settings.persistent = true := rfl
  have configured : database.dataFile? = some (DataFile.ofSettings settings) := rfl
  have flushed : (database.flush Disk.empty).answer = .ok () := by decide +kernel
  obtain restored | ⟨refused, -⟩ := load_after_flush persistent configured all flushed
  · exact restored
  · exact absurd (by decide +kernel) refused

end Database

end DocumentStore
