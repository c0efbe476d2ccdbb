import DocumentStore.Proofs.Catalog
import DocumentStore.Proofs.Disk.Directories
import DocumentStore.Proofs.Store.Durability

/-!
# Saves that succeed

On a disk that grants every access a data file can be saved as soon as its directory stands and no
directory is in the way of its two files. A save leaves all of that as it is, so the next one
succeeds too, and all that follow.
-/

namespace DocumentStore

namespace Disk

theorem obstacle?_eq_none {disk : Disk} {place : Place}
    (holder : (disk.directory? place.location).isSome)
    (free : ∀ inner, disk.node? place ≠ some (.directory inner))
    (short : place.name.utf8ByteSize ≤ Path.maxNameSize) : disk.obstacle? place = none := by
  obtain ⟨directory, stands⟩ := Option.isSome_iff_exists.1 holder
  rw [obstacle?, stands, find, if_neg (Nat.not_lt.2 short)]
  cases node : disk.node? place with
  | none => rfl
  | some node' =>
    cases node' with
    | file content => rfl
    | directory inner => exact absurd node (free inner)

theorem node?_put_beside {place other : Place} (together : other.location = place.location)
    (different : other.name ≠ place.name) (disk : Disk) (node : Node) :
    (disk.put place node).node? other = disk.node? other := by
  simp only [node?, directory?, put, together, Directory.at?_change_self]
  cases disk.root.at? place.location with
  | none => rfl
  | some directory => exact Entries.get?_put_of_ne different node directory

theorem node?_erase_self (disk : Disk) (place : Place) : (disk.erase place).node? place = none := by
  simp only [node?, directory?, erase, Directory.at?_change_self]
  cases disk.root.at? place.location with
  | none => rfl
  | some directory => exact Entries.get?_eq_none_iff.2 (by simp)

theorem write_of_granting {disk : Disk} {place : Place} (granting : disk.fates = [])
    (free : disk.obstacle? place = none) (content : ByteArray) :
    disk.write place content = (.ok (), disk.put place (.file content)) := by
  rw [write, nextFate_of_granting granting]
  dsimp only
  rw [free]

theorem rename_of_granting {disk : Disk} {source target : Place} {content : ByteArray}
    (granting : disk.fates = []) (stands : disk.read? source = some content)
    (free : disk.obstacle? target = none) :
    disk.rename source target =
      (.ok (), (disk.erase source).put target (.file content)) := by
  rw [rename, nextFate_of_granting granting]
  dsimp only
  rw [stands, free]

end Disk

namespace DataFile

theorem keeps_of_saveSteps {file : DataFile} {snapshot : Snapshot} {disk later : Disk}
    (saved : SaveSteps file snapshot disk later) :
    ∃ made, disk.createDirectories file.directory = (.ok (), made) ∧ made.Keeps later := by
  obtain ⟨made, written, created, wrote, moved⟩ := saved.steps
  have together : file.place.location = file.temporaryPlace.location := rfl
  have different : file.place.name ≠ file.temporaryPlace.name :=
    show Settings.dataFileName ≠ Settings.dataFileName ++ ".tmp" from by decide
  exact ⟨made, created, (Disk.keeps_of_write_eq_ok wrote).trans
    (Disk.keeps_of_rename_eq_ok together different moved)⟩

/-- A data file can be saved: the disk grants every access, the directory of the file stands, and
no directory stands where the file or its temporary one is put. -/
structure Ready (file : DataFile) (disk : Disk) : Prop where
  granting : disk.fates = []
  fine : Path.error? file.temporaryPath = none
  made : disk.createDirectories file.directory = (.ok (), disk)
  holder : (disk.directory? file.place.location).isSome
  free : ∀ inner, disk.node? file.place ≠ some (.directory inner)
  temporaryFree : ∀ inner, disk.node? file.temporaryPlace ≠ some (.directory inner)

/-- A file that can be saved is saved, and can be saved again. -/
theorem save_of_ready {file : DataFile} {disk : Disk} (ready : file.Ready disk)
    (snapshot : Snapshot) :
    ∃ later, file.save snapshot disk = (.ok (), later) ∧ file.Ready later := by
  have together : file.place.location = file.temporaryPlace.location := rfl
  have different : file.place.name ≠ file.temporaryPlace.name :=
    show Settings.dataFileName ≠ Settings.dataFileName ++ ".tmp" from by decide
  have short : file.place.name.utf8ByteSize ≤ Path.maxNameSize :=
    show Settings.dataFileName.utf8ByteSize ≤ Path.maxNameSize from by decide
  have temporaryShort : file.temporaryPlace.name.utf8ByteSize ≤ Path.maxNameSize :=
    show (Settings.dataFileName ++ ".tmp").utf8ByteSize ≤ Path.maxNameSize from by decide
  have temporaryHolder : (disk.directory? file.temporaryPlace.location).isSome := ready.holder
  -- The temporary file is written where nothing is in its way.
  have wrote := Disk.write_of_granting ready.granting
    (Disk.obstacle?_eq_none temporaryHolder ready.temporaryFree temporaryShort)
    snapshot.encode.toUTF8
  have stands := Disk.read?_put_self temporaryHolder snapshot.encode.toUTF8
  have beside := Disk.node?_put_beside together different disk (.file snapshot.encode.toUTF8)
  have granting : (disk.put file.temporaryPlace (.file snapshot.encode.toUTF8)).fates = [] :=
    ready.granting
  have keepsWritten := Disk.keeps_of_write_eq_ok wrote
  generalize disk.put file.temporaryPlace (.file snapshot.encode.toUTF8) = written at *
  -- It is moved to the place of the data file, where nothing is in its way either.
  have holder := keepsWritten _ ready.holder
  have renamed := Disk.rename_of_granting granting stands
    (Disk.obstacle?_eq_none holder (beside ▸ ready.free) short)
  have saved : file.save snapshot disk = (.ok (), (written.erase file.temporaryPlace).put
      file.place (.file snapshot.encode.toUTF8)) := by
    rw [save, ready.made, ready.fine]
    dsimp only
    rw [wrote]
    exact renamed
  obtain ⟨made, created, keeps⟩ := keeps_of_saveSteps (steps_of_save saved)
  have erased := Disk.keeps_erase (Disk.not_directory_of_read? stands) _ holder
  have stood := Disk.node?_put_self _ file.place (.file snapshot.encode.toUTF8) erased
  have gone := (Disk.node?_put_beside together.symm different.symm
    (written.erase file.temporaryPlace) (.file snapshot.encode.toUTF8)).trans
      (written.node?_erase_self file.temporaryPlace)
  rw [ready.made] at created
  cases created
  refine ⟨_, saved, granting, ready.fine,
    Disk.createDirectories_of_granting ready.made keeps granting, keeps _ ready.holder, ?_, ?_⟩
  · rw [stood]
    exact nofun
  · rw [gone]
    exact nofun

/-- The disk after snapshots were saved one after the other, unless one of the saves failed. -/
def saveAll? (file : DataFile) (disk : Disk) : List Snapshot → Option Disk
  | [] => some disk
  | snapshot :: rest =>
    match file.save snapshot disk with
    | (.error _, _) => none
    | (.ok (), disk) => file.saveAll? disk rest

/-- Every save succeeds, whatever was saved before it. -/
def AlwaysSaved (file : DataFile) (disk : Disk) : Prop :=
  ∀ snapshots, (file.saveAll? disk snapshots).isSome

theorem AlwaysSaved.save {file : DataFile} {disk : Disk} (always : file.AlwaysSaved disk)
    (snapshot : Snapshot) :
    ∃ later, file.save snapshot disk = (.ok (), later) ∧ file.AlwaysSaved later := by
  have next (rest : List Snapshot) := always (snapshot :: rest)
  simp only [saveAll?] at next
  rcases saved : file.save snapshot disk with ⟨error | ⟨⟩, later⟩
  · rw [saved] at next
    exact absurd (next []) (by simp)
  · rw [saved] at next
    exact ⟨later, rfl, next⟩

theorem Ready.alwaysSaved {file : DataFile} {disk : Disk} (ready : file.Ready disk) :
    file.AlwaysSaved disk := by
  intro snapshots
  induction snapshots generalizing disk with
  | nil => rfl
  | cons snapshot rest ih =>
    obtain ⟨later, saved, ready⟩ := save_of_ready ready snapshot
    rw [saveAll?, saved]
    exact ih ready

end DataFile

namespace Database

/-- Every save succeeds, if there is a data file at all. -/
def AlwaysSaved (database : Database) (disk : Disk) : Prop :=
  ∀ file, database.dataFile? = some file → file.AlwaysSaved disk

variable {α : Type}

/-- A change is taken over and answered, unless its save fails. -/
theorem commit_answered (database : Database) (disk : Disk) (change : Change α) :
    (∃ later, database.commit disk change =
        ⟨.ok change.answer, { database with memory := change.memory }, later⟩ ∧
      (database.AlwaysSaved disk → database.AlwaysSaved later)) ∨
    (∃ cause, (database.commit disk change).answer = .error (.disk cause)) ∧
      ¬ database.AlwaysSaved disk := by
  obtain ⟨answer, memory, saves⟩ := change
  cases saves with
  | false => exact .inl ⟨disk, rfl, id⟩
  | true =>
    obtain inMemory | ⟨file, persistent⟩ := Option.eq_none_or_eq_some database.dataFile?
    · exact .inl ⟨disk, by simp [commit, save, inMemory], id⟩
    · obtain ⟨later, saved, committed⟩ | ⟨cause, later, failed, committed⟩ :=
        commit_cases persistent disk answer memory
      · refine .inl ⟨later, committed, fun always other same => ?_⟩
        obtain ⟨later', saved', stillAlways⟩ := (always file persistent).save memory.snapshot
        rw [persistent] at same
        rw [saved] at saved'
        cases same
        cases saved'
        exact stillAlways
      · refine .inr ⟨⟨cause, by rw [committed]⟩, fun always => ?_⟩
        obtain ⟨later', saved, -⟩ := (always file persistent).save memory.snapshot
        rw [failed] at saved
        cases saved

theorem answer_attempt (database : Database) (disk : Disk) (change : Change α) :
    (database.attempt disk (.ok change)).answer = .ok change.answer ∨
      ∃ cause, (database.attempt disk (.ok change)).answer = .error (.disk cause) := by
  obtain ⟨later, committed, -⟩ | ⟨failed, -⟩ := database.commit_answered disk change
  · exact .inl (congrArg Result.answer committed)
  · exact .inr failed

end Database

end DocumentStore
