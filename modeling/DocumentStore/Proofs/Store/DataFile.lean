import DocumentStore.DataFile
import DocumentStore.Proofs.Disk.Access

/-!
# Saving a data file

A save that succeeds leaves exactly the text of the snapshot in the data file. A save that fails, at
whichever of its steps, leaves the data file as it was.
-/

namespace DocumentStore

theorem Path.error?_of_append {path ending : String} (fine : error? (path ++ ending) = none) :
    error? path = none := by
  unfold error? at fine ⊢
  split at fine
  · cases fine
  · split at fine
    · cases fine
    · rename_i noNul short
      rw [String.toList_append] at noNul
      rw [String.utf8ByteSize_append] at short
      rw [if_neg (by grind), if_neg (by omega)]

namespace DataFile

theorem path_fine_of_temporaryPath {file : DataFile} (fine : Path.error? file.temporaryPath = none) :
    Path.error? file.path = none :=
  Path.error?_of_append fine

/-- The temporary file stands beside the data file. -/
theorem temporaryPlace_elsewhere (file : DataFile) :
    ¬ file.temporaryPlace.below <+: file.place.below :=
  Disk.not_below_of_ne rfl
    (show Settings.dataFileName ++ ".tmp" ≠ Settings.dataFileName from by decide)

theorem bytes?_of_read? {file : DataFile} {disk disk' : Disk}
    (same : disk'.read? file.place = disk.read? file.place) : file.bytes? disk' = file.bytes? disk := by
  unfold bytes?
  split
  · rfl
  · exact same

/-- What a save that succeeds has done. -/
structure SaveSteps (file : DataFile) (snapshot : Snapshot) (disk disk' : Disk) : Prop where
  fine : Path.error? file.temporaryPath = none
  steps : ∃ made written,
    disk.createDirectories file.directory = (.ok (), made) ∧
    made.write file.temporaryPlace snapshot.encode.toUTF8 = (.ok (), written) ∧
    written.rename file.temporaryPlace file.place = (.ok (), disk')

theorem steps_of_save {file : DataFile} {snapshot : Snapshot} {disk disk' : Disk}
    (saved : file.save snapshot disk = (.ok (), disk')) : SaveSteps file snapshot disk disk' := by
  unfold save at saved
  split at saved
  · cases saved
  · cases saved
  · rename_i made created fine
    split at saved
    · cases saved
    · rename_i written wrote
      exact ⟨fine, made, written, created, wrote, saved⟩

theorem bytes?_of_save {file : DataFile} {snapshot : Snapshot} {disk disk' : Disk}
    (saved : file.save snapshot disk = (.ok (), disk')) :
    file.bytes? disk' = some snapshot.encode.toUTF8 := by
  obtain ⟨fine, made, written, -, wrote, moved⟩ := steps_of_save saved
  rw [bytes?, path_fine_of_temporaryPath fine]
  exact (Disk.read?_of_rename_eq_ok moved).trans (Disk.read?_of_write_eq_ok wrote)

theorem bytes?_of_failed_save {file : DataFile} {snapshot : Snapshot} {disk disk' : Disk}
    {error : DiskError} (failed : file.save snapshot disk = (.error error, disk')) :
    file.bytes? disk' = file.bytes? disk := by
  apply bytes?_of_read?
  have made := disk.read?_createDirectories file.directory file.place
  unfold save at failed
  split at failed
  · rename_i created
    cases failed
    rw [created] at made
    exact made
  · rename_i created _
    cases failed
    rw [created] at made
    exact made
  · rename_i after created _
    rw [created] at made
    have wrote := Disk.read?_write_elsewhere file.temporaryPlace_elsewhere after
      snapshot.encode.toUTF8
    split at failed
    · rename_i written
      cases failed
      rw [written] at wrote
      exact wrote.trans made
    · rename_i written
      rw [written] at wrote
      exact (Disk.read?_of_rename_eq_error failed file.place).trans (wrote.trans made)

end DataFile

end DocumentStore
