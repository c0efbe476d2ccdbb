import DocumentStore.Disk.Access
import DocumentStore.Settings
import DocumentStore.Snapshot

/-!
# Data files

A database keeps its snapshot in one file. A snapshot is saved under a temporary name beside that
file and then moved to its place, so that a save that fails leaves the file as it was. A file that
is missing or cannot be decoded is taken for an empty snapshot.
-/

namespace DocumentStore

/-- The data file in a directory. -/
structure DataFile where
  /-- The path of the directory. -/
  directory : String
deriving DecidableEq, Repr

namespace DataFile

/-- The data file that settings call for. -/
def ofSettings (settings : Settings) : DataFile := ⟨settings.directory⟩

/-- The path of the file. -/
def path (file : DataFile) : String := Path.join file.directory Settings.dataFileName

/-- The path under which a snapshot is written before it takes the place of the file. -/
def temporaryPath (file : DataFile) : String := file.path ++ ".tmp"

/-- The place of the file. -/
def place (file : DataFile) : Place := ⟨Path.location file.directory, Settings.dataFileName⟩

/-- The place of the file in which a snapshot is written first. -/
def temporaryPlace (file : DataFile) : Place :=
  ⟨Path.location file.directory, Settings.dataFileName ++ ".tmp"⟩

/-- The bytes of the file, if its path leads to one. -/
def bytes? (file : DataFile) (disk : Disk) : Option ByteArray :=
  match Path.error? file.path with
  | some _ => none
  | none => disk.read? file.place

/-- What the file holds: the snapshot that can be decoded from it, or the empty one. -/
def content (file : DataFile) (disk : Disk) : Snapshot :=
  (((file.bytes? disk).bind String.fromUTF8?).bind Snapshot.decode?).getD Catalog.empty

/-- Loads the file and makes its directory, which has to be possible even if there is nothing to
load. -/
def load (file : DataFile) (disk : Disk) : Except DiskError Snapshot × Disk :=
  match disk.createDirectories file.directory with
  | (.error error, disk) => (.error error, disk)
  | (.ok (), disk) => (.ok (file.content disk), disk)

/-- Replaces the file by a snapshot. -/
def save (file : DataFile) (snapshot : Snapshot) (disk : Disk) : Except DiskError Unit × Disk :=
  match disk.createDirectories file.directory, Path.error? file.temporaryPath with
  | (.error error, disk), _ => (.error error, disk)
  | (.ok (), disk), some error => (.error error, disk)
  | (.ok (), disk), none =>
    match disk.write file.temporaryPlace snapshot.encode.toUTF8 with
    | (.error error, disk) => (.error error, disk)
    | (.ok (), disk) => disk.rename file.temporaryPlace file.place

end DataFile

end DocumentStore
