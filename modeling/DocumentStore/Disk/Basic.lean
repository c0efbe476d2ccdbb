import DocumentStore.Catalog

/-!
# Disks

A disk is a tree of directories with files in them. Its root is a directory that has no name. A
location is the list of names that lead from the root to a directory; a place is a name in the
directory at a location, whether anything stands there or not.
-/

namespace DocumentStore

/-- What stands at a place. -/
inductive Node
  | file (content : ByteArray)
  /-- A directory with what stands under each name in it. -/
  | directory (entries : List (String × Node))

/-- What a directory holds. -/
abbrev Directory := List (String × Node)

/-- A name in a directory. -/
structure Place where
  location : List String
  name : String
deriving DecidableEq, Repr

/-- The location of the directory that stands at a place. -/
def Place.below (place : Place) : List String := place.location ++ [place.name]

/-- What becomes of an access to a disk. -/
inductive Fate
  /-- It is carried out as far as what stands on the disk allows. -/
  | granted
  | denied
  /-- There is room for so many more bytes and no other change. -/
  | full (room : Nat)
deriving DecidableEq, Repr

/-- The state of a disk. -/
structure Disk where
  /-- What the root holds. -/
  root : Directory
  /-- What becomes of the coming accesses that change the disk; those beyond are granted. -/
  fates : List Fate

namespace Directory

/-- The directory at a location. -/
def at? (directory : Directory) : List String → Option Directory
  | [] => some directory
  | name :: rest =>
    match Entries.get? name directory with
    | some (.directory inner) => at? inner rest
    | _ => none

/-- Changes the directory at a location, if there is one. -/
def change (f : Directory → Directory) (directory : Directory) : List String → Directory
  | [] => f directory
  | name :: rest =>
    match Entries.get? name directory with
    | some (.directory inner) => Entries.put name (.directory (change f inner rest)) directory
    | _ => directory

theorem at?_change_self (f : Directory → Directory) (directory : Directory)
    (location : List String) :
    (directory.change f location).at? location = (directory.at? location).map f := by
  induction location generalizing directory with
  | nil => rfl
  | cons name rest ih =>
    cases found : Entries.get? name directory with
    | none => simp [change, at?, found]
    | some node =>
      cases node with
      | file content => simp [change, at?, found]
      | directory inner => simp [change, at?, found, Entries.get?_put_self, ih]

end Directory

namespace Disk

/-- The disk with nothing but the root, on which every access is granted. -/
def empty : Disk := ⟨[], []⟩

/-- The directory at a location. -/
def directory? (disk : Disk) (location : List String) : Option Directory :=
  disk.root.at? location

/-- What stands at a place. -/
def node? (disk : Disk) (place : Place) : Option Node :=
  (disk.directory? place.location).bind (Entries.get? place.name)

/-- The content of the file at a place. -/
def read? (disk : Disk) (place : Place) : Option ByteArray :=
  match disk.node? place with
  | some (.file content) => some content
  | _ => none

/-- The names in the directory at a location, in increasing order. -/
def names (disk : Disk) (location : List String) : List String :=
  ((disk.directory? location).getD []).map (·.1)

/-- Puts a node at a place, instead of what stood there, if the directory is there. -/
def put (disk : Disk) (place : Place) (node : Node) : Disk :=
  { disk with root := disk.root.change (Entries.put place.name node) place.location }

/-- Takes away what stands at a place, with all that is below it. -/
def erase (disk : Disk) (place : Place) : Disk :=
  { disk with
    root := disk.root.change (·.filter fun entry => entry.1 != place.name) place.location }

theorem node?_put_self (disk : Disk) (place : Place) (node : Node)
    (inside : (disk.directory? place.location).isSome) :
    (disk.put place node).node? place = some node := by
  obtain ⟨directory, found⟩ := Option.isSome_iff_exists.1 inside
  simp only [directory?] at found
  simp [node?, put, directory?, Directory.at?_change_self, found, Entries.get?_put_self]

end Disk

end DocumentStore
