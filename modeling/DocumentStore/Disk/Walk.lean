import DocumentStore.Disk.Basic
import DocumentStore.Disk.Error
import DocumentStore.Path

/-!
# Walking along paths

A path is followed component by component from the root, and each component but the last has to
lead to a directory. The parent of a directory is the one that holds it, so a component that goes up
again calls for the directory that is left.
-/

namespace DocumentStore

/-- The number of bytes that a path can have. -/
def Path.maxSize : Nat := 4095

/-- The number of bytes that a name can have. -/
def Path.maxNameSize : Nat := 255

/-- Why no disk takes a path, wherever it leads. -/
def Path.error? (path : String) : Option DiskError :=
  if path.toList.contains '\x00' then some .nulInName
  else if maxSize < path.utf8ByteSize then some .nameTooLong
  else none

namespace Disk

/-- Looks for what stands at a place. -/
def find (disk : Disk) (place : Place) : Except DiskError Node :=
  if Path.maxNameSize < place.name.utf8ByteSize then .error .nameTooLong
  else
    match disk.node? place with
    | some node => .ok node
    | none => .error .notFound

/-- Goes one component further from the directory at a location. -/
def enter (disk : Disk) (location : List String) (component : Path.Component) :
    Except DiskError (List String) :=
  match component with
  | .name s =>
    match disk.find ⟨location, s⟩ with
    | .ok (.directory _) => .ok (component.enter location)
    | .ok (.file _) => .error .notADirectory
    | .error error => .error error
  | _ => .ok (component.enter location)

/-- Goes through directories from the one at a location. -/
def walk (disk : Disk) (location : List String) :
    List Path.Component → Except DiskError (List String)
  | [] => .ok location
  | component :: rest =>
    match disk.enter location component with
    | .ok next => disk.walk next rest
    | .error error => .error error

/-- The location of the directory to which a path leads. -/
def locate (disk : Disk) (path : String) : Except DiskError (List String) :=
  match Path.error? path with
  | some error => .error error
  | none => disk.walk [] (Path.components path)

/-- The place to which a path leads. A path that ends by going up or in the directory where it is
leads to no place. -/
def place (disk : Disk) (path : String) : Except DiskError Place :=
  match Path.error? path, (Path.components path).getLast? with
  | some error, _ => .error error
  | none, some (.name s) =>
    match disk.walk [] (Path.components path).dropLast with
    | .error error => .error error
    | .ok location =>
      if Path.callsForDirectory path then (disk.enter location (.name s)).map fun _ => ⟨location, s⟩
      else .ok ⟨location, s⟩
  | none, _ => (disk.walk [] (Path.components path)).bind fun _ => .error .isADirectory

/-- Takes away what a path leads to, with all that is below it. A directory that the path leads to
without giving its place only loses what it holds. -/
def remove (disk : Disk) (path : String) : Disk :=
  match disk.place path, disk.locate path with
  | .ok place, _ => disk.erase place
  | .error _, .ok location => { disk with root := disk.root.change (fun _ => []) location }
  | .error _, .error _ => disk

end Disk

end DocumentStore
