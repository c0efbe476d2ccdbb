import DocumentStore.Disk.Walk

/-!
# Accesses that change a disk

An access that changes the disk can be refused, and the writing of a file can break off; what
becomes of the coming accesses belongs to the state of the disk.
-/

namespace DocumentStore.Disk

/-- The fate of the next access and the disk once it is used up. -/
def nextFate (disk : Disk) : Fate × Disk :=
  match disk.fates with
  | [] => (.granted, disk)
  | fate :: rest => (fate, { disk with fates := rest })

/-- Makes the directories that are missing on the way along components from a location. A file on
the way is found out at once if no directory had to be made before it, and else only when a
directory is to be made in its place; the flag tells whether one was made. -/
def makeDirectories (disk : Disk) (made : Bool) (location : List String) :
    List Path.Component → Except DiskError Unit × Disk
  | [] => (.ok (), disk)
  | .name s :: rest =>
    let place : Place := ⟨location, s⟩
    match disk.find place with
    | .ok (.directory _) => makeDirectories disk made place.below rest
    | .ok (.file _) => (.error (if made || rest.isEmpty then .fileExists else .notADirectory), disk)
    | .error .notFound => makeDirectories (disk.put place (.directory [])) true place.below rest
    | .error error => (.error error, disk)
  | component :: rest => makeDirectories disk made (component.enter location) rest

/-- Makes a directory and those that lead to it; one that stands already will do. The empty path
calls for none, and what follows the last component of a path is left aside. -/
def createDirectories (disk : Disk) (path : String) : Except DiskError Unit × Disk :=
  if path.isEmpty then (.ok (), disk)
  else
    match disk.nextFate, Path.error? (Path.trimEnd path) with
    | (.denied, disk), _ => (.error .permissionDenied, disk)
    | (.full _, disk), _ => (.error .noSpaceLeft, disk)
    | (.granted, disk), some error => (.error error, disk)
    | (.granted, disk), none => disk.makeDirectories false [] (Path.components path)

/-- Why no file can be put at a place: a directory stands there, or there is none to hold it. -/
def obstacle? (disk : Disk) (place : Place) : Option DiskError :=
  match disk.directory? place.location, disk.find place with
  | none, _ => some .notFound
  | some _, .ok (.directory _) => some .isADirectory
  | some _, .error .nameTooLong => some .nameTooLong
  | some _, _ => none

/-- Writes a file, in the place of the one that stood there. A disk that is full keeps the beginning
of what was to be written. -/
def write (disk : Disk) (place : Place) (content : ByteArray) : Except DiskError Unit × Disk :=
  let (fate, disk) := disk.nextFate
  match fate, disk.obstacle? place with
  | .denied, _ => (.error .permissionDenied, disk)
  | _, some error => (.error error, disk)
  | .granted, none => (.ok (), disk.put place (.file content))
  | .full room, none => (.error .noSpaceLeft, disk.put place (.file (content.extract 0 room)))

/-- Moves a file to another place, in the place of the file that stood there. Either all of this
happens or nothing. -/
def rename (disk : Disk) (source target : Place) : Except DiskError Unit × Disk :=
  match disk.nextFate with
  | (.denied, disk) => (.error .permissionDenied, disk)
  | (.full _, disk) => (.error .noSpaceLeft, disk)
  | (.granted, disk) =>
    match disk.read? source, disk.obstacle? target with
    | none, _ => (.error .notFound, disk)
    | _, some error => (.error error, disk)
    | some content, none => (.ok (), (disk.erase source).put target (.file content))

end DocumentStore.Disk
