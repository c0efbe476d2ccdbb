/-!
# Errors of a disk

Each error says why an access to a disk failed; `DiskError.message` puts it into words.
-/

namespace DocumentStore

/-- Why an access to a disk failed. -/
inductive DiskError
  | notFound
  | permissionDenied
  | fileExists
  | notADirectory
  | isADirectory
  | noSpaceLeft
  | nameTooLong
  /-- A path holds the character that ends a name on the disk. -/
  | nulInName
deriving DecidableEq, Repr

/-- An error in words, with its number if it has one. -/
def DiskError.message : DiskError → String
  | .notFound => "No such file or directory (os error 2)"
  | .permissionDenied => "Permission denied (os error 13)"
  | .fileExists => "File exists (os error 17)"
  | .notADirectory => "Not a directory (os error 20)"
  | .isADirectory => "Is a directory (os error 21)"
  | .noSpaceLeft => "No space left on device (os error 28)"
  | .nameTooLong => "File name too long (os error 36)"
  | .nulInName => "file name contained an unexpected NUL byte"

end DocumentStore
