/-!
# Paths

A path is written as text with slashes between its components. Two texts name the same path when
their components agree: repeated slashes, a slash at the end and single dots after the beginning
do not count.
-/

namespace DocumentStore.Path

/-- A component of a path. -/
inductive Component
  | root
  | current
  | parent
  | name (s : String)
deriving DecidableEq, Repr

/-- Splits a text at its slashes; the parts between two slashes may be empty. -/
def split : List Char → List (List Char)
  | [] => [[]]
  | c :: rest =>
    if c == '/' then [] :: split rest
    else
      match split rest with
      | part :: parts => (c :: part) :: parts
      | [] => [[c]]

/-- The component that a part of a path names; a single dot counts at the beginning alone. -/
def component? (isFirst : Bool) (part : List Char) : Option Component :=
  if part.isEmpty then none
  else if part = ['.'] then if isFirst then some .current else none
  else if part = ['.', '.'] then some .parent
  else some (.name (String.ofList part))

/-- The components of a path. -/
def components (path : String) : List Component :=
  match path.toList with
  | '/' :: rest => .root :: (split rest).filterMap (component? false)
  | text =>
    match split text with
    | [] => []
    | first :: parts =>
      (component? true first).toList ++ parts.filterMap (component? false)

/-- Whether two texts name the same path. -/
def same (left right : String) : Bool := components left == components right

/-- The path of a file in a directory: no slash is added after one that is there, nor after the
empty path. -/
def join (directory file : String) : String :=
  match directory.toList.getLast? with
  | none => file
  | some '/' => directory ++ file
  | some _ => directory ++ "/" ++ file

/-- Takes the slashes and single dots away that name no component, from a path that is held with its
last character first. -/
def prune : List Char → List Char
  | '/' :: c :: rest => prune (c :: rest)
  | '.' :: '/' :: rest => prune ('/' :: rest)
  | text => text

/-- A path without the slashes and single dots at its end that name no component. -/
def trimEnd (path : String) : String := String.ofList (prune path.toList.reverse).reverse

/-- Whether a path calls for a directory: slashes or single dots follow its last component. -/
def callsForDirectory (path : String) : Bool := trimEnd path != path

/-- The path of the directory that holds what a path leads to; it is empty for a single name. -/
def parent (path : String) : String :=
  String.ofList (prune ((prune path.toList.reverse).dropWhile (· != '/'))).reverse

/-- Goes one component further from a location, the names that lead there from the root. -/
def Component.enter (location : List String) : Component → List String
  | .root => []
  | .current => location
  | .parent => location.dropLast
  | .name s => location ++ [s]

/-- The location where a path ends if every directory that it goes through is there. -/
def location (path : String) : List String := (components path).foldl Component.enter []

end DocumentStore.Path
