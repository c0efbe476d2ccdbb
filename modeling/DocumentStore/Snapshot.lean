import DocumentStore.Document

/-!
# Snapshots

A snapshot holds the documents of every collection at one moment. It is encoded as one JSON object
in lines, with the name of each collection before the array of its documents. Decoding accepts an
object of arrays of objects and nothing else: one member that is mistyped spoils the whole, even
one that a later member of the same name replaces.
-/

namespace DocumentStore

/-- The documents of every collection. -/
abbrev Snapshot := Catalog (List Document)

namespace Snapshot

/-- A snapshot as a JSON value. -/
def toJson (snapshot : Snapshot) : Json :=
  .object (snapshot.map fun documents => .array (documents.map Document.toJson)).entries

/-- The text of a snapshot. -/
def encode (snapshot : Snapshot) : String := String.ofList (snapshot.toJson.pretty 0 [])

/-- The documents in an array of objects. -/
def documents? : Json → Option (List Document)
  | .array items => items.mapM Document.ofJson?
  | _ => none

/-- The documents in each member of an object. -/
def collections? : List (String × Json) → Option (List (String × List Document))
  | [] => some []
  | (name, value) :: rest =>
    match documents? value, collections? rest with
    | some documents, some others => some ((name, documents) :: others)
    | _, _ => none

/-- The snapshot that a JSON value stands for. -/
def ofJson? : Json → Option Snapshot
  | .object fields => (collections? fields).map Catalog.ofList
  | _ => none

/-- Reads the text of a snapshot. -/
def decode? (text : String) : Option Snapshot := (Json.read? text.toList).bind ofJson?

end Snapshot

end DocumentStore
