import DocumentStore.Command.Basic
import DocumentStore.Database

/-!
# Executing commands

A command becomes operations of a database. Inserting makes the collection if there is none; all
other commands leave that to the client.
-/

namespace DocumentStore

/-- What a command that succeeds gives its client. -/
inductive Outcome
  | data (value : Json)
  | message (text : String)

/-- Documents as an outcome. -/
def Outcome.ofDocuments (documents : List Document) : Outcome :=
  .data (.array (documents.map Document.toJson))

/-- Goes on with what an operation has left behind, unless it failed. -/
def Result.andThen {α β : Type} (result : Result α) (next : α → Database → Disk → Result β) :
    Result β :=
  match result.answer with
  | .ok answer => next answer result.database result.disk
  | .error error => ⟨.error error, result.database, result.disk⟩

/-- Carries out a command. Documents that are inserted get the stamps of the supply one after the
other; an update takes the time of the first. -/
def Command.execute (command : Command) (database : Database) (disk : Disk)
    (supply : Nat → Stamp) : Result Outcome :=
  match command with
  | .createCollection name =>
    (database.create disk name).map fun () => .message "Collection created."
  | .insert name item =>
    (database.ensure disk name).andThen fun _ database disk =>
      (database.insert disk (supply 0) name item).map fun inserted => .data inserted.toJson
  | .find name condition =>
    ⟨(database.find name (condition.getD "")).map .ofDocuments, database, disk⟩
  | .update name item =>
    (database.update disk (supply 0).time name item).map fun updated => .data updated.toJson
  | .remove name id => (database.remove disk name id).map fun _ => .message "Item removed."
  | .bulkInsert name items => (database.insertAll disk supply name items).map .ofDocuments
  | .exportCollection name => ⟨(database.documents name).map .ofDocuments, database, disk⟩
  | .deleteDb => (database.clear disk).map fun () => .message "In-memory DB cleared."
  | .query statement => ⟨(database.query statement).map .ofDocuments, database, disk⟩

end DocumentStore
