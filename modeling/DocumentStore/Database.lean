import DocumentStore.DataFile
import DocumentStore.Memory
import DocumentStore.Statement

/-!
# Databases

A database answers from memory and, if it is persistent, saves its snapshot after every change. A
change in memory is kept even if the save fails; the failure is reported in place of the answer,
and the next save that succeeds makes up for it.
-/

namespace DocumentStore

/-- A database. -/
structure Database where
  memory : Memory
  /-- The data file, if the database is persistent. -/
  dataFile? : Option DataFile
  /-- Whether a character that begins no token makes a condition invalid. -/
  strict : Bool

/-- What an operation gives: an answer or an error, and in any case the database and the disk as
they are after it. -/
structure Result (α : Type) where
  answer : Except StoreError α
  database : Database
  disk : Disk

/-- Changes the answer of a result. -/
def Result.map {α β : Type} (f : α → β) (result : Result α) : Result β :=
  ⟨result.answer.map f, result.database, result.disk⟩

namespace Database

/-- The empty database that is never saved and scans permissively. -/
def inMemory : Database := ⟨Memory.empty, none, false⟩

/-- Opens the database that settings describe and loads its data file, if it is persistent. -/
def load (settings : Settings) (disk : Disk) : Except StoreError Database × Disk :=
  if settings.persistent then
    let file := DataFile.ofSettings settings
    match file.load disk with
    | (.error error, disk) => (.error (.disk error), disk)
    | (.ok snapshot, disk) => (.ok ⟨Memory.ofSnapshot snapshot, some file, settings.strict⟩, disk)
  else (.ok ⟨Memory.empty, none, settings.strict⟩, disk)

/-- Saves the snapshot, if the database is persistent. -/
def save (database : Database) (disk : Disk) : Except StoreError Unit × Disk :=
  match database.dataFile? with
  | none => (.ok (), disk)
  | some file =>
    match file.save database.memory.snapshot disk with
    | (.ok (), disk) => (.ok (), disk)
    | (.error error, disk) => (.error (.disk error), disk)

/-- Takes over a change and saves it if it is to be saved. -/
def commit {α : Type} (database : Database) (disk : Disk) (change : Change α) : Result α :=
  let changed := { database with memory := change.memory }
  if change.saves then
    match changed.save disk with
    | (.ok (), disk) => ⟨.ok change.answer, changed, disk⟩
    | (.error error, disk) => ⟨.error error, changed, disk⟩
  else ⟨.ok change.answer, changed, disk⟩

/-- Takes over a change, unless it is rejected. -/
def attempt {α : Type} (database : Database) (disk : Disk)
    (change : Except StoreError (Change α)) : Result α :=
  match change with
  | .ok change => database.commit disk change
  | .error error => ⟨.error error, database, disk⟩

/-- Makes an empty collection, in the place of the one that has the name. -/
def create (database : Database) (disk : Disk) (name : String) : Result Unit :=
  database.commit disk (database.memory.create name)

/-- Makes a collection unless there is one of that name, and tells whether there was none. -/
def ensure (database : Database) (disk : Disk) (name : String) : Result Bool :=
  database.commit disk (database.memory.ensure name)

/-- Inserts a document at the end of a collection and gives it as it is stored. -/
def insert (database : Database) (disk : Disk) (stamp : Stamp) (name : String)
    (document : Document) : Result Document :=
  database.attempt disk (database.memory.insert stamp name document)

/-- Inserts documents at the end of a collection, with one save for all of them, and gives them as
they are stored. -/
def insertAll (database : Database) (disk : Disk) (supply : Nat → Stamp) (name : String)
    (documents : List Document) : Result (List Document) :=
  database.attempt disk (database.memory.insertAll supply name documents)

/-- Updates the first document that has the identifier of the changes and gives it as it is
stored. -/
def update (database : Database) (disk : Disk) (time : String) (name : String)
    (changes : Document) : Result Document :=
  database.attempt disk (database.memory.update time name changes)

/-- Removes the documents that have an identifier and tells whether there were any. -/
def remove (database : Database) (disk : Disk) (name id : String) : Result Bool :=
  database.attempt disk (database.memory.remove name id)

/-- Drops every collection. -/
def clear (database : Database) (disk : Disk) : Result Unit :=
  database.commit disk database.memory.clear

/-- Saves the snapshot. -/
def flush (database : Database) (disk : Disk) : Result Unit :=
  database.commit disk database.memory.flush

/-- The names of the collections in increasing order. -/
def names (database : Database) : List String := database.memory.names

/-- All documents of a collection. -/
def documents (database : Database) (name : String) : Except StoreError (List Document) :=
  database.memory.documents name

/-- The documents of a collection that satisfy a condition. -/
def find (database : Database) (name condition : String) : Except StoreError (List Document) :=
  database.memory.find database.strict name condition

/-- The documents that a statement asks for. -/
def query (database : Database) (statement : String) : Except StoreError (List Document) := do
  let statement ← (Statement.read statement).mapError .condition
  database.find statement.collection statement.condition

end Database

end DocumentStore
