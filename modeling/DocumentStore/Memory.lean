import DocumentStore.Collection
import DocumentStore.Snapshot
import DocumentStore.StoreError

/-!
# Collections in memory

The memory holds the collections that can be reached by name, and those that were replaced or
dropped, which can still be read by whoever asked for them before. Every operation on the memory
tells whether its change is to be saved; it is rejected before anything changes or not at all.
-/

namespace DocumentStore

/-- The collections in memory. -/
structure Memory where
  /-- The collections that can be reached by name. -/
  live : Catalog Collection
  /-- The collections that were replaced or dropped, the latest first. -/
  retired : List Collection
  /-- The serial number of the next collection. -/
  nextSerial : Nat

/-- The answer of an operation and what it leaves behind. -/
structure Change (α : Type) where
  answer : α
  memory : Memory
  /-- Whether the snapshot is to be saved. -/
  saves : Bool

namespace Memory

/-- The memory without collections. -/
def empty : Memory := ⟨Catalog.empty, [], 0⟩

/-- The collection of a name. -/
def require (memory : Memory) (name : String) : Except StoreError Collection :=
  match memory.live.get? name with
  | some collection => .ok collection
  | none => .error (.collectionNotFound name)

/-- The names of the collections in increasing order. -/
def names (memory : Memory) : List String := memory.live.names

/-- The documents of every collection. -/
def snapshot (memory : Memory) : Snapshot := memory.live.map Collection.documents

/-- All documents of a collection. -/
def documents (memory : Memory) (name : String) : Except StoreError (List Document) := do
  return (← memory.require name).documents

/-- The documents of a collection that satisfy the condition with the given text. -/
def find (memory : Memory) (strict : Bool) (name condition : String) :
    Except StoreError (List Document) := do
  let collection ← memory.require name
  let condition ← (Condition.ofText strict condition).mapError .condition
  (collection.find condition).mapError .condition

/-- The documents of a collection that satisfy a filter. -/
def filter (memory : Memory) (name : String) (filter? : Option Filter) :
    Except StoreError (List Document) := do
  return (← memory.require name).filter filter?

/-- The collection with a serial number, whether or not it can still be reached by name. -/
def held? (memory : Memory) (serial : Nat) : Option Collection :=
  (memory.live.values ++ memory.retired).find? fun collection => collection.serial = serial

/-- Puts a collection without documents under a name. -/
def reset (memory : Memory) (name : String) : Memory where
  live := memory.live.insert name ⟨memory.nextSerial, name, []⟩
  retired := (memory.live.get? name).toList ++ memory.retired
  nextSerial := memory.nextSerial + 1

/-- Gives the collection that stands under a name other documents. -/
def replaceDocuments (memory : Memory) (name : String) (collection : Collection)
    (documents : List Document) : Memory :=
  { memory with live := memory.live.insert name { collection with documents } }

/-- Makes a collection, in the place of the one that has the name. -/
def create (memory : Memory) (name : String) : Change Unit := ⟨(), memory.reset name, true⟩

/-- Makes a collection unless there is one of that name, and tells whether there was none. -/
def ensure (memory : Memory) (name : String) : Change Bool :=
  match memory.live.get? name with
  | some _ => ⟨false, memory, false⟩
  | none => ⟨true, memory.reset name, true⟩

/-- Inserts a document at the end of a collection. -/
def insert (memory : Memory) (stamp : Stamp) (name : String) (document : Document) :
    Except StoreError (Change Document) := do
  let collection ← memory.require name
  let stamped := document.stamped stamp
  let documents := collection.documents ++ [stamped]
  return ⟨stamped, memory.replaceDocuments name collection documents, true⟩

/-- Inserts documents at the end of a collection, with one save for all of them. -/
def insertAll (memory : Memory) (supply : Nat → Stamp) (name : String)
    (documents : List Document) : Except StoreError (Change (List Document)) := do
  let collection ← memory.require name
  let stamped := Collection.stampAll supply documents
  let documents := collection.documents ++ stamped
  return ⟨stamped, memory.replaceDocuments name collection documents, true⟩

/-- Updates the first document that has the identifier of the changes. -/
def update (memory : Memory) (time : String) (name : String) (changes : Document) :
    Except StoreError (Change Document) := do
  let collection ← memory.require name
  match changes.id? with
  | none => .error .missingId
  | some id =>
    match Collection.updateFirst? id changes time collection.documents with
    | none => .error (.itemNotFound id name)
    | some (updated, documents) =>
      .ok ⟨updated, memory.replaceDocuments name collection documents, true⟩

/-- Removes the documents that have an identifier and tells whether there were any. -/
def remove (memory : Memory) (name id : String) : Except StoreError (Change Bool) := do
  let collection ← memory.require name
  let documents := Collection.without id collection.documents
  if documents.length = collection.documents.length then return ⟨false, memory, false⟩
  return ⟨true, memory.replaceDocuments name collection documents, true⟩

/-- Drops every collection. -/
def clear (memory : Memory) : Change Unit where
  answer := ()
  memory := ⟨Catalog.empty, memory.live.values ++ memory.retired, memory.nextSerial⟩
  saves := true

/-- Changes nothing but has the snapshot saved. -/
def flush (memory : Memory) : Change Unit := ⟨(), memory, true⟩

/-- Makes collections of the documents under each name and numbers them from a serial number on. -/
def number (first : Nat) : List (String × List Document) → List (String × Collection)
  | [] => []
  | (name, documents) :: rest => (name, ⟨first, name, documents⟩) :: number (first + 1) rest

theorem names_number (first : Nat) (entries : List (String × List Document)) :
    (number first entries).map (·.1) = entries.map (·.1) := by
  induction entries generalizing first with
  | nil => rfl
  | cons entry rest ih => simp [number, ih]

/-- The memory that a snapshot describes. -/
def ofSnapshot (snapshot : Snapshot) : Memory where
  live := ⟨number 0 snapshot.entries, by
    rw [Entries.ordered_iff_names, names_number, ← Entries.ordered_iff_names]
    exact snapshot.ordered⟩
  retired := []
  nextSerial := snapshot.entries.length

theorem documents_number (first : Nat) (entries : List (String × List Document)) :
    ((number first entries).map fun entry => (entry.1, entry.2.documents)) = entries := by
  induction entries generalizing first with
  | nil => rfl
  | cons entry rest ih => simp [number, ih]

theorem snapshot_ofSnapshot (snapshot : Snapshot) : (ofSnapshot snapshot).snapshot = snapshot :=
  Catalog.ext (documents_number 0 snapshot.entries)

end Memory

end DocumentStore
