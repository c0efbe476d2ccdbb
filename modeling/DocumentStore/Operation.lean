import DocumentStore.Database

/-!
# Operations as values

Every operation of a database is also a value, so that it can be kept, sent and spoken of;
`Database.perform` carries it out.
-/

namespace DocumentStore

/-- An operation on a database. -/
inductive Operation
  | create (name : String)
  | ensure (name : String)
  | insert (name : String) (document : Document)
  | insertAll (name : String) (documents : List Document)
  | update (name : String) (changes : Document)
  | remove (name id : String)
  | clear
  | flush
  | names
  | documents (name : String)
  | find (name condition : String)
  | query (statement : String)

/-- What an operation answers. -/
inductive Answer
  | done
  /-- Whether a collection was made. -/
  | created (b : Bool)
  /-- Whether a document was removed. -/
  | removed (b : Bool)
  | names (names : List String)
  | documents (documents : List Document)

namespace Database

/-- Carries out an operation. Documents that are inserted get the stamps of the supply one after
the other; an update takes the time of the first. -/
def perform (database : Database) (disk : Disk) (supply : Nat → Stamp) : Operation → Result Answer
  | .create name => (database.create disk name).map fun () => .done
  | .ensure name => (database.ensure disk name).map .created
  | .insert name document =>
    (database.insert disk (supply 0) name document).map fun inserted => .documents [inserted]
  | .insertAll name documents => (database.insertAll disk supply name documents).map .documents
  | .update name changes =>
    (database.update disk (supply 0).time name changes).map fun updated => .documents [updated]
  | .remove name id => (database.remove disk name id).map .removed
  | .clear => (database.clear disk).map fun () => .done
  | .flush => (database.flush disk).map fun () => .done
  | .names => ⟨.ok (.names database.names), database, disk⟩
  | .documents name => ⟨(database.documents name).map .documents, database, disk⟩
  | .find name condition => ⟨(database.find name condition).map .documents, database, disk⟩
  | .query statement => ⟨(database.query statement).map .documents, database, disk⟩

end Database

end DocumentStore
