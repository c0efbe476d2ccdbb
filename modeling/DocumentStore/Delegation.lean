import DocumentStore.Database

/-!
# Delegated queries

A query can be delegated to a remote database. The condition is compiled where the query starts and
sent as a filter. A query in JSON is an object whose condition may be left out or have a longer
name, or an array of the collection and the condition.
-/

namespace DocumentStore

/-- A query to be delegated. -/
structure RemoteQuery where
  collection : String
  /-- The text of the condition; the empty one is satisfied by every document. -/
  condition : String
deriving DecidableEq, Repr

namespace RemoteQuery

/-- The field of the collection. -/
def collectionField : String := "collection"

/-- The field of the condition. -/
def conditionField : String := "condition"

/-- The names that the field of the condition may have. -/
def conditionFields : List String := [conditionField, "condition_string"]

/-- A query as a JSON value. -/
def toJson (query : RemoteQuery) : Json :=
  .object [(collectionField, .string query.collection), (conditionField, .string query.condition)]

/-- The values of the fields that have one of the given names. -/
def valuesOf (names : List String) (fields : List (String × Json)) : List Json :=
  (fields.filter fun field => names.contains field.1).map (·.2)

/-- The query of an object with the given fields. Neither the collection nor the condition may be
listed twice. -/
def ofFields? (fields : List (String × Json)) : Option RemoteQuery :=
  match valuesOf [collectionField] fields, valuesOf conditionFields fields with
  | [.string collection], [] => some ⟨collection, ""⟩
  | [.string collection], [.string condition] => some ⟨collection, condition⟩
  | _, _ => none

/-- The query that a JSON value stands for. -/
def ofJson? : Json → Option RemoteQuery
  | .object fields => ofFields? fields
  | .array [.string collection] => some ⟨collection, ""⟩
  | .array [.string collection, .string condition] => some ⟨collection, condition⟩
  | _ => none

/-- Whether a field of an object says nothing about the query. -/
def isForeign (name : String) : Bool := !(collectionField :: conditionFields).contains name

/-- Reads a query. Foreign fields are passed over. -/
def read? (text : String) : Option RemoteQuery :=
  (Json.readIgnoring? isForeign text.toList).bind ofJson?

end RemoteQuery

namespace Database

/-- The answer of a remote database to a delegated query. -/
def delegate (database : Database) (remote? : Option Database) (query : RemoteQuery) :
    Except StoreError (List Document) := do
  let condition ← (Condition.ofText database.strict query.condition).mapError .condition
  match remote? with
  | none => .error (.condition .capabilityUnavailable)
  | some remote =>
    let filter? ← (condition.filter? (some Capability.documents)).mapError .condition
    remote.memory.filter query.collection filter?

end Database

end DocumentStore
