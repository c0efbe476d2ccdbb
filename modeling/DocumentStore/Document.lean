import DocumentStore.Json.Reading
import DocumentStore.Json.Writing
import DocumentStore.Scalar

/-!
# Documents

A document is a JSON object whose fields are in order at every level. Three of its fields belong
to the store: a document gets its identifier and its creation date when it is inserted, and its
date of change then and with every update.
-/

namespace DocumentStore

/-- A stored document. -/
structure Document where
  fields : List (String × Json)
  ordered : (Json.object fields).Ordered

namespace Document

@[ext] theorem ext {left right : Document} (h : left.fields = right.fields) : left = right := by
  cases left; cases right; cases h; rfl

/-- The document of a list of fields, repeated ones included; the last of them counts. -/
def ofFields (fields : List (String × Json)) : Document :=
  ⟨Entries.gather (Json.arrangeValues fields), Json.ordered_arrange (.object fields)⟩

/-- The document that a JSON value is, if it is an object. -/
def ofJson? : Json → Option Document
  | .object fields => some (ofFields fields)
  | _ => none

/-- Reads a document. -/
def read? (text : String) : Option Document := (Json.read? text.toList).bind ofJson?

/-- A document as a JSON value. -/
def toJson (document : Document) : Json := .object document.fields

/-- The compact text of a document. -/
def text (document : Document) : String := document.toJson.text

/-- The document without fields. -/
def empty : Document := ⟨[], List.Pairwise.nil, by simp [Json.ValuesOrdered]⟩

/-- The value of a field. -/
def get? (document : Document) (name : String) : Option Json := Entries.get? name document.fields

/-- Sets a field to a text. -/
def set (document : Document) (name value : String) : Document where
  fields := Entries.put name (.string value) document.fields
  ordered := ⟨Entries.ordered_put name _ document.ordered.1,
    Json.valuesOrdered_put (by simp [Json.Ordered]) document.ordered.2⟩

/-- Puts the fields of a second document over those of a first. -/
def merge (stored changes : Document) : Document where
  fields := changes.fields.foldl (fun fields field => Entries.put field.1 field.2 fields)
    stored.fields
  ordered := ⟨Entries.ordered_foldl_put changes.fields stored.fields stored.ordered.1,
    Json.valuesOrdered_foldl_put changes.ordered.2 stored.ordered.2⟩

/-- The document as a record, for conditions and filters. -/
def record (document : Document) : Record := Record.ofFields document.fields

@[simp] theorem get?_set_self (document : Document) (name value : String) :
    (document.set name value).get? name = some (.string value) :=
  Entries.get?_put_self name _ document.fields

theorem get?_set_of_ne (document : Document) {name other : String} (different : name ≠ other)
    (value : String) : (document.set other value).get? name = document.get? name :=
  Entries.get?_put_of_ne different _ document.fields

/-- The field of the identifier. -/
def idField : String := "_id"

/-- The field of the creation date. -/
def createdField : String := "_createdDate"

/-- The field of the date of the last change. -/
def updatedField : String := "_updatedDate"

/-- The identifier of a document; one that is not a text does not count. -/
def id? (document : Document) : Option String := (document.get? idField).bind Json.text?

end Document

/-- What the store gives a document: a fresh identifier and the time. -/
structure Stamp where
  id : String
  time : String
deriving DecidableEq, Repr

namespace Document

/-- The document as it is inserted. The fields of the store are set whatever they held. -/
def stamped (document : Document) (stamp : Stamp) : Document :=
  ((document.set idField stamp.id).set createdField stamp.time).set updatedField stamp.time

/-- The stored document after an update at the given time. -/
def updated (stored changes : Document) (time : String) : Document :=
  (stored.merge changes).set updatedField time

@[simp] theorem id?_stamped (document : Document) (stamp : Stamp) :
    (document.stamped stamp).id? = some stamp.id := by
  have h : (document.stamped stamp).get? idField = some (.string stamp.id) := by
    rw [stamped, get?_set_of_ne _ (by decide), get?_set_of_ne _ (by decide), get?_set_self]
  simp [id?, h, Json.text?]

end Document

end DocumentStore
