import DocumentStore.Condition.Basic
import DocumentStore.Document

/-!
# Collections

A collection lists its documents in the order in which they were inserted. Updates leave a document
in its place.
-/

namespace DocumentStore

/-- A collection. Its serial number tells it from every other one, those of the same name
included. -/
structure Collection where
  serial : Nat
  name : String
  documents : List Document

namespace Collection

/-- The documents that satisfy a condition, unless it cannot be evaluated on one of them. -/
def matching (condition : Condition) : List Document → Except ConditionError (List Document)
  | [] => .ok []
  | document :: rest => do
    let isMatch ← condition.matchRecord document.record
    let others ← matching condition rest
    return if isMatch then document :: others else others

/-- The documents of the collection that satisfy a condition. -/
def find (collection : Collection) (condition : Condition) :
    Except ConditionError (List Document) :=
  if condition.isMatchAll then .ok collection.documents
  else matching condition collection.documents

/-- The documents of the collection that satisfy a filter; without one, all of them. -/
def filter (collection : Collection) : Option Filter → List Document
  | none => collection.documents
  | some filter => collection.documents.filter fun document => filter.satisfiedBy document.record

/-- Updates the first document with the given identifier and gives it together with the documents
after the update. -/
def updateFirst? (id : String) (changes : Document) (time : String) :
    List Document → Option (Document × List Document)
  | [] => none
  | document :: rest =>
    if document.id? = some id then
      let updated := document.updated changes time
      some (updated, updated :: rest)
    else
      (updateFirst? id changes time rest).map fun (updated, others) =>
        (updated, document :: others)

/-- The documents without those that have the given identifier. -/
def without (id : String) (documents : List Document) : List Document :=
  documents.filter fun document => document.id? ≠ some id

/-- The given documents as they are inserted, each with a stamp of its own. -/
def stampAll (supply : Nat → Stamp) (documents : List Document) : List Document :=
  documents.zipIdx.map fun (document, i) => document.stamped (supply i)

end Collection

end DocumentStore
