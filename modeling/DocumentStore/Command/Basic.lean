import DocumentStore.Document

/-!
# Commands

A command is an action of a client together with its arguments.
-/

namespace DocumentStore

/-- What a client can ask for. -/
inductive Action
  | createCollection
  | insert
  | find
  | update
  | remove
  | bulkInsert
  | exportCollection
  | deleteDb
  | query
deriving DecidableEq, Repr

namespace Action

/-- Every action. -/
def all : List Action :=
  [.createCollection, .insert, .find, .update, .remove, .bulkInsert, .exportCollection, .deleteDb,
    .query]

/-- The name of an action. -/
def name : Action → String
  | .createCollection => "createCollection"
  | .insert => "insert"
  | .find => "find"
  | .update => "update"
  | .remove => "remove"
  | .bulkInsert => "bulkInsert"
  | .exportCollection => "exportCollection"
  | .deleteDb => "deleteDb"
  | .query => "query"

/-- The action of a name. -/
def ofName? (text : String) : Option Action := all.find? fun action => action.name = text

end Action

/-- An action with its arguments. -/
inductive Command
  | createCollection (name : String)
  | insert (name : String) (item : Document)
  | find (name : String) (condition : Option String)
  | update (name : String) (item : Document)
  | remove (name id : String)
  | bulkInsert (name : String) (items : List Document)
  | exportCollection (name : String)
  | deleteDb
  | query (statement : String)

end DocumentStore
