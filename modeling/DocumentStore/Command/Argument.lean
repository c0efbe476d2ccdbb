import DocumentStore.Command.Basic
import DocumentStore.Text.Quoted

/-!
# Arguments of commands

The arguments of a command are fields of the object that carries it. An argument of the wrong type
is reported before one that is missing, and in either case the first one in the order of the
arguments; fields that the action does not know are passed over.
-/

namespace DocumentStore

/-- What an argument has to be. -/
inductive ArgumentType
  | text
  | object
  | array
deriving DecidableEq, Repr

/-- A type in words. -/
def ArgumentType.describe : ArgumentType → String
  | .text => "a string"
  | .object => "a map"
  | .array => "a sequence"

/-- Why the arguments of a command cannot be used. -/
inductive ArgumentError
  /-- An argument, or an item of it, is something else than it has to be. -/
  | mistyped (found : Json) (expected : ArgumentType)
  | missing (name : String)

/-- A JSON value in words. -/
def Json.describe : Json → String
  | .null => "null"
  | .bool b => "boolean `" ++ String.ofList (boolWord b) ++ "`"
  | .number (.integer n) => "integer `" ++ String.ofList (writeNumber (.integer n)) ++ "`"
  | .number (.float x) => "floating point `" ++ String.ofList (writeNumber (.float x)) ++ "`"
  | .string s => "string " ++ Text.quote s
  | .array _ => "sequence"
  | .object _ => "map"

/-- An error in words. -/
def ArgumentError.message : ArgumentError → String
  | .mistyped found expected =>
    "invalid type: " ++ found.describe ++ ", expected " ++ expected.describe
  | .missing name => "missing field `" ++ name ++ "`"

namespace Argument

/-- A text. -/
def text : Json → Except ArgumentError String
  | .string s => .ok s
  | found => .error (.mistyped found .text)

/-- A text or null. -/
def textOrNull : Json → Except ArgumentError (Option String)
  | .null => .ok none
  | found => (text found).map some

/-- A document. -/
def document : Json → Except ArgumentError Document
  | .object fields => .ok (Document.ofFields fields)
  | found => .error (.mistyped found .object)

/-- Several documents. -/
def documents : Json → Except ArgumentError (List Document)
  | .array items => items.mapM document
  | found => .error (.mistyped found .array)

/-- The name of a collection. -/
def collectionName : String := "collectionName"

/-- The text of a condition. -/
def condition : String := "condition_string"

/-- A document. -/
def item : String := "item"

/-- The identifier of a document. -/
def itemId : String := "itemId"

/-- A list of documents. -/
def items : String := "items"

/-- The text of a statement. -/
def statement : String := "statement"

/-- The argument of a name, if it is there. -/
def optional {α : Type} (read : Json → Except ArgumentError α) (name : String)
    (fields : List (String × Json)) : Except ArgumentError (Option α) :=
  match Entries.get? name fields with
  | none => .ok none
  | some value => (read value).map some

/-- An argument that has to be there. -/
def present {α : Type} (name : String) : Option α → Except ArgumentError α
  | some value => .ok value
  | none => .error (.missing name)

/-- The only argument of an action. -/
def single {α : Type} (read : Json → Except ArgumentError α) (name : String)
    (fields : List (String × Json)) : Except ArgumentError α := do
  present name (← optional read name fields)

/-- The name of a collection and a further argument. -/
def withCollection {α : Type} (read : Json → Except ArgumentError α) (name : String)
    (fields : List (String × Json)) : Except ArgumentError (String × α) := do
  let collection? ← optional text collectionName fields
  let value? ← optional read name fields
  return (← present collectionName collection?, ← present name value?)

end Argument

/-- The command of an action whose arguments are among the given fields. -/
def Command.ofFields (fields : List (String × Json)) : Action → Except ArgumentError Command
  | .createCollection => do
    return .createCollection (← Argument.single Argument.text Argument.collectionName fields)
  | .insert => do
    let (name, item) ← Argument.withCollection Argument.document Argument.item fields
    return .insert name item
  | .find => do
    let name? ← Argument.optional Argument.text Argument.collectionName fields
    let condition? ← Argument.optional Argument.textOrNull Argument.condition fields
    return .find (← Argument.present Argument.collectionName name?) condition?.join
  | .update => do
    let (name, item) ← Argument.withCollection Argument.document Argument.item fields
    return .update name item
  | .remove => do
    let (name, id) ← Argument.withCollection Argument.text Argument.itemId fields
    return .remove name id
  | .bulkInsert => do
    let (name, items) ← Argument.withCollection Argument.documents Argument.items fields
    return .bulkInsert name items
  | .exportCollection => do
    return .exportCollection (← Argument.single Argument.text Argument.collectionName fields)
  | .deleteDb => return .deleteDb
  | .query => do
    return .query (← Argument.single Argument.text Argument.statement fields)

end DocumentStore
