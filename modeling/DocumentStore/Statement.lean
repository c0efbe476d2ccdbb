import DocumentStore.Condition.Error
import DocumentStore.Text.Blank

/-!
# Statements

A statement names a collection in its FROM clause and may restrict it in its WHERE clause. The two
clauses are looked for independently, each at its leftmost place in the text; a clause may begin
in the middle of a word, and all other text is passed over.
-/

namespace DocumentStore

/-- What a statement asks for. -/
structure Statement where
  collection : String
  /-- The text of the condition, empty if there is none. -/
  condition : String
deriving DecidableEq, Repr

namespace Statement

/-- A character of a collection name: an ASCII letter, digit or underscore, or one of the two
characters outside ASCII that differ from an ASCII letter only in case. -/
def isNameChar (c : Char) : Bool :=
  c.isAlphanum || c == '_' || c == '\u017F' || c == '\u212A'

/-- What follows a keyword in any letter case and one blank or more, if the text begins so. -/
def afterKeyword? (keyword : String) (text : List Char) : Option (List Char) :=
  let rest := text.drop keyword.length
  if Text.spells keyword (text.take keyword.length) && rest.head?.any Text.isBlank then
    some (Text.trimStart rest)
  else none

/-- The collection named by a FROM clause with which a text begins. -/
def fromClause? (text : List Char) : Option (List Char) :=
  match afterKeyword? "from" text with
  | some rest =>
    let name := rest.takeWhile isNameChar
    if name.isEmpty then none else some name
  | none => none

/-- The condition in a WHERE clause with which a text begins: what is left of the line. -/
def whereClause? (text : List Char) : Option (List Char) :=
  (afterKeyword? "where" text).map fun rest => Text.trim (rest.takeWhile fun c => c != '\n')

/-- The result of the leftmost place at which a clause is found. -/
def leftmost? (clause? : List Char → Option (List Char)) : List Char → Option (List Char)
  | [] => none
  | c :: rest =>
    match clause? (c :: rest) with
    | some found => some found
    | none => leftmost? clause? rest

/-- Reads a statement. -/
def read (text : String) : Except ConditionError Statement :=
  match leftmost? fromClause? text.toList with
  | none => .error .missingFromClause
  | some name =>
    .ok ⟨String.ofList name, String.ofList ((leftmost? whereClause? text.toList).getD [])⟩

end Statement

end DocumentStore
