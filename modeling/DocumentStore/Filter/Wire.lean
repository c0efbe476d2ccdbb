import DocumentStore.Filter.Basic
import DocumentStore.Json.Reading
import DocumentStore.Json.Writing

/-!
# Filters as JSON

A filter travels as a JSON object whose field `kind` tells a comparison from the two connectives.
Reading is more liberal than writing: a filter may also be an array of its kind and its parts, a
comparison symbol may be wrapped in an object, inner filters may give their kind by number, and
fields without a meaning are passed over.
-/

namespace DocumentStore.Filter

/-- The JSON value of a literal. -/
def literalToJson : Literal → Json
  | .text s => .string s
  | .number x => .number (.float x)

/-- The name of a connective as a kind of filter. -/
def connectiveKind : Connective → String
  | .and => "and"
  | .or => "or"

/-- The JSON value of a filter. -/
def toJson : Filter → Json
  | .compare field op literal =>
    .object [("kind", .string "compare"), ("field", .string field), ("op", .string op.symbol),
      ("value", literalToJson literal)]
  | .join op left right =>
    .object [("kind", .string (connectiveKind op)), ("left", left.toJson), ("right", right.toJson)]

/-- The compact JSON text of a filter. -/
def wireText (filter : Filter) : String := filter.toJson.text

/-- The kinds of filters. -/
inductive Kind
  | compare
  | join (op : Connective)
deriving DecidableEq, Repr

/-- The kind that a JSON value names, or numbers where that is allowed. -/
def Kind.ofJson? (numbered : Bool) : Json → Option Kind
  | .string "compare" => some .compare
  | .string "and" => some (.join .and)
  | .string "or" => some (.join .or)
  | .number (.integer 0) => if numbered then some .compare else none
  | .number (.integer 1) => if numbered then some (.join .and) else none
  | .number (.integer 2) => if numbered then some (.join .or) else none
  | _ => none

/-- The comparison that a JSON value names: its symbol, or an object whose only field has the
symbol as its name and nothing as its value. -/
def comparisonOfJson? : Json → Option Comparison
  | .string symbol => Comparison.ofSymbol? symbol
  | .object [(symbol, .null)] => Comparison.ofSymbol? symbol
  | .object [(symbol, .object [])] => Comparison.ofSymbol? symbol
  | _ => none

/-- The literal that a JSON value stands for; any number counts as a double. -/
def literalOfJson? : Json → Option Literal
  | .string s => some (.text s)
  | .number n => some (.number n.toFloat)
  | _ => none

/-- A part of a filter: a JSON value, and the filter that it spells if it spells one. -/
structure Part where
  json : Json
  filter? : Option Filter

/-- The only part of a given name. -/
def only? (name : String) (parts : List (String × Part)) : Option Part :=
  match parts.filter fun part => part.1 == name with
  | [(_, part)] => some part
  | _ => none

/-- A comparison from its three parts. -/
def compareOf? (field op value : Part) : Option Filter :=
  match field.json, comparisonOfJson? op.json, literalOfJson? value.json with
  | .string field, some op, some literal => some (.compare field op literal)
  | _, _, _ => none

/-- Two joined filters from their parts. -/
def joinOf? (op : Connective) (left right : Part) : Option Filter := do
  return .join op (← left.filter?) (← right.filter?)

/-- A filter from its parts by name. -/
def ofNamedParts? (numbered : Bool) (parts : List (String × Part)) : Option Filter := do
  match ← Kind.ofJson? numbered (← only? "kind" parts).json with
  | .compare => compareOf? (← only? "field" parts) (← only? "op" parts) (← only? "value" parts)
  | .join op => joinOf? op (← only? "left" parts) (← only? "right" parts)

/-- A filter from its kind and its parts in their order. -/
def ofListedParts? (numbered : Bool) : List Part → Option Filter
  | kind :: parts => do
    match ← Kind.ofJson? numbered kind.json, parts with
    | .compare, [field, op, value] => compareOf? field op value
    | .join op, [left, right] => joinOf? op left right
    | _, _ => none
  | [] => none

mutual

/-- The filter that a JSON value spells. -/
def ofJson? (numbered : Bool) : Json → Option Filter
  | .object fields => ofNamedParts? numbered (namedParts fields)
  | .array items => ofListedParts? numbered (listedParts items)
  | _ => none

/-- The parts of a filter that is spelled as an object. -/
def namedParts : List (String × Json) → List (String × Part)
  | [] => []
  | (name, value) :: rest => (name, ⟨value, ofJson? true value⟩) :: namedParts rest

/-- The parts of a filter that is spelled as an array. -/
def listedParts : List Json → List Part
  | [] => []
  | item :: rest => ⟨item, ofJson? true item⟩ :: listedParts rest

end

/-- Reads a filter from a JSON text. -/
def read? (text : String) : Option Filter := do ofJson? false (← Json.read? text.toList)

end DocumentStore.Filter
