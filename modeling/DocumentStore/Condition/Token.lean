import DocumentStore.Decimal.Layout
import DocumentStore.Text.Ascii

/-!
# Tokens of conditions

A condition compares fields with literals and joins comparisons by AND and OR. Its text is made of
operators, parentheses, field names and literals. Comparisons bind more tightly than connectives,
AND and OR bind equally, and operators of equal strength group to the left.
-/

namespace DocumentStore

/-- The six comparisons. -/
inductive Comparison
  | eq
  | ne
  | gt
  | ge
  | lt
  | le
deriving DecidableEq, Repr

/-- A comparison as it is written. -/
def Comparison.symbol : Comparison → String
  | .eq => "="
  | .ne => "!="
  | .gt => ">"
  | .ge => ">="
  | .lt => "<"
  | .le => "<="

/-- All comparisons, in the order in which they are listed above. -/
def Comparison.all : List Comparison := [.eq, .ne, .gt, .ge, .lt, .le]

/-- The comparison that is written in a given way. -/
def Comparison.ofSymbol? (symbol : String) : Option Comparison :=
  Comparison.all.find? fun comparison => comparison.symbol == symbol

/-- The two words that join conditions. -/
inductive Connective
  | and
  | or
deriving DecidableEq, Repr

/-- A connective as it is written. -/
def Connective.symbol : Connective → String
  | .and => "AND"
  | .or => "OR"

/-- The connective that a word spells in any letter case. -/
def Connective.ofWord? (word : List Char) : Option Connective :=
  if Text.spells "and" word then some .and
  else if Text.spells "or" word then some .or
  else none

/-- An operator of two operands. -/
inductive Operator
  | comparison (op : Comparison)
  | connective (op : Connective)
deriving DecidableEq, Repr

namespace Operator

/-- An operator as it is written. -/
def symbol : Operator → String
  | .comparison op => op.symbol
  | .connective op => op.symbol

/-- How tightly an operator binds its operands. -/
def precedence : Operator → Nat
  | .connective _ => 1
  | .comparison _ => 2

/-- Whether a row of operators of this precedence groups to the left, as all of them do. -/
def groupsLeft : Operator → Bool := fun _ => true

/-- The operator that a text spells: the symbol of a comparison, or a connective in any letter
case. -/
def ofText? (text : String) : Option Operator :=
  match Comparison.ofSymbol? text with
  | some op => some (.comparison op)
  | none => (Connective.ofWord? text.toList).map .connective

end Operator

/-- A text in double quotes, or an unsigned number. -/
inductive Literal
  | text (s : String)
  | number (x : Float)
deriving DecidableEq

/-- A literal as it is shown: a text in quotes and otherwise unchanged, a number in plain
layout. -/
def Literal.display : Literal → String
  | .text s => "\"" ++ s ++ "\""
  | .number x => plainText x

/-- A token of a condition. -/
inductive Token
  | operator (op : Operator)
  | openParen
  | closeParen
  | name (s : String)
  | literal (l : Literal)
deriving DecidableEq

/-- A token as it is shown. -/
def Token.display : Token → String
  | .operator op => op.symbol
  | .openParen => "("
  | .closeParen => ")"
  | .name s => s
  | .literal l => l.display

end DocumentStore
