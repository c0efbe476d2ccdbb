import DocumentStore.Condition.Machine
import DocumentStore.Scalar

/-!
# Filters

A filter is the declarative form of a condition: comparisons of a field with a literal, joined by
AND and OR. It can be sent to another store. A filter grows as deep as its condition is long, so
it is matched, compared and shown by loops that keep what is still to do in a list. The recursive
meaning `Filter.Holds` is what matching computes.
-/

namespace DocumentStore

/-- A comparison of a field with a literal, or two filters joined by a connective. -/
inductive Filter
  | compare (field : String) (op : Comparison) (literal : Literal)
  | join (op : Connective) (left right : Filter)
deriving DecidableEq

/-- The truth of two conditions joined by a connective. -/
def Connective.truth (op : Connective) (left right : Bool) : Bool :=
  match op with
  | .and => left && right
  | .or => left || right

namespace Filter

/-- The number of loop steps that a filter takes. -/
def weight : Filter → Nat
  | .compare .. => 1
  | .join _ left right => left.weight + right.weight + 2

/-- The sum of a measure over a list. -/
def total {α : Type} (measure : α → Nat) : List α → Nat
  | [] => 0
  | x :: rest => measure x + total measure rest

/-- Whether a record satisfies a filter. -/
def Holds (record : Record) : Filter → Prop
  | .compare field op literal => op.holds (record field) (.ofLiteral literal)
  | .join .and left right => left.Holds record ∧ right.Holds record
  | .join .or left right => left.Holds record ∨ right.Holds record

/-- What the matching loop has still to do. -/
inductive Step
  | visit (filter : Filter)
  | combine (op : Connective)
deriving DecidableEq

/-- The number of loop steps that a step brings about. -/
def Step.weight : Step → Nat
  | .visit filter => filter.weight
  | .combine _ => 1

/-- Joins the two newest results; a spare value stands in for a result that is not there. -/
def combine (spare : Bool) (op : Connective) : List Bool → List Bool
  | right :: left :: results => op.truth left right :: results
  | [right] => [op.truth spare right]
  | [] => [op.truth spare spare]

/-- Runs the steps of a matching and collects the results, the newest first. -/
def runSteps (record : Record) (spare : Bool) : List Step → List Bool → List Bool
  | [], results => results
  | .visit (.compare field op literal) :: steps, results =>
    runSteps record spare steps (op.holds (record field) (.ofLiteral literal) :: results)
  | .visit (.join op left right) :: steps, results =>
    runSteps record spare (.visit left :: .visit right :: .combine op :: steps) results
  | .combine op :: steps, results => runSteps record spare steps (combine spare op results)
termination_by steps => total Step.weight steps
decreasing_by all_goals simp [total, Step.weight, weight]; try omega

/-- Whether a record satisfies a filter, found by a loop. -/
def satisfiedBy (filter : Filter) (record : Record) : Bool :=
  (runSteps record false [.visit filter] []).headD false

/-- Whether two literals are equal: a text never equals a number, and numbers are compared as
doubles. -/
def sameLiteral : Literal → Literal → Bool
  | .text s, .text t => s == t
  | .number x, .number y => x == y
  | _, _ => false

/-- Whether all pairs of filters in a list are equal. -/
def samePairs : List (Filter × Filter) → Bool
  | [] => true
  | (.join op left right, .join op' left' right') :: pairs =>
    op == op' && samePairs ((right, right') :: (left, left') :: pairs)
  | (.compare field op literal, .compare field' op' literal') :: pairs =>
    field == field' && op == op' && sameLiteral literal literal' && samePairs pairs
  | _ => false
termination_by pairs => total (fun pair => pair.1.weight) pairs
decreasing_by all_goals simp [total, weight]; try omega

/-- Whether two filters are equal, found by a loop. -/
def same (left right : Filter) : Bool := samePairs [(left, right)]

/-- What the displaying loop has still to write. -/
inductive Piece
  | filter (filter : Filter)
  | words (s : String)
deriving DecidableEq

/-- The number of loop steps that a piece brings about. -/
def Piece.weight : Piece → Nat
  | .filter f => 2 * f.weight
  | .words _ => 1

/-- Writes pieces one after the other. -/
def writePieces : List Piece → List Char
  | [] => []
  | .words s :: pieces => s.toList ++ writePieces pieces
  | .filter (.compare field op literal) :: pieces =>
    (field ++ " " ++ op.symbol ++ " " ++ literal.display).toList ++ writePieces pieces
  | .filter (.join op left right) :: pieces =>
    '(' :: writePieces
      (.filter left :: .words (" " ++ op.symbol ++ " ") :: .filter right :: .words ")" :: pieces)
termination_by pieces => total Piece.weight pieces
decreasing_by all_goals simp [total, Piece.weight, weight]; try omega

/-- A filter as it is shown, with a pair of parentheses around every connective and its two
sides. -/
def display (filter : Filter) : String := String.ofList (writePieces [.filter filter])

end Filter

end DocumentStore
