import DocumentStore.Condition.Token

/-!
# Errors of conditions and statements

Each error says what is wrong; `ConditionError.message` puts it into words.
-/

namespace DocumentStore

/-- What an operand of a filter under construction stands for. -/
inductive Role
  | field (name : String)
  | literal (l : Literal)
  | filter
deriving DecidableEq

/-- A role in words. -/
def Role.describe : Role → String
  | .field name => "field '" ++ name ++ "'"
  | .literal l => "literal " ++ l.display
  | .filter => "filter"

/-- Why a condition or a statement cannot be read, compiled, evaluated or turned into a filter. -/
inductive ConditionError
  /-- A parenthesis has no partner. -/
  | mismatchedParentheses
  /-- A text is no operator, or a remote store cannot express the operator. -/
  | unsupportedOperator (symbol : String)
  /-- There is no remote store to build a filter for. -/
  | capabilityUnavailable
  /-- A comparison in a filter has something else than a field before a literal. -/
  | comparedRoles (op : Comparison) (left right : Role)
  /-- A connective in a filter joins something else than two filters. -/
  | joinedRoles (op : Connective) (left right : Role)
  /-- A condition for a filter is a mere field or literal. -/
  | bareRole (role : Role)
  /-- An operator lacks an operand. -/
  | missingOperand (op : Operator)
  /-- Several values are left when all operators have been applied. -/
  | danglingOperands (count : Nat)
  /-- A character begins no token; its position counts the UTF-8 bytes before it. -/
  | unexpectedCharacter (ch : Char) (position : Nat)
  /-- A statement names no collection. -/
  | missingFromClause
deriving DecidableEq

/-- An error in words. -/
def ConditionError.message : ConditionError → String
  | .mismatchedParentheses => "Mismatched parentheses"
  | .unsupportedOperator symbol => "Unsupported operator " ++ symbol
  | .capabilityUnavailable => "Remote filter capability is not available in this environment"
  | .comparedRoles op left right =>
    "Invalid operand for " ++ op.symbol ++
      ": expected a field on the left and a literal on the right, found " ++ left.describe ++
      " and " ++ right.describe
  | .joinedRoles op left right =>
    "Invalid operand for " ++ op.symbol ++ ": expected two conditions, found " ++
      left.describe ++ " and " ++ right.describe
  | .bareRole role =>
    "Invalid operand for condition: expected a comparison, found " ++ role.describe
  | .missingOperand op => "Missing operand for " ++ op.symbol
  | .danglingOperands count =>
    "Malformed condition: " ++ toString count ++ " values left after evaluation"
  | .unexpectedCharacter ch position =>
    "Unexpected character '" ++ ch.toString ++ "' at position " ++ toString position
  | .missingFromClause => "Invalid TissQL query: Missing FROM clause."

/-- Reads an operator. -/
def Operator.read (text : String) : Except ConditionError Operator :=
  match Operator.ofText? text with
  | some op => .ok op
  | none => .error (.unsupportedOperator text)

end DocumentStore
