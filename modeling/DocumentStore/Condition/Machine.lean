import DocumentStore.Condition.Program

/-!
# The stack machine of programs

A program is run by a machine that holds its operands on a stack. What an operand is, and how the
operators combine operands, is up to an interpretation: evaluation against a record, the making
of filters and printing are three of them.
-/

namespace DocumentStore

/-- What the operands of a program are and how its operators combine them. -/
structure Interpretation (α : Type) where
  name : String → Except ConditionError α
  literal : Literal → Except ConditionError α
  compare : Comparison → α → α → Except ConditionError α
  join : Connective → α → α → Except ConditionError α
  /-- Stands in for an operand that the stack lacks. -/
  missing : Operator → Except ConditionError α
  /-- Chooses the result from the values left on the stack, the last one first. -/
  finish : List α → Except ConditionError (Option α)

namespace Interpretation

variable {α : Type}

/-- Refuses to stand in for a missing operand. -/
def refuseMissing (op : Operator) : Except ConditionError α := .error (.missingOperand op)

/-- Accepts one value, or none if there was no instruction. -/
def finishSingle : List α → Except ConditionError (Option α)
  | [] => .ok none
  | [value] => .ok (some value)
  | stack => .error (.danglingOperands stack.length)

/-- Takes the topmost operand for an operator. -/
def pop (i : Interpretation α) (op : Operator) : List α → Except ConditionError (α × List α)
  | [] => (i.missing op).map fun value => (value, [])
  | value :: stack => .ok (value, stack)

/-- Applies an operator to its two operands. -/
def apply (i : Interpretation α) : Operator → α → α → Except ConditionError α
  | .comparison op, left, right => i.compare op left right
  | .connective op, left, right => i.join op left right

/-- Runs one instruction. The right operand of an operator is taken before the left one. -/
def step (i : Interpretation α) (stack : List α) : Token → Except ConditionError (List α)
  | .name s => do return (← i.name s) :: stack
  | .literal l => do return (← i.literal l) :: stack
  | .operator op => do
    let (right, stack) ← i.pop op stack
    let (left, stack) ← i.pop op stack
    return (← i.apply op left right) :: stack
  | .openParen | .closeParen => .error .mismatchedParentheses

/-- Runs a program. -/
def run (i : Interpretation α) (program : Program) : Except ConditionError (Option α) := do
  i.finish (← program.instructions.foldlM i.step [])

/-- Prints a program with a pair of parentheses around every operation. -/
def printer : Interpretation String where
  name s := .ok s
  literal l := .ok l.display
  compare op left right := .ok ("(" ++ left ++ " " ++ op.symbol ++ " " ++ right ++ ")")
  join op left right := .ok ("(" ++ left ++ " " ++ op.symbol ++ " " ++ right ++ ")")
  missing := refuseMissing
  finish := finishSingle

end Interpretation

/-- The condition that a program stands for, with a pair of parentheses around every operation. -/
def Program.parenthesized (program : Program) : Except ConditionError (Option String) :=
  Interpretation.printer.run program

end DocumentStore
