import DocumentStore.Condition.Machine
import DocumentStore.Scalar

/-!
# Evaluation

A program is evaluated against a record. Evaluation is lenient: an operand that is missing counts
as an absent field, and of several values left over the one computed first decides.
-/

namespace DocumentStore

/-- The value of two conditions joined by a connective: AND gives the left value if that is not
true, OR gives it if that is true, and else both give the right value. -/
def Connective.choose : Connective → Scalar → Scalar → Scalar
  | .and, left, right => if left.isTruthy then right else left
  | .or, left, right => if left.isTruthy then left else right

/-- Evaluates a program against a record. -/
def Interpretation.evaluator (record : Record) : Interpretation Scalar where
  name s := .ok (record s)
  literal l := .ok (.ofLiteral l)
  compare op left right := .ok (.bool (op.holds left right))
  join op left right := .ok (op.choose left right)
  missing _ := .ok .absent
  finish stack := .ok stack.getLast?

namespace Program

/-- The value of a program on a record, if it has an instruction. -/
def value? (program : Program) (record : Record) : Except ConditionError (Option Scalar) :=
  (Interpretation.evaluator record).run program

/-- Whether a record satisfies a program; the empty program is satisfied by all. -/
def evaluate (program : Program) (record : Record) : Except ConditionError Bool :=
  (program.value? record).map fun value => value.all Scalar.isTruthy

end Program

end DocumentStore
