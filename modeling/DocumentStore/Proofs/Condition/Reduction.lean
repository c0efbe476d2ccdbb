import DocumentStore.Condition.Evaluation
import DocumentStore.Filter.Basic
import DocumentStore.Proofs.Condition.Grammar
import DocumentStore.Proofs.Condition.Listing

/-!
# Programs that reduce to one value

The machine folds an expression whose instructions it meets, whatever is on the stack before them.
A program that a strict interpretation reduces to one value lists an expression: the machine itself
can build that expression, with expressions as operands.
-/

namespace DocumentStore

namespace Expression

variable {α : Type}

/-- What an interpretation makes of an expression, its left side first. -/
def fold (i : Interpretation α) : Expression → Except ConditionError α
  | .name s => i.name s
  | .literal l => i.literal l
  | .operation op left right => do
    let a ← left.fold i
    let b ← right.fold i
    i.apply op a b

theorem step_operator (i : Interpretation α) (op : Operator) (a b : α) (stack : List α) :
    i.step (b :: a :: stack) (.operator op) =
      i.apply op a b >>= fun value => pure (value :: stack) :=
  rfl

/-- The machine leaves the value of an expression on the stack and goes on. -/
theorem foldlM_postorder (i : Interpretation α) (e : Expression) (rest : List Token)
    (stack : List α) :
    (e.postorder ++ rest).foldlM i.step stack =
      e.fold i >>= fun value => rest.foldlM i.step (value :: stack) := by
  induction e generalizing rest stack with
  | name s => exact bind_assoc ..
  | literal l => exact bind_assoc ..
  | operation op left right ihLeft ihRight =>
    simp only [postorder, List.append_assoc, ihLeft, ihRight, fold, bind_assoc]
    refine bind_congr fun a => bind_congr fun b => ?_
    rw [List.singleton_append, List.foldlM_cons, step_operator]
    exact bind_assoc ..

/-- The scalar that an expression comes to on a record. -/
def value (record : Record) : Expression → Scalar
  | .name s => record s
  | .literal l => .ofLiteral l
  | .operation (.comparison op) left right =>
    .bool (op.holds (left.value record) (right.value record))
  | .operation (.connective op) left right => op.choose (left.value record) (right.value record)

theorem fold_evaluator (record : Record) (e : Expression) :
    e.fold (.evaluator record) = .ok (e.value record) := by
  induction e with
  | name s => rfl
  | literal l => rfl
  | operation op left right ihLeft ihRight =>
    rw [fold, ihLeft, ihRight]
    cases op <;> rfl

end Expression

/-- Two conditions that are joined are true together as their connective says. -/
theorem Connective.isTruthy_choose (op : Connective) (left right : Scalar) :
    (op.choose left right).isTruthy = op.truth left.isTruthy right.isTruthy := by
  cases op with
  | and => by_cases truthy : left.isTruthy <;> simp [choose, truth, truthy]
  | or => by_cases truthy : left.isTruthy <;> simp [choose, truth, truthy]

namespace Program

theorem evaluate_postorder {program : Program} {e : Expression}
    (lists : program.instructions = e.postorder) (record : Record) :
    program.evaluate record = .ok (e.value record).isTruthy := by
  have ran := e.foldlM_postorder (.evaluator record) [] []
  rw [List.append_nil, Expression.fold_evaluator] at ran
  rw [evaluate, value?, Interpretation.run, lists, ran]
  rfl

/-- Two expressions that are listed one after the other and joined are true together as the
connective says. -/
theorem evaluate_joined (op : Connective) (left right : Expression) (record : Record) :
    evaluate ⟨left.postorder ++ right.postorder ++ [.operator (.connective op)]⟩ record =
      .ok (op.truth (left.value record).isTruthy (right.value record).isTruthy) := by
  have lists : left.postorder ++ right.postorder ++ [.operator (.connective op)] =
      (Expression.operation (.connective op) left right).postorder := rfl
  rw [evaluate_postorder lists, Expression.value, Connective.isTruthy_choose]

end Program

namespace Interpretation

/-- Builds the expression that a program lists. -/
def expressions : Interpretation Expression where
  name s := .ok (.name s)
  literal l := .ok (.literal l)
  compare op left right := .ok (.operation (.comparison op) left right)
  join op left right := .ok (.operation (.connective op) left right)
  missing := refuseMissing
  finish := finishSingle

theorem lists_expressions : Lists expressions Expression.postorder where
  name made := by
    cases made
    rfl
  literal made := by
    cases made
    rfl
  apply {op left right made} applied := by
    cases op <;> (cases applied; rfl)
  missing := rfl
  finish := rfl

/-- Strict interpretations differ in their values only, so expressions can be built wherever another
one that refuses missing and spare operands succeeds. -/
theorem simulatedBy_expressions {α : Type} {i : Interpretation α}
    (missing : i.missing = refuseMissing) (finish : i.finish = finishSingle) :
    SimulatedBy (fun _ _ => True) i expressions where
  name _ := ⟨_, rfl, trivial⟩
  literal _ := ⟨_, rfl, trivial⟩
  apply {op left right left' right' _} _ _ _ :=
    ⟨.operation op left' right', by cases op <;> rfl, trivial⟩
  missing stood := by
    rw [missing] at stood
    cases stood
  finish related finished := by
    rw [finish] at finished
    exact finishSingle_of_forall₂ rfl (fun _ => rfl) related finished

end Interpretation

namespace Program

/-- A program that can be printed, or reduced to one value by any other strict interpretation, lists
an expression. -/
theorem exists_expression {α : Type} {i : Interpretation α}
    (missing : i.missing = Interpretation.refuseMissing)
    (finish : i.finish = Interpretation.finishSingle) {program : Program} {value : α}
    (reduced : i.run program = .ok (some value)) :
    ∃ e : Expression, program.instructions = e.postorder := by
  obtain ⟨built, ran, related⟩ := Interpretation.run_of_simulatedBy
    (Interpretation.simulatedBy_expressions missing finish) reduced
  cases related with
  | @some _ e _ => exact ⟨e, Interpretation.lists_expressions.instructions ran⟩

end Program

end DocumentStore
