import DocumentStore.Proofs.Condition.Reduction

/-!
# Programs that list an expression

Run on the instructions of an expression, the machine folds the expression, whatever its operands are.
An interpretation that fails does so at the first part of the expression that it refuses, in the order
in which the parts are listed. Each operator finds its two operands on the stack.
-/

namespace DocumentStore

variable {α : Type}

namespace Expression

/-- The parts of an expression: those of its left side, those of its right side and itself. -/
def parts : Expression → List Expression
  | .name s => [.name s]
  | .literal l => [.literal l]
  | .operation op left right => left.parts ++ right.parts ++ [.operation op left right]

/-- Why an interpretation refuses an expression although it has made both its sides, if it does. -/
def refusal? (i : Interpretation α) : Expression → Option ConditionError
  | .name s => failure? (i.name s)
  | .literal l => failure? (i.literal l)
  | .operation op left right =>
    match left.fold i, right.fold i with
    | .ok a, .ok b => failure? (i.apply op a b)
    | _, _ => none

theorem findSome?_refusal? (i : Interpretation α) (e : Expression) :
    e.parts.findSome? (refusal? i) = failure? (e.fold i) := by
  induction e with
  | name s => exact List.findSome?_singleton
  | literal l => exact List.findSome?_singleton
  | operation op left right ihLeft ihRight =>
    rw [parts, List.findSome?_append, List.findSome?_append, ihLeft, ihRight,
      List.findSome?_singleton, refusal?, fold]
    rcases left.fold i with error | a
    · rfl
    · rcases right.fold i with error | b <;> rfl

theorem fold_with_missing (i : Interpretation α) (missing : Operator → Except ConditionError α)
    (e : Expression) : e.fold { i with missing } = e.fold i := by
  induction e with
  | name s => rfl
  | literal l => rfl
  | operation op left right ihLeft ihRight =>
    rw [fold, fold, ihLeft, ihRight]
    refine bind_congr fun a => bind_congr fun b => ?_
    cases op <;> rfl

end Expression

namespace Interpretation

open Expression

theorem run_eq_fold (i : Interpretation α) (e : Expression) :
    i.run ⟨e.postorder⟩ = e.fold i >>= fun value => i.finish [value] := by
  have ran := e.foldlM_postorder i [] []
  rw [List.append_nil] at ran
  rw [run, ran, bind_assoc]
  rfl

/-- The instructions of an expression come to the fold of the expression, as the one value that is
left. A run fails for the first part of the expression that is refused, or else if its value is. What
would stand in for a missing operand is of no importance. -/
theorem run_postorder (i : Interpretation α) (e : Expression) :
    i.run ⟨e.postorder⟩ = (e.fold i >>= fun value => i.finish [value]) ∧
    (∀ error, i.run ⟨e.postorder⟩ = .error error ↔
      e.parts.findSome? (refusal? i) = some error ∨
        ∃ value, e.fold i = .ok value ∧ i.finish [value] = .error error) ∧
    ∀ missing, run { i with missing } ⟨e.postorder⟩ = i.run ⟨e.postorder⟩ := by
  refine ⟨run_eq_fold i e, fun error => ?_, fun missing => ?_⟩
  · rw [run_eq_fold, findSome?_refusal?, failure?_eq_some_iff]
    exact bind_eq_error_iff
  · rw [run_eq_fold, run_eq_fold, fold_with_missing]

/-- Of two parts that are refused, the one that is listed first decides, and not the one that would
be left to the end. -/
example (a b : String) :
    let refusing : Interpretation String := { printer with
      literal := fun l => .error (.bareRole (.literal l))
      compare := fun op _ _ => .error (.unsupportedOperator op.symbol) }
    refusing.run ⟨(Expression.operation (.connective .or)
      (.operation (.comparison .eq) (.name a) (.name b)) (.literal (.text b))).postorder⟩ =
      .error (.unsupportedOperator "=") := rfl

end Interpretation

end DocumentStore
