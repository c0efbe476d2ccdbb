import DocumentStore.Condition.Evaluation
import DocumentStore.Proofs.Filter.Building
import DocumentStore.Proofs.Filter.Matching

/-!
# Filters and evaluation

A condition can be evaluated on a record, or turned into a filter that the record is matched
against. Evaluation simulates the building of filters: an operand of a filter under construction
has a scalar as its counterpart on every record, and a filter that is complete has its truth.
-/

namespace DocumentStore

/-- The scalar that an operand of a filter under construction comes to on a record. -/
def Operand.scalar (record : Record) : Operand Filter → Scalar
  | .field name => record name
  | .literal l => .ofLiteral l
  | .filter f => .bool (f.satisfiedBy record)

theorem Connective.choose_bool (op : Connective) (left right : Bool) :
    op.choose (.bool left) (.bool right) = .bool (op.truth left right) := by
  cases op <;> cases left <;> cases right <;> rfl

namespace Interpretation

theorem evaluator_apply_scalar (record : Record) {op : Operator} {left right made : Operand Filter}
    (applied : (builder .documents).apply op left right = .ok made) :
    (evaluator record).apply op (left.scalar record) (right.scalar record) =
      .ok (made.scalar record) := by
  obtain ⟨comparison, field, literal, f, rfl, rfl, rfl, compared, rfl⟩ |
    ⟨connective, f, g, rfl, rfl, rfl, rfl⟩ := builder_apply_eq_ok applied
  · cases compared
    simp only [apply, evaluator, Operand.scalar, Filter.satisfiedBy_compare]
  · simp only [apply, evaluator, Operand.scalar, Capability.documents, Filter.satisfiedBy_join,
      Connective.choose_bool]

theorem builder_simulatedBy_evaluator (record : Record) :
    SimulatedBy (fun operand scalar => scalar = operand.scalar record) (builder .documents)
      (evaluator record) where
  name made := by
    cases made
    exact ⟨_, rfl, rfl⟩
  literal made := by
    cases made
    exact ⟨_, rfl, rfl⟩
  apply sameLeft sameRight applied := by
    subst sameLeft sameRight
    exact ⟨_, evaluator_apply_scalar record applied, rfl⟩
  missing stood := by cases stood
  finish related finished := finishSingle_of_forall₂ rfl (fun _ => rfl) related finished

end Interpretation

namespace Program

open Interpretation

/-- Evaluation agrees with the filter of a program on every record. A program without a filter is
empty, and every record satisfies it. -/
theorem evaluate_agrees_with_filter (program : Program) :
    (∀ filter, program.filter? (some .documents) = .ok (some filter) →
      ∀ record, program.evaluate record = .ok (filter.satisfiedBy record)) ∧
    (program.filter? (some .documents) = .ok none →
      program.isEmpty ∧ ∀ record, program.evaluate record = .ok true) := by
  constructor
  · intro filter built record
    obtain ⟨value, ran, related⟩ := run_of_simulatedBy (builder_simulatedBy_evaluator record)
      (run_of_filter?_eq_some built)
    cases related with
    | some same =>
      rw [evaluate, value?, ran, same]
      rfl
  · intro built
    have noInstruction := run_eq_none_of_finishSingle rfl (run_of_filter?_eq_none built)
    refine ⟨by simp [isEmpty, noInstruction], fun record => ?_⟩
    rw [evaluate, value?, Interpretation.run, noInstruction]
    rfl

/-- Two comparisons joined in parentheses have a filter; no tokens at all have none. -/
theorem evaluate_agrees_with_filter_of_join :
    (∃ program filter,
      ofTokens [.openParen, .name "done", .operator (.comparison .ne), .literal (.text "yes"),
        .operator (.connective .or), .name "owner", .operator (.comparison .eq),
        .literal (.text "me"), .closeParen] = .ok program ∧
      program.filter? (some .documents) = .ok (some filter) ∧
      ∀ record, program.evaluate record = .ok (filter.satisfiedBy record)) ∧
    ∃ program, ofTokens [] = .ok program ∧ program.filter? (some .documents) = .ok none ∧
      ∀ record, program.evaluate record = .ok true :=
  ⟨⟨_, _, rfl, rfl, (evaluate_agrees_with_filter _).1 _ rfl⟩,
    ⟨_, rfl, rfl, ((evaluate_agrees_with_filter _).2 rfl).2⟩⟩

end Program

end DocumentStore
