import DocumentStore.Filter.Building
import DocumentStore.Proofs.Condition.Reduction

/-!
# Programs that have a filter

A filter can be listed like an expression: the field, the literal and the operator of each
comparison, and each connective after its two sides. The builder accepts exactly the programs that
list a filter, and what it gives back is the filter that is listed. With another capability it
gives what this makes of the filter, part by part.
-/

namespace DocumentStore

namespace Filter

/-- The instructions that a filter comes from: each comparison with its field and its literal before
it, and each connective with its two sides before it, the left one first. -/
def postorder : Filter → List Token
  | .compare field op literal => [.name field, .literal literal, .operator (.comparison op)]
  | .join op left right => left.postorder ++ right.postorder ++ [.operator (.connective op)]

/-- What a capability makes of a filter. The left side of a connective is made before the right one,
and the first comparison that is refused decides. -/
def fold {φ : Type} (capability : Capability φ) : Filter → Except ConditionError φ
  | .compare field op literal => capability.compare field op literal
  | .join op left right => do
    let f ← left.fold capability
    let g ← right.fold capability
    return capability.join op f g

theorem fold_documents (filter : Filter) : filter.fold .documents = .ok filter := by
  induction filter with
  | compare field op literal => rfl
  | join op left right ihLeft ihRight =>
    rw [fold, ihLeft, ihRight]
    rfl

/-- A filter as an expression. -/
def expression : Filter → Expression
  | .compare field op literal => .operation (.comparison op) (.name field) (.literal literal)
  | .join op left right => .operation (.connective op) left.expression right.expression

theorem postorder_expression (filter : Filter) :
    filter.expression.postorder = filter.postorder := by
  induction filter with
  | compare field op literal => rfl
  | join op left right ihLeft ihRight =>
    rw [expression, Expression.postorder, ihLeft, ihRight, postorder]

theorem fold_expression {φ : Type} (capability : Capability φ) (filter : Filter) :
    filter.expression.fold (.builder capability) = (filter.fold capability).map .filter := by
  induction filter with
  | compare field op literal => rfl
  | join op left right ihLeft ihRight =>
    rw [expression, Expression.fold, ihLeft, ihRight, fold]
    rcases left.fold capability with error | f
    · rfl
    · rcases right.fold capability with error | g <;> rfl

end Filter

/-- The instructions that an operand of a filter under construction comes from. -/
def Operand.postorder : Operand Filter → List Token
  | .field name => [.name name]
  | .literal l => [.literal l]
  | .filter f => f.postorder

namespace Interpretation

/-- What the builder accepts as operands of an operator, and what it makes of them. -/
theorem builder_apply_eq_ok {φ : Type} {capability : Capability φ} {op : Operator}
    {left right made : Operand φ} (applied : (builder capability).apply op left right = .ok made) :
    (∃ comparison field literal f, op = .comparison comparison ∧ left = .field field ∧
      right = .literal literal ∧ capability.compare field comparison literal = .ok f ∧
      made = .filter f) ∨
    ∃ connective f g, op = .connective connective ∧ left = .filter f ∧ right = .filter g ∧
      made = .filter (capability.join connective f g) := by
  cases op with
  | comparison comparison =>
    cases left <;> cases right
    case field.literal field literal =>
      obtain ⟨f, compared, rfl⟩ := map_eq_ok_iff.1 applied
      exact .inl ⟨comparison, field, literal, f, rfl, rfl, rfl, compared, rfl⟩
    all_goals cases applied
  | connective connective =>
    cases left <;> cases right <;> cases applied
    exact .inr ⟨connective, _, _, rfl, rfl, rfl, rfl⟩

theorem lists_builder : Lists (builder .documents) Operand.postorder where
  name made := by
    cases made
    rfl
  literal made := by
    cases made
    rfl
  apply applied := by
    obtain ⟨comparison, field, literal, f, rfl, rfl, rfl, compared, rfl⟩ |
      ⟨connective, f, g, rfl, rfl, rfl, rfl⟩ := builder_apply_eq_ok applied
    · cases compared
      rfl
    · rfl
  missing := rfl
  finish := rfl

end Interpretation

namespace Program

open Interpretation

section

variable {φ : Type} {capability : Capability φ} {program : Program}

theorem run_of_filter?_eq_some {made : φ}
    (built : program.filter? (some capability) = .ok (some made)) :
    (builder capability).run program = .ok (some (.filter made)) := by
  obtain ⟨operand?, ran, chosen⟩ := bind_eq_ok_iff.1 built
  cases operand? with
  | none => cases chosen
  | some operand =>
    cases operand <;> cases chosen
    exact ran

theorem run_of_filter?_eq_none (built : program.filter? (some capability) = .ok none) :
    (builder capability).run program = .ok none := by
  obtain ⟨operand?, ran, chosen⟩ := bind_eq_ok_iff.1 built
  cases operand? with
  | none => exact ran
  | some operand => cases operand <;> cases chosen

end

variable {program : Program} {filter : Filter}

/-- A capability makes of a program what it makes of the filter that the program lists. -/
theorem filter?_of_postorder {φ : Type} (capability : Capability φ)
    (lists : program.instructions = filter.postorder) :
    program.filter? (some capability) = (filter.fold capability).map some := by
  have ran := filter.expression.foldlM_postorder (builder capability) [] []
  rw [List.append_nil, Filter.postorder_expression, Filter.fold_expression, ← lists] at ran
  change ((program.instructions.foldlM (builder capability).step [] >>= _) >>= _) = _
  rw [ran]
  rcases filter.fold capability with error | made <;> rfl

theorem filter?_eq_some_iff : program.filter? (some .documents) = .ok (some filter) ↔
    program.instructions = filter.postorder := by
  refine ⟨fun built => lists_builder.instructions (run_of_filter?_eq_some built), fun lists => ?_⟩
  rw [filter?_of_postorder .documents lists, filter.fold_documents]
  rfl

theorem filter?_eq_none_iff {φ : Type} {capability : Capability φ} :
    program.filter? (some capability) = .ok none ↔ program.instructions = [] := by
  refine ⟨fun built => run_eq_none_of_finishSingle rfl (run_of_filter?_eq_none built),
    fun noInstruction => ?_⟩
  rw [filter?, Interpretation.run, noInstruction]
  rfl

/-- The builder gives a filter for exactly the programs that list it, nothing for exactly the empty
program, and an error for every other program. -/
theorem filter?_documents (program : Program) :
    (∀ filter : Filter, program.filter? (some .documents) = .ok (some filter) ↔
      program.instructions = filter.postorder) ∧
    (program.filter? (some .documents) = .ok none ↔ program.instructions = []) ∧
    ((∃ error, program.filter? (some .documents) = .error error) ↔
      program.instructions ≠ [] ∧ ∀ filter : Filter, program.instructions ≠ filter.postorder) := by
  have empty : program.filter? (some .documents) = .ok none ↔ program.instructions = [] :=
    filter?_eq_none_iff
  refine ⟨fun filter => filter?_eq_some_iff, empty, ?_⟩
  simp only [Ne, ← filter?_eq_some_iff, ← empty]
  rcases program.filter? (some .documents) with error | _ | filter <;> simp

end Program

end DocumentStore
