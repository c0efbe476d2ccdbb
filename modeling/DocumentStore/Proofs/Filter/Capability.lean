import DocumentStore.Proofs.Filter.Building

/-!
# Filters for other stores

What a capability makes of a program can be said by the filter that the program lists: it is what
the capability makes of this filter, comparison by comparison from left to right. The two runs of
the builder, one for each type of filters, keep their stacks related operand by operand.
-/

namespace DocumentStore

variable {φ : Type}

/-- A comparison in a filter. -/
structure Filter.Leaf where
  field : String
  op : Comparison
  literal : Literal
deriving DecidableEq

/-- The comparisons of a filter from left to right. -/
def Filter.leaves : Filter → List Leaf
  | .compare field op literal => [⟨field, op, literal⟩]
  | .join _ left right => left.leaves ++ right.leaves

/-- Why a capability refuses a comparison, if it does. -/
def Capability.refusal? (capability : Capability φ) (leaf : Filter.Leaf) : Option ConditionError :=
  match capability.compare leaf.field leaf.op leaf.literal with
  | .ok _ => none
  | .error error => some error

theorem Filter.findSome?_refusal? (capability : Capability φ) (filter : Filter) :
    filter.leaves.findSome? capability.refusal? =
      match filter.fold capability with
      | .ok _ => none
      | .error error => some error := by
  induction filter with
  | compare field op literal =>
    simp only [leaves, List.findSome?_singleton, fold, Capability.refusal?]
  | join op left right ihLeft ihRight =>
    rw [leaves, List.findSome?_append, ihLeft, ihRight, fold]
    rcases left.fold capability with error | f
    · rfl
    · rcases right.fold capability with error | g <;> rfl

/-- A capability fails on a filter with the refusal of the first comparison that it refuses. -/
theorem Filter.fold_eq_error_iff (capability : Capability φ) (filter : Filter)
    (error : ConditionError) :
    filter.fold capability = .error error ↔
      filter.leaves.findSome? capability.refusal? = some error := by
  rw [findSome?_refusal?]
  rcases filter.fold capability with error' | made <;> simp

/-- An operand of one run of the builder and its counterpart when filters of documents are built:
the same field or the same literal, or what the capability makes of the filter. -/
inductive Operand.ComesFrom (capability : Capability φ) : Operand φ → Operand Filter → Prop
  | field (name : String) : ComesFrom capability (.field name) (.field name)
  | literal (l : Literal) : ComesFrom capability (.literal l) (.literal l)
  | filter {made : φ} {tree : Filter} :
    tree.fold capability = .ok made → ComesFrom capability (.filter made) (.filter tree)

namespace Interpretation

theorem builder_apply_documents {capability : Capability φ} {op : Operator}
    {left right made : Operand φ} {left' right' : Operand Filter}
    (sameLeft : left.ComesFrom capability left') (sameRight : right.ComesFrom capability right')
    (applied : (builder capability).apply op left right = .ok made) :
    ∃ tree, (builder .documents).apply op left' right' = .ok tree ∧
      made.ComesFrom capability tree := by
  obtain ⟨comparison, field, literal, f, rfl, rfl, rfl, compared, rfl⟩ |
    ⟨connective, f, g, rfl, rfl, rfl, rfl⟩ := builder_apply_eq_ok applied
  · cases sameLeft
    cases sameRight
    exact ⟨.filter (.compare field comparison literal), rfl, .filter compared⟩
  · cases sameLeft with
    | @filter _ left fromLeft =>
      cases sameRight with
      | @filter _ right fromRight =>
        refine ⟨.filter (.join connective left right), rfl, .filter ?_⟩
        rw [Filter.fold, fromLeft, fromRight]
        rfl

theorem builder_simulatedBy_documents (capability : Capability φ) :
    SimulatedBy (Operand.ComesFrom capability) (builder capability) (builder .documents) where
  name made := by
    cases made
    exact ⟨_, rfl, .field _⟩
  literal made := by
    cases made
    exact ⟨_, rfl, .literal _⟩
  apply := builder_apply_documents
  missing stood := by cases stood
  finish related finished := finishSingle_of_forall₂ rfl (fun _ => rfl) related finished

end Interpretation

namespace Program

open Interpretation

/-- A program that has a filter of documents has, under any other capability, what this makes of
that filter; the comparisons are made from left to right, and the first one that is refused decides
how it fails. A program has no filter under another capability unless it has one of documents. -/
theorem filter?_capability (capability : Capability φ) (program : Program) :
    (∀ tree, program.filter? (some .documents) = .ok (some tree) →
      program.filter? (some capability) = (tree.fold capability).map some ∧
      ∀ error, program.filter? (some capability) = .error error ↔
        tree.leaves.findSome? capability.refusal? = some error) ∧
    ∀ made, program.filter? (some capability) = .ok (some made) →
      ∃ tree, program.filter? (some .documents) = .ok (some tree) ∧
        tree.fold capability = .ok made := by
  refine ⟨fun tree built => ?_, fun made built => ?_⟩
  · have folded := filter?_of_postorder capability (filter?_eq_some_iff.1 built)
    refine ⟨folded, fun error => ?_⟩
    rw [folded, ← tree.fold_eq_error_iff]
    rcases tree.fold capability with error' | made <;> simp [Except.map]
  · -- Filters of documents can be built step by step wherever the capability builds its own.
    obtain ⟨operand?, ran, related⟩ := run_of_simulatedBy
      (builder_simulatedBy_documents capability) (run_of_filter?_eq_some built)
    cases related with
    | some comes =>
      cases comes with
      | @filter _ tree folded =>
        exact ⟨tree, filter?_eq_some_iff.2 (lists_builder.instructions ran), folded⟩

/-- A capability that writes filters as calls and refuses to compare by `!=`. Of two such
comparisons it refuses the left one. -/
theorem filter?_capability_of_calls :
    let calls : Capability String := {
      compare := fun field op literal =>
        if op = .ne then .error (.unsupportedOperator field)
        else .ok (field ++ op.symbol ++ literal.display)
      join := fun op left right => op.symbol ++ "(" ++ left ++ ", " ++ right ++ ")" }
    let compare : String → Comparison → Filter := fun field op =>
      .compare field op (.text "x")
    let accepted : Filter := .join .and (.join .or (compare "a" .eq) (compare "b" .lt))
      (compare "c" .ge)
    let refused : Filter := .join .or (compare "a" .eq)
      (.join .and (compare "b" .ne) (compare "c" .ne))
    filter? ⟨accepted.postorder⟩ (some calls) =
        .ok (some "AND(OR(a=\"x\", b<\"x\"), c>=\"x\")") ∧
      (∃ tree, filter? ⟨accepted.postorder⟩ (some .documents) = .ok (some tree) ∧
        tree.fold calls = .ok "AND(OR(a=\"x\", b<\"x\"), c>=\"x\")") ∧
      filter? ⟨refused.postorder⟩ (some calls) = .error (.unsupportedOperator "b") := by
  intro calls compare accepted refused
  have made := ((filter?_capability calls ⟨accepted.postorder⟩).1 accepted rfl).1
  have folded : accepted.fold calls = .ok "AND(OR(a=\"x\", b<\"x\"), c>=\"x\")" := rfl
  rw [folded] at made
  refine ⟨made, (filter?_capability calls _).2 _ made, ?_⟩
  exact (((filter?_capability calls ⟨refused.postorder⟩).1 refused rfl).2 _).2 rfl

end Program

end DocumentStore
