import DocumentStore.Condition.Basic
import DocumentStore.Proofs.Condition.Spelling
import DocumentStore.Proofs.Filter.Capability

/-!
# Filters as conditions

A filter is shown as a condition with a pair of parentheses around every connective and its sides.
As long as its names and literals can be written in a condition, the text of a filter is scanned to
the tokens of one clause, and this clause lists the filter again. So the grouping of the filter is
kept, also where AND and OR would group to the left without parentheses.
-/

namespace DocumentStore

open Text

namespace Filter

/-- A comparison that a condition can spell as it is shown. -/
structure Leaf.Plain (leaf : Leaf) : Prop where
  identifier : IsIdentifier leaf.field.toList
  notAnd : spells "and" leaf.field.toList = false
  notOr : spells "or" leaf.field.toList = false
  literal : leaf.literal.Plain

/-- All comparisons of a filter can be spelled in a condition. -/
def Plain (filter : Filter) : Prop := ∀ leaf ∈ filter.leaves, leaf.Plain

theorem plain_compare {field : String} {op : Comparison} {literal : Literal} :
    (compare field op literal).Plain ↔ Leaf.Plain ⟨field, op, literal⟩ := by
  simp [Plain, leaves]

theorem plain_join {op : Connective} {left right : Filter} :
    (join op left right).Plain ↔ left.Plain ∧ right.Plain := by
  simp [Plain, leaves, List.mem_append, or_imp, forall_and]

/-- The text of a filter. -/
def written : Filter → List Char
  | .compare field op literal =>
    field.toList ++ ' ' :: (op.symbol.toList ++ ' ' :: literal.display.toList)
  | .join op left right =>
    '(' :: (left.written ++ ' ' :: (op.symbol.toList ++ ' ' :: (right.written ++ [')'])))

/-- The displaying loop writes the text of a filter and goes on. -/
theorem writePieces_filter (filter : Filter) (pieces : List Piece) :
    writePieces (.filter filter :: pieces) = filter.written ++ writePieces pieces := by
  induction filter generalizing pieces with
  | compare field op literal => simp [writePieces, written]
  | join op left right ihLeft ihRight =>
    rw [writePieces, ihLeft, writePieces, ihRight, writePieces]
    simp [written]

theorem toList_display (filter : Filter) : filter.display.toList = filter.written := by
  rw [display, String.toList_ofList, writePieces_filter, writePieces, List.append_nil]

/-- A filter as a clause of a condition. -/
def clause : Filter → Clause
  | .compare field op literal => .compare (.atom (.name field)) op (.literal literal)
  | .join op left right => .atom (.group (.join (.clause left.clause) op right.clause))

theorem expression_clause (filter : Filter) : filter.clause.expression = filter.expression := by
  induction filter with
  | compare field op literal => rfl
  | join op left right ihLeft ihRight =>
    simp only [clause, Clause.expression, Atom.expression, Sentence.expression, ihLeft, ihRight,
      expression]

/-- The text of a filter is scanned to the tokens of its clause. -/
theorem scan_written {filter : Filter} (plain : filter.Plain) :
    Token.scan filter.written = (filter.clause.tokens, []) := by
  induction filter with
  | compare field op literal =>
    obtain ⟨identifier, notAnd, notOr, literalPlain⟩ := plain_compare.1 plain
    have sides := Token.scan_append_blank (Token.scan_comparison_symbol op)
      (Token.scan_literal literalPlain)
    exact Token.scan_append_blank (Token.scan_name identifier notAnd notOr) sides
  | join op left right ihLeft ihRight =>
    obtain ⟨leftPlain, rightPlain⟩ := plain_join.1 plain
    have joined := Token.scan_operation (.connective op) (ihLeft leftPlain) (ihRight rightPlain)
    rw [written]
    refine joined.trans ?_
    simp [clause, Clause.tokens, Atom.tokens, Sentence.tokens]

/-- The clause of a filter compiles to the instructions of the filter. -/
theorem ofTokens_clause (filter : Filter) :
    Program.ofTokens filter.clause.tokens = .ok ⟨filter.postorder⟩ := by
  rw [← postorder_expression]
  cases filter with
  | compare field op literal => rfl
  | join op left right =>
    rw [← expression_clause]
    exact Program.ofTokens_atom (.group (.join (.clause left.clause) op right.clause))

/-- What is shown of a filter is a condition, under both modes of scanning, and the filter that is
built from this condition is the same one, with the same grouping. -/
theorem ofText_display {filter : Filter} (plain : filter.Plain) (strict : Bool) :
    ∃ condition, Condition.ofText strict filter.display = .ok condition ∧
      condition.filter? (some Capability.documents) = .ok (some filter) := by
  have scanned : Token.scan filter.display.toList = (filter.clause.tokens, []) := by
    rw [toList_display, scan_written plain]
  refine ⟨⟨filter.display, ⟨filter.postorder⟩⟩, ?_, Program.filter?_eq_some_iff.2 rfl⟩
  exact bind_eq_ok_iff.2 ⟨_, Token.ofText_of_scan scanned strict,
    bind_eq_ok_iff.2 ⟨_, ofTokens_clause filter, rfl⟩⟩

/-- A filter that groups to the right, with a connective among the letters of a literal. -/
theorem ofText_display_of_scores :
    let score : Float := (Decimal.mk 25 (-1)).toFloat
    let filter : Filter := .join .and (.compare "score" .ge (.number score))
      (.join .or (.compare "_tag" .ne (.text "a) AND (b")) (.compare "order" .eq (.text "")))
    filter.display = "(score >= 2.5 AND (_tag != \"a) AND (b\" OR order = \"\"))" ∧
    ∃ condition, Condition.ofText true filter.display = .ok condition ∧
      condition.filter? (some Capability.documents) = .ok (some filter) := by
  intro score filter
  have shown : plainText score = "2.5" := by decide +kernel
  have number : (Literal.number score).Plain := by
    rw [Literal.Plain, shown]
    constructor
    · exact .inr ⟨['2'], ['5'], ⟨nofun, List.forall_mem_singleton.2 rfl⟩,
        ⟨nofun, List.forall_mem_singleton.2 rfl⟩, rfl⟩
    · rfl
  have tag : (Literal.text "a) AND (b").Plain := ⟨by decide, by decide, by decide⟩
  have order : (Literal.text "").Plain := ⟨nofun, nofun, nofun⟩
  have plain : filter.Plain := by
    rw [plain_join, plain_join, plain_compare, plain_compare, plain_compare]
    exact ⟨⟨by decide, by decide, by decide, number⟩, ⟨by decide, by decide, by decide, tag⟩,
      ⟨by decide, by decide, by decide, order⟩⟩
  refine ⟨?_, ofText_display plain true⟩
  simp only [filter, display, writePieces, Literal.display, shown]
  rfl

end Filter

end DocumentStore
