import DocumentStore.Proofs.Condition.Conservation
import DocumentStore.Proofs.Filter.Display
import DocumentStore.Proofs.Filter.Wire
import DocumentStore.Proofs.Json.Doubles

/-!
# Filters of conditions that are sent

The filter of a condition can be as deep as the condition is long, and a number in a condition can be
too large for a double and is then infinite. A JSON text has neither more than 127 levels nor infinite
numbers, so these are the filters whose wire texts are refused, and there are no others.
-/

namespace DocumentStore

/-- The literal that a token is. -/
def Token.literal? : Token → Option Literal
  | .literal l => some l
  | _ => none

theorem Token.filterMap_literal? (tokens : List Token) :
    (tokens.filter isOperand).filterMap literal? = tokens.filterMap literal? := by
  rw [List.filterMap_filter]
  congr 1
  funext token
  cases token <;> rfl

/-- A program has the literals of its tokens, in their order. -/
theorem Program.literals_ofTokens {tokens : List Token} {program : Program}
    (assembled : ofTokens tokens = .ok program) :
    program.instructions.filterMap Token.literal? = tokens.filterMap Token.literal? := by
  obtain ⟨listing, traces⟩ := exists_traces assembled
  rw [← Token.filterMap_literal?, traces.operands, Token.filterMap_literal?]

theorem Filter.literals_postorder (filter : Filter) :
    filter.postorder.filterMap Token.literal? = filter.leaves.map Filter.Leaf.literal := by
  induction filter with
  | compare field op literal => rfl
  | join op left right ihLeft ihRight =>
    rw [postorder, List.filterMap_append, List.filterMap_append, ihLeft, ihRight, leaves,
      List.map_append]
    exact List.append_nil _

/-- A literal that a JSON text can express: a text, or a finite number. -/
def Literal.IsFinite : Literal → Prop
  | .text _ => True
  | .number x => x.isFinite = true

instance : DecidablePred Literal.IsFinite
  | .text _ => .isTrue trivial
  | .number x => inferInstanceAs (Decidable (x.isFinite = true))

namespace Filter

theorem isSome_literalOfJson?_reread (literal : Literal) :
    (literalOfJson? (literalToJson literal).reread).isSome ↔ literal.IsFinite := by
  cases literal with
  | text s => exact iff_of_true rfl trivial
  | number x =>
    rw [literalToJson, Json.reread]
    by_cases finite : x.isFinite = true
    · obtain ⟨m, cut⟩ := Number.exists_readAll? finite
      rw [(Number.readable_of_number cut).2]
      exact iff_of_true rfl finite
    · rw [Number.reread, Number.readAll?_of_not_isFinite finite]
      exact iff_of_false Bool.false_ne_true finite

theorem isSome_reread? (filter : Filter) :
    filter.reread?.isSome ↔ ∀ leaf ∈ filter.leaves, leaf.literal.IsFinite := by
  induction filter with
  | compare field op literal =>
    rw [reread?, Option.isSome_map, isSome_literalOfJson?_reread, leaves, List.forall_mem_singleton]
  | join op left right ihLeft ihRight =>
    rw [leaves, List.forall_mem_append, ← ihLeft, ← ihRight, reread?]
    cases left.reread? <;> cases right.reread? <;> simp

/-- Whatever its literals are, a filter has a wire text whose numbers can be read. -/
theorem read?_wireText_toList (filter : Filter) :
    Json.read? filter.wireText.toList =
      if filter.levels ≤ 127 then some filter.toJson.reread else none := by
  have readable : ∀ n ∈ filter.toJson.numbers, n.Readable := by
    intro n inside
    rw [numbers_toJson] at inside
    obtain ⟨⟨field, op, literal⟩, -, inside⟩ := List.mem_flatMap.1 inside
    cases literal with
    | text s => cases inside
    | number x =>
      rw [List.mem_singleton.1 inside]
      exact Number.readable_of_fits trivial
  rw [wireText, Json.text, String.toList_ofList, Json.read?_compact readable, depth_toJson]
  rfl

/-- The wire text of a filter is decoded if the filter has no more levels than a JSON text may have
and its literals can be expressed, and not otherwise. -/
theorem isSome_read?_wireText (filter : Filter) :
    (Filter.read? filter.wireText).isSome ↔
      filter.levels ≤ 127 ∧ ∀ leaf ∈ filter.leaves, leaf.literal.IsFinite := by
  rw [Filter.read?, read?_wireText_toList, ← isSome_reread?, ← ofJson?_reread filter false]
  by_cases few : filter.levels ≤ 127
  · rw [if_pos few, and_iff_right few]
    rfl
  · rw [if_neg few]
    exact iff_of_false Bool.false_ne_true fun both => few both.1

/-- A filter that is joined with itself a number of times. -/
def repeated (filter : Filter) : Nat → Filter
  | 0 => filter
  | n + 1 => .join .or (filter.repeated n) filter

theorem plain_repeated {filter : Filter} (plain : filter.Plain) (n : Nat) :
    (filter.repeated n).Plain := by
  induction n with
  | zero => exact plain
  | succ n ih => exact plain_join.2 ⟨ih, plain⟩

/-- So many terms make so many levels. -/
theorem levels_repeated (field : String) (op : Comparison) (literal : Literal) (n : Nat) :
    ((compare field op literal).repeated n).levels = n + 1 := by
  induction n with
  | zero => rfl
  | succ n ih =>
    rw [repeated, levels, ih, levels]
    omega

end Filter

namespace Condition

/-- The filter of a condition can be sent if it has at most 127 levels and no number in the condition
is infinite, and not otherwise. -/
theorem wireText_decoded_iff {strict : Bool} {text : String} {condition : Condition} {filter : Filter}
    (compiled : ofText strict text = .ok condition)
    (built : condition.filter? (some .documents) = .ok (some filter)) :
    ∃ tokens, Token.ofText strict text = .ok tokens ∧
      ((Filter.read? filter.wireText).isSome ↔
        filter.levels ≤ 127 ∧ ∀ literal, .literal literal ∈ tokens → literal.IsFinite) := by
  obtain ⟨tokens, scanned, compiled⟩ := bind_eq_ok_iff.1 compiled
  obtain ⟨program, assembled, compiled⟩ := bind_eq_ok_iff.1 compiled
  cases compiled
  refine ⟨tokens, scanned, ?_⟩
  have listed : tokens.filterMap Token.literal? = filter.leaves.map Filter.Leaf.literal := by
    rw [← Program.literals_ofTokens assembled, Program.filter?_eq_some_iff.1 built,
      Filter.literals_postorder]
  have inside (literal : Literal) :
      .literal literal ∈ tokens ↔ literal ∈ filter.leaves.map Filter.Leaf.literal := by
    rw [← listed, List.mem_filterMap]
    refine ⟨fun member => ⟨_, member, rfl⟩, fun ⟨token, member, same⟩ => ?_⟩
    cases token <;> cases same
    exact member
  rw [Filter.isSome_read?_wireText, ← List.forall_mem_map (P := Literal.IsFinite)]
  simp only [inside]

/-- A condition with a number and a text. -/
theorem wireText_decoded_of_ages :
    ∃ condition filter, ofText true "age >= 18 AND name = \"Bob\"" = .ok condition ∧
      condition.filter? (some .documents) = .ok (some filter) ∧
      (Filter.read? filter.wireText).isSome := by
  have built : ((ofText true "age >= 18 AND name = \"Bob\"").bind fun condition =>
      condition.filter? (some .documents)).map (Option.map Filter.levels) = .ok (some 2) := by
    decide +kernel
  obtain ⟨filter?, built, levels⟩ := map_eq_ok_iff.1 built
  obtain ⟨condition, compiled, built⟩ := bind_eq_ok_iff.1 built
  obtain ⟨filter, rfl, levels⟩ := Option.map_eq_some_iff.1 levels
  obtain ⟨tokens, scanned, sent⟩ := wireText_decoded_iff compiled built
  have literals : (Token.ofText true "age >= 18 AND name = \"Bob\"").map
      (List.filterMap Token.literal?) = .ok [.number (Decimal.mk 18 0).toFloat, .text "Bob"] := by
    decide +kernel
  rw [scanned] at literals
  have finite : ∀ literal ∈ tokens.filterMap Token.literal?, literal.IsFinite := by
    rw [Except.ok.inj literals]
    decide +kernel
  exact ⟨condition, filter, compiled, built, sent.2 ⟨by omega, fun literal inside =>
    finite literal (List.mem_filterMap.2 ⟨_, inside, rfl⟩)⟩⟩

/-- Whatever filter the condition of a text has, the filter can be sent. -/
def Shippable (strict : Bool) (text : String) : Prop :=
  ∀ condition filter, ofText strict text = .ok condition →
    condition.filter? (some .documents) = .ok (some filter) →
    (Filter.read? filter.wireText).isSome

/-- A text that is scanned to the tokens of a filter cannot be shipped if the filter cannot. -/
theorem not_shippable_of_scan {strict : Bool} {text : String} {filter : Filter}
    (scanned : Token.scan text.toList = (filter.clause.tokens, []))
    (refused : ¬ (filter.levels ≤ 127 ∧ ∀ leaf ∈ filter.leaves, leaf.literal.IsFinite)) :
    ¬ Shippable strict text := by
  intro shippable
  have compiled : ofText strict text = .ok ⟨text, ⟨filter.postorder⟩⟩ :=
    bind_eq_ok_iff.2 ⟨_, Token.ofText_of_scan scanned strict,
      bind_eq_ok_iff.2 ⟨_, Filter.ofTokens_clause filter, rfl⟩⟩
  have built : (⟨text, ⟨filter.postorder⟩⟩ : Condition).filter? (some .documents) =
      .ok (some filter) := Program.filter?_eq_some_iff.2 rfl
  exact refused (filter.isSome_read?_wireText.1 (shippable _ filter compiled built))

/-- Not every filter of a condition can be sent: a number may be too large, and there may be too many
terms. -/
theorem wireText_refused :
    ¬ Shippable true ("a = " ++ String.ofList (List.replicate 310 '9')) ∧
    ¬ Shippable true
      ((Filter.compare "a" .eq (.number (Decimal.mk 1 0).toFloat)).repeated 127).display := by
  constructor
  · have digits : Numeral.Digits (List.replicate 310 '9') :=
      ⟨by decide, fun c inside => by rw [List.eq_of_mem_replicate inside]; rfl⟩
    let filter : Filter :=
      .compare "a" .eq (.number (Decimal.ofParts (List.replicate 310 '9') [] 0).toFloat)
    have scanned := Token.scan_append_blank
      (@Token.scan_name "a" (by decide) (by decide) (by decide))
      (Token.scan_append_blank (Token.scan_comparison_symbol .eq)
        (Token.scan_number (.inl digits) (Decimal.float?_digits digits)))
    have written : ("a = " ++ String.ofList (List.replicate 310 '9')).toList =
        "a".toList ++ ' ' :: (Comparison.eq.symbol.toList ++ ' ' :: List.replicate 310 '9') := by
      generalize List.replicate 310 '9' = nines
      rw [String.toList_append, @String.toList_ofList nines]
      rfl
    have infinite : ∀ leaf ∈ filter.leaves, ¬ leaf.literal.IsFinite := by decide +kernel
    refine @not_shippable_of_scan _ _ filter (written ▸ scanned) fun both => ?_
    exact infinite _ List.mem_cons_self (both.2 _ List.mem_cons_self)
  · let term : Filter := .compare "a" .eq (.number (Decimal.mk 1 0).toFloat)
    have shown : plainText (Decimal.mk 1 0).toFloat = "1" := by decide +kernel
    have plain : term.Plain := by
      refine Filter.plain_compare.2 ⟨by decide, by decide, by decide, ?_⟩
      rw [Literal.Plain, shown]
      exact ⟨.inl ⟨List.cons_ne_nil _ _, List.forall_mem_singleton.2 rfl⟩, rfl⟩
    have scanned := Filter.scan_written (Filter.plain_repeated plain 127)
    rw [← Filter.toList_display] at scanned
    exact not_shippable_of_scan scanned fun both =>
      absurd (Filter.levels_repeated "a" .eq _ 127 ▸ both.1) (by decide)

end Condition

end DocumentStore
