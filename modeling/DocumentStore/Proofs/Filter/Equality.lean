import DocumentStore.Proofs.Filter.Capability
import Mathlib

/-!
# Equality of filters

Two filters are equal if they have the same shape and agree in every connective and every comparison;
the numbers in them are compared as doubles, so that zeros of both signs are equal and the double that
is not a number equals nothing. The loop that compares filters works off a list of pairs, in which it
puts the sides of two filters in the place of the filters. It answers yes exactly if every pair in the
list is equal, whatever the order of the pairs.
-/

namespace DocumentStore

/-- The same text, or numbers that are equal as doubles. -/
inductive Literal.Equal : Literal → Literal → Prop
  | text (s : String) : Literal.Equal (.text s) (.text s)
  | number {x y : Float} (equal : (x == y) = true) : Literal.Equal (.number x) (.number y)

namespace Literal.Equal

variable {l m n : Literal}

theorem symm (equal : l.Equal m) : m.Equal l := by
  cases equal with
  | text s => exact .text s
  | number equal => exact .number (PartialEquivBEq.symm equal)

theorem trans (first : l.Equal m) (second : m.Equal n) : l.Equal n := by
  cases first with
  | text s => exact second
  | number first =>
    cases second with
    | number second => exact .number (PartialEquivBEq.trans first second)

/-- A literal equals itself unless it is the double that is not a number. -/
theorem self_iff : l.Equal l ↔ ∀ x, l = .number x → x.isNaN = false := by
  cases l with
  | text s => simp [Literal.Equal.text s]
  | number x =>
    constructor
    · rintro ⟨⟩
      rename_i equal
      simpa using equal
    · intro regular
      have regular : x.isNaN = false := regular x rfl
      exact .number (by simpa using regular)

end Literal.Equal

namespace Filter

/-- The same comparison of the same field with equal literals, or the same connective between
filters that are equal side by side. -/
inductive Equal : Filter → Filter → Prop
  | compare (field : String) (op : Comparison) {literal literal' : Literal}
    (equal : literal.Equal literal') :
    Equal (.compare field op literal) (.compare field op literal')
  | join (op : Connective) {left left' right right' : Filter} (equalLeft : Equal left left')
    (equalRight : Equal right right') :
    Equal (.join op left right) (.join op left' right')

variable {f g h : Filter}

theorem Equal.symm (equal : f.Equal g) : g.Equal f := by
  induction equal with
  | compare field op equal => exact .compare field op equal.symm
  | join op _ _ ihLeft ihRight => exact .join op ihLeft ihRight

theorem Equal.trans (first : f.Equal g) (second : g.Equal h) : f.Equal h := by
  induction first generalizing h with
  | compare field op first =>
    cases second with
    | compare _ _ second => exact .compare field op (first.trans second)
  | join op _ _ ihLeft ihRight =>
    cases second with
    | join _ secondLeft secondRight => exact .join op (ihLeft secondLeft) (ihRight secondRight)

theorem equal_compare_iff {field field' : String} {op op' : Comparison}
    {literal literal' : Literal} :
    (compare field op literal).Equal (compare field' op' literal') ↔
      field = field' ∧ op = op' ∧ literal.Equal literal' := by
  constructor
  · rintro ⟨⟩
    rename_i equal
    exact ⟨rfl, rfl, equal⟩
  · rintro ⟨rfl, rfl, equal⟩
    exact .compare field op equal

theorem equal_join_iff {op op' : Connective} {left left' right right' : Filter} :
    (join op left right).Equal (join op' left' right') ↔
      op = op' ∧ left.Equal left' ∧ right.Equal right' := by
  constructor
  · rintro ⟨⟩
    rename_i equalLeft equalRight
    exact ⟨rfl, equalLeft, equalRight⟩
  · rintro ⟨rfl, equalLeft, equalRight⟩
    exact .join op equalLeft equalRight

/-- A filter equals itself unless it has the double that is not a number among its literals. -/
theorem equal_self_iff :
    f.Equal f ↔ ∀ leaf ∈ f.leaves, ∀ x, leaf.literal = .number x → x.isNaN = false := by
  induction f with
  | compare field op literal =>
    simp [equal_compare_iff, leaves, Literal.Equal.self_iff]
  | join op left right ihLeft ihRight =>
    rw [equal_join_iff, ihLeft, ihRight, leaves, List.forall_mem_append]
    exact and_iff_right rfl

theorem sameLiteral_iff {l m : Literal} : sameLiteral l m = true ↔ l.Equal m := by
  constructor
  · intro same
    cases l with
    | text s =>
      cases m with
      | text t =>
        obtain rfl : s = t := by simpa [sameLiteral] using same
        exact .text s
      | number y => simp [sameLiteral] at same
    | number x =>
      cases m with
      | text t => simp [sameLiteral] at same
      | number y => exact .number same
  · intro equal
    cases equal with
    | text s => simp [sameLiteral]
    | number equal => exact equal

/-- The loop answers yes exactly if every pair that it has still to compare is equal. -/
theorem samePairs_iff (pairs : List (Filter × Filter)) :
    samePairs pairs = true ↔ ∀ pair ∈ pairs, pair.1.Equal pair.2 := by
  fun_induction samePairs pairs with
  | case1 => simp
  | case2 op left right op' left' right' pairs ih =>
    simp only [Bool.and_eq_true, beq_iff_eq, ih, List.forall_mem_cons, equal_join_iff]
    tauto
  | case3 field op literal field' op' literal' pairs ih =>
    simp only [Bool.and_eq_true, beq_iff_eq, ih, List.forall_mem_cons, equal_compare_iff,
      sameLiteral_iff]
    tauto
  | case4 pairs notEmpty notJoined notCompared =>
    -- the first pair is of a comparison and a connective
    refine iff_of_false Bool.false_ne_true fun equal => ?_
    rcases pairs with _ | ⟨⟨f, g⟩, pairs⟩
    · exact notEmpty rfl
    · have first : f.Equal g := equal (f, g) List.mem_cons_self
      cases first with
      | compare field op => exact notCompared _ _ _ _ _ _ _ rfl
      | join op => exact notJoined _ _ _ _ _ _ _ rfl

theorem same_iff {f g : Filter} : f.same g = true ↔ f.Equal g := by
  rw [same, samePairs_iff, List.forall_mem_singleton]

/-- The loop that compares two filters finds out whether they are equal by structure. Hence it does
not matter which of them comes first, two filters that are equal to a third one are equal, and a
filter equals itself exactly if the double that is not a number is none of its literals. -/
theorem same_is_structural :
    (∀ f g : Filter, f.same g = true ↔ f.Equal g) ∧
    (∀ f g : Filter, f.same g = g.same f) ∧
    (∀ f g h : Filter, f.same g = true → g.same h = true → f.same h = true) ∧
    ∀ f : Filter, f.same f = true ↔
      ∀ leaf ∈ f.leaves, ∀ x, leaf.literal = .number x → x.isNaN = false := by
  refine ⟨fun f g => same_iff, ?_, ?_, fun f => same_iff.trans equal_self_iff⟩
  · intro f g
    rw [Bool.eq_iff_iff, same_iff, same_iff]
    exact ⟨Equal.symm, Equal.symm⟩
  · intro f g h first second
    exact same_iff.2 ((same_iff.1 first).trans (same_iff.1 second))

/-- Zeros of both signs are equal, a number and its spelling are not. -/
theorem same_is_structural_of_zeros :
    let zero (x : Float) : Filter :=
      .join .or (.compare "a" .eq (.number x)) (.compare "b" .ne (.text "0"))
    let spelled : Filter :=
      .join .or (.compare "a" .eq (.text "0")) (.compare "b" .ne (.text "0"))
    (zero 0).same (zero (-0)) = true ∧ (zero (-0)).same (zero 0) = true ∧
    (zero 0).same (zero 0) = true ∧ ¬ (zero 0).Equal spelled ∧
    (zero Decimal.nan).same (zero Decimal.nan) = false := by
  intro zero spelled
  obtain ⟨structural, symmetric, transitive, reflexive⟩ := same_is_structural
  have signs : (zero 0).same (zero (-0)) = true := by decide +kernel
  have signs' : (zero (-0)).same (zero 0) = true := (symmetric _ _).symm.trans signs
  refine ⟨signs, signs', transitive _ _ _ signs signs', ?_, ?_⟩
  · rw [← structural]
    decide +kernel
  · rw [← Bool.not_eq_true, reflexive]
    intro regular
    have number := regular ⟨"a", .eq, .number Decimal.nan⟩ List.mem_cons_self _ rfl
    revert number
    decide +kernel

end Filter

end DocumentStore
