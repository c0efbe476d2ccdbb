import DocumentStore.Scalar
import DocumentStore.Proofs.Text.Utf16
import Mathlib

/-!
# Comparing scalars

Scalars are compared in two ways: equality goes by the kinds of the two sides, and the order asks for
numbers unless both sides are texts. The two agree where there is a value on either side: equal is
what stands nowhere before or after the other (`equals_iff_order?`). Swapping the sides swaps the
order (`order?_swap`), and there is none exactly if a side stands for no number, two texts apart
(`order?_eq_none_iff`). What the six comparisons have to do with each other follows from these three.
-/

namespace DocumentStore

namespace Doubles

open Float.Model

theorem then_compare_swap (e f : Int) (m n : Nat) :
    (compare f e).then (compare n m) = ((compare e f).then (compare m n)).swap := by
  rw [Ordering.swap_then, Int.compare_swap, Nat.compare_swap]

theorem compare_swap (x y : UnpackedFloat) : y.compare x = (x.compare y).map Ordering.swap := by
  cases x with
  | notANumber => cases y <;> rfl
  | infinity s =>
    cases y with
    | infinity t => cases s <;> cases t <;> rfl
    | _ => cases s <;> rfl
  | zero s =>
    cases y with
    | infinity t => cases t <;> rfl
    | finite t => cases t <;> rfl
    | _ => rfl
  | finite s m e =>
    cases y with
    | infinity t => cases s <;> cases t <;> rfl
    | finite t n f =>
      -- only numbers of the same sign are told apart by their sizes
      cases s with
      | negative =>
        cases t with
        | negative =>
          exact congrArg (fun order : Ordering => some order.swap) (then_compare_swap e f m n)
        | positive => rfl
      | positive =>
        cases t with
        | negative => rfl
        | positive => exact congrArg some (then_compare_swap e f m n)
    | _ => cases s <;> rfl

theorem compare_eq_none_iff (x y : UnpackedFloat) :
    x.compare y = none ↔ x.isNaN = true ∨ y.isNaN = true := by
  fun_cases UnpackedFloat.compare x y <;> simp [UnpackedFloat.isNaN]

theorem lt_iff (x y : Float) : x < y ↔ x.toModel.compare y.toModel = some .lt := by
  change decide (x.toModel < y.toModel) = true ↔ _
  rw [decide_eq_true_iff]
  change (x.toModel.compare y.toModel == some .lt) = true ↔ _
  exact beq_iff_eq

theorem beq_iff (x y : Float) : (x == y) = true ↔ x.toModel.compare y.toModel = some .eq := by
  change (x.toModel.compare y.toModel == some .eq) = true ↔ _
  exact beq_iff_eq

end Doubles

namespace Scalar

/-- The questions that are asked in turn come to the order of the standard. -/
theorem orderFloats?_eq (x y : Float) : orderFloats? x y = x.toModel.compare y.toModel := by
  have swapped : y.toModel.compare x.toModel = (x.toModel.compare y.toModel).map Ordering.swap :=
    Doubles.compare_swap x.toModel.unpack y.toModel.unpack
  simp only [orderFloats?, Doubles.lt_iff, Doubles.beq_iff, swapped]
  rcases x.toModel.compare y.toModel with _ | order
  · rfl
  · cases order <;> rfl

theorem orderFloats?_swap (x y : Float) :
    orderFloats? y x = (orderFloats? x y).map Ordering.swap := by
  rw [orderFloats?_eq, orderFloats?_eq]
  exact Doubles.compare_swap x.toModel.unpack y.toModel.unpack

theorem orderFloats?_eq_none_iff (x y : Float) :
    orderFloats? x y = none ↔ x.isNaN = true ∨ y.isNaN = true := by
  rw [orderFloats?_eq]
  exact Doubles.compare_eq_none_iff x.toModel.unpack y.toModel.unpack

theorem beq_iff_orderFloats? (x y : Float) : (x == y) = true ↔ orderFloats? x y = some .eq := by
  rw [orderFloats?_eq]
  exact Doubles.beq_iff x y

/-- Whether a scalar is a text. -/
def isText : Scalar → Bool
  | .text _ => true
  | _ => false

variable {a b : Scalar}

/-- Two scalars that are not both texts are compared as numbers. -/
theorem order?_of_not_texts (notTexts : ¬(a.isText = true ∧ b.isText = true)) :
    a.order? b = orderFloats? a.toNumber b.toNumber := by
  cases a with
  | text s =>
    cases b with
    | text t => exact absurd ⟨rfl, rfl⟩ notTexts
    | _ => rfl
  | _ => rfl

theorem beq_toNumber_bool (a b : Bool) :
    ((Scalar.bool a).toNumber == (Scalar.bool b).toNumber) = (a == b) := by
  cases a <;> cases b <;> decide +kernel

/-- Where there is a value on either side, the rules for the kinds come to an equality of numbers,
two texts apart. -/
theorem equals_of_not_texts (notTexts : ¬(a.isText = true ∧ b.isText = true)) :
    a.equals b = if a.isMissing || b.isMissing then a.isMissing && b.isMissing
      else a.toNumber == b.toNumber := by
  cases a with
  | absent => cases b <;> rfl
  | null => cases b <;> rfl
  | bool a =>
    cases b with
    | bool b => exact (beq_toNumber_bool a b).symm
    | _ => rfl
  | number x =>
    cases b with
    | bool b => exact BEq.comm
    | _ => rfl
  | text s =>
    cases b with
    | bool b => exact BEq.comm
    | number y => exact BEq.comm
    | text t => exact absurd ⟨rfl, rfl⟩ notTexts
    | _ => rfl

theorem exists_text_of_isText (isText : a.isText = true) : ∃ s, a = .text s := by
  cases a with
  | text s => exact ⟨s, rfl⟩
  | _ => cases isText

/-- Swapping the sides swaps the order. -/
theorem order?_swap (a b : Scalar) : b.order? a = (a.order? b).map Ordering.swap := by
  by_cases texts : a.isText = true ∧ b.isText = true
  · obtain ⟨s, rfl⟩ := exists_text_of_isText texts.1
    obtain ⟨t, rfl⟩ := exists_text_of_isText texts.2
    exact congrArg some (Text.compareUnits_swap s t)
  · rw [order?_of_not_texts texts, order?_of_not_texts (fun both => texts both.symm)]
    exact orderFloats?_swap a.toNumber b.toNumber

/-- Two scalars are not in order exactly if one of them stands for no number and they are not both
texts. -/
theorem order?_eq_none_iff : a.order? b = none ↔
    ¬(a.isText = true ∧ b.isText = true) ∧
      (a.toNumber.isNaN = true ∨ b.toNumber.isNaN = true) := by
  by_cases texts : a.isText = true ∧ b.isText = true
  · obtain ⟨s, rfl⟩ := exists_text_of_isText texts.1
    obtain ⟨t, rfl⟩ := exists_text_of_isText texts.2
    simp [order?, isText]
  · rw [order?_of_not_texts texts, orderFloats?_eq_none_iff]
    exact (and_iff_right texts).symm

/-- Where there is a value on either side, equal is what stands neither before nor after the
other. -/
theorem equals_iff_order? (valueA : a.isMissing = false) (valueB : b.isMissing = false) :
    a.equals b = true ↔ a.order? b = some .eq := by
  by_cases texts : a.isText = true ∧ b.isText = true
  · obtain ⟨s, rfl⟩ := exists_text_of_isText texts.1
    obtain ⟨t, rfl⟩ := exists_text_of_isText texts.2
    simp [equals, order?, Text.compareUnits_eq_iff]
  · rw [order?_of_not_texts texts, equals_of_not_texts texts, valueA, valueB]
    exact beq_iff_orderFloats? a.toNumber b.toNumber

theorem equals_comm (a b : Scalar) : a.equals b = b.equals a := by
  by_cases texts : a.isText = true ∧ b.isText = true
  · obtain ⟨s, rfl⟩ := exists_text_of_isText texts.1
    obtain ⟨t, rfl⟩ := exists_text_of_isText texts.2
    exact BEq.comm
  · rw [equals_of_not_texts texts, equals_of_not_texts (fun both => texts both.symm), Bool.or_comm,
      Bool.and_comm, BEq.comm (a := a.toNumber)]

end Scalar

namespace Comparison

variable {a b : Scalar}

/-- Swapping the sides turns each comparison of the order into its mirror image. -/
theorem holds_swap (a b : Scalar) :
    gt.holds a b = lt.holds b a ∧ ge.holds a b = le.holds b a := by
  simp only [holds, a.order?_swap b]
  rcases a.order? b with _ | order
  · exact ⟨rfl, rfl⟩
  · cases order <;> exact ⟨rfl, rfl⟩

theorem not_gt_and_lt (a b : Scalar) : ¬(gt.holds a b = true ∧ lt.holds a b = true) := by
  simp only [holds]
  rcases a.order? b with _ | order
  · simp
  · cases order <;> simp

/-- Where there is a value on either side, equality is one of the comparisons of the order. -/
theorem holds_eq (valueA : a.isMissing = false) (valueB : b.isMissing = false) :
    eq.holds a b = (a.order? b == some .eq) := by
  rw [Bool.eq_iff_iff, beq_iff_eq]
  exact Scalar.equals_iff_order? valueA valueB

theorem eq_iff_ge_and_le (valueA : a.isMissing = false) (valueB : b.isMissing = false) :
    eq.holds a b = true ↔ ge.holds a b = true ∧ le.holds a b = true := by
  rw [holds_eq valueA valueB]
  simp only [holds]
  rcases a.order? b with _ | order
  · simp
  · cases order <;> simp

/-- Of the comparisons less, equal and greater one holds if there is an order, and none
otherwise. -/
theorem countP_holds (valueA : a.isMissing = false) (valueB : b.isMissing = false) :
    [lt, eq, gt].countP (fun op => op.holds a b) = if (a.order? b).isSome then 1 else 0 := by
  have less : lt.holds a b = (a.order? b == some .lt) := rfl
  have equal : eq.holds a b = (a.order? b == some .eq) := holds_eq valueA valueB
  have greater : gt.holds a b = (a.order? b == some .gt) := rfl
  generalize a.order? b = order? at less equal greater
  rcases order? with _ | order
  · simp [less, equal, greater]
  · cases order <;> simp [less, equal, greater]

/-- The comparisons are consistent with each other. Equality does not depend on the sides, and being
different is its negation; greater is less with the sides swapped, and so on; nothing is both less
and greater. Where there is a value on either side, equal is what is both greater or equal and less
or equal, and of less, equal and greater exactly one holds between two texts and between scalars that
stand for numbers, and none otherwise. -/
theorem holds_consistently (a b : Scalar) :
    eq.holds a b = eq.holds b a ∧
    (ne.holds a b = true ↔ ¬eq.holds a b = true) ∧
    gt.holds a b = lt.holds b a ∧
    ge.holds a b = le.holds b a ∧
    ¬(gt.holds a b = true ∧ lt.holds a b = true) ∧
    (a.isMissing = false → b.isMissing = false →
      (eq.holds a b = true ↔ ge.holds a b = true ∧ le.holds a b = true) ∧
      [lt, eq, gt].countP (fun op => op.holds a b) ≤ 1 ∧
      (a.isText = true ∧ b.isText = true ∨
          a.toNumber.isNaN = false ∧ b.toNumber.isNaN = false →
        [lt, eq, gt].countP (fun op => op.holds a b) = 1) ∧
      (¬(a.isText = true ∧ b.isText = true) ∧
          (a.toNumber.isNaN = true ∨ b.toNumber.isNaN = true) →
        [lt, eq, gt].countP (fun op => op.holds a b) = 0)) := by
  refine ⟨a.equals_comm b, ?_, (holds_swap a b).1, (holds_swap a b).2, not_gt_and_lt a b, ?_⟩
  · simp [holds]
  · intro valueA valueB
    have count := countP_holds valueA valueB
    refine ⟨eq_iff_ge_and_le valueA valueB, ?_, ?_, ?_⟩
    · rw [count]
      split <;> omega
    · intro comparable
      have ordered : a.order? b ≠ none := by
        rw [ne_eq, Scalar.order?_eq_none_iff]
        rintro ⟨notTexts, notNumbers⟩
        rcases comparable with texts | ⟨numberA, numberB⟩
        · exact notTexts texts
        · rw [numberA, numberB] at notNumbers
          exact notNumbers.elim Bool.false_ne_true Bool.false_ne_true
      rw [count, if_pos (Option.isSome_iff_ne_none.2 ordered)]
    · intro incomparable
      rw [count, Scalar.order?_eq_none_iff.2 incomparable]
      rfl

/-- A number and a text that spells none, two texts that spell none, and zeros of both signs. -/
theorem holds_consistently_of_spellings :
    [lt, eq, gt].countP (fun op => op.holds (.number 1) (.text "one")) = 0 ∧
    [lt, eq, gt].countP (fun op => op.holds (.text "one") (.text "😀")) = 1 ∧
    [lt, eq, gt].countP (fun op => op.holds (.number (-0)) (.bool false)) = 1 ∧
    (ge.holds (.number (-0)) (.text " ") = true ∧ le.holds (.number (-0)) (.text " ") = true) := by
  have spelled := (holds_consistently (.number 1) (.text "one")).2.2.2.2.2 rfl rfl
  have texts := (holds_consistently (.text "one") (.text "😀")).2.2.2.2.2 rfl rfl
  have zeros := (holds_consistently (.number (-0)) (.bool false)).2.2.2.2.2 rfl rfl
  have blank := (holds_consistently (.number (-0)) (.text " ")).2.2.2.2.2 rfl rfl
  refine ⟨spelled.2.2.2 ?_, texts.2.2.1 (.inl ⟨rfl, rfl⟩), zeros.2.2.1 (.inr ?_), blank.1.1 ?_⟩
  · decide +kernel
  · decide +kernel
  · decide +kernel

end Comparison

end DocumentStore
