import DocumentStore.Proofs.Scalar.Comparison

/-!
# The order of texts

Texts are ordered by their UTF-16 code units, and this comes to an order of their characters: the
first character in which two texts differ decides, and a text stands before its extensions. Of two
characters the one below the surrogates stands before the one that is a pair of surrogates, and both
stand before the one above the surrogates. So the first difference may fall into the middle of a
character, on the second unit of a pair, and still the characters decide.
-/

namespace DocumentStore

namespace Text

/-- Where the units of a character lie: below the surrogates, among them, or above them. -/
def block (c : Char) : Nat :=
  if c.toNat < 0xD800 then 0 else if 0x10000 ≤ c.toNat then 1 else 2

/-- The order of characters by their blocks, and by their code points in one block. -/
def compareRanks (c d : Char) : Ordering :=
  (compare (block c) (block d)).then (compare c.toNat d.toNat)

instance : Std.TransCmp compareRanks :=
  inferInstanceAs (Std.TransCmp (compareLex (compareOn block) (compareOn Char.toNat)))

instance : Std.LawfulEqCmp compareRanks where
  eq_of_compare same := Char.toNat_inj.1
    (Std.LawfulEqOrd.eq_of_compare (Ordering.then_eq_eq.1 same).2)

variable {c d : Char}

theorem compareRanks_eq_lt_iff : compareRanks c d = .lt ↔
    block c < block d ∨ block c = block d ∧ c.toNat < d.toNat := by
  simp [compareRanks, Ordering.then_eq_lt, Nat.compare_eq_lt]

/-- A character that stands before another one does so by its units, whatever follows. -/
theorem compare_units_of_lt (before : compareRanks c d = .lt) (s t : List Nat) :
    compare (units c ++ s) (units d ++ t) = .lt := by
  have ranks := compareRanks_eq_lt_iff.1 before
  have validC := toNat_ranges c
  have validD := toNat_ranges d
  simp only [block] at ranks
  by_cases narrowC : c.toNat < 0x10000
  · by_cases narrowD : d.toNat < 0x10000
    · have less : c.toNat < d.toNat := by split_ifs at ranks <;> omega
      simp [units, narrowC, narrowD, List.compare_cons_cons, Nat.compare_eq_lt.2 less]
    · have less : c.toNat < 0xD800 + (d.toNat - 0x10000) / 0x400 := by
        split_ifs at ranks <;> omega
      simp [units, narrowC, narrowD, List.compare_cons_cons, Nat.compare_eq_lt.2 less]
  · by_cases narrowD : d.toNat < 0x10000
    · have less : 0xD800 + (c.toNat - 0x10000) / 0x400 < d.toNat := by
        split_ifs at ranks <;> omega
      simp [units, narrowC, narrowD, List.compare_cons_cons, Nat.compare_eq_lt.2 less]
    · have less : c.toNat < d.toNat := by split_ifs at ranks <;> omega
      simp only [units, narrowC, narrowD, if_false, List.cons_append, List.compare_cons_cons]
      rcases Nat.lt_or_ge (0xD800 + (c.toNat - 0x10000) / 0x400)
        (0xD800 + (d.toNat - 0x10000) / 0x400) with high | notHigh
      · simp [Nat.compare_eq_lt.2 high]
      · -- the two pairs share their first unit
        have high : 0xD800 + (c.toNat - 0x10000) / 0x400 =
            0xD800 + (d.toNat - 0x10000) / 0x400 := by omega
        have low : 0xDC00 + (c.toNat - 0x10000) % 0x400 <
            0xDC00 + (d.toNat - 0x10000) % 0x400 := by omega
        simp [Nat.compare_eq_eq.2 high, Nat.compare_eq_lt.2 low]

theorem compare_append_left (shared s t : List Nat) :
    compare (shared ++ s) (shared ++ t) = compare s t := by
  induction shared with
  | nil => rfl
  | cons n rest ih =>
    rw [List.cons_append, List.cons_append, List.compare_cons_cons, Std.ReflOrd.compare_self, ih]
    rfl

/-- The first characters decide, unless they are the same. -/
theorem compare_units_append (c d : Char) (s t : List Nat) :
    compare (units c ++ s) (units d ++ t) = (compareRanks c d).then (compare s t) := by
  cases order : compareRanks c d with
  | lt => exact compare_units_of_lt order s t
  | eq =>
    obtain rfl := Std.LawfulEqCmp.eq_of_compare order
    exact compare_append_left (units c) s t
  | gt =>
    have before : compareRanks d c = .lt := Std.OrientedCmp.gt_iff_lt.1 order
    exact Std.OrientedCmp.gt_iff_lt.2 (compare_units_of_lt before t s)

theorem compare_flatMap_units (s t : List Char) :
    compare (s.flatMap units) (t.flatMap units) = List.compareLex compareRanks s t := by
  induction s generalizing t with
  | nil =>
    cases t with
    | nil => rfl
    | cons d t =>
      obtain ⟨n, more, first⟩ := List.exists_cons_of_ne_nil (units_ne_nil d)
      rw [List.flatMap_cons, first]
      rfl
  | cons c s ih =>
    cases t with
    | nil =>
      obtain ⟨n, more, first⟩ := List.exists_cons_of_ne_nil (units_ne_nil c)
      rw [List.flatMap_cons, first]
      rfl
    | cons d t =>
      rw [List.flatMap_cons, List.flatMap_cons, compare_units_append, ih, List.compareLex_cons_cons]

/-- The order of code units is the lexicographic order of the ranks of characters. -/
theorem compareUnits_eq_compareLex (s t : String) :
    compareUnits s t = List.compareLex compareRanks s.toList t.toList :=
  compare_flatMap_units s.toList t.toList

/-- A text stands before its extensions, and before the texts that have at its first difference
from them a character of a later rank. -/
def Precedes (s t : List Char) : Prop :=
  (∃ c rest, t = s ++ c :: rest) ∨
  ∃ shared c d s' t', s = shared ++ c :: s' ∧ t = shared ++ d :: t' ∧
    (block c < block d ∨ block c = block d ∧ c.toNat < d.toNat)

theorem precedes_cons_cons {s t : List Char} : Precedes (c :: s) (d :: t) ↔
    compareRanks c d = .lt ∨ c = d ∧ Precedes s t := by
  rw [compareRanks_eq_lt_iff]
  constructor
  · rintro (⟨e, rest, longer⟩ | ⟨shared, e, f, s', t', left, right, ranks⟩)
    · obtain ⟨same, longer⟩ := List.cons.inj longer
      exact .inr ⟨same.symm, .inl ⟨e, rest, longer⟩⟩
    · cases shared with
      | nil =>
        obtain ⟨rfl, -⟩ := List.cons.inj left
        obtain ⟨rfl, -⟩ := List.cons.inj right
        exact .inl ranks
      | cons g shared =>
        obtain ⟨rfl, leftRest⟩ := List.cons.inj left
        obtain ⟨rfl, rightRest⟩ := List.cons.inj right
        exact .inr ⟨rfl, .inr ⟨shared, e, f, s', t', leftRest, rightRest, ranks⟩⟩
  · rintro (ranks | ⟨rfl, ⟨e, rest, rfl⟩ | ⟨shared, e, f, s', t', rfl, rfl, ranks⟩⟩)
    · exact .inr ⟨[], c, d, s, t, rfl, rfl, ranks⟩
    · exact .inl ⟨e, rest, rfl⟩
    · exact .inr ⟨c :: shared, e, f, s', t', rfl, rfl, ranks⟩

theorem compareLex_eq_lt_iff {s t : List Char} :
    List.compareLex compareRanks s t = .lt ↔ Precedes s t := by
  induction s generalizing t with
  | nil =>
    cases t with
    | nil => simp [List.compareLex, Precedes]
    | cons d t => simp [List.compareLex, Precedes]
  | cons c s ih =>
    cases t with
    | nil => simp [List.compareLex, Precedes]
    | cons d t =>
      rw [List.compareLex_cons_cons, Ordering.then_eq_lt, ih, precedes_cons_cons,
        Std.LawfulEqCmp.compare_eq_iff_eq]

end Text

namespace Scalar

open Comparison (le)

theorem le_holds_texts (s t : String) :
    le.holds (.text s) (.text t) = (Text.compareUnits s t).isLE := by
  cases order : Text.compareUnits s t <;> simp [Comparison.holds, order?, order]

/-- Two texts are in the lexicographic order of the ranks of their characters: one is less than the
other if that extends it, or if at their first difference it has the character of the lower rank.
They are equal in this order only if they are the same text, and of any two texts one is less than
or equal to the other. Being less than or equal is antisymmetric and transitive. -/
theorem order?_texts (s t u : String) :
    (text s).order? (text t) = some (List.compareLex Text.compareRanks s.toList t.toList) ∧
    ((text s).order? (text t) = some .lt ↔ Text.Precedes s.toList t.toList) ∧
    ((text s).order? (text t) = some .eq ↔ s = t) ∧
    (le.holds (text s) (text t) = true ∨ le.holds (text t) (text s) = true) ∧
    (le.holds (text s) (text t) = true → le.holds (text t) (text s) = true → s = t) ∧
    (le.holds (text s) (text t) = true → le.holds (text t) (text u) = true →
      le.holds (text s) (text u) = true) := by
  simp only [le_holds_texts]
  refine ⟨?_, ?_, ?_, ?_, ?_, ?_⟩
  · rw [order?, Text.compareUnits_eq_compareLex]
  · rw [order?, Option.some.injEq, Text.compareUnits_eq_compareLex, Text.compareLex_eq_lt_iff]
  · rw [order?, Option.some.injEq, Text.compareUnits_eq_iff]
  · rw [Text.compareUnits_swap s t, Ordering.isLE_swap]
    cases Text.compareUnits s t <;> simp
  · intro below above
    rw [Text.compareUnits_swap s t, Ordering.isLE_swap] at above
    apply Text.compareUnits_eq_iff.1
    cases order : Text.compareUnits s t <;> simp [order] at below above ⊢
  · exact Std.TransOrd.isLE_trans

/-- A letter, a pair of surrogates and a character above them, of which the pair has the greatest
code point, and two pairs that share their first unit. -/
theorem order?_texts_of_surrogates :
    (le.holds (text "z") (text "😀") = true ∧ le.holds (text "😀") (text "\uFF61") = true ∧
      le.holds (text "z") (text "\uFF61") = true) ∧
    (text "a😀").order? (text "a😁") = some .lt := by
  have below : le.holds (text "z") (text "😀") = true := by decide +kernel
  have above : le.holds (text "😀") (text "\uFF61") = true := by decide +kernel
  obtain ⟨-, -, -, -, -, transitive⟩ := order?_texts "z" "😀" "\uFF61"
  obtain ⟨-, precedes, -⟩ := order?_texts "a😀" "a😁" ""
  refine ⟨⟨below, above, transitive below above⟩, precedes.2 (.inr ?_)⟩
  exact ⟨['a'], '😀', '😁', [], [], by decide, by decide, .inr (by decide)⟩

end Scalar

end DocumentStore
