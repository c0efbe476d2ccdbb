import DocumentStore.Text.Utf16

/-!
# Texts and their code units

A text can be told from its UTF-16 code units: no character above U+FFFF begins with a unit that is a
character itself, for its two units lie among the surrogates, and these are no characters. So two
texts are equal in the order of their code units only if they are the same.
-/

namespace DocumentStore.Text

/-- The surrogates from U+D800 to U+DFFF are no characters. -/
theorem toNat_ranges (c : Char) :
    c.toNat < 0xD800 ∨ 0xDFFF < c.toNat ∧ c.toNat < 0x110000 := c.valid

theorem units_ne_nil (c : Char) : units c ≠ [] := by
  by_cases narrow : c.toNat < 0x10000
  · simp [units, narrow]
  · simp [units, narrow]

/-- The first character can be told from the units of a text, and what is left are the units of the
others. -/
theorem units_append_inj {c d : Char} {s t : List Nat} (same : units c ++ s = units d ++ t) :
    c = d ∧ s = t := by
  have validC := toNat_ranges c
  have validD := toNat_ranges d
  have told : c.toNat = d.toNat ∧ s = t := by
    by_cases narrowC : c.toNat < 0x10000
    · by_cases narrowD : d.toNat < 0x10000
      · simpa [units, narrowC, narrowD] using same
      · -- the first unit of the pair is no character
        simp only [units, narrowC, narrowD, if_true, if_false, List.cons_append,
          List.cons.injEq] at same
        omega
    · by_cases narrowD : d.toNat < 0x10000
      · simp only [units, narrowC, narrowD, if_true, if_false, List.cons_append,
          List.cons.injEq] at same
        omega
      · simp only [units, narrowC, narrowD, if_false, List.cons_append, List.nil_append,
          List.cons.injEq] at same
        obtain ⟨high, low, rest⟩ := same
        exact ⟨by omega, rest⟩
  exact ⟨Char.toNat_inj.1 told.1, told.2⟩

theorem eq_of_flatMap_units {s t : List Char} (same : s.flatMap units = t.flatMap units) :
    s = t := by
  induction s generalizing t with
  | nil =>
    cases t with
    | nil => rfl
    | cons d t => exact absurd (List.append_eq_nil_iff.1 same.symm).1 (units_ne_nil d)
  | cons c s ih =>
    cases t with
    | nil => exact absurd (List.append_eq_nil_iff.1 same).1 (units_ne_nil c)
    | cons d t =>
      obtain ⟨rfl, rest⟩ := units_append_inj same
      rw [ih rest]

theorem compareUnits_eq_iff {s t : String} : compareUnits s t = .eq ↔ s = t := by
  rw [compareUnits, Std.LawfulEqOrd.compare_eq_iff_eq]
  constructor
  · intro same
    exact String.toList_injective (eq_of_flatMap_units same)
  · rintro rfl
    rfl

theorem compareUnits_swap (s t : String) : compareUnits t s = (compareUnits s t).swap :=
  Std.OrientedOrd.eq_swap

end DocumentStore.Text
