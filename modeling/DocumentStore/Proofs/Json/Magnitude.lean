import DocumentStore.Proofs.Decimal.Shortest
import DocumentStore.Proofs.Json.Numeral

/-!
# How large a numeral may be

The leading digits of a numeral, as many as fit 64 bits, are rounded to a double that is scaled by a
power of ten. What is at most the bound is not too large for that, whichever digits are left out.
-/

namespace DocumentStore

namespace Decimal

theorem ofDigits_append (digits more : List Char) :
    ofDigits (digits ++ more) = 10 ^ more.length * ofDigits digits + ofDigits more :=
  (Nat.ofDigitChars_append 0).trans Nat.ofDigitChars_eq_ofDigitChars_zero

theorem digitValue_lt {c : Char} (digit : c.isDigit = true) : digitValue c < 10 := by
  simp only [Char.isDigit, Bool.and_eq_true, decide_eq_true_eq] at digit
  have high : c.toNat ≤ 57 := digit.2
  change c.toNat - 48 < 10
  omega

theorem ofDigits_lt {digits : List Char} (all : ∀ c ∈ digits, c.isDigit = true) :
    ofDigits digits < 10 ^ digits.length := by
  induction digits with
  | nil => exact Nat.one_pos
  | cons c rest ih =>
    obtain ⟨first, others⟩ := List.forall_mem_cons.1 all
    have value : ofDigits (c :: rest) = 10 ^ rest.length * digitValue c + ofDigits rest := by
      rw [← List.singleton_append, ofDigits_append]
      simp [ofDigits]
    have leading := Nat.mul_le_mul_left (10 ^ rest.length) (Nat.le_of_lt_succ (digitValue_lt first))
    have := ih others
    rw [value, List.length_cons, Nat.pow_succ]
    omega

end Decimal

namespace Numeral

/-- Digits are taken from the front, and all of them are if they fit 64 bits with those before
them. -/
theorem extend_eq (whole digits : List Char) :
    ∃ taken ignored, digits = taken ++ ignored ∧
      extend (Decimal.ofDigits whole) digits = (Decimal.ofDigits (whole ++ taken), ignored) ∧
      (Decimal.ofDigits (whole ++ digits) < limit → ignored = []) := by
  induction digits generalizing whole with
  | nil => exact ⟨[], [], rfl, by rw [extend, List.append_nil], fun _ => rfl⟩
  | cons c rest ih =>
    have longer : 10 * Decimal.ofDigits whole + Decimal.digitValue c =
        Decimal.ofDigits (whole ++ [c]) := by
      rw [Decimal.ofDigits_append]
      simp [Decimal.ofDigits]
    rw [extend, longer]
    split
    · obtain ⟨taken, ignored, rfl, extended, all⟩ := ih (whole ++ [c])
      rw [List.append_assoc] at extended all
      exact ⟨c :: taken, ignored, rfl, extended, all⟩
    · rename_i exceeds
      refine ⟨[], c :: rest, rfl, by rw [List.append_nil], fun fits => absurd ?_ exceeds⟩
      have front : 1 * Decimal.ofDigits (whole ++ [c]) ≤
          10 ^ rest.length * Decimal.ofDigits (whole ++ [c]) :=
        Nat.mul_le_mul_right _ (Nat.pow_pos (by decide))
      have value := Decimal.ofDigits_append (whole ++ [c]) rest
      rw [List.append_assoc, List.singleton_append] at value
      omega

theorem extend_whole {whole : List Char} (fits : Decimal.ofDigits whole < limit) :
    extend 0 whole = (Decimal.ofDigits whole, []) := by
  obtain ⟨taken, ignored, same, extended, all⟩ := extend_eq [] whole
  obtain rfl := all fits
  rw [List.append_nil] at same
  rw [same]
  exact same ▸ extended

/-- A double that is divided is never too large. -/
theorem scale?_isSome_of_neg (x : Float) {exponent : Int} (negative : exponent < 0) :
    (scale? x exponent).isSome := by
  fun_induction scale? x exponent with
  | case1 | case2 | case3 | case4 => omega
  | case5 | case6 => rfl
  | case7 x exponent _ _ _ _ ih => exact ih (by omega)

theorem scale?_isSome {significand : Nat} {exponent : Int}
    (within : Decimal.WithinBound ⟨significand, exponent⟩) :
    (scale? (Decimal.mk significand 0).toFloat exponent).isSome := by
  rcases Int.lt_or_le exponent 0 with negative | notNegative
  · exact scale?_isSome_of_neg _ negative
  · obtain ⟨power, rfl⟩ := Int.eq_ofNat_of_zero_le notNegative
    by_cases large : 308 < power
    · -- Only zero is at most the bound with so large a power of ten.
      obtain rfl : significand = 0 := by
        by_contra notZero
        have := Rounding.exponent_le_of_le_bound (Nat.pos_of_ne_zero notZero) within.le
        omega
      have zero : ((Decimal.mk 0 0).toFloat == 0) = true := rfl
      rw [scale?, if_pos (by omega), if_pos zero]
      rfl
    · have finite := Rounding.isInf_mul (Nat.le_of_not_lt large) within.le
      rw [scale?, if_neg (by omega), if_pos notNegative, powerOfTen, Int.toNat_natCast]
      simp [finite]

/-- A numeral of at most the bound stands for a double, if the digits before its point fit 64
bits. -/
theorem magnitude?_isSome {n : Numeral} (fits : Decimal.ofDigits n.whole < limit)
    (within : (Decimal.ofParts n.whole (n.fraction.getD []) (n.exponent.getD 0)).WithinBound) :
    n.magnitude?.isSome := by
  rw [magnitude?, extend_whole fits]
  dsimp only
  generalize n.fraction.getD [] = fraction at within ⊢
  obtain ⟨taken, ignored, rfl, extended, -⟩ := extend_eq n.whole fraction
  rw [extended]
  refine scale?_isSome ?_
  have fewer : Decimal.ofDigits (n.whole ++ taken) * 10 ^ ignored.length ≤
      Decimal.ofDigits (n.whole ++ (taken ++ ignored)) := by
    rw [← List.append_assoc, Decimal.ofDigits_append _ ignored, Nat.mul_comm]
    exact Nat.le_add_right _ _
  have exponent : ((List.length ([] : List Char) : Nat) : Int) -
      ((taken ++ ignored).length - ignored.length) + n.exponent.getD 0 =
        n.exponent.getD 0 - (taken ++ ignored).length + ignored.length := by
    simp only [List.length_nil, List.length_append]
    omega
  rw [exponent]
  exact within.of_mul_le fewer

theorem number?_isSome {n : Numeral} (magnitude : n.magnitude?.isSome) : n.number?.isSome := by
  have double : (n.float?.map Number.float).isSome := by
    rw [float?, Option.isSome_map, Option.isSome_map]
    exact magnitude
  unfold number?
  dsimp only
  split
  · split
    · rfl
    · split
      · rfl
      · exact double
  · exact double

end Numeral

end DocumentStore
