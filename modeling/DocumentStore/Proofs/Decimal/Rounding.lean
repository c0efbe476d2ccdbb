import DocumentStore.Decimal.Basic
import Mathlib.Tactic.Linarith
import Mathlib.Tactic.Ring

/-!
# Rounding to doubles

A natural number is rounded to a double by shifting it to a mantissa of 53 bits. The result exceeds
the number by half a unit in the last place at most, and the same holds of a product of doubles. So a
product stays finite as long as the product of the numbers behind its factors is small enough.
-/

namespace DocumentStore.Rounding

open Float.Model Float.Model.UnpackedFloat

theorem mantissa_shiftRight (em : ExtendedMantissa) (n : Nat) :
    (em >>> n).mantissa = em.mantissa / 2 ^ n := by
  induction n with
  | zero => exact (Nat.div_one _).symm
  | succ n ih =>
    change (em >>> n).mantissa / 2 = _
    rw [ih, Nat.div_div_eq_div_mul, Nat.pow_succ]

/-- The bit after the mantissa counts half a unit, and the two together do not exceed what was
shifted. -/
theorem roundBit_shiftRight (m n : Nat) :
    (2 * ((⟨m, false, false⟩ : ExtendedMantissa) >>> n).mantissa +
      ((⟨m, false, false⟩ : ExtendedMantissa) >>> n).roundBit.toNat) * 2 ^ n ≤ 2 * m := by
  induction n with
  | zero => simp [HShiftRight.hShiftRight, Nat.repeat]
  | succ n ih =>
    generalize shifted : (⟨m, false, false⟩ : ExtendedMantissa) >>> n = em at ih
    have step : (⟨m, false, false⟩ : ExtendedMantissa) >>> (n + 1) = em.shiftRightOne := by
      rw [← shifted]
      rfl
    have halves : 2 * (em.mantissa / 2) + (em.mantissa % 2 != 0).toNat = em.mantissa := by
      rcases Nat.mod_two_eq_zero_or_one em.mantissa with even | odd
      · simp [even]; omega
      · simp [odd]; omega
    have mantissaOnly : em.mantissa * 2 ^ n ≤ m := by
      have := Nat.le_trans (Nat.mul_le_mul_right (2 ^ n) (Nat.le_add_right _ _)) ih
      rw [Nat.mul_assoc] at this
      omega
    rw [step]
    change (2 * (em.mantissa / 2) + (em.mantissa % 2 != 0).toNat) * 2 ^ (n + 1) ≤ 2 * m
    rw [halves, Nat.pow_succ, ← Nat.mul_assoc]
    omega

theorem roundedMantissa_le (em : ExtendedMantissa) :
    em.mantissa ≤ em.roundedMantissa ∧ em.roundedMantissa ≤ em.mantissa + em.roundBit.toNat := by
  obtain ⟨m, round, sticky⟩ := em
  cases round <;> cases sticky <;>
    simp [ExtendedMantissa.roundedMantissa, ExtendedMantissa.accuracy,
      Accuracy.roundToNearestEven]
  omega

/-- A mantissa that is shifted and then rounded is no smaller than the quotient, and exceeds it by
half a unit at most. -/
theorem roundedMantissa_shiftRight (m n : Nat) :
    m / 2 ^ n ≤ ((⟨m, false, false⟩ : ExtendedMantissa) >>> n).roundedMantissa ∧
      ((⟨m, false, false⟩ : ExtendedMantissa) >>> n).roundedMantissa * 2 ^ (n + 1) ≤
        2 * m + 2 ^ n := by
  have bound := roundBit_shiftRight m n
  have quotient := mantissa_shiftRight ⟨m, false, false⟩ n
  generalize (⟨m, false, false⟩ : ExtendedMantissa) >>> n = em at bound quotient
  obtain ⟨low, high⟩ := roundedMantissa_le em
  refine ⟨quotient ▸ low, ?_⟩
  have one : em.roundBit.toNat ≤ 1 := Bool.toNat_le em.roundBit
  calc em.roundedMantissa * 2 ^ (n + 1)
      ≤ (em.mantissa + em.roundBit.toNat) * 2 ^ (n + 1) := Nat.mul_le_mul_right _ high
    _ = (2 * em.mantissa + em.roundBit.toNat) * 2 ^ n + em.roundBit.toNat * 2 ^ n := by ring
    _ ≤ 2 * m + 2 ^ n :=
      Nat.add_le_add bound ((Nat.mul_le_mul_right _ one).trans_eq (Nat.one_mul _))

/-! ## Rounding to 53 bits -/

theorem targetExponent_eq (m : Nat) (e : Int) :
    Format.binary64.targetExponent (totalExponent m e) = max (m.log2 + e - 52) (-1074) := by
  change max ((m.log2 : Int) + 1 + e - (53 : Nat)) (3 - 1024 - (53 : Nat)) = _
  omega

theorem shiftToTargetExponent_eq {m n : Nat} {e : Int}
    (target : max (m.log2 + e - 52) (-1074) = e + n) :
    shiftToTargetExponent Format.binary64 m e .exact =
      ((⟨m, false, false⟩ : ExtendedMantissa) >>> n, e + n) := by
  rw [shiftToTargetExponent, targetExponent_eq, target, shiftToExponent]
  have amount : (e + n - e).toNat = n := by omega
  rw [amount]
  rfl

/-- Rounding a mantissa of `53 + n` bits: it is shifted by `n` bits, or by one more if rounding has
made it longer. -/
theorem roundWithAccuracy_eq (sign : Sign) {m n : Nat} (notZero : m ≠ 0) (bits : m.log2 = 52 + n)
    {e : Int} (normal : -1074 ≤ e + n) :
    ∃ (rounded more : Nat) (positive : 0 < rounded),
      roundWithAccuracy Format.binary64 sign m e .exact =
        .finite sign rounded (e + n + more) positive ∧
      rounded.log2 = 52 ∧ rounded * 2 ^ more * 2 ^ (n + 1) ≤ 2 * m + 2 ^ n := by
  have shifted : shiftToTargetExponent Format.binary64 m e .exact =
      ((⟨m, false, false⟩ : ExtendedMantissa) >>> n, e + n) :=
    shiftToTargetExponent_eq (by omega)
  obtain ⟨low, high⟩ := roundedMantissa_shiftRight m n
  generalize ((⟨m, false, false⟩ : ExtendedMantissa) >>> n) = em at shifted low high
  obtain ⟨floor, ceiling⟩ := (Nat.log2_eq_iff notZero).1 bits
  have full : 2 ^ 52 ≤ em.roundedMantissa := by
    refine Nat.le_trans ?_ low
    rwa [Nat.le_div_iff_mul_le (Nat.two_pow_pos n), ← Nat.pow_add]
  have notNothing : em.roundedMantissa ≠ 0 :=
    Nat.ne_of_gt (Nat.lt_of_lt_of_le (by decide) full)
  have fits : em.roundedMantissa ≤ 2 ^ 53 := by
    by_contra exceeds
    have longer : (2 ^ 53 + 1) * 2 ^ n ≤ em.roundedMantissa * 2 ^ n :=
      Nat.mul_le_mul_right _ (by omega)
    have room : 0 < 2 ^ n := Nat.two_pow_pos n
    have double : em.roundedMantissa * 2 ^ (n + 1) = 2 * (em.roundedMantissa * 2 ^ n) := by ring
    rw [Nat.pow_add, Nat.pow_add] at ceiling
    omega
  rw [roundWithAccuracy, shifted]
  dsimp only
  by_cases short : em.roundedMantissa < 2 ^ 53
  · have log : em.roundedMantissa.log2 = 52 :=
      (Nat.log2_eq_iff notNothing).2 ⟨full, short⟩
    have again : shiftToTargetExponent Format.binary64 em.roundedMantissa (e + n) .exact =
        ((⟨em.roundedMantissa, false, false⟩ : ExtendedMantissa) >>> 0, e + n + (0 : Nat)) :=
      shiftToTargetExponent_eq (by omega)
    refine ⟨em.roundedMantissa, 0, Nat.pos_of_ne_zero notNothing, ?_, log, by simpa using high⟩
    rw [again]
    exact dif_neg notNothing
  · obtain longer : em.roundedMantissa = 2 ^ 53 := by omega
    have again : shiftToTargetExponent Format.binary64 (2 ^ 53) (e + n) .exact =
        ((⟨2 ^ 53, false, false⟩ : ExtendedMantissa) >>> 1, e + n + (1 : Nat)) :=
      shiftToTargetExponent_eq (by rw [Nat.log2_two_pow]; omega)
    refine ⟨2 ^ 52, 1, by decide, ?_, Nat.log2_two_pow, ?_⟩
    · rw [longer, again]
      rfl
    · rw [longer] at high
      simpa using high

theorem finite_congr (sign : Sign) {m m' : Nat} {e e' : Int} (mantissa : m = m') (exponent : e = e')
    (positive : 0 < m) (positive' : 0 < m') :
    UnpackedFloat.finite sign m e positive = .finite sign m' e' positive' := by
  subst mantissa exponent
  rfl

/-- A double with a mantissa of 53 bits is read from its bits again. -/
theorem unpack_pack (sign : Sign) {m : Nat} {e : Int} (positive : 0 < m) (bits : m.log2 = 52)
    (low : -1074 ≤ e) (high : e ≤ 971) :
    ∃ sign', (Float.Model.pack (.finite sign m e positive)).unpack =
      .finite sign' m e positive := by
  obtain ⟨floor, ceiling⟩ := (Nat.log2_eq_iff (Nat.ne_of_gt positive)).1 bits
  obtain ⟨biased, rfl⟩ : ∃ biased : Nat, e = biased - 1075 := ⟨(e + 1075).toNat, by omega⟩
  have packed : UnpackedFloat.pack Format.binary64 (.finite sign m (biased - 1075) positive) =
      packComponents Format.binary64 sign (BitVec.ofNat 11 biased) (BitVec.ofNat 52 m) := by
    have exponent : ((biased : Int) - 1075 + (1023 : Nat) + (52 : Nat)).toNat = biased := by omega
    change (if 2 ^ 11 ≤ ((biased : Int) - 1075 + (1023 : Nat) + (52 : Nat)).toNat + 1 then _
      else if m.log2 + 1 = 53 then packComponents Format.binary64 sign
        (BitVec.ofNat 11 ((biased : Int) - 1075 + (1023 : Nat) + (52 : Nat)).toNat)
        (BitVec.ofNat 52 m) else _) = _
    rw [exponent, if_neg (by omega), if_pos (by omega)]
  have mantissa : (BitVec.ofNat 1 1 ++ BitVec.ofNat 52 m).toNat = m := by
    rw [BitVec.toNat_append, ← Nat.shiftLeft_add_eq_or_of_lt (BitVec.isLt _), BitVec.toNat_ofNat]
    change 1 <<< 52 + m % 2 ^ 52 = m
    omega
  have notAll : unpackExponent (packComponents Format.binary64 sign (BitVec.ofNat 11 biased)
      (BitVec.ofNat 52 m)) ≠ -(BitVec.ofNat 11 1) := by
    rw [unpackExponent_packComponents]
    intro same
    have := congrArg BitVec.toNat same
    rw [BitVec.toNat_ofNat, Nat.mod_eq_of_lt (by omega)] at this
    change biased = 2047 at this
    omega
  have notNone : unpackExponent (packComponents Format.binary64 sign (BitVec.ofNat 11 biased)
      (BitVec.ofNat 52 m)) ≠ BitVec.ofNat 11 0 := by
    rw [unpackExponent_packComponents]
    intro same
    have := congrArg BitVec.toNat same
    rw [BitVec.toNat_ofNat, Nat.mod_eq_of_lt (by omega)] at this
    change biased = 0 at this
    omega
  refine ⟨Sign.ofBitVec (unpackSign (packComponents Format.binary64 sign (BitVec.ofNat 11 biased)
    (BitVec.ofNat 52 m))), ?_⟩
  change UnpackedFloat.unpack Format.binary64 (UnpackedFloat.pack Format.binary64
    (.finite sign m (biased - 1075) positive)) = _
  rw [packed]
  refine (if_neg notAll).trans ((if_neg notNone).trans (finite_congr _ ?_ ?_ _ positive))
  · rw [unpackMantissa_packComponents]
    exact mantissa
  · have small : biased < 2 ^ 11 := by omega
    rw [unpackExponent_packComponents, BitVec.toNat_ofNat, Nat.mod_eq_of_lt small]
    change (biased : Int) - ((1023 : Nat) + (52 : Nat)) = biased - 1075
    omega

/-! ## Decimal numbers as doubles -/

/-- A number below the greatest double. It is so far below that the roundings on the way to a
product do not lead past the greatest double. -/
def bound : Nat := 1797693134862315 * 10 ^ 293

/-- The bound is above all doubles but those of the greatest exponent. It is so far below the first
power of two that is no double that two factors may be rounded by one part in `2 ^ 53` each. -/
theorem bound_between : 2 ^ 55 * 2 ^ 968 ≤ bound ∧ bound * (2 ^ 53 + 1) < 2 ^ 1077 ∧
    2 * (bound * (2 ^ 53 + 1) ^ 2) < (2 ^ 53 - 1) * 2 ^ 1078 := by
  decide +kernel

theorem pow_le_bound {exponent : Nat} (room : exponent ≤ 308) : 10 ^ exponent ≤ bound := by
  have digits (k : Nat) : 10 ^ (15 + k) ≤ 1797693134862315 * 10 ^ k := by
    rw [Nat.pow_add]
    exact Nat.mul_le_mul_right _ (by decide)
  calc 10 ^ exponent ≤ 10 ^ (15 + 293) := Nat.pow_le_pow_right (by decide) room
    _ ≤ bound := digits 293

theorem exponent_le_of_le_bound {significand exponent : Nat} (positive : 0 < significand)
    (small : significand * 10 ^ exponent ≤ bound) : exponent ≤ 308 := by
  have digits (k : Nat) : 1797693134862315 * 10 ^ k < 10 ^ (16 + k) := by
    rw [Nat.pow_add]
    exact Nat.mul_lt_mul_of_pos_right (by decide) (Nat.pow_pos (by decide))
  have power : 10 ^ exponent < 10 ^ (16 + 293) :=
    calc 10 ^ exponent ≤ significand * 10 ^ exponent := Nat.le_mul_of_pos_left _ positive
      _ ≤ bound := small
      _ < 10 ^ (16 + 293) := digits 293
  have := (Nat.pow_lt_pow_iff_right (by decide)).1 power
  omega

/-- A whole number is rounded from 53 bits more than it has. -/
theorem ofScientific_eq {significand exponent : Nat} (positive : 0 < significand)
    (room : exponent ≤ 308) :
    UnpackedFloat.ofScientific Format.binary64 significand exponent =
      roundWithAccuracy Format.binary64 (.positive * .positive)
        (significand * 10 ^ exponent * 2 ^ 53) (-53) .exact := by
  have scaled : significand <<< Format.binary64.mantissaBits * 10 ^ exponent =
      significand * 10 ^ exponent * 2 ^ 53 := by
    rw [Nat.shiftLeft_eq, Nat.mul_right_comm]
    rfl
  have notLarge : ¬ (exponent : Int) > 2 ^ Format.binary64.exponentBits := by
    change ¬ (exponent : Int) > 2048
    omega
  have notSmall : ¬ (exponent : Int) < -(2 ^ Format.binary64.exponentBits + significand.log2) := by
    change ¬ (exponent : Int) < -(2048 + _)
    omega
  rw [UnpackedFloat.ofScientific, dif_neg (Nat.ne_of_gt positive), if_neg notLarge,
    if_neg notSmall, if_pos (Int.natCast_nonneg _), ← scaled]
  rfl

/-- A positive number of at most the bound is rounded to a double that exceeds it by one part in
`2 ^ 53` at most. -/
theorem unpack_toFloat {significand exponent : Nat} (positive : 0 < significand)
    (small : significand * 10 ^ exponent ≤ bound) :
    ∃ (sign : Sign) (m a : Nat) (h : 0 < m),
      (Decimal.mk significand exponent).toFloat.toModel.unpack = .finite sign m (a - 53) h ∧
      m.log2 = 52 ∧ m * 2 ^ a ≤ significand * 10 ^ exponent * (2 ^ 53 + 1) := by
  have rounds := ofScientific_eq positive (exponent_le_of_le_bound positive small)
  have notZero : significand * 10 ^ exponent ≠ 0 :=
    Nat.ne_of_gt (Nat.mul_pos positive (Nat.pow_pos (by decide)))
  generalize significand * 10 ^ exponent = value at small rounds notZero
  obtain ⟨floor, ceiling⟩ := (Nat.log2_eq_iff notZero).1 rfl
  generalize value.log2 = log at floor ceiling
  have bits : (value * 2 ^ 53).log2 = 52 + (log + 1) := by
    rw [Nat.log2_eq_iff (Nat.mul_ne_zero notZero (by decide))]
    constructor
    · calc 2 ^ (52 + (log + 1)) = 2 ^ log * 2 ^ 53 := by ring
        _ ≤ value * 2 ^ 53 := Nat.mul_le_mul_right _ floor
    · calc value * 2 ^ 53 < 2 ^ (log + 1) * 2 ^ 53 :=
          Nat.mul_lt_mul_of_pos_right ceiling (by decide)
        _ = 2 ^ (52 + (log + 1) + 1) := by ring
  obtain ⟨rounded, more, roundedPositive, same, roundedBits, near⟩ :=
    roundWithAccuracy_eq (.positive * .positive) (Nat.mul_ne_zero notZero (by decide)) bits
      (show -1074 ≤ (-53 : Int) + (log + 1 : Nat) by omega)
  have close : rounded * 2 ^ (log + 1 + more) ≤ value * (2 ^ 53 + 1) := by
    have double : rounded * 2 ^ more * 2 ^ (log + 1 + 1) = 2 * (rounded * 2 ^ (log + 1 + more)) := by
      ring
    have half : 2 ^ (log + 1) = 2 * 2 ^ log := by ring
    omega
  have exponent : (-53 : Int) + (log + 1 : Nat) + more = (log + 1 + more : Nat) - 53 := by omega
  have high : ((log + 1 + more : Nat) : Int) - 53 ≤ 971 := by
    have power : 2 ^ (52 + (log + 1 + more)) < 2 ^ 1077 :=
      calc 2 ^ (52 + (log + 1 + more)) = 2 ^ 52 * 2 ^ (log + 1 + more) := Nat.pow_add ..
        _ ≤ rounded * 2 ^ (log + 1 + more) := Nat.mul_le_mul_right _
          ((Nat.log2_eq_iff (Nat.ne_of_gt roundedPositive)).1 roundedBits).1
        _ ≤ value * (2 ^ 53 + 1) := close
        _ ≤ bound * (2 ^ 53 + 1) := Nat.mul_le_mul_right _ small
        _ < 2 ^ 1077 := bound_between.2.1
    have := (Nat.pow_lt_pow_iff_right (by decide)).1 power
    omega
  rw [exponent] at same
  obtain ⟨sign, unpacked⟩ :=
    unpack_pack (.positive * .positive) roundedPositive roundedBits (by omega) high
  refine ⟨sign, rounded, log + 1 + more, roundedPositive, ?_, roundedBits, close⟩
  rw [← unpacked, ← same, ← rounds]
  rfl

theorem log2_mul_of_bits {m₁ m₂ : Nat} (bits₁ : m₁.log2 = 52) (bits₂ : m₂.log2 = 52)
    (positive₁ : 0 < m₁) (positive₂ : 0 < m₂) :
    ∃ n, (m₁ * m₂).log2 = 52 + n ∧ 52 ≤ n := by
  obtain ⟨floor₁, -⟩ := (Nat.log2_eq_iff (Nat.ne_of_gt positive₁)).1 bits₁
  obtain ⟨floor₂, -⟩ := (Nat.log2_eq_iff (Nat.ne_of_gt positive₂)).1 bits₂
  have floor : 2 ^ (52 + 52) ≤ m₁ * m₂ := by
    rw [Nat.pow_add]
    exact Nat.mul_le_mul floor₁ floor₂
  have := (Nat.le_log2 (Nat.mul_ne_zero (Nat.ne_of_gt positive₁) (Nat.ne_of_gt positive₂))).2 floor
  exact ⟨(m₁ * m₂).log2 - 52, by omega, by omega⟩

/-- The exponent of a rounded product is that of a finite double, if what the factors were rounded
from has a product of at most the bound. -/
theorem exponent_of_product {product value rounded a n more : Nat} (full : 2 ^ 52 ≤ rounded)
    (near : rounded * 2 ^ more * 2 ^ (n + 1) ≤ 2 * product + 2 ^ n)
    (close : product * 2 ^ a ≤ value * (2 ^ 53 + 1) ^ 2) (small : value ≤ bound) :
    a + n + more ≤ 1077 := by
  have scaled : 2 ^ 53 * 2 ^ (a + n + more) ≤
      2 * (bound * (2 ^ 53 + 1) ^ 2) + 2 ^ (a + n + more) :=
    calc 2 ^ 53 * 2 ^ (a + n + more) = 2 ^ 52 * 2 ^ more * 2 ^ (n + 1) * 2 ^ a := by ring
      _ ≤ rounded * 2 ^ more * 2 ^ (n + 1) * 2 ^ a := by gcongr
      _ ≤ (2 * product + 2 ^ n) * 2 ^ a := by gcongr
      _ = 2 * (product * 2 ^ a) + 2 ^ (a + n) := by ring
      _ ≤ 2 * (value * (2 ^ 53 + 1) ^ 2) + 2 ^ (a + n) := by gcongr
      _ ≤ 2 * (bound * (2 ^ 53 + 1) ^ 2) + 2 ^ (a + n) := by gcongr
      _ ≤ 2 * (bound * (2 ^ 53 + 1) ^ 2) + 2 ^ (a + n + more) :=
        Nat.add_le_add_left (Nat.pow_le_pow_right (by decide) (Nat.le_add_right _ _)) _
  by_contra exceeds
  have large : 1078 ≤ a + n + more := by omega
  have least : 2 ^ 1078 ≤ 2 ^ (a + n + more) := by gcongr; decide
  have gap := bound_between.2.2
  omega

/-- A number of at most the bound is not too large if its significand and the power of ten are
rounded apart from each other and then multiplied. -/
theorem isInf_mul {significand exponent : Nat} (room : exponent ≤ 308)
    (small : significand * 10 ^ exponent ≤ bound) :
    ((Decimal.mk significand 0).toFloat * (Decimal.mk 1 exponent).toFloat).isInf = false := by
  have power : 1 * 10 ^ exponent ≤ bound := by
    rw [Nat.one_mul]
    exact pow_le_bound room
  obtain ⟨sign₂, m₂, a₂, positive₂, unpacked₂, bits₂, close₂⟩ := unpack_toFloat Nat.one_pos power
  change (Float.Model.pack (UnpackedFloat.mul Format.binary64
    (Decimal.mk significand 0).toFloat.toModel.unpack
    (Decimal.mk 1 exponent).toFloat.toModel.unpack)).unpack.isInf = false
  rw [unpacked₂]
  by_cases zero : significand = 0
  · subst zero
    have nothing : (Decimal.mk 0 0).toFloat.toModel.unpack = .zero .positive := rfl
    rw [nothing]
    change (Float.Model.pack (.zero (.positive * sign₂))).unpack.isInf = false
    cases sign₂ <;> rfl
  · have positive := Nat.pos_of_ne_zero zero
    have whole : significand * 10 ^ 0 ≤ bound :=
      (Nat.mul_le_mul_left _ (Nat.pow_le_pow_right (by decide) (Nat.zero_le _))).trans small
    obtain ⟨sign₁, m₁, a₁, positive₁, unpacked₁, bits₁, close₁⟩ := unpack_toFloat positive whole
    change (Decimal.mk significand 0).toFloat.toModel.unpack = _ at unpacked₁
    rw [unpacked₁]
    change (Float.Model.pack (roundWithAccuracy Format.binary64 (sign₁ * sign₂) (m₁ * m₂)
      (a₁ - 53 + (a₂ - 53)) .exact)).unpack.isInf = false
    obtain ⟨n, bits, long⟩ := log2_mul_of_bits bits₁ bits₂ positive₁ positive₂
    have notZero : m₁ * m₂ ≠ 0 := Nat.mul_ne_zero (Nat.ne_of_gt positive₁) (Nat.ne_of_gt positive₂)
    obtain ⟨rounded, more, roundedPositive, same, roundedBits, near⟩ :=
      roundWithAccuracy_eq (sign₁ * sign₂) notZero bits
        (show -1074 ≤ (a₁ - 53 + (a₂ - 53) : Int) + n by omega)
    have close : m₁ * m₂ * 2 ^ (a₁ + a₂) ≤ significand * 10 ^ exponent * (2 ^ 53 + 1) ^ 2 :=
      calc m₁ * m₂ * 2 ^ (a₁ + a₂) = m₁ * 2 ^ a₁ * (m₂ * 2 ^ a₂) := by ring
        _ ≤ significand * 10 ^ 0 * (2 ^ 53 + 1) * (1 * 10 ^ exponent * (2 ^ 53 + 1)) :=
          Nat.mul_le_mul close₁ close₂
        _ = significand * 10 ^ exponent * (2 ^ 53 + 1) ^ 2 := by ring
    have full := ((Nat.log2_eq_iff (Nat.ne_of_gt roundedPositive)).1 roundedBits).1
    have := exponent_of_product full near close small
    obtain ⟨sign, unpacked⟩ := unpack_pack (sign₁ * sign₂) roundedPositive roundedBits
      (show -1074 ≤ (a₁ - 53 + (a₂ - 53) : Int) + n + more by omega) (by omega)
    rw [same, unpacked]
    rfl

end DocumentStore.Rounding
