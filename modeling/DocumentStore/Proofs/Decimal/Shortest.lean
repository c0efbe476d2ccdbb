import DocumentStore.Decimal.Layout
import DocumentStore.Proofs.Decimal.Rounding

/-!
# How large the shortest number of a double is

The shortest decimal number that rounds to a double exceeds it by half a unit at most. Only the
greatest doubles have one that is more than the bound below which a number is never too large, and
those few numbers are known one by one.
-/

namespace DocumentStore

namespace Decimal

/-- A number is at most the bound. Both sides are scaled by a power of ten, so that the exponent is
not negative. -/
def WithinBound (d : Decimal) : Prop :=
  ∀ scale n : Nat, d.exponent + scale = n →
    d.significand * 10 ^ n ≤ Rounding.bound * 10 ^ scale

theorem withinBound_of_toNat {d : Decimal}
    (small : d.significand * 10 ^ d.exponent.toNat ≤
      Rounding.bound * 10 ^ (-d.exponent).toNat) : d.WithinBound := by
  intro scale n same
  generalize Rounding.bound = bound at *
  rcases Int.le_total 0 d.exponent with positive | negative
  · have noScale : (-d.exponent).toNat = 0 := by omega
    obtain rfl : n = d.exponent.toNat + scale := by omega
    rw [noScale, Nat.pow_zero, Nat.mul_one] at small
    calc d.significand * 10 ^ (d.exponent.toNat + scale)
        = d.significand * 10 ^ d.exponent.toNat * 10 ^ scale := by rw [Nat.pow_add, Nat.mul_assoc]
      _ ≤ bound * 10 ^ scale := Nat.mul_le_mul_right _ small
  · have noPower : d.exponent.toNat = 0 := by omega
    obtain rfl : scale = (-d.exponent).toNat + n := by omega
    rw [noPower, Nat.pow_zero, Nat.mul_one] at small
    calc d.significand * 10 ^ n
        ≤ bound * 10 ^ (-d.exponent).toNat * 10 ^ n := Nat.mul_le_mul_right _ small
      _ = bound * 10 ^ ((-d.exponent).toNat + n) := by rw [Nat.pow_add, Nat.mul_assoc]

theorem WithinBound.le {significand n : Nat} (within : WithinBound ⟨significand, n⟩) :
    significand * 10 ^ n ≤ Rounding.bound := by
  have small := within 0 n (Int.add_zero _)
  generalize Rounding.bound = bound at small ⊢
  rwa [Nat.pow_zero, Nat.mul_one] at small

theorem WithinBound.of_mul_le {significand other : Nat} {exponent : Int} {digits : Nat}
    (within : WithinBound ⟨other, exponent⟩) (fewer : significand * 10 ^ digits ≤ other) :
    WithinBound ⟨significand, exponent + digits⟩ := by
  intro scale n same
  have shifted := within (scale + digits) n (by rw [← same]; push_cast; ring)
  refine Nat.le_of_mul_le_mul_right ?_ (Nat.pow_pos (show 0 < 10 by decide) : 0 < 10 ^ digits)
  calc significand * 10 ^ n * 10 ^ digits = significand * 10 ^ digits * 10 ^ n := by ring
    _ ≤ other * 10 ^ n := Nat.mul_le_mul_right _ fewer
    _ ≤ Rounding.bound * 10 ^ (scale + digits) := shifted
    _ = Rounding.bound * 10 ^ scale * 10 ^ digits := by ring

theorem WithinBound.mul {significand digits : Nat} {exponent : Int}
    (within : WithinBound ⟨significand, exponent + digits⟩) :
    WithinBound ⟨significand * 10 ^ digits, exponent⟩ := by
  intro scale n same
  have shifted := within scale (n + digits) (by push_cast [← same]; ring)
  calc significand * 10 ^ digits * 10 ^ n = significand * 10 ^ (n + digits) := by ring
    _ ≤ Rounding.bound * 10 ^ scale := shifted

end Decimal

/-! ## The search for the shortest number -/

namespace Binary

/-- A number exceeds the double by half a unit at most. -/
def Near (b : Binary) (d : Decimal) : Prop :=
  d.significand * (b.quarterUnit d.exponent).denominator ≤
    (4 * b.mantissa + 2) * (b.quarterUnit d.exponent).numerator

theorem near_of_rounds {b : Binary} {k : Int} {n : Nat} (rounds : b.rounds k n = true) :
    b.Near ⟨n, k⟩ := by
  unfold Binary.rounds at rounds
  dsimp only at rounds
  split at rounds
  · simp only [Bool.and_eq_true, decide_eq_true_eq] at rounds
    exact rounds.2
  · simp only [Bool.and_eq_true, decide_eq_true_eq] at rounds
    exact Nat.le_of_lt rounds.2

theorem rounds_of_nearest? {tie : Tie} {b : Binary} {k : Int} {n : Nat}
    (found : b.nearest? tie k = some n) : b.rounds k n = true := by
  unfold nearest? at found
  dsimp only at found
  split at found
  · cases found
  · rename_i below _
    cases found
    exact below
  · rename_i _ above
    cases found
    exact above
  · rename_i below above
    have either : n = 4 * b.mantissa * (b.quarterUnit k).numerator / (b.quarterUnit k).denominator ∨
        n = 4 * b.mantissa * (b.quarterUnit k).numerator / (b.quarterUnit k).denominator + 1 := by
      split at found
      · exact .inl (Option.some.inj found).symm
      · exact .inr (Option.some.inj found).symm
      · split at found
        · exact .inr (Option.some.inj found).symm
        · rw [← Option.some.inj found]
          split
          · exact .inl rfl
          · exact .inr rfl
    rcases either with rfl | rfl
    · exact below
    · exact above

theorem near_search (tie : Tie) (b : Binary) (steps : Nat) : b.Near (b.search tie steps) := by
  induction steps with
  | zero =>
    exact (Nat.div_mul_le_self _ _).trans (Nat.mul_le_mul_right _ (Nat.le_add_right _ _))
  | succ steps ih =>
    rw [search]
    split
    · rename_i n found
      exact near_of_rounds (rounds_of_nearest? found)
    · exact ih

/-- The search stops at the first grid that has a number, so it goes no further than one that is
known to have one. -/
theorem le_exponent_search {tie : Tie} {b : Binary} {steps reached : Nat}
    (stops : (b.nearest? tie (b.finest + reached)).isSome) (within : reached ≤ steps) :
    b.finest + reached ≤ (b.search tie steps).exponent := by
  induction steps with
  | zero =>
    obtain rfl : reached = 0 := Nat.le_zero.1 within
    exact Int.le_of_eq (by rw [search]; simp)
  | succ steps ih =>
    rw [search]
    split
    · change b.finest + reached ≤ b.finest + (steps + 1 : Nat)
      omega
    · rename_i nothing
      refine ih ?_
      rcases Nat.lt_or_eq_of_le within with fewer | rfl
      · exact Nat.le_of_lt_succ fewer
      · rw [nothing] at stops
        cases stops

theorem numerator_pos (b : Binary) (k : Int) : 0 < (b.quarterUnit k).numerator :=
  Nat.mul_pos (Nat.pow_pos (by decide)) (Nat.pow_pos (by decide))

theorem denominator_pos (b : Binary) (k : Int) : 0 < (b.quarterUnit k).denominator :=
  Nat.mul_pos (Nat.pow_pos (by decide)) (Nat.pow_pos (by decide))

theorem pos_of_rounds {b : Binary} {k : Int} {n : Nat} (positive : 0 < b.mantissa)
    (rounds : b.rounds k n = true) : 0 < n := by
  have low : 0 < (4 * b.mantissa - if b.narrowBelow then 1 else 2) * (b.quarterUnit k).numerator :=
    Nat.mul_pos (by split <;> omega) (b.numerator_pos k)
  by_contra notPositive
  obtain rfl : n = 0 := by omega
  unfold Binary.rounds at rounds
  simp only [Nat.zero_mul] at rounds
  split at rounds
  · simp only [Bool.and_eq_true, decide_eq_true_eq] at rounds
    omega
  · simp only [Bool.and_eq_true, decide_eq_true_eq] at rounds
    omega

/-- The double lies on the finest grid, so it is a step away from zero at least. -/
theorem denominator_le_finest {b : Binary} (positive : 0 < b.mantissa) :
    (b.quarterUnit b.finest).denominator ≤ 4 * b.mantissa * (b.quarterUnit b.finest).numerator := by
  have notCoarse : b.finest.toNat = 0 := by rw [finest]; omega
  have fine : (-(b.exponent - 2)).toNat ≤ 2 + (-b.finest).toNat := by rw [finest]; omega
  calc 2 ^ (-(b.exponent - 2)).toNat * 10 ^ b.finest.toNat
      = 2 ^ (-(b.exponent - 2)).toNat := by rw [notCoarse, Nat.pow_zero, Nat.mul_one]
    _ ≤ 2 ^ (2 + (-b.finest).toNat) := Nat.pow_le_pow_right (by decide) fine
    _ = 4 * 2 ^ (-b.finest).toNat := Nat.pow_add ..
    _ ≤ 4 * b.mantissa * (1 * 10 ^ (-b.finest).toNat) := by
      rw [Nat.one_mul]
      exact Nat.mul_le_mul (Nat.le_mul_of_pos_right _ positive) (Nat.pow_le_pow_left (by decide) _)
    _ ≤ 4 * b.mantissa * (2 ^ (b.exponent - 2).toNat * 10 ^ (-b.finest).toNat) :=
      Nat.mul_le_mul_left _ (Nat.mul_le_mul_right _ (Nat.pow_pos (by decide)))

theorem pos_search (tie : Tie) {b : Binary} (positive : 0 < b.mantissa) (steps : Nat) :
    0 < (b.search tie steps).significand := by
  induction steps with
  | zero =>
    exact Nat.div_pos (denominator_le_finest positive) (b.denominator_pos _)
  | succ steps ih =>
    rw [search]
    split
    · rename_i n found
      exact pos_of_rounds positive (rounds_of_nearest? found)
    · exact ih

/-- The shortest number of a double that is not zero is not zero. -/
theorem pos_shortest (tie : Tie) {b : Binary} (positive : 0 < b.mantissa) :
    0 < (b.shortest tie).significand :=
  pos_search tie positive _

/-! ## Doubles up to the bound -/

theorem scaled_of_near {b : Binary} {d : Decimal} (near : b.Near d) :
    d.significand * 10 ^ d.exponent.toNat ≤
      (4 * b.mantissa + 2) * 2 ^ (b.exponent - 2).toNat * 10 ^ (-d.exponent).toNat := by
  have denominator : 10 ^ d.exponent.toNat ≤ (b.quarterUnit d.exponent).denominator :=
    Nat.le_mul_of_pos_left _ (Nat.pow_pos (by decide))
  calc d.significand * 10 ^ d.exponent.toNat
      ≤ d.significand * (b.quarterUnit d.exponent).denominator := Nat.mul_le_mul_left _ denominator
    _ ≤ (4 * b.mantissa + 2) * (b.quarterUnit d.exponent).numerator := near
    _ = _ := (Nat.mul_assoc ..).symm

theorem withinBound_of_near {b : Binary} {d : Decimal} (near : b.Near d)
    (fits : b.mantissa < 2 ^ 53) (low : b.exponent ≤ 970) : d.WithinBound := by
  refine Decimal.withinBound_of_toNat ((scaled_of_near near).trans (Nat.mul_le_mul_right _ ?_))
  have mantissa : 4 * b.mantissa + 2 ≤ 2 ^ 55 := by omega
  have power : 2 ^ (b.exponent - 2).toNat ≤ 2 ^ 968 := by
    gcongr
    · decide
    · omega
  exact (Nat.mul_le_mul mantissa power).trans Rounding.bound_between.1

theorem rounds_of_lt {b : Binary} {k : Int} {n : Nat}
    (low : (4 * b.mantissa - 1) * (b.quarterUnit k).numerator <
      n * (b.quarterUnit k).denominator)
    (high : n * (b.quarterUnit k).denominator <
      (4 * b.mantissa + 2) * (b.quarterUnit k).numerator) : b.rounds k n = true := by
  have lower : (4 * b.mantissa - if b.narrowBelow then 1 else 2) * (b.quarterUnit k).numerator <
      n * (b.quarterUnit k).denominator :=
    (Nat.mul_le_mul_right _ (by split <;> omega)).trans_lt low
  unfold Binary.rounds
  dsimp only
  split
  · simpa using ⟨Nat.le_of_lt lower, Nat.le_of_lt high⟩
  · simpa using ⟨lower, high⟩

/-- A grid that is finer than three quarters of a unit has a number that rounds to the double: the
one below the double, or else the one above. -/
theorem nearest?_isSome (tie : Tie) {b : Binary} {k : Int} (positive : 0 < b.mantissa)
    (fine : (b.quarterUnit k).denominator < 3 * (b.quarterUnit k).numerator) :
    (b.nearest? tie k).isSome := by
  have small := Nat.mod_lt (4 * b.mantissa * (b.quarterUnit k).numerator) (b.denominator_pos k)
  have split := Nat.div_add_mod' (4 * b.mantissa * (b.quarterUnit k).numerator)
    (b.quarterUnit k).denominator
  have lower : (4 * b.mantissa - 1) * (b.quarterUnit k).numerator +
      (b.quarterUnit k).numerator = 4 * b.mantissa * (b.quarterUnit k).numerator := by
    rw [← Nat.succ_mul, Nat.succ_eq_add_one, Nat.sub_add_cancel (by omega)]
  have upper : (4 * b.mantissa + 2) * (b.quarterUnit k).numerator =
      4 * b.mantissa * (b.quarterUnit k).numerator + 2 * (b.quarterUnit k).numerator :=
    Nat.add_mul ..
  unfold nearest?
  dsimp only
  generalize 4 * b.mantissa * (b.quarterUnit k).numerator / (b.quarterUnit k).denominator = below
    at *
  generalize 4 * b.mantissa * (b.quarterUnit k).numerator % (b.quarterUnit k).denominator =
    remainder at *
  have next : (below + 1) * (b.quarterUnit k).denominator =
      below * (b.quarterUnit k).denominator + (b.quarterUnit k).denominator := Nat.succ_mul ..
  have either : b.rounds k below = true ∨ b.rounds k (below + 1) = true := by
    by_cases near : remainder < (b.quarterUnit k).numerator
    · exact .inl (rounds_of_lt (by omega) (by omega))
    · exact .inr (rounds_of_lt (by omega) (by omega))
  split
  · rename_i notBelow notAbove
    rw [notBelow, notAbove] at either
    simp at either
  · rfl
  · rfl
  · split
    · rfl
    · rfl
    · split <;> rfl

theorem quarterUnit_eq {b : Binary} {i : Nat} (exponent : b.exponent = i + 2) (j : Nat) :
    b.quarterUnit j = ⟨2 ^ i, 10 ^ j⟩ := by
  have power : (b.exponent - 2).toNat = i := by omega
  have noPower : (-(b.exponent - 2)).toNat = 0 := by omega
  have noStep : (-(j : Int)).toNat = 0 := by omega
  rw [quarterUnit, power, noPower, noStep, Int.toNat_natCast]
  exact congrArg₂ Ratio.mk (Nat.mul_one _) (Nat.one_mul _)

/-- A step of 292 digits is less than three quarters of the greatest unit, and every double but the
greatest one is less than this number of 17 digits, by half a unit at least. -/
theorem greatest_between :
    10 ^ 292 < 3 * 2 ^ 969 ∧ (2 ^ 55 - 6) * 2 ^ 969 < 17976931348623157 * 10 ^ 292 := by
  decide +kernel

theorem le_exponent_shortest (tie : Tie) {b : Binary} (exponent : b.exponent = 971)
    (low : 2 ^ 52 ≤ b.mantissa) (high : b.mantissa < 2 ^ 53) : 292 ≤ (b.shortest tie).exponent := by
  have bits : b.mantissa.log2 = 52 := (Nat.log2_eq_iff (by omega)).2 ⟨low, high⟩
  have finest : b.finest = 0 := by rw [Binary.finest, exponent]; rfl
  have steps : (b.coarsest - b.finest).toNat = 310 := by
    rw [coarsest, finest, exponent, bits]
    rfl
  have unit := quarterUnit_eq (show b.exponent = (969 : Nat) + 2 from exponent) 292
  have stops : (b.nearest? tie (b.finest + (292 : Nat))).isSome := by
    rw [finest, Int.zero_add]
    refine nearest?_isSome tie (by omega) ?_
    rw [unit]
    dsimp only
    exact greatest_between.1
  rw [shortest, steps]
  have reached := le_exponent_search stops (show 292 ≤ 310 by decide)
  rw [finest] at reached
  simpa using reached

/-- What is less than the greatest double is at most the bound, but for a few numbers of 17
digits. -/
theorem le_bound_or {n j : Nat} (small : n * 10 ^ (292 + j) ≤ (2 ^ 55 - 6) * 2 ^ 969) :
    n * 10 ^ (292 + j) ≤ Rounding.bound ∨
      j = 0 ∧ 17976931348623150 < n ∧ n < 17976931348623157 := by
  have bound : Rounding.bound = 1797693134862315 * 10 ^ (292 + 1) := by rw [Rounding.bound]
  rw [bound]
  cases j with
  | zero =>
    rw [Nat.add_zero] at small ⊢
    have few : n < 17976931348623157 :=
      Nat.lt_of_mul_lt_mul_right (small.trans_lt greatest_between.2)
    by_cases many : 17976931348623150 < n
    · exact .inr ⟨rfl, many, few⟩
    · have tenth (k : Nat) : 17976931348623150 * 10 ^ k = 1797693134862315 * 10 ^ (k + 1) := by ring
      left
      calc n * 10 ^ 292 ≤ 17976931348623150 * 10 ^ 292 :=
            Nat.mul_le_mul_right _ (Nat.le_of_not_lt many)
        _ = 1797693134862315 * 10 ^ (292 + 1) := tenth 292
  | succ j =>
    have shifted (a : Nat) : n * 10 ^ (a + (j + 1)) = n * 10 ^ j * 10 ^ (a + 1) := by ring
    have rounded (k : Nat) : 17976931348623157 * 10 ^ k ≤ 1797693134862316 * 10 ^ (k + 1) := by
      rw [Nat.pow_succ]
      omega
    rw [shifted] at small ⊢
    have few : n * 10 ^ j < 1797693134862316 :=
      Nat.lt_of_mul_lt_mul_right
        (small.trans_lt (greatest_between.2.trans_le (rounded 292)))
    exact .inl (Nat.mul_le_mul_right _ (Nat.le_of_lt_succ few))

/-- The shortest number of a double of the greatest exponent, but for the greatest double itself, is
at most the bound or one of a few that have 17 digits. -/
theorem shortest_of_greatest (tie : Tie) {b : Binary} (exponent : b.exponent = 971)
    (low : 2 ^ 52 ≤ b.mantissa) (high : b.mantissa < 2 ^ 53 - 1) :
    (b.shortest tie).WithinBound ∨
      ∃ n, 17976931348623150 < n ∧ n < 17976931348623158 ∧ b.shortest tie = ⟨n, 292⟩ := by
  have coarse := le_exponent_shortest tie exponent low (by omega)
  have near : b.Near (b.shortest tie) := near_search ..
  generalize b.shortest tie = d at coarse near
  obtain ⟨n, k⟩ := d
  obtain ⟨j, rfl⟩ : ∃ j : Nat, k = (292 + j : Nat) := ⟨(k - 292).toNat, by dsimp at coarse; omega⟩
  rw [Near, quarterUnit_eq (show b.exponent = (969 : Nat) + 2 from exponent)] at near
  have small : n * 10 ^ (292 + j) ≤ (2 ^ 55 - 6) * 2 ^ 969 :=
    (show n * 10 ^ (292 + j) ≤ (4 * b.mantissa + 2) * 2 ^ 969 from near).trans
      (Nat.mul_le_mul_right _ (by omega))
  obtain within | ⟨rfl, many, few⟩ := le_bound_or small
  · have noScale : (-((292 + j : Nat) : Int)).toNat = 0 := by omega
    refine .inl (Decimal.withinBound_of_toNat ?_)
    dsimp only
    rw [noScale, Int.toNat_natCast, Nat.pow_zero, Nat.mul_one Rounding.bound]
    exact within
  · exact .inr ⟨n, many, by omega, rfl⟩

/-! ## Doubles from their bits -/

open Float.Model Float.Model.UnpackedFloat

/-- The bits are those of a finite double: not all bits of the exponent are set. -/
def FiniteBits (bits : UInt64) : Prop := bits.toNat / hiddenBit % 0x800 ≠ 0x7FF

theorem finiteBits_of_isFinite {x : Float} (finite : x.isFinite = true) : FiniteBits x.toBits := by
  intro full
  have exponent : (@unpackExponent Format.binary64 x.toBits.toBitVec).toNat = 0x7FF := by
    rw [unpackExponent, BitVec.toNat_cast, BitVec.extractLsb_toNat, Nat.shiftRight_eq_div_pow,
      ← full]
    rfl
  have all : @unpackExponent Format.binary64 x.toBits.toBitVec =
      -(BitVec.ofNat Format.binary64.exponentBits 1) := BitVec.eq_of_toNat_eq exponent
  change (UnpackedFloat.unpack Format.binary64 x.toBits.toBitVec).isFinite = true at finite
  have unpacked : UnpackedFloat.unpack Format.binary64 x.toBits.toBitVec =
      if @unpackMantissa Format.binary64 x.toBits.toBitVec = 0 then .infinity _ else .notANumber :=
    if_pos all
  rw [unpacked] at finite
  split at finite <;> cases finite

theorem exponent_ofBits_le {bits : UInt64} (finite : FiniteBits bits) :
    (ofBits bits).exponent ≤ 971 := by
  unfold FiniteBits at finite
  unfold ofBits
  dsimp only
  split <;> dsimp only <;> omega

theorem mantissa_ofBits_lt (bits : UInt64) : (ofBits bits).mantissa < 2 ^ 53 := by
  have fraction : bits.toNat % hiddenBit < hiddenBit := Nat.mod_lt _ (by decide)
  unfold hiddenBit at fraction
  unfold ofBits hiddenBit
  dsimp only
  split <;> dsimp only <;> omega

theorem ofBits_of_greatest {bits : UInt64} (exponent : (ofBits bits).exponent = 971) :
    2 ^ 52 ≤ (ofBits bits).mantissa ∧
      ((ofBits bits).mantissa = 2 ^ 53 - 1 → ofBits bits = ⟨2 ^ 53 - 1, 971, false⟩) := by
  unfold ofBits at exponent ⊢
  dsimp only at exponent ⊢
  split
  · rename_i subnormal
    rw [if_pos subnormal] at exponent
    cases exponent
  · rename_i normal
    rw [if_neg normal] at exponent
    dsimp only at exponent ⊢
    refine ⟨Nat.le_add_right _ _, fun full => ?_⟩
    have odd : (bits.toNat % hiddenBit == 0) = false := by
      rw [beq_eq_false_iff_ne]
      intro zero
      rw [zero] at full
      cases full
    rw [full, exponent, odd]
    rfl

/-- The shortest number of a finite double is at most the bound or one of a few that have 17
digits. -/
theorem shortest_cases (tie : Tie) {bits : UInt64} (finite : FiniteBits bits) :
    ((ofBits bits).shortest tie).WithinBound ∨
      ∃ n, 17976931348623150 < n ∧ n < 17976931348623158 ∧
        (ofBits bits).shortest tie = ⟨n, 292⟩ := by
  have fits := mantissa_ofBits_lt bits
  by_cases exponent : (ofBits bits).exponent = 971
  · obtain ⟨low, greatest⟩ := ofBits_of_greatest exponent
    by_cases top : (ofBits bits).mantissa = 2 ^ 53 - 1
    · rw [greatest top]
      refine .inr ⟨17976931348623157, by decide, by decide, ?_⟩
      cases tie <;> decide +kernel
    · exact shortest_of_greatest tie exponent low (by omega)
  · have := exponent_ofBits_le finite
    exact .inl (withinBound_of_near (near_search ..) fits (by omega))

/-- A double with no bit but its sign is zero. -/
theorem mantissa_pos {x : Float} (notZero : (x == 0) = false) :
    0 < (ofBits x.toBits).mantissa := by
  by_contra notPositive
  have bits : x.toBits.toNat % 0x8000000000000000 = 0 := by
    unfold ofBits hiddenBit at notPositive
    dsimp only at notPositive
    split at notPositive
    · dsimp only at notPositive
      omega
    · dsimp only at notPositive
      omega
  have either : x.toBits.toBitVec = 0 ∨ x.toBits.toBitVec = 0x8000000000000000 := by
    have bound := x.toBits.toNat_lt
    rcases (show x.toBits.toNat = 0 ∨ x.toBits.toNat = 0x8000000000000000 by omega) with
      none | sign
    · exact .inl (BitVec.eq_of_toNat_eq none)
    · exact .inr (BitVec.eq_of_toNat_eq sign)
  change UnpackedFloat.beq (UnpackedFloat.unpack Format.binary64 x.toBits.toBitVec)
    (UnpackedFloat.unpack Format.binary64 (0 : Float).toBits.toBitVec) = false at notZero
  rcases either with none | sign
  · rw [none] at notZero
    cases notZero
  · rw [sign] at notZero
    cases notZero

end Binary

namespace Layout

theorem stripZeros_eq (n : Nat) (exponent : Int) :
    ∃ digits : Nat, n = (stripZeros n exponent).significand * 10 ^ digits ∧
      (stripZeros n exponent).exponent = exponent + digits := by
  fun_induction stripZeros n exponent with
  | case1 n exponent even ih =>
    obtain ⟨digits, whole, same⟩ := ih
    refine ⟨digits + 1, ?_, by rw [same]; push_cast; ring⟩
    rw [Nat.pow_succ, ← Nat.mul_assoc, ← whole]
    omega
  | case2 n exponent _ => exact ⟨0, (Nat.mul_one n).symm, (Int.add_zero _).symm⟩

theorem stripZeros_pos {n : Nat} {exponent : Int} (positive : 0 < n) :
    0 < (stripZeros n exponent).significand := by
  obtain ⟨digits, whole, -⟩ := stripZeros_eq n exponent
  rw [whole] at positive
  exact Nat.pos_of_mul_pos_right positive

theorem withinBound_stripZeros {n : Nat} {exponent : Int}
    (within : Decimal.WithinBound ⟨n, exponent⟩) : (stripZeros n exponent).WithinBound := by
  obtain ⟨digits, whole, same⟩ := stripZeros_eq n exponent
  have moved := within.of_mul_le (Nat.le_of_eq whole.symm)
  rwa [← same] at moved

end Layout

end DocumentStore
