import DocumentStore.Decimal.Basic
import Mathlib

/-!
# What is not a number

What is rounded to a double may become infinite or zero, but it stays a number: no step on the way
from a decimal number to the bits of a double makes a number into what is not one.
-/

namespace DocumentStore.Rounding

open Float.Model Float.Model.UnpackedFloat

/-- The bits of a number have an exponent other than the greatest one, or no fraction. -/
theorem isNaN_packComponents (sign : Sign) {exponent : BitVec Format.binary64.exponentBits}
    {mantissa : BitVec Format.binary64.mantissaBitsWithoutImplicit}
    (number : exponent = -(BitVec.ofNat _ 1) → mantissa = BitVec.ofNat _ 0) :
    (UnpackedFloat.unpack Format.binary64
      (packComponents Format.binary64 sign exponent mantissa)).isNaN = false := by
  generalize packed : packComponents Format.binary64 sign exponent mantissa = bits
  have sameExponent : unpackExponent bits = exponent := by
    rw [← packed, unpackExponent_packComponents]
  have sameMantissa : unpackMantissa bits = mantissa := by
    rw [← packed, unpackMantissa_packComponents]
  simp only [UnpackedFloat.unpack, sameExponent, sameMantissa]
  by_cases greatest : exponent = -(BitVec.ofNat _ 1)
  · rw [if_pos greatest, if_pos (number greatest)]
    rfl
  · rw [if_neg greatest]
    split
    · split <;> rfl
    · rfl

/-- Packing makes infinite what is too large, but no number is lost. -/
theorem isNaN_pack (x : UnpackedFloat) : (Float.Model.pack x).unpack.isNaN = x.isNaN := by
  change (UnpackedFloat.unpack Format.binary64 (UnpackedFloat.pack Format.binary64 x)).isNaN = _
  cases x with
  | notANumber => decide +kernel
  | infinity sign => exact isNaN_packComponents sign fun _ => rfl
  | zero sign => exact isNaN_packComponents sign fun _ => rfl
  | finite sign m e positive =>
    rw [UnpackedFloat.pack]
    dsimp only
    split
    · exact isNaN_packComponents sign fun _ => rfl
    · rename_i small
      split
      · refine isNaN_packComponents sign fun greatest => ?_
        have same := congrArg BitVec.toNat greatest
        rw [BitVec.toNat_ofNat, Nat.mod_eq_of_lt (Nat.lt_of_succ_lt (Nat.not_le.1 small))] at same
        change _ = 2047 at same
        omega
      · refine isNaN_packComponents sign fun greatest => ?_
        exact absurd greatest (by decide)

theorem isNaN_roundWithAccuracy (spec : Format) (sign : Sign) (m : Nat) (e : Int)
    (accuracy : Accuracy) : (roundWithAccuracy spec sign m e accuracy).isNaN = false := by
  rw [roundWithAccuracy]
  dsimp only
  split <;> rfl

theorem isNaN_ofScientific (m : Nat) (e : Int) :
    (UnpackedFloat.ofScientific Format.binary64 m e).isNaN = false := by
  rw [UnpackedFloat.ofScientific]
  split
  · rfl
  · split
    · rfl
    · split
      · rfl
      · split
        · exact isNaN_roundWithAccuracy ..
        · exact isNaN_roundWithAccuracy ..

theorem isNaN_toFloat (d : Decimal) : d.toFloat.isNaN = false := by
  change (Float.Model.pack _).unpack.isNaN = false
  rw [isNaN_pack, isNaN_ofScientific]

theorem isNaN_neg (x : Float) : (-x).isNaN = x.isNaN := by
  change (Float.Model.pack x.toModel.unpack.neg).unpack.isNaN = x.toModel.unpack.isNaN
  rw [isNaN_pack]
  cases x.toModel.unpack <;> rfl

end DocumentStore.Rounding
