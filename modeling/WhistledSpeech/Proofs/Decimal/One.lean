import Mathlib
import WhistledSpeech.Proofs.Decimal.Positive

/-!
# Doubles times one

The product of two doubles has the product of their mantissas at the sum of their exponents, brought to
the exponent that the format wants. One is the mantissa `2 ^ 52` at the exponent `-52`. As a factor it puts
fifty-two zero bits behind a mantissa, and where that mantissa had the wanted exponent before, rounding
takes just these bits away (`roundWithAccuracy_mul_two_pow`).

A double that has been unpacked does have the wanted exponent, subnormal or not
(`targetExponent_of_unpack`). So a double times one is the double, to the last bit: zeros keep their signs,
infinities stay, and what is no number stays none (`mul_of_eq_one`).
-/

namespace WhistledSpeech

open Float.Model (UnpackedFloat Format totalExponent)
open Float.Model.UnpackedFloat

namespace Decimal.Binary64

/-! ## Rounding what need not be rounded -/

/-- **Zero bits are shifted out without a trace.** -/
theorem ofMantissa_mul_two_pow_shiftRight (mantissa bits : Nat) :
    ExtendedMantissa.ofMantissaAndAccuracy (mantissa * 2 ^ bits) .exact >>> bits
      = ExtendedMantissa.ofMantissaAndAccuracy mantissa .exact := by
  induction bits generalizing mantissa with
  | zero => rw [pow_zero, mul_one]; rfl
  | succ bits ih =>
    have last : mantissa * 2 ^ (bits + 1) = mantissa * 2 * 2 ^ bits := by ring
    show ExtendedMantissa.shiftRightOne
      (ExtendedMantissa.ofMantissaAndAccuracy (mantissa * 2 ^ (bits + 1)) .exact >>> bits) = _
    rw [last, ih]
    simp [ExtendedMantissa.shiftRightOne, ExtendedMantissa.ofMantissaAndAccuracy]

/-- Zero bits behind a mantissa are made up for by the exponent. -/
theorem totalExponent_mul_two_pow {mantissa : Nat} (positive : 0 < mantissa) (exponent : Int)
    (bits : Nat) :
    totalExponent (mantissa * 2 ^ bits) (exponent - bits) = totalExponent mantissa exponent := by
  have low : 2 ^ mantissa.log2 ≤ mantissa := Nat.log2_self_le positive.ne'
  have high : mantissa < 2 ^ (mantissa.log2 + 1) := Nat.lt_log2_self
  have digits : (mantissa * 2 ^ bits).log2 = mantissa.log2 + bits := by
    rw [Nat.log2_eq_iff (Nat.mul_pos positive (Nat.two_pow_pos bits)).ne', Nat.add_right_comm, pow_add,
      pow_add _ (mantissa.log2 + 1)]
    exact ⟨Nat.mul_le_mul_right _ low, Nat.mul_lt_mul_of_pos_right high (Nat.two_pow_pos bits)⟩
  unfold totalExponent
  rw [digits]
  omega

variable {spec : Format} {mantissa : Nat} {exponent : Int}

/-- Shifting a mantissa to an exponent that it has but for zero bits. -/
theorem shiftToTargetExponent_mul_two_pow (positive : 0 < mantissa)
    (wanted : spec.targetExponent (totalExponent mantissa exponent) = exponent) (bits : Nat) :
    shiftToTargetExponent spec (mantissa * 2 ^ bits) (exponent - bits) .exact
      = (.ofMantissaAndAccuracy mantissa .exact, exponent) := by
  have amount : (exponent - (exponent - bits)).toNat = bits := by omega
  unfold shiftToTargetExponent shiftToExponent
  dsimp only
  rw [totalExponent_mul_two_pow positive, wanted, amount, ofMantissa_mul_two_pow_shiftRight,
    sub_add_cancel]

/-- **Zero bits are rounded away** without any other change. -/
theorem roundWithAccuracy_mul_two_pow (sign : Sign) (positive : 0 < mantissa)
    (wanted : spec.targetExponent (totalExponent mantissa exponent) = exponent) (bits : Nat) :
    roundWithAccuracy spec sign (mantissa * 2 ^ bits) (exponent - bits) .exact
      = .finite sign mantissa exponent positive := by
  have again := shiftToTargetExponent_mul_two_pow positive wanted 0
  rw [pow_zero, mul_one, Nat.cast_zero, sub_zero] at again
  unfold roundWithAccuracy
  rw [shiftToTargetExponent_mul_two_pow positive wanted]
  dsimp only
  rw [show (ExtendedMantissa.ofMantissaAndAccuracy mantissa .exact).roundedMantissa = mantissa from rfl,
    again]
  exact dif_neg positive.ne'

/-! ## The exponents of doubles -/

/-- **An unpacked double has the exponent its format wants.** -/
theorem targetExponent_of_unpack {b : BitVec Format.binary64.numBits} {sign : Sign}
    {positive : 0 < mantissa} (unpacked : unpack .binary64 b = .finite sign mantissa exponent positive) :
    Format.binary64.targetExponent (totalExponent mantissa exponent) = exponent := by
  show max ((mantissa.log2 : Int) + 1 + exponent - 53) (-1074) = exponent
  unfold unpack at unpacked
  extract_lets fraction field shifted bit plus at unpacked
  by_cases full : field = -1#_
  · rw [if_pos full] at unpacked
    split at unpacked <;> exact absurd unpacked nofun
  rw [if_neg full] at unpacked
  by_cases low : field = 0#_
  · -- a subnormal has the least exponent there is, and too few digits for any other
    rw [if_pos low] at unpacked
    split at unpacked
    · exact absurd unpacked nofun
    injection unpacked with _ mantissa_eq exponent_eq
    have short : mantissa < 2 ^ 52 := mantissa_eq ▸ fraction.isLt
    have digits : mantissa.log2 < 52 := (Nat.log2_lt positive.ne').mpr short
    have least : exponent = -1074 := by
      rw [← exponent_eq]
      show (field.toNat : Int) - (1023 + 52) + 1 = -1074
      rw [low]
      rfl
    omega
  · rw [if_neg low] at unpacked
    injection unpacked with _ mantissa_eq exponent_eq
    have leading : (1#1 ++ fraction).toNat = 2 ^ 52 + fraction.toNat := by
      rw [BitVec.toNat_append]
      exact (Nat.two_pow_add_eq_or_of_lt fraction.isLt 1).symm
    have below : fraction.toNat < 2 ^ 52 := fraction.isLt
    have digits : mantissa.log2 = 52 := by
      rw [Nat.log2_eq_iff positive.ne']
      omega
    have some : field.toNat ≠ 0 := fun none => low (BitVec.eq_of_toNat_eq none)
    have exponent_eq' : exponent = (field.toNat : Int) - (1023 + 52) := exponent_eq.symm
    omega

/-- Unpacked, a double times one is itself. -/
theorem mul_one_unpack (b : BitVec Format.binary64.numBits) :
    mul .binary64 (unpack .binary64 b) (.finite .positive (2 ^ 52) (-52) (by decide))
      = unpack .binary64 b := by
  cases unpacked : unpack .binary64 b with
  | notANumber => rfl
  | infinity sign => cases sign <;> rfl
  | zero sign => cases sign <;> rfl
  | finite sign mantissa exponent positive =>
    have same : sign * Sign.positive = sign := by
      cases sign <;> rfl
    show roundWithAccuracy .binary64 (sign * .positive) (mantissa * 2 ^ 52) (exponent - (52 : Nat))
      .exact = _
    rw [same]
    exact roundWithAccuracy_mul_two_pow sign positive (targetExponent_of_unpack unpacked) 52

end Decimal.Binary64

open Decimal.Binary64

/-- **A double times one is the double**, to the last bit. -/
theorem mul_of_eq_one {x factor : Float}
    (one : Arithmetic.eq factor (Arithmetic.nat 1) = true) : x * factor = x := by
  have same : factor.toModel.unpack = .finite .positive (2 ^ 52) (-52) (by decide) := by
    have alike : UnpackedFloat.beq factor.toModel.unpack
      (.finite .positive (2 ^ 52) (-52) (by decide)) = true := one
    obtain ⟨_, _, same | ⟨_, other⟩ | ⟨_, other⟩⟩ := (beq_iff_ne_notANumber_and_eq _ _).mp alike
    · exact same
    · exact absurd other nofun
    · exact absurd other nofun
  have unchanged : mul .binary64 x.toModel.unpack factor.toModel.unpack = x.toModel.unpack := by
    rw [same]
    exact mul_one_unpack _
  show Float.ofModel (Float.Model.pack (mul .binary64 x.toModel.unpack factor.toModel.unpack)) = x
  rw [unchanged]
  obtain ⟨⟨⟨bits⟩, valid⟩⟩ := x
  have packed : pack .binary64 (unpack .binary64 bits) = bits := pack_unpack_of_valid valid
  unfold Float.Model.pack
  -- a double is its bits, and the bits are those that were unpacked
  congr 3

end WhistledSpeech
