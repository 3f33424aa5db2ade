import Mathlib
import WhistledSpeech.Proofs.Decimal.Positive

/-!
# Doubles of integers

The double nearest to an integer has the sign of the integer, and is zero for no integer but zero. It is
finite for integers of thirty-one bits, and for far larger ones.

The bits of such a double are a sign and a magnitude, which is at most that of infinity. So they never
are those of something that is no number, and what they unpack to is read off the magnitude.
-/

namespace WhistledSpeech

open Float.Model (UnpackedFloat Format)
open Float.Model.UnpackedFloat

namespace Decimal.Binary64

/-- An unpacked double of a sign, other than zero. -/
inductive IsNonzero (sign : Sign) : UnpackedFloat → Prop
  | infinity : IsNonzero sign (.infinity sign)
  | finite (mantissa exponent positive) : IsNonzero sign (.finite sign mantissa exponent positive)

section Bits

variable {b : BitVec Format.binary64.numBits}

/-- Bits whose magnitude is at most that of infinity are a number. -/
theorem isNaNBits_eq_false (bounded : b.toNat % 2 ^ 63 ≤ 2047 * 2 ^ 52) : isNaNBits b = false := by
  refine decide_eq_false fun nan => nan.2 ?_
  have full := (unpackExponent_eq_neg_one_iff b).mp nan.1
  rw [unpackMantissa_eq_zero_iff]
  omega

/-- **Bits of a magnitude above zero** unpack to a number that is not zero. -/
theorem isNonzero_unpack (some : 0 < b.toNat % 2 ^ 63) (bounded : b.toNat % 2 ^ 63 ≤ 2047 * 2 ^ 52) :
    IsNonzero (Sign.ofBitVec (unpackSign b)) (unpack .binary64 b) := by
  have exponent_full := unpackExponent_eq_neg_one_iff b
  have exponent_low := unpackExponent_eq_zero_iff b
  have mantissa_zero := unpackMantissa_eq_zero_iff b
  unfold unpack
  extract_lets mantissa exponent shifted bit sign
  by_cases full : exponent = -1#_
  · have field := exponent_full.mp full
    rw [if_pos full, if_pos (mantissa_zero.mpr (by omega))]
    exact .infinity
  · rw [if_neg full]
    by_cases low : exponent = 0#_
    · have field := exponent_low.mp low
      rw [if_pos low, dif_neg fun empty => by have := mantissa_zero.mp empty; omega]
      exact .finite _ _ _
    · rw [if_neg low]
      exact .finite _ _ _

/-- Bits of a magnitude below that of infinity unpack to a finite number. -/
theorem isFinite_unpack (bounded : b.toNat % 2 ^ 63 < 2047 * 2 ^ 52) :
    UnpackedFloat.isFinite (unpack .binary64 b) = true := by
  have exponent_full := unpackExponent_eq_neg_one_iff b
  unfold unpack
  extract_lets mantissa exponent shifted bit sign
  rw [if_neg fun full => by have := exponent_full.mp full; omega]
  split
  · split <;> rfl
  · rfl

/-- The sign of bits. -/
theorem ofBitVec_unpackSign_eq (b : BitVec Format.binary64.numBits) :
    Sign.ofBitVec (unpackSign b) = if 2 ^ 63 ≤ b.toNat then .negative else .positive := by
  have sign := ofBitVec_unpackSign b
  split
  · next below =>
    rw [decide_eq_true below] at sign
    exact beq_iff_eq.mp sign
  · next above =>
    rw [decide_eq_false above] at sign
    cases known : Sign.ofBitVec (unpackSign b) with
    | positive => rfl
    | negative => rw [known] at sign; exact absurd sign (by decide)

end Bits

/-! ## Magnitudes -/

theorem magnitudeBits_le (num den : Nat) : magnitudeBits num den ≤ 2047 * 2 ^ 52 := by
  unfold magnitudeBits
  split
  · exact Nat.zero_le _
  · exact Nat.min_le_right _ _

/-- **The magnitude of a whole number**: the exponent is that of its highest bit. -/
theorem magnitudeBits_one {num : Nat} (some : num ≠ 0) :
    magnitudeBits num 1 = min ((num.log2 + 1022) * 2 ^ 52
        + if 52 ≤ num.log2 then roundHalfEven num (2 ^ (num.log2 - 52)) else num * 2 ^ (52 - num.log2))
      (2047 * 2 ^ 52) := by
  unfold magnitudeBits
  rw [if_neg some]
  extract_lets guess below binade exponent mantissa
  -- the first guess at the exponent is the place of the highest bit, and it is never too high
  have guess_eq : guess = num.log2 := by
    show (num.log2 : Int) - Nat.log2 1 = _
    rw [show Nat.log2 1 = 0 from rfl]
    omega
  have reached : below = false := by
    show (if 0 ≤ guess then decide (num < 1 * 2 ^ guess.toNat) else _) = false
    rw [guess_eq, if_pos (Int.natCast_nonneg _), Int.toNat_natCast, one_mul]
    exact decide_eq_false (Nat.not_lt.mpr (Nat.log2_self_le some))
  have exponent_eq : exponent = num.log2 - 52 := by
    show max ((if below = true then guess - 1 else guess) - 52) (-1074) = _
    rw [reached, guess_eq]
    exact max_eq_left (by omega)
  have bias : (exponent + 1074).toNat = num.log2 + 1022 := by omega
  have mantissa_eq : mantissa = if 52 ≤ num.log2 then roundHalfEven num (2 ^ (num.log2 - 52))
      else num * 2 ^ (52 - num.log2) := by
    show (if 0 ≤ exponent then roundHalfEven num (1 * 2 ^ exponent.toNat)
      else roundHalfEven (num * 2 ^ (-exponent).toNat) 1) = _
    by_cases large : 52 ≤ num.log2
    · rw [if_pos large, if_pos (by omega), one_mul, show exponent.toNat = num.log2 - 52 by omega]
    · rw [if_neg large, if_neg (by omega), show (-exponent).toNat = 52 - num.log2 by omega]
      -- a number of at most fifty-three bits is not rounded
      have exact := roundHalfEven_mul (num * 2 ^ (52 - num.log2)) Nat.one_pos
      rwa [mul_one] at exact
  rw [bias, mantissa_eq]
  rfl

theorem magnitudeBits_pos {num : Nat} (some : num ≠ 0) : 0 < magnitudeBits num 1 := by
  rw [magnitudeBits_one some]
  omega

/-- A number of thirty-one bits is below infinity. -/
theorem magnitudeBits_lt {num : Nat} (small : num < 2 ^ 31) : magnitudeBits num 1 < 2047 * 2 ^ 52 := by
  by_cases some : num = 0
  · rw [some]
    decide
  · have short : num.log2 < 31 := (Nat.log2_lt some).mpr small
    have mantissa : num * 2 ^ (52 - num.log2) < 2 ^ 53 := calc
      num * 2 ^ (52 - num.log2) < 2 ^ (num.log2 + 1) * 2 ^ (52 - num.log2) :=
        Nat.mul_lt_mul_of_pos_right Nat.lt_log2_self (Nat.two_pow_pos _)
      _ = 2 ^ 53 := by rw [← pow_add]; congr 1; omega
    rw [magnitudeBits_one some, if_neg (by omega)]
    omega

/-! ## The nearest double -/

/-- The bits of a sign and a magnitude. -/
theorem toNat_bits (negative : Bool) {magnitude : Nat} (bounded : magnitude ≤ 2047 * 2 ^ 52) :
    ((if negative then Nat.pow 2 63 else 0) + magnitude).toUInt64.toBitVec.toNat
      = (if negative then 2 ^ 63 else 0) + magnitude := by
  show (UInt64.ofNat ((if negative then 2 ^ 63 else 0) + magnitude)).toNat = _
  rw [UInt64.toNat_ofNat']
  cases negative with
  | false => exact Nat.mod_eq_of_lt (by rw [if_neg Bool.false_ne_true]; omega)
  | true => exact Nat.mod_eq_of_lt (by rw [if_pos rfl]; omega)

/-- **The nearest double unpacks to its sign and magnitude.** -/
theorem unpack_nearest (negative : Bool) (num den : Nat) :
    ∃ b : BitVec Format.binary64.numBits, (nearest negative num den).toModel.unpack = unpack .binary64 b
      ∧ b.toNat = (if negative then 2 ^ 63 else 0) + magnitudeBits num den := by
  have bits := toNat_bits negative (magnitudeBits_le num den)
  refine ⟨_, ?_, bits⟩
  have bounded := magnitudeBits_le num den
  -- packing replaces what is no number, so it has to be ruled out before the bits can be read back
  have number : @isNaNBits Format.binary64
      ((if negative then Nat.pow 2 63 else 0) + magnitudeBits num den).toUInt64.toBitVec = false := by
    apply isNaNBits_eq_false
    rw [bits]
    split <;> omega
  show unpack _ (pack _ (unpack _ _)) = _
  rw [pack_unpack, number]
  rfl

/-- **The double of an integer** has its sign, and is not zero unless the integer is. -/
theorem isNonzero_ofInt {n : Int} (some : n ≠ 0) :
    IsNonzero (if n < 0 then .negative else .positive) (ofInt n).toModel.unpack := by
  have magnitude := magnitudeBits_pos (Int.natAbs_ne_zero.mpr some)
  have bounded := magnitudeBits_le n.natAbs 1
  obtain ⟨b, unpacked, bits⟩ := unpack_nearest (n < 0) n.natAbs 1
  have low : b.toNat % 2 ^ 63 = magnitudeBits n.natAbs 1 := by
    rw [bits]
    split <;> omega
  have sign : Sign.ofBitVec (unpackSign b) = if n < 0 then .negative else .positive := by
    rw [ofBitVec_unpackSign_eq, bits]
    by_cases below : n < 0
    · rw [if_pos below, if_pos (by rw [if_pos (decide_eq_true below)]; omega)]
    · rw [if_neg below, if_neg (by rw [if_neg (by simpa using below)]; omega)]
  have nonzero : IsNonzero (Sign.ofBitVec (unpackSign b)) (unpack .binary64 b) :=
    isNonzero_unpack (by omega) (by omega)
  show IsNonzero _ (nearest (n < 0) n.natAbs 1).toModel.unpack
  rw [unpacked, ← sign]
  exact nonzero

end Decimal.Binary64

/-! ## Sample rates -/

open Decimal.Binary64

/-- The double of an integer other than zero is not zero. -/
theorem eq_ofInt_zero {n : Int} (some : n ≠ 0) : Arithmetic.eq (ofInt n) (0 : Float) = false := by
  have nonzero := isNonzero_ofInt some
  show UnpackedFloat.beq (ofInt n).toModel.unpack (.zero .positive) = false
  generalize (ofInt n).toModel.unpack = u at nonzero
  cases nonzero with
  | infinity => split <;> rfl
  | finite mantissa exponent positive => split <;> rfl

/-- The double of an integer above zero is. -/
theorem lt_zero_ofInt {n : Int} (above : 0 < n) :
    Arithmetic.lt (Arithmetic.nat 0) (ofInt n) = true := by
  have nonzero := isNonzero_ofInt above.ne'
  rw [if_neg (by omega)] at nonzero
  refine decide_eq_true (decide_eq_true (?_ : UnpackedFloat.lt (.zero .positive) _ = true))
  generalize (ofInt n).toModel.unpack = u at nonzero
  cases nonzero with
  | infinity => rfl
  | finite mantissa exponent positive => rfl

/-- The double of an integer of thirty-one bits is finite. -/
theorem isFinite_ofInt {n : Int} (small : n.natAbs < 2 ^ 31) :
    Arithmetic.isFinite (ofInt n) = true := by
  have magnitude := magnitudeBits_lt small
  obtain ⟨b, unpacked, bits⟩ := unpack_nearest (n < 0) n.natAbs 1
  show UnpackedFloat.isFinite (nearest (n < 0) n.natAbs 1).toModel.unpack = true
  rw [unpacked]
  apply isFinite_unpack
  rw [bits]
  split <;> omega

end WhistledSpeech
