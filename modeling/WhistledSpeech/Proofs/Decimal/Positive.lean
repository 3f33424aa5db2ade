import Mathlib
import WhistledSpeech.Formula.Arithmetic

/-!
# The sign of products and quotients of doubles

Arithmetic on doubles goes through their unpacked form, the floor of a double through the reading of
its bits. `Binary64.ofFloat_eq` says that the two agree, so that what the operations do to a sign is
seen in the reading.

A product of two doubles above zero may be rounded to zero or to infinity, and so may a thousandth of
it; neither is negative or undefined (`isUnsigned_mul`, `isUnsigned_div_thousand`). The floor of such a
double is not negative, or there is none because the double is infinite (`floor_of_isUnsigned`).
-/

namespace WhistledSpeech

open Float.Model (UnpackedFloat Format)
open Float.Model.UnpackedFloat

namespace Decimal.Binary64

/-! ## Two readings of a double -/

/-- The reading of a double that has been unpacked. -/
def ofUnpacked : UnpackedFloat → Binary64
  | .infinity sign => .infinite (sign == .negative)
  | .notANumber => .nan
  | .zero sign => .finite (sign == .negative) 0 (-1074)
  | .finite sign mantissa exponent _ => .finite (sign == .negative) mantissa exponent

section Fields

variable (b : BitVec Format.binary64.numBits)

theorem toNat_unpackMantissa : (unpackMantissa b).toNat = b.toNat % 2 ^ 52 := by
  rw [unpackMantissa_def, BitVec.extractLsb'_toNat, Nat.shiftRight_zero]

theorem toNat_unpackExponent : (unpackExponent b).toNat = b.toNat / 2 ^ 52 % 2 ^ 11 := by
  rw [unpackExponent_def, BitVec.extractLsb'_toNat, Nat.shiftRight_eq_div_pow]

theorem ofBitVec_unpackSign :
    (Sign.ofBitVec (unpackSign b) == .negative) = decide (2 ^ 63 ≤ b.toNat) := by
  have field : (unpackSign b).toNat = b.toNat / 2 ^ 63 := by
    rw [unpackSign_def, BitVec.extractLsb'_toNat, Nat.shiftRight_eq_div_pow]
    have bound : b.toNat < 2 ^ 64 := b.isLt
    show b.toNat / 2 ^ 63 % 2 ^ 1 = b.toNat / 2 ^ 63
    omega
  unfold Sign.ofBitVec
  by_cases h : 2 ^ 63 ≤ b.toNat
  · have one : unpackSign b ≠ 0#1 := by
      intro zero
      rw [zero] at field
      simp at field
      omega
    rw [if_neg one, decide_eq_true h]
    rfl
  · have zero : unpackSign b = 0#1 := by
      apply BitVec.eq_of_toNat_eq
      rw [field]
      exact Nat.div_eq_of_lt (by omega)
    rw [if_pos zero, decide_eq_false h]
    rfl

theorem unpackExponent_eq_neg_one_iff :
    unpackExponent b = -1#_ ↔ b.toNat / 2 ^ 52 % 2 ^ 11 = 2047 := by
  rw [← toNat_unpackExponent, ← BitVec.toNat_inj]
  rfl

theorem unpackExponent_eq_zero_iff :
    unpackExponent b = 0#_ ↔ b.toNat / 2 ^ 52 % 2 ^ 11 = 0 := by
  rw [← toNat_unpackExponent, ← BitVec.toNat_inj]
  rfl

theorem unpackMantissa_eq_zero_iff : unpackMantissa b = 0#_ ↔ b.toNat % 2 ^ 52 = 0 := by
  rw [← toNat_unpackMantissa, ← BitVec.toNat_inj]
  rfl

/-- The fields of the bits say what the unpacked form says. -/
theorem ofBits_eq : ofBits (.ofBitVec b) = ofUnpacked (unpack .binary64 b) := by
  have sign := ofBitVec_unpackSign b
  unfold unpack
  show (if b.toNat / 2 ^ 52 % 2 ^ 11 = 2047 then
      if b.toNat % 2 ^ 52 = 0 then Binary64.infinite (decide (2 ^ 63 ≤ b.toNat)) else .nan
    else if b.toNat / 2 ^ 52 % 2 ^ 11 = 0 then
      .finite (decide (2 ^ 63 ≤ b.toNat)) (b.toNat % 2 ^ 52) (-1074)
    else .finite (decide (2 ^ 63 ≤ b.toNat)) (2 ^ 52 + b.toNat % 2 ^ 52)
      ((b.toNat / 2 ^ 52 % 2 ^ 11 : Nat) - 1075)) = _
  extract_lets mantissa exponent shifted
  by_cases full : exponent = -1#_
  · rw [if_pos ((unpackExponent_eq_neg_one_iff b).mp full), if_pos full]
    by_cases empty : mantissa = 0#_
    · rw [if_pos ((unpackMantissa_eq_zero_iff b).mp empty), if_pos empty]
      rw [ofUnpacked, sign]
    · rw [if_neg (mt (unpackMantissa_eq_zero_iff b).mpr empty), if_neg empty]
      rfl
  · rw [if_neg (mt (unpackExponent_eq_neg_one_iff b).mpr full), if_neg full]
    by_cases low : exponent = 0#_
    · rw [if_pos ((unpackExponent_eq_zero_iff b).mp low), if_pos low]
      by_cases empty : mantissa = 0#_
      · rw [dif_pos empty, ofUnpacked, sign, (unpackMantissa_eq_zero_iff b).mp empty]
      · have exponent_eq : shifted + 1 = -1074 := by
          show (exponent.toNat : Int) - (1023 + 52) + 1 = -1074
          rw [low]
          rfl
        rw [dif_neg empty, ofUnpacked, sign, exponent_eq, ← toNat_unpackMantissa]
    · have mantissa_eq : (1#1 ++ mantissa).toNat = 2 ^ 52 + b.toNat % 2 ^ 52 := by
        rw [BitVec.toNat_append, ← toNat_unpackMantissa]
        exact (Nat.two_pow_add_eq_or_of_lt mantissa.isLt 1).symm
      have exponent_eq : shifted = (b.toNat / 2 ^ 52 % 2 ^ 11 : Nat) - 1075 := by
        rw [← toNat_unpackExponent]
        rfl
      rw [if_neg (mt (unpackExponent_eq_zero_iff b).mpr low), if_neg low]
      rw [ofUnpacked, sign, mantissa_eq, exponent_eq]

end Fields

/-- **The reading of the bits of a double is that of its unpacked form.** -/
theorem ofFloat_eq (x : Float) : ofFloat x = ofUnpacked x.toModel.unpack :=
  ofBits_eq x.toModel.toBits.toBitVec

/-! ## Signs -/

/-- An unpacked double with a plus sign: zero, a positive number or infinity. -/
inductive HasPlus : UnpackedFloat → Prop
  | infinity : HasPlus (.infinity .positive)
  | zero : HasPlus (.zero .positive)
  | finite (mantissa exponent positive) : HasPlus (.finite .positive mantissa exponent positive)

/-- An unpacked double above zero. -/
inductive IsPositive : UnpackedFloat → Prop
  | infinity : IsPositive (.infinity .positive)
  | finite (mantissa exponent positive) : IsPositive (.finite .positive mantissa exponent positive)

theorem isPositive_of_lt {u : UnpackedFloat}
    (above : UnpackedFloat.lt (.zero .positive) u = true) : IsPositive u := by
  cases u with
  | notANumber => exact absurd above (by decide)
  | zero sign => exact absurd above (by simp [UnpackedFloat.lt, UnpackedFloat.compare])
  | infinity sign =>
    cases sign with
    | positive => exact .infinity
    | negative => exact absurd above (by decide)
  | finite sign mantissa exponent positive =>
    cases sign with
    | positive => exact .finite mantissa exponent positive
    | negative => exact absurd above (by simp [UnpackedFloat.lt, UnpackedFloat.compare])

theorem IsPositive.hasPlus {u : UnpackedFloat} (hu : IsPositive u) : HasPlus u := by
  cases hu with
  | infinity => exact .infinity
  | finite mantissa exponent positive => exact .finite mantissa exponent positive

section Operations

variable {spec : Format} {u v : UnpackedFloat}

/-- Rounding keeps the sign, whether or not the number is rounded to zero. -/
theorem hasPlus_roundWithAccuracy (mantissa : Nat) (exponent : Int) (accuracy : Accuracy) :
    HasPlus (roundWithAccuracy spec .positive mantissa exponent accuracy) := by
  unfold roundWithAccuracy
  dsimp only
  split
  · exact .zero
  · exact .finite _ _ _

theorem hasPlus_mul (hu : IsPositive u) (hv : IsPositive v) : HasPlus (mul spec u v) := by
  cases hu with
  | infinity =>
    cases hv with
    | infinity => exact .infinity
    | finite _ _ _ => exact .infinity
  | finite _ _ _ =>
    cases hv with
    | infinity => exact .infinity
    | finite _ _ _ => exact hasPlus_roundWithAccuracy _ _ _

/-- Zero and infinity stay under a factor that is neither. -/
theorem hasPlus_mul_finite (hu : HasPlus u) (mantissa : Nat) (exponent : Int)
    (positive : 0 < mantissa) :
    HasPlus (mul spec u (.finite .positive mantissa exponent positive)) := by
  cases hu with
  | infinity => exact .infinity
  | zero => exact .zero
  | finite _ _ _ => exact hasPlus_roundWithAccuracy _ _ _

theorem hasPlus_div (hu : HasPlus u) (mantissa : Nat) (exponent : Int) (positive : 0 < mantissa) :
    HasPlus (div spec u (.finite .positive mantissa exponent positive)) := by
  cases hu with
  | infinity => exact .infinity
  | zero => exact .zero
  | finite _ _ _ => exact hasPlus_roundWithAccuracy _ _ _

/-- Bits with a plus sign that are a number are one with a plus sign. -/
theorem hasPlus_unpack {b : BitVec spec.numBits}
    (sign : Sign.ofBitVec (unpackSign b) = .positive)
    (number : unpackExponent b = -1#_ → unpackMantissa b = 0#_) : HasPlus (unpack spec b) := by
  unfold unpack
  extract_lets mantissa exponent shifted bit plus
  rw [show plus = .positive from sign]
  by_cases full : exponent = -1#_
  · rw [if_pos full, if_pos (number full)]
    exact .infinity
  · rw [if_neg full]
    split
    · split
      · exact .zero
      · exact .finite _ _ _
    · exact .finite _ _ _

/-- **Packing keeps a plus sign**, also where it overflows to infinity. -/
theorem HasPlus.unpack_pack (hu : HasPlus u) : HasPlus (unpack spec (pack spec u)) := by
  have packed : ∀ {exponent mantissa}, (exponent = -1#_ → mantissa = 0#_) →
      HasPlus (unpack spec (packComponents spec .positive exponent mantissa)) := by
    intro exponent mantissa number
    apply hasPlus_unpack
    · rw [unpackSign_packComponents]
      rfl
    · rw [unpackExponent_packComponents, unpackMantissa_packComponents]
      exact number
  cases hu with
  | infinity => exact packed fun _ => rfl
  | zero => exact packed fun _ => rfl
  | finite mantissa exponent positive =>
    rw [pack]
    split
    · exact packed fun _ => rfl
    · next bounded =>
      split
      · -- the exponent of a number that does not overflow is below that of infinity
        refine packed fun full => absurd (congrArg BitVec.toNat full) ?_
        rw [BitVec.toNat_ofNat, BitVec.neg_one_eq_allOnes, BitVec.toNat_allOnes]
        rw [Nat.mod_eq_of_lt (by omega)]
        omega
      · exact packed fun full =>
          absurd (BitVec.zero_eq_neg_one_iff.mp full) (Nat.pos_iff_ne_zero.mp spec.he)

end Operations

/-- The floor of a number that is not negative. -/
theorem floor?_finite (mantissa : Nat) (exponent : Int) :
    ∃ n : Nat, floor? (.finite false mantissa exponent) = some (n : Int) := by
  show ∃ n : Nat, (if 0 ≤ exponent then some ((mantissa : Int) * 2 ^ exponent.toNat)
    else some ((mantissa : Int) / 2 ^ (-exponent).toNat)) = some (n : Int)
  by_cases whole : 0 ≤ exponent
  · refine ⟨mantissa * 2 ^ exponent.toNat, ?_⟩
    rw [if_pos whole, Nat.cast_mul, Nat.cast_pow]
    rfl
  · refine ⟨mantissa / 2 ^ (-exponent).toNat, ?_⟩
    rw [if_neg whole, Int.natCast_div, Nat.cast_pow]
    rfl

end Decimal.Binary64

/-! ## Doubles -/

open Decimal.Binary64

/-- **A double with a plus sign**: zero, a positive number or infinity. -/
def IsUnsigned (x : Float) : Prop := HasPlus x.toModel.unpack

theorem isPositive_unpack {x : Float} (hx : Arithmetic.lt (Arithmetic.nat 0) x = true) :
    IsPositive x.toModel.unpack :=
  isPositive_of_lt (of_decide_eq_true (of_decide_eq_true hx))

/-- A double above zero is not zero. -/
theorem eq_zero_of_lt {x : Float} (hx : Arithmetic.lt (Arithmetic.nat 0) x = true) :
    Arithmetic.eq x (Arithmetic.nat 0) = false := by
  have above := isPositive_unpack hx
  show UnpackedFloat.beq x.toModel.unpack (.zero .positive) = false
  generalize x.toModel.unpack = u at above
  cases above with
  | infinity => rfl
  | finite mantissa exponent positive => rfl

theorem isUnsigned_of_lt {x : Float} (hx : Arithmetic.lt (Arithmetic.nat 0) x = true) :
    IsUnsigned x :=
  (isPositive_unpack hx).hasPlus

/-- A product of two doubles above zero is not negative. It may be zero, or infinite. -/
theorem isUnsigned_mul {x y : Float} (hx : Arithmetic.lt (Arithmetic.nat 0) x = true)
    (hy : Arithmetic.lt (Arithmetic.nat 0) y = true) : IsUnsigned (x * y) :=
  HasPlus.unpack_pack (hasPlus_mul (isPositive_unpack hx) (isPositive_unpack hy))

/-- A double with a plus sign has one as often as a finite number says. -/
theorem isUnsigned_mul_finite {x y : Float} (hx : IsUnsigned x)
    (hy : Arithmetic.lt (Arithmetic.nat 0) y = true) (finite : Arithmetic.isFinite y = true) :
    IsUnsigned (x * y) := by
  have above := isPositive_unpack hy
  have bounded : y.toModel.unpack.isFinite = true := finite
  show HasPlus (unpack _ (pack _ (mul _ x.toModel.unpack y.toModel.unpack)))
  generalize y.toModel.unpack = u at above bounded
  cases above with
  | infinity => exact absurd bounded nofun
  | finite mantissa exponent positive =>
    exact HasPlus.unpack_pack (hasPlus_mul_finite hx mantissa exponent positive)

/-- A thousandth of a double with a plus sign has one. -/
theorem isUnsigned_div_thousand {x : Float} (hx : IsUnsigned x) :
    IsUnsigned (x / Arithmetic.nat 1000) := by
  obtain ⟨mantissa, exponent, positive, thousand⟩ : ∃ mantissa exponent positive,
      (Arithmetic.nat 1000 : Float).toModel.unpack
        = .finite .positive mantissa exponent positive :=
    ⟨_, _, by decide, rfl⟩
  show HasPlus (unpack _ (pack _ (div _ _ (Arithmetic.nat 1000 : Float).toModel.unpack)))
  rw [thousand]
  exact HasPlus.unpack_pack (hasPlus_div hx mantissa exponent positive)

/-- **The floor of a double with a plus sign** is not negative. Only infinity has none. -/
theorem floor_of_isUnsigned {x : Float} (hx : IsUnsigned x) :
    (∃ n : Nat, Arithmetic.floor x = .ok (n : Int)) ∨ Arithmetic.floor x = .error .infinite := by
  have finite_floor : ∀ mantissa exponent, ofFloat x = .finite false mantissa exponent →
      ∃ n : Nat, Arithmetic.floor x = .ok (n : Int) := by
    intro mantissa exponent reading
    obtain ⟨n, hn⟩ := floor?_finite mantissa exponent
    refine ⟨n, ?_⟩
    unfold Arithmetic.floor instArithmeticFloat
    dsimp only
    rw [reading]
    show Except.ok ((floor? (.finite false mantissa exponent)).getD 0) = _
    rw [hn]
    rfl
  have reading := ofFloat_eq x
  unfold IsUnsigned at hx
  generalize x.toModel.unpack = u at hx reading
  cases hx with
  | infinity =>
    right
    unfold Arithmetic.floor instArithmeticFloat
    dsimp only
    rw [reading]
    rfl
  | zero => exact .inl (finite_floor _ _ reading)
  | finite mantissa exponent positive => exact .inl (finite_floor _ _ reading)

end WhistledSpeech
