import WhistledSpeech.Decimal.Rounding

/-!
# What the bits of a double say

A finite double is a sign, a natural number and a power of two. `Binary64.ofFloat` reads these off
the bits, and `Binary64.nearest` goes back: it gives the double nearest to a quotient of natural
numbers, halves to even, with overflow to infinity and gradual underflow. Whatever has to be exact
about a double – its digits, its floor, the number a decimal text denotes – is computed between the
two, in natural numbers.
-/

namespace WhistledSpeech.Decimal

/-- **The reading of a double**: `± mantissa · 2 ^ exponent`, an infinity, or no number at all. -/
inductive Binary64 where
  /-- The number `mantissa · 2 ^ exponent`, negated if `negative`; zero keeps its sign. -/
  | finite (negative : Bool) (mantissa : Nat) (exponent : Int)
  /-- Infinity, or minus infinity if `negative`. -/
  | infinite (negative : Bool)
  /-- Not a number. -/
  | nan
  deriving Repr, DecidableEq

namespace Binary64

/-- Reads a double off its bits: one of sign, eleven of exponent, fifty-two of fraction. -/
def ofBits (bits : UInt64) : Binary64 :=
  let n := bits.toNat
  let negative := decide (Nat.pow 2 63 ≤ n)
  let biased : Nat := n / Nat.pow 2 52 % Nat.pow 2 11
  let fraction : Nat := n % Nat.pow 2 52
  if biased = 2047 then
    if fraction = 0 then .infinite negative else .nan
  else if biased = 0 then .finite negative fraction (-1074)
  else .finite negative (Nat.pow 2 52 + fraction) ((biased : Int) - 1075)

/-- Reads a double. -/
def ofFloat (x : Float) : Binary64 :=
  ofBits x.toBits

/-- The value of `mantissa · 2 ^ exponent` as a quotient of natural numbers. -/
def ratio (mantissa : Nat) (exponent : Int) : Nat × Nat :=
  if 0 ≤ exponent then (mantissa * Nat.pow 2 exponent.toNat, 1)
  else (mantissa, Nat.pow 2 (-exponent).toNat)

/-- The bits of the double nearest to `num / den`, without a sign. The exponent is that of the
quotient's binade, at least that of the subnormal numbers, so that a mantissa which rounds up to
the next binade carries into the exponent field by itself. -/
def magnitudeBits (num den : Nat) : Nat :=
  if num = 0 then 0
  else
    let guess : Int := (num.log2 : Int) - den.log2
    let below : Bool :=
      if 0 ≤ guess then num < den * Nat.pow 2 guess.toNat
      else num * Nat.pow 2 (-guess).toNat < den
    let binade := if below then guess - 1 else guess
    let exponent := max (binade - 52) (-1074)
    let mantissa :=
      if 0 ≤ exponent then roundHalfEven num (den * Nat.pow 2 exponent.toNat)
      else roundHalfEven (num * Nat.pow 2 (-exponent).toNat) den
    min ((exponent + 1074).toNat * Nat.pow 2 52 + mantissa) (2047 * Nat.pow 2 52)

/-- **The nearest double** to `num / den`, negated if `negative`: halves go to the even mantissa and
a quotient beyond the largest finite double is infinite. -/
def nearest (negative : Bool) (num den : Nat) : Float :=
  let sign := if negative then Nat.pow 2 63 else 0
  Float.ofBits (sign + magnitudeBits num den).toUInt64

/-- The double nearest to the decimal `mantissa · 10 ^ exponent`. An exponent far outside the range
of the doubles is settled without computing the power. -/
def ofDecimal (negative : Bool) (mantissa : Nat) (exponent : Int) : Float :=
  let size : Int := exponent + (digits mantissa).length
  if mantissa = 0 ∨ size < -400 then nearest negative 0 1
  else if 400 < size then nearest negative (Nat.pow 2 1100) 1
  else if 0 ≤ exponent then nearest negative (mantissa * Nat.pow 10 exponent.toNat) 1
  else nearest negative mantissa (Nat.pow 10 (-exponent).toNat)

/-- The double nearest to an integer, infinite beyond the range. -/
def ofInt (n : Int) : Float :=
  nearest (n < 0) n.natAbs 1

/-- Whether an integer is nearer to a finite double than to infinity. -/
def fitsInt (n : Int) : Bool :=
  magnitudeBits n.natAbs 1 < 2047 * Nat.pow 2 52

/-- The largest integer not above the number, if it is one. -/
def floor? : Binary64 → Option Int
  | .finite negative mantissa exponent =>
    let signed : Int := if negative then -(mantissa : Int) else mantissa
    if 0 ≤ exponent then some (signed * Int.pow 2 exponent.toNat)
    else some (signed / Int.pow 2 (-exponent).toNat)
  | _ => none

end Binary64

end WhistledSpeech.Decimal
