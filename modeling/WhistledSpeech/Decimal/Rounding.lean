/-!
# Rounding a quotient to a natural number

Every number this library prints, and every decimal it reads, goes through one rounding: the
quotient of two natural numbers to the nearest natural number, an exact half to the even
neighbour. `Nat` arithmetic keeps it exact, so what is printed depends on the value alone and
never on how the value was reached.

A quotient which is a natural number is left alone (`roundHalfEven_mul`).
-/

namespace WhistledSpeech.Decimal

/-- **Round half to even**: the natural number nearest to `num / den`, where an exact half goes to
the even neighbour. -/
def roundHalfEven (num den : Nat) : Nat :=
  let q := num / den
  let r := num % den
  if 2 * r < den then q
  else if den < 2 * r then q + 1
  else if q % 2 = 0 then q
  else q + 1

/-- A quotient that comes out exactly is not moved. -/
theorem roundHalfEven_mul (n : Nat) {den : Nat} (h : 0 < den) :
    roundHalfEven (n * den) den = n := by
  simp [roundHalfEven, Nat.mul_div_cancel n h, h]

/-- The digits of `n` in base ten, most significant first; zero has the one digit `0`. -/
def digits (n : Nat) : List Char :=
  Nat.toDigits 10 n

/-- **The largest power of ten that fits**: the exponent `e` with `10 ^ e ≤ num / den < 10 ^ (e + 1)`,
for a positive quotient. The exponent of two gives it up to one step either way, and the three
candidates are compared exactly. -/
def floorLog10 (num den : Nat) : Int :=
  let guess := ((num.log2 : Int) - den.log2) * 30103 / 100000
  let fits (e : Int) : Bool :=
    if 0 ≤ e then Nat.pow 10 e.toNat * den ≤ num else den ≤ num * Nat.pow 10 (-e).toNat
  if fits (guess + 1) then guess + 1
  else if fits guess then guess
  else if fits (guess - 1) then guess - 1
  else guess - 2

end WhistledSpeech.Decimal
