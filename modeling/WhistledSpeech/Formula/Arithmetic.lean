import WhistledSpeech.Decimal.Shortest

/-!
# The arithmetic a formula and a curve are computed in

Formulas, curves and the oscillator are written once, over any type with the operations of
`Arithmetic`. The engine runs them on doubles, where the order of the operations is part of the
answer; a theorem about the shape of a curve reads the same definitions in exact arithmetic, with
one value standing for everything undefined.

The operations of the class are total, as those of doubles are. A *formula* is stricter: dividing by
zero, leaving the domain of a function and overflowing a power are faults there, and `divide`,
`sine`, `cosine`, `logarithm` and `power` say exactly when.
-/

namespace WhistledSpeech

/-- Why a formula has no value though all its names have one. -/
inductive ArithmeticFault where
  /-- A quotient whose divisor is zero. -/
  | divisionByZero
  /-- A function outside its domain. -/
  | domain
  /-- A power of two finite numbers beyond the largest finite number. -/
  | range
  deriving Repr, DecidableEq

namespace ArithmeticFault

/-- The reason as it stands in a message. -/
def reason : ArithmeticFault → String
  | divisionByZero => "float division by zero"
  | domain => "math domain error"
  | range => "math range error"

end ArithmeticFault

/-- Why a number of samples cannot be counted. -/
inductive CountFault where
  /-- There are infinitely many. -/
  | infinite
  /-- Their number is undefined. -/
  | undefined
  deriving Repr, DecidableEq

/-- **The numbers the engine computes with.** -/
class Arithmetic (α : Type) extends Add α, Sub α, Mul α, Div α, Neg α where
  /-- The number `m / 10 ^ places` nearest to that decimal. -/
  ofDecimal (m places : Nat) : α
  /-- The number nearest to an integer. -/
  ofInt : Int → α
  /-- The ratio of a circle's circumference to its diameter. -/
  pi : α
  /-- The base of the natural logarithm. -/
  e : α
  /-- Sine of an angle in radians. -/
  sin : α → α
  /-- Cosine of an angle in radians. -/
  cos : α → α
  /-- The angle with a given sine; undefined outside `[-1, 1]`. -/
  arcsin : α → α
  /-- Square root; undefined below zero. -/
  sqrt : α → α
  /-- Natural logarithm. -/
  log : α → α
  /-- Power. -/
  pow : α → α → α
  /-- Whether the first number is below the second. -/
  lt : α → α → Bool
  /-- Whether two numbers are the same. -/
  eq : α → α → Bool
  /-- Whether a value is a number and not infinite. -/
  isFinite : α → Bool
  /-- Whether a value is no number at all. -/
  isUndefined : α → Bool
  /-- The largest integer not above a number. -/
  floor : α → Except CountFault Int
  /-- What a sample cell keeps of a number. -/
  toCell : α → α
  /-- The text of a number in a message. -/
  shown : α → String

namespace Arithmetic

variable {α : Type} [Arithmetic α]

/-- A natural number. -/
def nat (n : Nat) : α := ofDecimal n 0

/-- A quotient; a divisor of zero is a fault. -/
def divide (x y : α) : Except ArithmeticFault α :=
  if eq y (nat 0) then .error .divisionByZero else .ok (x / y)

/-- The value of a function that is undefined only outside its domain. -/
def withinDomain (f : α → α) (x : α) : Except ArithmeticFault α :=
  if isUndefined (f x) && !isUndefined x then .error .domain else .ok (f x)

/-- Sine; the sine of an infinity is a fault. -/
def sine (x : α) : Except ArithmeticFault α := withinDomain sin x

/-- Cosine; the cosine of an infinity is a fault. -/
def cosine (x : α) : Except ArithmeticFault α := withinDomain cos x

/-- Logarithm; the logarithm of zero or of a negative number is a fault. -/
def logarithm (x : α) : Except ArithmeticFault α :=
  if lt (nat 0) x then .ok (log x)
  else if isUndefined x then .ok x
  else .error .domain

/-- **Power.** Of two finite numbers it is a fault where it is not finite: outside the domain if it
is undefined or a power of zero, beyond the range otherwise. -/
def power (x y : α) : Except ArithmeticFault α :=
  if isFinite x && isFinite y && !isFinite (pow x y) then
    if isUndefined (pow x y) || eq x (nat 0) then .error .domain else .error .range
  else .ok (pow x y)

end Arithmetic

/-- **Doubles.** A sample cell keeps single precision. -/
instance : Arithmetic Float where
  ofDecimal m places := Decimal.Binary64.ofDecimal false m (-(places : Int))
  ofInt := Decimal.Binary64.ofInt
  pi := 3.141592653589793
  e := 2.718281828459045
  sin := Float.sin
  cos := Float.cos
  arcsin := Float.asin
  sqrt := Float.sqrt
  log := Float.log
  pow := Float.pow
  lt x y := x < y
  eq x y := x == y
  isFinite := Float.isFinite
  isUndefined := Float.isNaN
  floor x :=
    match Decimal.Binary64.ofFloat x with
    | .nan => .error .undefined
    | .infinite _ => .error .infinite
    | reading => .ok (reading.floor?.getD 0)
  toCell x := x.toFloat32.toFloat
  shown := Decimal.shown

end WhistledSpeech
