import WhistledSpeech.Decimal.Printed

/-!
# The shortest decimal that reads back

The shortest text of a double is the decimal with the fewest significant digits among those nearer
to it than to any other double, and of several with that many digits the nearest. The reals that
round to the double form an interval, with its ends if the mantissa is even; a decimal grid reaches
the interval only if one of the two grid points next to the double does, so each number of digits
takes two exact comparisons.
-/

namespace WhistledSpeech.Decimal

/-- A decimal `coefficient · 10 ^ exponent`. -/
structure Scaled where
  /-- The digits, as one number. -/
  coefficient : Nat
  /-- The power of ten of the last digit. -/
  exponent : Int
  deriving Repr, DecidableEq

namespace Scaled

/-- Drops zeros at the end of the coefficient, at most `fuel` of them. -/
def strip : Nat → Scaled → Scaled
  | 0, d => d
  | fuel + 1, d =>
    if d.coefficient ≠ 0 ∧ d.coefficient % 10 = 0 then
      strip fuel ⟨d.coefficient / 10, d.exponent + 1⟩
    else d

end Scaled

/-- The reals that round to the double `mantissa · 2 ^ exponent`, in units of a quarter of its last
place: the two ends, and whether they belong. Below a power of two the gap is half as wide. -/
def roundingInterval (mantissa : Nat) (exponent : Int) : Nat × Nat × Bool :=
  let gap := if mantissa = Nat.pow 2 52 ∧ -1074 < exponent then 1 else 2
  (4 * mantissa - gap, 4 * mantissa + 2, mantissa % 2 = 0)

/-- The best decimal with its last digit at `10 ^ place`: of the two grid points around the double,
the nearer one that reads back, if there is one. An exact tie goes to the even coefficient. -/
def onGrid? (mantissa : Nat) (exponent place : Int) : Option Scaled :=
  let (low, high, closed) := roundingInterval mantissa exponent
  -- everything in units of `10 ^ place / den`, with the double at `num / den`
  let two := exponent - 2
  let scale (n : Nat) : Nat :=
    n * (if 0 ≤ two then Nat.pow 2 two.toNat else 1) *
      (if 0 ≤ place then 1 else Nat.pow 10 (-place).toNat)
  let den : Nat :=
    (if 0 ≤ two then 1 else Nat.pow 2 (-two).toNat) *
      (if 0 ≤ place then Nat.pow 10 place.toNat else 1)
  let value := scale (4 * mantissa)
  let reads (c : Nat) : Bool :=
    if closed then scale low ≤ c * den ∧ c * den ≤ scale high
    else scale low < c * den ∧ c * den < scale high
  let below := value / den
  let toBelow := value - below * den
  let toAbove := (below + 1) * den - value
  let nearer := if toBelow < toAbove then below
    else if toAbove < toBelow then below + 1
    else if below % 2 = 0 then below else below + 1
  let farther := if nearer = below then below + 1 else below
  if reads nearer then some ⟨nearer, place⟩
  else if reads farther then some ⟨farther, place⟩
  else none

/-- **The shortest decimal** of the positive double `mantissa · 2 ^ exponent`: the coarsest grid that
has a point reading back gives the digits. Seventeen digits always do. -/
def shortest (mantissa : Nat) (exponent : Int) : Scaled :=
  let (num, den) := Binary64.ratio mantissa exponent
  let top := floorLog10 num den
  let found := (List.range 17).findSome? fun (n : Nat) => onGrid? mantissa exponent (top - (n : Int))
  Scaled.strip 20 (found.getD ⟨0, 0⟩)

/-- How a number is written in a message: positional from `10 ^ -4` up to below `10 ^ 16` and always
with a point, otherwise scientific with the fewest digits. -/
def shown (x : Float) : String :=
  match Binary64.ofFloat x with
  | .finite negative mantissa exponent =>
    let sign := if negative then "-" else ""
    if mantissa = 0 then sign ++ "0.0"
    else
      let d := shortest mantissa exponent
      let ds := digits d.coefficient
      let point : Int := ds.length + d.exponent
      if -4 < point ∧ point ≤ 16 then
        if point ≤ 0 then
          sign ++ "0." ++ String.ofList (List.replicate (-point).toNat '0' ++ ds)
        else if point < ds.length then
          sign ++ String.ofList (ds.take point.toNat) ++ "." ++ String.ofList (ds.drop point.toNat)
        else
          sign ++ String.ofList (ds ++ List.replicate (point - ds.length).toNat '0') ++ ".0"
      else
        let rest := ds.drop 1
        sign ++ String.ofList (ds.take 1) ++ (if rest.isEmpty then "" else "." ++ String.ofList rest) ++
          "e" ++ exponentText (point - 1)
  | other => (exceptional? other).getD ""

end WhistledSpeech.Decimal
