import WhistledSpeech.Decimal.Binary64

/-!
# Printed numbers

Two written forms of a double with a set number of digits: `fixed` has a set number of decimal
places, `scientific` a set number of significant digits and a power of ten. Both round the exact
binary value once, halves to even, so a number is printed as its nearest decimal and never as the
decimal of a decimal.
-/

namespace WhistledSpeech.Decimal

/-- The text of a value that has no digits, if it is one. -/
def exceptional? : Binary64 → Option String
  | .nan => some "nan"
  | .infinite true => some "-inf"
  | .infinite false => some "inf"
  | .finite .. => none

/-- Writes `n` with at least `width` digits, zeros in front. -/
def padded (width n : Nat) : List Char :=
  let ds := digits n
  List.replicate (width - ds.length) '0' ++ ds

/-- The power of ten of a scientific form: its sign and at least two digits. -/
def exponentText (e : Int) : String :=
  (if e < 0 then "-" else "+") ++ String.ofList (padded 2 e.natAbs)

/-- **Fixed places**: `places` digits after the point, the sign only on a value below zero. A value
that rounds to zero is written without a sign. -/
def fixed (places : Nat) (x : Float) : String :=
  match Binary64.ofFloat x with
  | .finite negative mantissa exponent =>
    let (num, den) := Binary64.ratio mantissa exponent
    let scaled := roundHalfEven (num * Nat.pow 10 places) den
    let ds := padded (places + 1) scaled
    let whole := ds.take (ds.length - places)
    let fraction := ds.drop (ds.length - places)
    let sign := if negative ∧ scaled ≠ 0 then "-" else ""
    sign ++ String.ofList whole ++ (if places = 0 then "" else "." ++ String.ofList fraction)
  | other => (exceptional? other).getD ""

/-- **Significant digits**: one digit, a point, `places` digits and the power of ten. Zero keeps its
sign. -/
def scientific (places : Nat) (x : Float) : String :=
  match Binary64.ofFloat x with
  | .finite negative mantissa exponent =>
    let sign := if negative then "-" else ""
    let write (ds : List Char) (e : Int) : String :=
      sign ++ String.ofList (ds.take 1) ++
        (if places = 0 then "" else "." ++ String.ofList (ds.drop 1)) ++ "e" ++ exponentText e
    if mantissa = 0 then write (List.replicate (places + 1) '0') 0
    else
      let (num, den) := Binary64.ratio mantissa exponent
      let e := floorLog10 num den
      let shift := (places : Int) - e
      let scaled :=
        if 0 ≤ shift then roundHalfEven (num * Nat.pow 10 shift.toNat) den
        else roundHalfEven num (den * Nat.pow 10 (-shift).toNat)
      if scaled < Nat.pow 10 (places + 1) then write (digits scaled) e
      else write (digits (scaled / 10)) (e + 1)
  | other => (exceptional? other).getD ""

end WhistledSpeech.Decimal
