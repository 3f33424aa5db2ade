import WhistledSpeech.Fault

/-!
# Sound files

A sound file holds the samples of one channel in sixteen bits each, behind a header of forty-four bytes
that says so. All numbers are written lowest byte first.

A sample is a number between minus one and one; what lies beyond is moved to the nearer end. It is
rounded to thirty-two bits, halves to even, and the upper sixteen of those are kept.
-/

namespace WhistledSpeech.Wave

/-- The lowest bytes of a number, so many of them, the lowest first. -/
def bytes : Nat → Nat → List UInt8
  | 0, _ => []
  | count + 1, n => (n % 256).toUInt8 :: bytes count (n / 256)

/-- The characters of a name as bytes. -/
def tag (name : String) : List UInt8 := name.toList.map fun c => c.toNat.toUInt8

/-- The largest and the smallest value of a sample. -/
def clamp (value : Int) : Int := max (-32768) (min 32767 value)

/-- **The sixteen bits of a sample.** What is no number is written as the smallest value. -/
def level (sample : Float) : Int :=
  match Decimal.Binary64.ofFloat sample with
  | .nan => -32768
  | .infinite negative => if negative then -32768 else 32767
  | .finite negative mantissa exponent =>
    let scaled := Decimal.Binary64.ratio mantissa (exponent + 31)
    let rounded : Int := Decimal.roundHalfEven scaled.1 scaled.2
    clamp ((if negative then -rounded else rounded) / 65536)

/-- The bytes of a sample. -/
def sampleBytes (sample : Float) : List UInt8 := bytes 2 (level sample % 65536).toNat

/-- **The header** of a file with so many bytes of samples. -/
def header (rate size : Nat) : List UInt8 :=
  tag "RIFF" ++ bytes 4 (size + 36) ++ tag "WAVE" ++
    tag "fmt " ++ bytes 4 16 ++ bytes 2 1 ++ bytes 2 1 ++ bytes 4 rate ++ bytes 4 (2 * rate) ++
    bytes 2 2 ++ bytes 2 16 ++ tag "data" ++ bytes 4 size

/-- The first sample rate that is too large to be written down. -/
def rateLimit : Int := Int.pow 2 31

/-- **The fault of a sample rate** that no sound file can have. It has to be positive. -/
def rateFault? (rate : Int) : Option Fault :=
  if rateLimit ≤ rate ∨ rate < -rateLimit then some .overflow
  else if rate ≤ 0 then some .refusedRate
  else none

/-- **The sound file of some samples.** -/
def encode (samples : Array Float) (rate : Int) : Except Fault (List UInt8) :=
  match rateFault? rate with
  | some fault => .error fault
  | none => .ok (header rate.toNat (2 * samples.size) ++ samples.toList.flatMap sampleBytes)

end WhistledSpeech.Wave
