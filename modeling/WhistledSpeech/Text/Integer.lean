import WhistledSpeech.Text.CharacterClass

/-!
# Integers written by hand

An integer is a sign, if any, and digits of any script, between which single low lines may stand to
group them. White space around it does not count. There is a limit to the number of digits, zeros in
front included.
-/

namespace WhistledSpeech.Text

/-- The most digits an integer may be written with. -/
def digitLimit : Nat := 4300

/-- The value of digits read after others, single low lines standing between digits only. -/
def groupedDigits (value : Nat) : List Char → Option Nat
  | [] => some value
  | '_' :: c :: rest => do groupedDigits (10 * value + (← digitValue? c)) rest
  | c :: rest => do groupedDigits (10 * value + (← digitValue? c)) rest

/-- The number that digits write. -/
def natural? : List Char → Option Nat
  | [] => none
  | c :: rest =>
    if digitLimit < (c :: rest).countP isDigit then none
    else do groupedDigits (← digitValue? c) rest

/-- **The integer a text writes.** -/
def integer? (s : List Char) : Option Int :=
  match unpad s with
  | '-' :: rest => (natural? rest).map fun n => -(n : Int)
  | '+' :: rest => (natural? rest).map fun n => (n : Int)
  | rest => (natural? rest).map fun n => (n : Int)

end WhistledSpeech.Text
