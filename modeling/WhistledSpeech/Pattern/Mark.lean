import WhistledSpeech.Pattern
import WhistledSpeech.Text.CharacterName
import WhistledSpeech.Text.Integer

/-!
# Marks

A pattern is written in marks: characters that stand as they are, and characters behind a backslash.
A pattern cannot end in a lone backslash, which is a fault as soon as all before it has been read.

Some escapes go on beyond their mark, by digits or by the name of a character: this module reads the
code points that escapes write down. What an escape of a digit means depends on where it stands, so there are two readings, one for
the inside of sets, where digits are always octal, and one for elsewhere, where most refer back.
-/

namespace WhistledSpeech

/-- **Why a text is not a pattern.** -/
inductive PatternFault where
  /-- It is not well formed. -/
  | malformed
  /-- A number of repetitions is too large to be counted. -/
  | tooMany
  /-- It is to cover ASCII only and every script at the same time. -/
  | contrary
  /-- A number of repetitions has more digits than any number may have. -/
  | tooLong
  deriving Repr, DecidableEq

/-- **A character of a written pattern.** -/
inductive Mark where
  /-- A character as it stands. -/
  | plain (c : Char)
  /-- A character behind a backslash. -/
  | escaped (c : Char)
  /-- A backslash with nothing behind it. -/
  | lone
  deriving Repr, DecidableEq

namespace Mark

/-- The marks of a text. -/
def ofChars : List Char → List Mark
  | [] => []
  | ['\\'] => [lone]
  | '\\' :: c :: rest => escaped c :: ofChars rest
  | c :: rest => plain c :: ofChars rest

/-- The character of a mark that stands as it is and passes a test. -/
def plainIf (test : Char → Bool) : Mark → Option Char
  | plain c => if test c then some c else none
  | escaped _ | lone => none

/-- The characters at the front that pass a test, at most so many, and what follows them. -/
def takeAtMost (test : Char → Bool) : Nat → List Mark → List Char × List Mark
  | count + 1, mark :: rest =>
    match mark.plainIf test with
    | some c =>
      let taken := takeAtMost test count rest
      (c :: taken.1, taken.2)
    | none => ([], mark :: rest)
  | _, marks => ([], marks)

/-- All characters at the front that pass a test, and what follows them. -/
def takeWhile (test : Char → Bool) (marks : List Mark) : List Char × List Mark :=
  takeAtMost test marks.length marks

/-- The characters before the first given character, and what follows that character. A backslash
belongs to the characters. -/
def until? (stop : Char) : List Mark → Option (List Char × List Mark)
  | [] | lone :: _ => none
  | plain c :: rest =>
    if c = stop then some ([], rest)
    else (until? stop rest).map fun taken => (c :: taken.1, taken.2)
  | escaped c :: rest => (until? stop rest).map fun taken => ('\\' :: c :: taken.1, taken.2)

/-! ## Digits -/

/-- A digit of base eight. -/
def isOctal (c : Char) : Bool := '0' ≤ c && c ≤ '7'

/-- The value of a digit of base sixteen. -/
def hexValue (c : Char) : Nat :=
  if Text.isAsciiDigit c then c.toNat - 0x30
  else if 'a' ≤ c then c.toNat - 0x61 + 10
  else c.toNat - 0x41 + 10

/-- A digit of base sixteen. -/
def isHex (c : Char) : Bool :=
  Text.isAsciiDigit c || ('a' ≤ c && c ≤ 'f') || ('A' ≤ c && c ≤ 'F')

/-- The number digits write in a base. -/
def inBase (base : Nat) (digits : List Char) : Nat :=
  digits.foldl (fun value c => base * value + hexValue c) 0

/-! ## Code points -/

/-- A code point of exactly so many digits of base sixteen. -/
def hexCode (count : Nat) (marks : List Mark) : Except PatternFault (Nat × List Mark) :=
  let taken := takeAtMost isHex count marks
  if taken.1.length < count then .error .malformed
  else
    let code := inBase 16 taken.1
    if code < 0x110000 then .ok (code, taken.2) else .error .malformed

/-- The code point of an escape whose letter names a control character. -/
def control? : Char → Option Nat
  | 'a' => some 0x07
  | 'f' => some 0x0C
  | 'n' => some 0x0A
  | 'r' => some 0x0D
  | 't' => some 0x09
  | 'v' => some 0x0B
  | _ => none

/-- The code point of the character with a name, which stands in braces. -/
def namedCode (marks : List Mark) : Except PatternFault (Nat × List Mark) :=
  match marks with
  | .plain '\x7b' :: rest =>
    match until? '\x7d' rest with
    | some (name, after) =>
      match Text.namedCode? name with
      | some code => .ok (code, after)
      | none => .error .malformed
    | none => .error .malformed
  | _ => .error .malformed

/-- **The code point of an escape that is neither a digit nor a category**, and what follows. A letter
that means nothing is a fault; any other character stands for itself. -/
def escapedCode (c : Char) (rest : List Mark) : Except PatternFault (Nat × List Mark) :=
  match control? c with
  | some code => .ok (code, rest)
  | none =>
    match c with
    | 'x' => hexCode 2 rest
    | 'u' => hexCode 4 rest
    | 'U' => hexCode 8 rest
    | 'N' => namedCode rest
    | _ => if Text.isAsciiLetter c then .error .malformed else .ok (Text.code c, rest)

/-- The code point of base-eight digits, at most two of which follow the first. -/
def octalCode (c : Char) (rest : List Mark) : Except PatternFault (Nat × List Mark) :=
  let taken := takeAtMost isOctal 2 rest
  let code := inBase 8 (c :: taken.1)
  if code ≤ 0xFF then .ok (code, taken.2) else .error .malformed

/-- The category an escape names, and whether it is everything outside. -/
def category? : Char → Option (Category × Bool)
  | 'd' => some (.digit, false)
  | 'D' => some (.digit, true)
  | 's' => some (.blank, false)
  | 'S' => some (.blank, true)
  | 'w' => some (.word, false)
  | 'W' => some (.word, true)
  | _ => none

end Mark

end WhistledSpeech
