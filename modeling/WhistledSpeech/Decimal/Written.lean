import WhistledSpeech.Decimal.Binary64
import WhistledSpeech.Text.CharacterClass

/-!
# Numbers written by hand

A number is written with a sign, if any, and digits, a point or an exponent, or as one of the words for
what has no digits, in letters of either case. `ofChars?` reads this plain form, from the first
character to the last.

Two settings are more lenient. A field of a document may have white space around the number or single
low lines in it (`ofField?`). On a command line low lines may only stand between digits, and the digits
may be those of any script (`ofArgument?`).
-/

namespace WhistledSpeech.Decimal

/-- Lower case of an ASCII letter. -/
def lowerAscii (c : Char) : Char :=
  if 'A' ≤ c && c ≤ 'Z' then Char.ofNat (c.toNat + 0x20) else c

/-- The number of ASCII digits. -/
def valueOf (ds : List Char) : Nat :=
  ds.foldl (fun n c => 10 * n + (c.toNat - 0x30)) 0

/-- A sign in front: whether it is a minus, and what follows. -/
def signOf : List Char → Bool × List Char
  | '-' :: rest => (true, rest)
  | '+' :: rest => (false, rest)
  | s => (false, s)

/-- The exponent that ends a number; without one it is zero. -/
def exponent? (s : List Char) : Option Int :=
  match s with
  | [] => some 0
  | c :: rest =>
    if c = 'e' ∨ c = 'E' then
      let signed := signOf rest
      if !signed.2.isEmpty && signed.2.all Text.isAsciiDigit then
        some (if signed.1 then -(valueOf signed.2 : Int) else valueOf signed.2)
      else none
    else none

/-- A number in digits, at least one of them before the exponent. -/
def inDigits? (negative : Bool) (s : List Char) : Option Float :=
  let whole := s.takeWhile Text.isAsciiDigit
  let rest := s.dropWhile Text.isAsciiDigit
  let fraction := match rest with
    | '.' :: after => after.takeWhile Text.isAsciiDigit
    | _ => []
  let rest := match rest with
    | '.' :: after => after.dropWhile Text.isAsciiDigit
    | other => other
  if whole.isEmpty && fraction.isEmpty then none
  else (exponent? rest).map fun power =>
    Binary64.ofDecimal negative (valueOf (whole ++ fraction)) (power - fraction.length)

/-- **The number a text writes in the plain form.** -/
def ofChars? (s : List Char) : Option Float :=
  let signed := signOf s
  let word := String.ofList (signed.2.map lowerAscii)
  if word = "inf" ∨ word = "infinity" then some (if signed.1 then -1 / 0 else 1 / 0)
  else if word = "nan" then some (0 / 0)
  else inDigits? signed.1 signed.2

/-! ## Fields of a document -/

/-- Whether two low lines stand next to each other. -/
def hasDoubleLine : List Char → Bool
  | '_' :: '_' :: _ => true
  | _ :: rest => hasDoubleLine rest
  | [] => false

/-- The text without its low lines, which have to be inside it and single. -/
def withoutLines? (s : List Char) : Option (List Char) :=
  if s.head? = some '_' ∨ s.getLast? = some '_' ∨ !s.contains '_' ∨ hasDoubleLine s then none
  else some (s.filter (· != '_'))

/-- **The number a field writes.** -/
def ofField? (s : List Char) : Option Float :=
  match ofChars? (Text.unpad s) with
  | some x => some x
  | none => (withoutLines? s).bind ofChars?

/-! ## Arguments of a command -/

/-- The digit of ASCII with the value of a digit of any script. -/
def asciiDigit (c : Char) : Char :=
  match Text.digitValue? c with
  | some d => Char.ofNat (0x30 + d)
  | none => c

/-- The text without the low lines in it, each of which has to stand between two digits. -/
def ungroup? (afterDigit : Bool) : List Char → Option (List Char)
  | [] => some []
  | '_' :: c :: rest =>
    if afterDigit && Text.isAsciiDigit c then (ungroup? true rest).map (c :: ·) else none
  | c :: rest =>
    if c = '_' then none else (ungroup? (Text.isAsciiDigit c) rest).map (c :: ·)

/-- **The number an argument writes.** -/
def ofArgument? (s : List Char) : Option Float :=
  (ungroup? false ((Text.unpad s).map asciiDigit)).bind ofChars?

end WhistledSpeech.Decimal
