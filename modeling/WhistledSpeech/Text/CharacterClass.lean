import WhistledSpeech.Text.Table.Alphanumeric
import WhistledSpeech.Text.Table.CaseVariant
import WhistledSpeech.Text.Table.DecimalDigit
import WhistledSpeech.Text.Table.Lowercase
import WhistledSpeech.Text.Table.Unprintable

/-!
# Classes of characters

Formulas, patterns and messages are written in any script, so the classes here are those of Unicode
and not of ASCII: a digit is any decimal digit, a word character any letter or number, a blank any
white space. Each class first decides the ASCII characters by themselves and only then asks its
table, which keeps the common case readable off the definition.
-/

namespace WhistledSpeech.Text

/-- Whether a code point lies in one of the ranges of a table. -/
def inTable (table : List (List (Nat × Nat))) (n : Nat) : Bool :=
  table.any fun part => part.any fun range => range.1 ≤ n && n ≤ range.2

/-- An ASCII letter. -/
def isAsciiLetter (c : Char) : Bool :=
  ('a' ≤ c && c ≤ 'z') || ('A' ≤ c && c ≤ 'Z')

/-- An ASCII digit. -/
def isAsciiDigit (c : Char) : Bool :=
  '0' ≤ c && c ≤ '9'

/-- **The value of a decimal digit** of any script, if the character is one. -/
def digitValue? (c : Char) : Option Nat :=
  if c.toNat < 0x80 then
    if isAsciiDigit c then some (c.toNat - 0x30) else none
  else
    (Table.decimalZeros.find? fun start => start ≤ c.toNat && c.toNat ≤ start + 9).map
      fun start => c.toNat - start

/-- **A decimal digit** of any script. -/
def isDigit (c : Char) : Bool :=
  (digitValue? c).isSome

/-- A letter or a number of any kind. -/
def isAlphanumeric (c : Char) : Bool :=
  if c.toNat < 0x80 then isAsciiLetter c || isAsciiDigit c
  else inTable Table.alphanumeric c.toNat

/-- **A word character**: a letter, a number of any kind, or the low line. -/
def isWord (c : Char) : Bool :=
  c == '_' || isAlphanumeric c

/-- **White space**: the separators and the control characters that separate. -/
def isBlank (c : Char) : Bool :=
  let n := c.toNat
  if n < 0x80 then n == 0x20 || (0x09 ≤ n && n ≤ 0x0D) || (0x1C ≤ n && n ≤ 0x1F)
  else n == 0x85 || n == 0xA0 || n == 0x1680 || (0x2000 ≤ n && n ≤ 0x200A) || n == 0x2028 ||
    n == 0x2029 || n == 0x202F || n == 0x205F || n == 0x3000

/-- A character that has a printed form of its own; of the separators only the space has one. -/
def isPrintable (c : Char) : Bool :=
  let n := c.toNat
  if n < 0x80 then 0x20 ≤ n && n < 0x7F
  else !inTable Table.unprintable n

/-- **Simple lower case** of a code point: itself, or the one code point its table row leads to. -/
def lowerCode (n : Nat) : Nat :=
  if n < 0x80 then if 0x41 ≤ n && n ≤ 0x5A then n + 0x20 else n
  else
    let row? := Table.lowercaseRuns.findSome? fun part => part.find? fun row =>
      row.1 ≤ n && n ≤ row.2.1 && (n - row.1) % row.2.2.1 == 0
    match row? with
    | some row => ((n : Int) + row.2.2.2).toNat
    | none => n

/-- The code points that differ from a lower-case one in nothing but their upper case, with it. -/
def caseVariants (n : Nat) : List Nat :=
  match Table.caseVariants.find? fun row => row.1 == n with
  | some row => n :: row.2
  | none => [n]

/-- The text without the white space at its two ends. -/
def strip (s : List Char) : List Char :=
  ((s.dropWhile isBlank).reverse.dropWhile isBlank).reverse

/-- **White space around a number.** Unlike white space in a text it leaves out the four separators among
the control characters. -/
def isPadding (c : Char) : Bool :=
  isBlank c && !(0x1C ≤ c.toNat && c.toNat ≤ 0x1F)

/-- The text of a number without the white space around it. -/
def unpad (s : List Char) : List Char :=
  ((s.dropWhile isPadding).reverse.dropWhile isPadding).reverse

end WhistledSpeech.Text
