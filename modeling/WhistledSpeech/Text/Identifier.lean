import WhistledSpeech.Text.CharacterClass
import WhistledSpeech.Text.Table.Identifier

/-!
# Identifiers

An identifier starts with a letter of any script, or the low line, and goes on with letters, digits,
marks and connectors. Numbers that are no digits, such as `²` and `½`, have no place in one.
-/

namespace WhistledSpeech.Text

/-- A character an identifier may start with. -/
def startsIdentifier (c : Char) : Bool :=
  let n := c.toNat
  if n < 0x80 then isAsciiLetter c || c == '_'
  else inTable [Table.nameStarters] n ||
    (isAlphanumeric c && !isDigit c && !inTable [Table.nameStrangers] n)

/-- A character an identifier may go on with. -/
def continuesIdentifier (c : Char) : Bool :=
  startsIdentifier c || isDigit c || inTable Table.nameMarks c.toNat

/-- **Whether characters are an identifier.** -/
def isIdentifier : List Char → Bool
  | [] => false
  | c :: rest => startsIdentifier c && rest.all continuesIdentifier

end WhistledSpeech.Text
