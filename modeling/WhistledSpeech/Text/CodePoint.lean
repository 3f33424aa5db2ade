/-!
# Code points

A document can name one half of a surrogate pair without the other. That is a code point and no
character. A text keeps a stand-in for it, a character for private use that lies a fixed distance above:
`ofCode` gives the character for a code point, `code` the code point that a character is there for.
-/

namespace WhistledSpeech.Text

/-- Whether a code point is one half of a surrogate pair. -/
def isHalf (n : Nat) : Bool := 0xD800 ≤ n && n ≤ 0xDFFF

/-- How far the stand-in for a half lies above it. -/
def standInDistance : Nat := 0xF0000

/-- Whether a character stands in for a half. -/
def isStandIn (c : Char) : Bool := isHalf (c.toNat - standInDistance)

/-- **The character for a code point.** -/
def ofCode (n : Nat) : Char := Char.ofNat (if isHalf n then n + standInDistance else n)

/-- **The code point that a character is there for.** -/
def code (c : Char) : Nat := if isStandIn c then c.toNat - standInDistance else c.toNat

end WhistledSpeech.Text
