import WhistledSpeech.Text.CharacterClass
import WhistledSpeech.Text.CodePoint

/-!
# Quoted text

A message that shows a text from a document quotes it, so that its ends and its invisible characters
can be seen: single quotes, or double quotes if the text holds a single one and no double one, with
the quote, the backslash and every character without a printed form escaped.
-/

namespace WhistledSpeech.Text

/-- `n` in base sixteen, lower case, with `width` digits. -/
def hex (width n : Nat) : List Char :=
  let ds := Nat.toDigits 16 n
  List.replicate (width - ds.length) '0' ++ ds

/-- A character inside a quoted text. -/
def escape (quote c : Char) : List Char :=
  if c = quote ∨ c = '\\' then ['\\', c]
  else if c = '\n' then ['\\', 'n']
  else if c = '\r' then ['\\', 'r']
  else if c = '\t' then ['\\', 't']
  else if isPrintable c then [c]
  else if code c < 0x100 then '\\' :: 'x' :: hex 2 (code c)
  else if code c < 0x10000 then '\\' :: 'u' :: hex 4 (code c)
  else '\\' :: 'U' :: hex 8 (code c)

/-- The quote that surrounds a text. -/
def quoteOf (s : List Char) : Char :=
  if s.contains '\'' && !s.contains '"' then '"' else '\''

/-- **A text in quotes.** -/
def quoted (s : String) : String :=
  let cs := s.toList
  let quote := quoteOf cs
  String.ofList (quote :: cs.flatMap (escape quote) ++ [quote])

end WhistledSpeech.Text
