import WhistledSpeech.Pattern.Mark

/-!
# Sets of characters as they are written

Between brackets a set lists characters, ranges of characters and categories. A circumflex in front
negates the set. A closing bracket that comes first is listed and does not close, and a hyphen that
comes first or last is listed and makes no range.
-/

namespace WhistledSpeech.CharSet

/-- What one place of a set lists: a code point, or a category. -/
inductive Listed where
  /-- A code point. -/
  | code (n : Nat)
  /-- A category, or everything outside it. -/
  | category (kind : Category) (outside : Bool)

namespace Listed

/-- What an escape lists in a set. -/
def ofEscape (c : Char) (rest : List Mark) : Except PatternFault (Listed × List Mark) :=
  match Mark.category? c with
  | some (kind, outside) => .ok (category kind outside, rest)
  | none =>
    if c = 'b' then .ok (code 0x08, rest)
    else if Mark.isOctal c then (Mark.octalCode c rest).map fun read => (code read.1, read.2)
    else if Text.isAsciiDigit c then .error .malformed
    else (Mark.escapedCode c rest).map fun read => (code read.1, read.2)

/-- What a mark lists in a set. -/
def ofMark (mark : Mark) (rest : List Mark) : Except PatternFault (Listed × List Mark) :=
  match mark with
  | .plain c => .ok (code (Text.code c), rest)
  | .escaped c => ofEscape c rest
  | .lone => .error .malformed

/-- The item of what a place lists by itself. -/
def item : Listed → SetItem
  | code n => .code n
  | category kind outside => .category kind outside

/-- The range between two places, which have to be code points in order. -/
def rangeTo : Listed → Listed → Except PatternFault SetItem
  | code low, code high => if high < low then .error .malformed else .ok (.range low high)
  | _, _ => .error .malformed

end Listed

/-- Reads items up to the closing bracket, after those already read, the latest first. -/
def readItems : Nat → List SetItem → List Mark → Except PatternFault (List SetItem × List Mark)
  | 0, _, _ => .error .malformed
  | _ + 1, _, [] => .error .malformed
  | fuel + 1, found, mark :: rest =>
    if mark = .plain ']' && !found.isEmpty then .ok (found.reverse, rest)
    else do
      let first ← Listed.ofMark mark rest
      match first.2 with
      | .plain '-' :: .plain ']' :: after =>
        return ((.code 0x2D :: first.1.item :: found).reverse, after)
      | .plain '-' :: mark :: after =>
        let second ← Listed.ofMark mark after
        let range ← first.1.rangeTo second.1
        readItems fuel (range :: found) second.2
      | .plain '-' :: [] => .error .malformed
      | after => readItems fuel (first.1.item :: found) after

/-- The test that a set of items stands for, each item counting once. One code point needs no set. -/
def testOf (items : List SetItem) (negated : Bool) : CharTest :=
  match items.eraseDups with
  | [.code n] => .code n negated
  | items => .within ⟨items, negated⟩

/-- **Reads a set** after its opening bracket. -/
def read (marks : List Mark) : Except PatternFault (CharTest × List Mark) := do
  let negated := marks.head? = some (.plain '^')
  let marks := if negated then marks.tail else marks
  let items ← readItems (marks.length + 1) [] marks
  return (testOf items.1 negated, items.2)

end WhistledSpeech.CharSet
