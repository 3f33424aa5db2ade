import WhistledSpeech.Decimal.Written
import WhistledSpeech.Document
import WhistledSpeech.Text.CodePoint
import WhistledSpeech.Text.Integer
import WhistledSpeech.Text.Part

/-!
# Reading documents

The written form of a document is JSON, with three more words for the numbers that have no digits:
`NaN`, `Infinity` and `-Infinity`. An integer is kept as it is, within the limit to its digits; a
fraction or an exponent makes a number the double nearest to its decimal. An object that names a key
twice keeps the place of the first mention and the value of the last.

Each step takes the characters still to be read and gives back those it leaves. A value nests at most
as deep as there are characters, which bounds the recursion. There is no other bound: that a machine may
not be able to follow a value that nests too deep is left out.
-/

namespace WhistledSpeech

/-- **Why a text is not a document.** -/
inductive DocumentFault where
  /-- It is not well formed. -/
  | malformed
  /-- An integer is written with more digits than any may have. -/
  | longInteger
  deriving Repr, DecidableEq

namespace Document

/-- What reading comes to. -/
abbrev Reading := Except DocumentFault

/-- Something that has to be there. -/
def orMalformed {α : Type} : Option α → Reading α
  | some x => .ok x
  | none => .error .malformed

/-- Drops the white space of the written form. -/
def skipBlank (s : List Char) : List Char :=
  s.dropWhile fun c => c == ' ' || c == '\t' || c == '\n' || c == '\r'

/-! ## Texts -/

/-- The value of a hexadecimal digit. -/
def hexDigit? (c : Char) : Option Nat :=
  if '0' ≤ c ∧ c ≤ '9' then some (c.toNat - 0x30)
  else if 'a' ≤ c ∧ c ≤ 'f' then some (c.toNat - 0x57)
  else if 'A' ≤ c ∧ c ≤ 'F' then some (c.toNat - 0x37)
  else none

/-- Four hexadecimal digits. -/
def readUnit : List Char → Option (Nat × List Char)
  | a :: b :: c :: d :: rest => do
    let a ← hexDigit? a
    let b ← hexDigit? b
    let c ← hexDigit? c
    let d ← hexDigit? d
    return (((a * 16 + b) * 16 + c) * 16 + d, rest)
  | _ => none

/-- The character after the escape `\u`: one unit, or the two of a surrogate pair. One half of a pair
may stand alone. -/
def readEscapedUnit (s : List Char) : Option (Char × List Char) := do
  let (high, rest) ← readUnit s
  let single : Char × List Char := (Text.ofCode high, rest)
  if 0xD800 ≤ high ∧ high ≤ 0xDBFF then
    match rest with
    | '\\' :: 'u' :: after =>
      match readUnit after with
      | some (low, after') =>
        if 0xDC00 ≤ low ∧ low ≤ 0xDFFF then
          return (Char.ofNat (0x10000 + (high - 0xD800) * 0x400 + (low - 0xDC00)), after')
        else return single
      | none => return single
    | _ => return single
  else return single

/-- One character of a text, written as itself or escaped; a control character has to be escaped. -/
def readChar : List Char → Option (Char × List Char)
  | '\\' :: 'u' :: rest => readEscapedUnit rest
  | '\\' :: c :: rest =>
    match c with
    | '"' => some ('"', rest)
    | '\\' => some ('\\', rest)
    | '/' => some ('/', rest)
    | 'b' => some ('\x08', rest)
    | 'f' => some ('\x0c', rest)
    | 'n' => some ('\n', rest)
    | 'r' => some ('\r', rest)
    | 't' => some ('\t', rest)
    | _ => none
  | c :: rest => if c = '\\' ∨ c.toNat < 0x20 then none else some (c, rest)
  | [] => none

theorem length_of_readUnit {s rest : List Char} {n : Nat} (h : readUnit s = some (n, rest)) :
    rest.length < s.length := by
  unfold readUnit at h
  split at h
  · simp only [Option.bind_eq_bind, Option.bind_eq_some_iff, Option.pure_def, Option.some.injEq,
      Prod.mk.injEq] at h
    obtain ⟨_, _, _, _, _, _, _, _, _, rfl⟩ := h
    simp; omega
  · simp at h

theorem length_of_readEscapedUnit {s rest : List Char} {c : Char}
    (h : readEscapedUnit s = some (c, rest)) : rest.length < s.length := by
  unfold readEscapedUnit at h
  cases hu : readUnit s with
  | none => simp [hu] at h
  | some unit =>
    obtain ⟨high, after⟩ := unit
    have hlt := length_of_readUnit hu
    simp only [hu, Option.bind_eq_bind, Option.bind_some, Option.pure_def] at h
    split at h
    · split at h
      · split at h
        · rename_i hl
          have := length_of_readUnit hl
          simp only [List.length_cons] at hlt
          split at h <;> simp only [Option.some.injEq, Prod.mk.injEq] at h <;>
            obtain ⟨_, rfl⟩ := h <;> (try simp only [List.length_cons]) <;> omega
        · simp only [Option.some.injEq, Prod.mk.injEq] at h
          obtain ⟨_, rfl⟩ := h; exact hlt
      · simp only [Option.some.injEq, Prod.mk.injEq] at h
        obtain ⟨_, rfl⟩ := h; exact hlt
    · simp only [Option.some.injEq, Prod.mk.injEq] at h
      obtain ⟨_, rfl⟩ := h; exact hlt

/-- Reading a character leaves less to read. -/
theorem length_of_readChar {s rest : List Char} {c : Char} (h : readChar s = some (c, rest)) :
    rest.length < s.length := by
  unfold readChar at h
  split at h
  · have := length_of_readEscapedUnit h
    simp; omega
  · split at h <;> simp only [Option.some.injEq, Prod.mk.injEq, reduceCtorEq] at h <;>
      obtain ⟨_, rfl⟩ := h <;> simp only [List.length_cons] <;> omega
  · split at h
    · simp at h
    · simp only [Option.some.injEq, Prod.mk.injEq] at h
      obtain ⟨_, rfl⟩ := h; simp
  · simp at h

/-- The characters of a text up to its closing quote, which is read too. -/
def readChars (s : List Char) : Option (List Char × List Char) :=
  match s with
  | '"' :: rest => some ([], rest)
  | s =>
    match h : readChar s with
    | none => none
    | some (c, rest) =>
      have := length_of_readChar h
      (readChars rest).map fun read => (c :: read.1, read.2)
termination_by s.length

/-- A text after its opening quote. -/
def readText (s : List Char) : Option (String × List Char) :=
  (readChars s).map fun read => (String.ofList read.1, read.2)

/-! ## Numbers -/

/-- At least one digit. -/
def readDigits (s : List Char) : Option (List Char × List Char) :=
  let ds := s.takeWhile Text.isAsciiDigit
  if ds.isEmpty then none else some (ds, s.dropWhile Text.isAsciiDigit)

/-- The whole part of a number: a zero alone, or digits that do not start with one. -/
def readWhole : List Char → Option (List Char × List Char)
  | '0' :: rest => some (['0'], rest)
  | s => readDigits s

/-- A point with digits after it; without digits the point is not part of the number. -/
def readFraction : List Char → Option (List Char) × List Char
  | '.' :: rest =>
    match readDigits rest with
    | some (ds, after) => (some ds, after)
    | none => (none, '.' :: rest)
  | s => (none, s)

/-- A power of ten; without digits the letter is not part of the number. -/
def readExponent (s : List Char) : Option Int × List Char :=
  match s with
  | c :: rest =>
    if c = 'e' ∨ c = 'E' then
      let (negative, digits) := Decimal.signOf rest
      match readDigits digits with
      | some (ds, after) =>
        (some (if negative then -(Decimal.valueOf ds : Int) else Decimal.valueOf ds), after)
      | none => (none, s)
    else (none, s)
  | [] => (none, s)

/-- A number after its sign. -/
def readUnsigned (negative : Bool) (s : List Char) : Reading (Document × List Char) := do
  let (whole, rest) ← orMalformed (readWhole s)
  let (fraction?, rest) := readFraction rest
  let (exponent?, rest) := readExponent rest
  match fraction?, exponent? with
  | none, none =>
    if Text.digitLimit < whole.length then throw .longInteger
    else
      let n : Int := Decimal.valueOf whole
      return (.int (if negative then -n else n), rest)
  | _, _ =>
    let fraction := fraction?.getD []
    let exponent := exponent?.getD 0 - fraction.length
    let digits := Decimal.valueOf (whole ++ fraction)
    return (.float (Decimal.Binary64.ofDecimal negative digits exponent), rest)

/-- A number, or one of the words for what has no digits. -/
def readNumber (s : List Char) : Reading (Document × List Char) :=
  match s with
  | '-' :: rest =>
    match Text.behind? "Infinity".toList rest with
    | some after => .ok (.float (-1 / 0), after)
    | none => readUnsigned true rest
  | _ => readUnsigned false s

/-! ## Values -/

/-- A value that is one of the fixed words. -/
def words : List (List Char × Document) :=
  [("null".toList, .null), ("true".toList, .bool true), ("false".toList, .bool false),
    ("NaN".toList, .float (0 / 0)), ("Infinity".toList, .float (1 / 0))]

/-- A fixed word or a number. -/
def readAtom (s : List Char) : Reading (Document × List Char) :=
  match words.findSome? fun word => (Text.behind? word.1 s).map fun rest => (word.2, rest) with
  | some found => .ok found
  | none => readNumber s

mutual
/-- A value, with no white space in front of it. -/
def readValue : Nat → List Char → Reading (Document × List Char)
  | 0, _ => .error .malformed
  | fuel + 1, s =>
    match s with
    | '"' :: rest => do
      let (chars, rest) ← orMalformed (readText rest)
      return (.text chars, rest)
    | '[' :: rest =>
      match skipBlank rest with
      | ']' :: after => .ok (.list [], after)
      | first => do
        let (items, rest) ← readItems fuel first
        return (.list items, rest)
    | '\x7b' :: rest =>
      match skipBlank rest with
      | '\x7d' :: after => .ok (.object [], after)
      | first => do
        let (pairs, rest) ← readPairs fuel first
        return (.object (entriesOf pairs), rest)
    | _ => readAtom s

/-- The items of a list up to its closing bracket, which is read too. -/
def readItems : Nat → List Char → Reading (List Document × List Char)
  | 0, _ => .error .malformed
  | fuel + 1, s => do
    let (item, rest) ← readValue fuel s
    match skipBlank rest with
    | ',' :: after => do
      let (items, rest) ← readItems fuel (skipBlank after)
      return (item :: items, rest)
    | ']' :: after => return ([item], after)
    | _ => throw .malformed

/-- The entries of an object up to its closing brace, which is read too. -/
def readPairs : Nat → List Char → Reading (List (String × Document) × List Char)
  | 0, _ => .error .malformed
  | fuel + 1, s =>
    match s with
    | '"' :: rest => do
      let (key, rest) ← orMalformed (readText rest)
      match skipBlank rest with
      | ':' :: after => do
        let (value, rest) ← readValue fuel (skipBlank after)
        match skipBlank rest with
        | ',' :: after => do
          let (pairs, rest) ← readPairs fuel (skipBlank after)
          return ((key, value) :: pairs, rest)
        | '\x7d' :: after => return ([(key, value)], after)
        | _ => throw .malformed
      | _ => throw .malformed
    | _ => .error .malformed
end

/-- **Reads a document**: one value with nothing but white space around it. It may nest as deep as it likes;
a limit to the depth of recursion, and the fault of a value beyond it, are not modelled. -/
def read (text : String) : Reading Document := do
  let s := skipBlank text.toList
  let (value, rest) ← readValue (s.length + 1) s
  if (skipBlank rest).isEmpty then return value else throw .malformed

end Document

end WhistledSpeech
