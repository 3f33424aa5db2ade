import WhistledSpeech.Text.CharacterClass
import WhistledSpeech.Text.Part
import WhistledSpeech.Text.Table.Name.Alias
import WhistledSpeech.Text.Table.Name.Alphabets
import WhistledSpeech.Text.Table.Name.Ancient
import WhistledSpeech.Text.Table.Name.Cuneiform
import WhistledSpeech.Text.Table.Name.EastAsian
import WhistledSpeech.Text.Table.Name.Notation
import WhistledSpeech.Text.Table.Name.Pictographs
import WhistledSpeech.Text.Table.Name.Syllabaries
import WhistledSpeech.Text.Table.Name.Symbols

/-!
# Characters by name

A character can be written by its name. Three kinds of names follow rules: a Hangul syllable is named
by the sounds of its letters, and an ideograph, like the characters of two other scripts, by its code
point. All others are in tables, which `nameTables` lists; there the case of letters does not count.

`namedCode? name` is the code point that has a name.
-/

namespace WhistledSpeech.Text

/-! ## Names by rule -/

/-- The longest of some words at the front: its place among them, and what follows it. -/
def longest? (words : List String) (s : List Char) : Option (Nat × List Char) :=
  words.zipIdx.foldl (fun found word =>
    match behind? word.1.toList s, found with
    | some rest, some (_, shortest) =>
      if rest.length < shortest.length then some (word.2, rest) else found
    | some rest, none => some (word.2, rest)
    | none, _ => found) none

/-- The sounds a Hangul syllable may start with. -/
def leadingSounds : List String :=
  ["G", "GG", "N", "D", "DD", "R", "M", "B", "BB", "S", "SS", "", "J", "JJ", "C", "K", "T", "P", "H"]

/-- The vowels of a Hangul syllable. -/
def vowelSounds : List String :=
  ["A", "AE", "YA", "YAE", "EO", "E", "YEO", "YE", "O", "WA", "WAE", "OE", "YO", "U", "WEO", "WE",
    "WI", "YU", "EU", "YI", "I"]

/-- The sounds a Hangul syllable may end in. -/
def trailingSounds : List String :=
  ["", "G", "GG", "GS", "N", "NJ", "NH", "D", "L", "LG", "LM", "LB", "LS", "LT", "LP", "LH", "M",
    "B", "BS", "S", "SS", "NG", "J", "C", "K", "T", "P", "H"]

/-- **The Hangul syllable of some sounds.** Syllables stand in the order of their sounds. -/
def syllableCode? (sounds : List Char) : Option Nat := do
  let (leading, rest) ← longest? leadingSounds sounds
  let (vowel, rest) ← longest? vowelSounds rest
  let (trailing, rest) ← longest? trailingSounds rest
  if rest.isEmpty then
    some (0xAC00 + (leading * vowelSounds.length + vowel) * trailingSounds.length + trailing)
  else none

/-- The number that four or five digits of base sixteen write, letters being capitals. -/
def codeWritten? (digits : List Char) : Option Nat :=
  if digits.length = 4 ∨ digits.length = 5 then
    digits.foldlM (fun n c =>
      if isAsciiDigit c then some (16 * n + (c.toNat - 0x30))
      else if 'A' ≤ c ∧ c ≤ 'F' then some (16 * n + (c.toNat - 0x37))
      else none) 0
  else none

/-- The unified ideographs. -/
def unifiedIdeographs : List (Nat × Nat) :=
  [(0x3400, 0x4DBF), (0x4E00, 0x9FFF), (0x20000, 0x2A6DF), (0x2A700, 0x2B738), (0x2B740, 0x2B81D),
    (0x2B820, 0x2CEA1), (0x2CEB0, 0x2EBE0), (0x30000, 0x3134A)]

/-- Other characters whose names end in their code points: how those names start, and the code
points. -/
def numberedCharacters : List (String × List (Nat × Nat)) :=
  [("CJK COMPATIBILITY IDEOGRAPH-", [(0xF900, 0xFA6D), (0xFA70, 0xFAD9), (0x2F800, 0x2FA1D)]),
    ("KHITAN SMALL SCRIPT CHARACTER-", [(0x18B00, 0x18CD5)]),
    ("NUSHU CHARACTER-", [(0x1B170, 0x1B2FB)])]

/-- The code point written by digits, if it is one of some ranges. -/
def codeAmong? (ranges : List (Nat × Nat)) (digits : List Char) : Option Nat := do
  let code ← codeWritten? digits
  if ranges.any fun range => range.1 ≤ code && code ≤ range.2 then some code else none

/-- The code point that a name ends in. There is no zero in front of it. -/
def numberedCode? (name : List Char) : Option Nat :=
  numberedCharacters.findSome? fun row => do
    let digits ← behind? row.1.toList name
    if digits.head? = some '0' then none else codeAmong? row.2 digits

/-! ## Names in tables -/

/-- The tables of names. -/
def nameTables : List String :=
  [Table.alphabetNames, Table.syllabaryNames, Table.symbolNames, Table.eastAsianNames,
    Table.ancientNames, Table.cuneiformNames, Table.notationNames, Table.pictographNames,
    Table.aliasNames]

/-- The number that digits of base sixteen write, letters being capitals. -/
def codeAtFront (digits : List Char) : Nat :=
  digits.foldl (fun n c => 16 * n + (c.toNat - if isAsciiDigit c then 0x30 else 0x37)) 0

/-- Whether a character of an entry says how many words are shared. -/
def isShareMark (c : Char) : Bool := 'a' ≤ c && c ≤ 'z'

/-- **The code point of a name among the entries of a table**, after an entry with the code point
before `next` and the words `before`. -/
def entryCode? (name : List String) : Nat → List String → List String → Option Nat
  | _, _, [] => none
  | next, before, entry :: rest =>
    let entry := entry.toList.dropWhile fun c => c == '\n' || c == ' '
    let digits := entry.takeWhile fun c => !isShareMark c
    match entry.dropWhile fun c => !isShareMark c with
    | [] => none
    | mark :: last =>
      let code := if digits.isEmpty then next else codeAtFront digits
      let words := before.take (mark.toNat - 'a'.toNat) ++ (String.ofList last).splitOn " "
      if words = name then some code else entryCode? name (code + 1) words rest

/-- The code point of a name in a table. -/
def tabledCode? (name : List String) (table : String) : Option Nat :=
  entryCode? name 0 [] (table.splitOn ";")

/-- A letter as a capital, if it is one of ASCII. -/
def asciiCapital (c : Char) : Char :=
  if 'a' ≤ c ∧ c ≤ 'z' then Char.ofNat (c.toNat - 0x20) else c

/-- **The code point of the character with a name.** -/
def namedCode? (name : List Char) : Option Nat :=
  match behind? "HANGUL SYLLABLE ".toList name, behind? "CJK UNIFIED IDEOGRAPH-".toList name with
  | some sounds, _ => syllableCode? sounds
  | none, some digits => codeAmong? unifiedIdeographs digits
  | none, none =>
    let capitals := name.map asciiCapital
    match numberedCode? capitals with
    | some code => some code
    | none => nameTables.findSome? (tabledCode? ((String.ofList capitals).splitOn " "))

end WhistledSpeech.Text
