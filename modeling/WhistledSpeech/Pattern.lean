import WhistledSpeech.Text.CodePoint
import WhistledSpeech.Text.LetterCase

/-!
# Patterns

What ends a word is a matter of the language, so a model describes it: by a pattern over characters,
with sets, repetition, alternatives and conditions on what stands before and after. This module has the
patterns themselves as trees and `Pattern.width`, the number of characters a pattern can cover.

A tree keeps the flags beside each test of a character. What a test comes to under its flags –
whether case counts, which scripts a category covers – is decided when the pattern becomes a program.
-/

namespace WhistledSpeech

/-- **A category of characters.** -/
inductive Category where
  /-- Decimal digits. -/
  | digit
  /-- White space. -/
  | blank
  /-- Letters, numbers and the low line. -/
  | word
  deriving Repr, DecidableEq

namespace Category

/-- Whether a character belongs to a category, of any script or of ASCII only. -/
def contains (category : Category) (asciiOnly : Bool) (c : Char) : Bool :=
  let inScript := !asciiOnly || c.toNat < 0x80
  match category with
  | digit => inScript && Text.isDigit c
  | blank =>
    if asciiOnly then c.toNat == 0x20 || (0x09 ≤ c.toNat && c.toNat ≤ 0x0D) else Text.isBlank c
  | word => inScript && Text.isWord c

end Category

/-- **What flags decide.** -/
structure PatternFlags where
  /-- Letters of either case count as the same. -/
  ignoreCase : Bool
  /-- Lines start and end inside the text as well. -/
  multiline : Bool
  /-- Any character at all includes line breaks. -/
  dotAll : Bool
  /-- White space and comments in the pattern do not count. -/
  verbose : Bool
  /-- Categories and letters are those of ASCII. -/
  ascii : Bool
  deriving Repr, DecidableEq

namespace PatternFlags

/-- No flags. -/
def none : PatternFlags := ⟨false, false, false, false, false⟩

/-- Which characters count as the same. -/
def letters (flags : PatternFlags) : Text.LetterCase :=
  if !flags.ignoreCase then .exact else if flags.ascii then .ascii else .any

/-- Sets a flag by its letter. -/
def turn (flags : PatternFlags) (letter : Char) (on : Bool) : PatternFlags :=
  match letter with
  | 'i' => { flags with ignoreCase := on }
  | 'm' => { flags with multiline := on }
  | 's' => { flags with dotAll := on }
  | 'x' => { flags with verbose := on }
  | 'a' => { flags with ascii := true }
  | 'u' => { flags with ascii := false }
  | _ => flags

/-- Sets flags by their letters. -/
def turnAll (flags : PatternFlags) (letters : List Char) (on : Bool) : PatternFlags :=
  letters.foldl (fun flags letter => flags.turn letter on) flags

end PatternFlags

/-- What a set of characters lists. -/
inductive SetItem where
  /-- A code point. -/
  | code (n : Nat)
  /-- The characters between two code points. -/
  | range (low high : Nat)
  /-- A category, or everything outside it. -/
  | category (kind : Category) (outside : Bool)
  deriving Repr, DecidableEq

/-- **A set of characters**: those listed, or all others. -/
structure CharSet where
  /-- What the set lists. -/
  items : List SetItem
  /-- Whether it is the characters not listed. -/
  negated : Bool
  deriving Repr, DecidableEq

/-- **What one character has to be.** -/
inductive CharTest where
  /-- A character, or any other than it. -/
  | code (n : Nat) (negated : Bool)
  /-- Any character, except perhaps a line break. -/
  | any
  /-- A character of a set. -/
  | within (set : CharSet)
  deriving Repr, DecidableEq

/-- **A condition on a place in a text.** -/
inductive Anchor where
  /-- The start of the text. -/
  | textStart
  /-- The end of the text. -/
  | textEnd
  /-- The start of the text, or of any line. -/
  | lineStart (anyLine : Bool)
  /-- The end of the last line, before a line break that ends it as well as after, or of any line. -/
  | lineEnd (anyLine : Bool)
  /-- Between a word character and another, or between two of a kind. -/
  | wordEdge (asciiOnly inside : Bool)
  deriving Repr, DecidableEq

/-- How many repetitions are tried first. -/
inductive Greed where
  /-- As many as there can be, then fewer. -/
  | greedy
  /-- As few as there may be, then more. -/
  | reluctant
  /-- As many as there can be, and no fewer. -/
  | possessive
  deriving Repr, DecidableEq

/-- **A pattern.** -/
inductive Pattern where
  /-- Nothing. -/
  | empty
  /-- What nothing matches: it stands after the last of some alternatives. -/
  | never
  /-- One character. -/
  | char (test : CharTest) (flags : PatternFlags)
  /-- A condition on the place reached. -/
  | anchor (a : Anchor)
  /-- One pattern and then another. -/
  | sequence (first second : Pattern)
  /-- An alternative, or else one of those after it. -/
  | either (first others : Pattern)
  /-- A pattern with flags of its own. -/
  | group (body : Pattern)
  /-- A pattern that captures what it covers, under a number. -/
  | capture (index : Nat) (body : Pattern)
  /-- What was captured under a number, again. -/
  | reference (index : Nat) (letters : Text.LetterCase)
  /-- One of two patterns, by whether something was captured under a number. -/
  | conditional (index : Nat) (present absent : Pattern)
  /-- Repetitions of a pattern: at least so many and, if there is a limit, at most so many. -/
  | repeated (least : Nat) (most : Option Nat) (greed : Greed) (body : Pattern)
  /-- A pattern of which only the first way to match counts. -/
  | atomic (body : Pattern)
  /-- Whether a pattern matches, or does not, from a place so many characters back. -/
  | around (wanted : Bool) (back : Nat) (body : Pattern)
  deriving Repr, DecidableEq

/-- **How many characters a pattern covers**: at least and at most. Numbers from a limit on are not told
apart. -/
structure PatternWidth where
  /-- The smallest number. -/
  least : Nat
  /-- The largest number. -/
  most : Nat
  deriving Repr, DecidableEq

namespace PatternWidth

/-- The limit of numbers: no pattern is known to cover more, and none at least as many. -/
def limit : Nat := 4294967295

/-- A width within the limit. -/
def capped (least most : Nat) : PatternWidth := ⟨min least (limit - 1), min most limit⟩

/-- The width of nothing. -/
def zero : PatternWidth := ⟨0, 0⟩

/-- The width of no pattern at all. -/
def impossible : PatternWidth := ⟨limit - 1, 0⟩

/-- The width of one pattern followed by another. -/
def add (x y : PatternWidth) : PatternWidth := capped (x.least + y.least) (x.most + y.most)

/-- The width of one pattern or another. -/
def join (x y : PatternWidth) : PatternWidth := ⟨min x.least y.least, max x.most y.most⟩

/-- The width of repetitions. -/
def scale (x : PatternWidth) (least : Nat) (most : Option Nat) : PatternWidth :=
  capped (x.least * least) (x.most * most.getD limit)

/-- The one number of characters, if there is only one. -/
def fixed? (x : PatternWidth) : Option Nat :=
  if x.most = x.least then some x.least else none

end PatternWidth

namespace Pattern

/-- **The width of a pattern**, given those of the captures it refers back to. -/
def width (captured : Nat → PatternWidth) : Pattern → PatternWidth
  | empty | anchor _ | around .. => .zero
  | never => .impossible
  | char .. => ⟨1, 1⟩
  | sequence first second => (width captured first).add (width captured second)
  | either first others => (width captured first).join (width captured others)
  | group body | capture _ body | atomic body => width captured body
  | reference index _ => captured index
  | conditional _ present absent => (width captured present).join (width captured absent)
  | repeated least most _ body => (width captured body).scale least most

/-! ## Building patterns -/

/-- Patterns one after the other. -/
def all : List Pattern → Pattern
  | [] => empty
  | [p] => p
  | p :: rest => sequence p (all rest)

/-- The first of some patterns that leads on. -/
def anyOf : List Pattern → Pattern
  | [] => never
  | p :: rest => either p (anyOf rest)

/-- Whether a pattern is the same wherever it looks the same: one character, a condition on the place or
a reference. -/
def isPlain : Pattern → Bool
  | char .. | anchor _ | reference .. => true
  | _ => false

/-- What all alternatives start with, and what is left of each; nothing unless all start with the same
plain pattern. -/
def sharedStart? : List (List Pattern) → Option (Pattern × List (List Pattern))
  | [] => none
  | [] :: _ => none
  | (p :: rest) :: others => do
    let tails ← others.mapM fun other =>
      match other with
      | q :: tail => if p.isPlain && p = q then some tail else none
      | [] => none
    return (p, rest :: tails)

/-- The items that an alternative of one character adds to a set of characters. -/
def listed? : List Pattern → Option (List SetItem)
  | [char (.code n false) _] => some [.code n]
  | [char (.within ⟨items, false⟩) _] => some items
  | _ => none

/-- Alternatives that share no start: a set if each is one character, a choice otherwise. -/
def choice (flags : PatternFlags) (alternatives : List (List Pattern)) : Pattern :=
  match alternatives.mapM listed? with
  | some items => char (.within ⟨items.flatten.eraseDups, false⟩) flags
  | none => anyOf (alternatives.map all)

/-- **Some alternatives as patterns one after the other**: what they all start with is put in front of
the choice. At most so many patterns are put there. -/
def factored (flags : PatternFlags) : Nat → List (List Pattern) → List Pattern
  | 0, alternatives => [choice flags alternatives]
  | fuel + 1, alternatives =>
    match sharedStart? alternatives with
    | some (p, rest) => p :: factored flags fuel rest
    | none => [choice flags alternatives]

/-- Alternatives as patterns one after the other; there is a choice if there is more than one. -/
def ofAlternatives (flags : PatternFlags) : List (List Pattern) → List Pattern
  | [only] => only
  | alternatives => factored flags ((alternatives.map List.length).foldl max 0 + 1) alternatives

end Pattern

end WhistledSpeech
