import WhistledSpeech.Pattern

/-!
# Rules for characters

A test of one character, put together with its flags, is a rule: it says of each character whether it
passes. A rule that ignores case brings the character to lower case first. What is written is then not
compared with the character but with that form, and each written code point stands for the forms that
it can be brought to.

Beyond the first plane a set treats what it lists otherwise: a single code point stands for itself as it
is written, and a range for the characters that it has in either case. A set that lists such a code
point or a letter is the only one that brings characters to lower case at all.
-/

namespace WhistledSpeech

/-- **What a rule asks of a form** that a character has been brought to. -/
inductive FormTest where
  /-- To lie between two code points. -/
  | between (low high : Nat)
  /-- To be the form of a code point between two others. -/
  | formOf (low high : Nat)
  /-- To lie between two code points itself, or to have an upper case that does. -/
  | eitherCase (low high : Nat)
  /-- To belong to a category, or not to. -/
  | category (kind : Category) (asciiOnly outside : Bool)
  deriving Repr, DecidableEq

namespace FormTest

/-- Whether a form, as a code point, passes. -/
def holds (letters : Text.LetterCase) (form : Nat) : FormTest → Bool
  | between low high => low ≤ form && form ≤ high
  | formOf low high => letters.reaches low high form
  | eitherCase low high =>
    let upper := Text.upperCode form
    (low ≤ form && form ≤ high) || (low ≤ upper && upper ≤ high)
  | category kind asciiOnly outside => kind.contains asciiOnly (Char.ofNat form) != outside

end FormTest

/-- **A rule for one character.** -/
inductive CharRule where
  /-- To be one code point. -/
  | exactly (n : Nat)
  /-- To be any other than one code point. -/
  | allBut (n : Nat)
  /-- To be a letter, given in lower case, or to be another. -/
  | letter (letters : Text.LetterCase) (n : Nat) (negated : Bool)
  /-- To be any character, or any but a line break. -/
  | any (breaksToo : Bool)
  /-- To pass one of some tests in the form it is brought to, or to pass none. -/
  | oneOf (letters : Text.LetterCase) (tests : List FormTest) (negated : Bool)
  deriving Repr, DecidableEq

namespace CharRule

/-- **Whether a character follows a rule.** -/
def holds (c : Char) : CharRule → Bool
  | exactly n => Text.code c == n
  | allBut n => Text.code c != n
  | letter letters n negated => (letters.fold (Text.code c) == n) != negated
  | any breaksToo => breaksToo || c != '\n'
  | oneOf letters tests negated =>
    tests.any (FormTest.holds letters (letters.fold (Text.code c))) != negated

/-- Whether a rule is about a set and takes characters as they are. -/
def isPlainSet : CharRule → Bool
  | oneOf .exact _ _ => true
  | _ => false

/-- Whether a rule is about a set and brings characters to lower case. -/
def isFoldedSet : CharRule → Bool
  | oneOf .exact _ _ => false
  | oneOf .. => true
  | _ => false

/-- **The rule of a code point.** One without case is only itself. A letter that has other forms of its
own stands for a set of them. -/
def ofCode (letters : Text.LetterCase) (n : Nat) (negated : Bool) : CharRule :=
  if letters.isCased n then
    let form := letters.fold n
    match letters.formsOf form with
    | [_] => letter letters form negated
    | forms => oneOf letters (forms.map fun other => .between other other) negated
  else if negated then allBut n else exactly n

end CharRule

namespace SetItem

/-- The last code point of the first plane. -/
def planeEnd : Nat := 0xFFFF

/-- Whether an item makes its set bring characters to lower case. -/
def needsFold (letters : Text.LetterCase) : SetItem → Bool
  | code n => planeEnd < n || letters.isCased n
  | range low high => planeEnd < high || letters.meetsCased low high
  | category .. => false

/-- The test of an item on characters as they are. -/
def plainTest (asciiOnly : Bool) : SetItem → FormTest
  | code n => .between n n
  | range low high => .between low high
  | category kind outside => .category kind asciiOnly outside

/-- The tests of an item on characters brought to lower case. -/
def foldedTests (asciiOnly : Bool) : SetItem → List FormTest
  | code n => if planeEnd < n then [.between n n] else [.formOf n n]
  | range low high =>
    if planeEnd < high then [.formOf low (min high planeEnd), .eitherCase low high]
    else [.formOf low high]
  | category kind outside => [.category kind asciiOnly outside]

end SetItem

namespace CharSet

/-- The rule of a set that takes characters as they are. -/
def plainRule (asciiOnly : Bool) (set : CharSet) : CharRule :=
  .oneOf .exact (set.items.map (SetItem.plainTest asciiOnly)) set.negated

/-- **The rule of a set.** -/
def rule (flags : PatternFlags) (set : CharSet) : CharRule :=
  if flags.ignoreCase && set.items.any (SetItem.needsFold flags.letters) then
    .oneOf flags.letters (set.items.flatMap (SetItem.foldedTests flags.ascii)) set.negated
  else set.plainRule flags.ascii

end CharSet

namespace CharTest

/-- **The rule of a test** under its flags. -/
def rule (flags : PatternFlags) : CharTest → CharRule
  | code n negated => .ofCode flags.letters n negated
  | any => .any flags.dotAll
  | within set => set.rule flags

end CharTest

end WhistledSpeech
