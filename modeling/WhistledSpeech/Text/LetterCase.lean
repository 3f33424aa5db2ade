import WhistledSpeech.Text.CharacterClass
import WhistledSpeech.Text.Table.Uppercase

/-!
# Comparing letters without regard to case

Two letters are the same letter when their lower-case forms are, or when those differ only as the rows
of `Table.caseVariants` do. A character is brought to lower case once, by `LetterCase.fold`, and is then
asked for among the forms that something written stands for; `casesOf` goes the other way, from a
lower-case form to all code points that have it.
-/

namespace WhistledSpeech.Text

/-- A run of code points: first, last, distance between two of them, and distance to the other case. -/
abbrev CaseRun := Nat × Nat × Nat × Int

/-- The first code point of a run from a given one on is not beyond another given one. -/
def meetsRun (low high : Nat) (run : CaseRun) : Bool :=
  let start := if low ≤ run.1 then run.1
    else run.1 + (low - run.1 + run.2.2.1 - 1) / run.2.2.1 * run.2.2.1
  start ≤ run.2.1 && start ≤ high

/-- **Simple upper case** of a code point: the first code point of its upper-case form. -/
def upperCode (n : Nat) : Nat :=
  if n < 0x80 then if 0x61 ≤ n && n ≤ 0x7A then n - 0x20 else n
  else
    let run? := Table.uppercaseRuns.findSome? fun part => part.find? fun run =>
      run.1 ≤ n && n ≤ run.2.1 && (n - run.1) % run.2.2.1 == 0
    match run? with
    | some run => ((n : Int) + run.2.2.2).toNat
    | none => n

/-- Lower case of an ASCII letter. -/
def lowerAscii (n : Nat) : Nat :=
  if 0x41 ≤ n && n ≤ 0x5A then n + 0x20 else n

/-- Whether some ASCII letter lies between two code points. -/
def meetsAsciiLetter (low high : Nat) : Bool :=
  meetsRun low high (0x41, 0x5A, 1, 0) || meetsRun low high (0x61, 0x7A, 1, 0)

/-- The code points beyond ASCII whose lower case a row of the table makes the given one. -/
def sourcesIn (n : Nat) (part : List CaseRun) : List Nat :=
  part.filterMap fun row =>
    let source := ((n : Int) - row.2.2.2).toNat
    if row.1 ≤ source && source ≤ row.2.1 && (source - row.1) % row.2.2.1 == 0 then some source
    else none

/-- **The code points whose lower case is the given one.** -/
def casesOf (n : Nat) : List Nat :=
  let itself := if lowerCode n == n then [n] else []
  let ascii := if 0x61 ≤ n && n ≤ 0x7A then [n - 0x20] else []
  itself ++ ascii ++ Table.lowercaseRuns.flatMap (sourcesIn n)

/-- The code points whose lower case as ASCII letters is the given one. -/
def asciiCasesOf (n : Nat) : List Nat :=
  (if lowerAscii n == n then [n] else []) ++ if 0x61 ≤ n && n ≤ 0x7A then [n - 0x20] else []

/-- **Which characters count as the same.** -/
inductive LetterCase where
  /-- Only a character and itself. -/
  | exact
  /-- ASCII letters of either case. -/
  | ascii
  /-- Letters of either case in any script. -/
  | any
  deriving Repr, DecidableEq

namespace LetterCase

/-- The form in which two characters of equal letters are equal. -/
def fold : LetterCase → Nat → Nat
  | exact, n => n
  | ascii, n => lowerAscii n
  | any, n => lowerCode n

/-- **Whether some code point between two others comes in two cases.** -/
def meetsCased : LetterCase → Nat → Nat → Bool
  | exact, _, _ => false
  | ascii, low, high => meetsAsciiLetter low high
  | any, low, high =>
    meetsAsciiLetter low high ||
      (Table.lowercaseRuns.any fun part => part.any (meetsRun low high)) ||
      (Table.uppercaseRuns.any fun part => part.any (meetsRun low high))

/-- Whether a code point comes in two cases. -/
def isCased (letters : LetterCase) (n : Nat) : Bool := letters.meetsCased n n

/-- The forms that stand for the same letter as a form in lower case. -/
def formsOf : LetterCase → Nat → List Nat
  | any, n => caseVariants n
  | _, n => [n]

/-- The code points that are brought to a form. -/
def unfold : LetterCase → Nat → List Nat
  | exact, n => [n]
  | ascii, n => asciiCasesOf n
  | any, n => casesOf n

/-- **Whether a form is that of some code point between two others**, or stands for the same letter as
one. -/
def reaches (letters : LetterCase) (low high form : Nat) : Bool :=
  (letters.formsOf form).any fun other =>
    (letters.unfold other).any fun n => low ≤ n && n ≤ high

end LetterCase

end WhistledSpeech.Text
