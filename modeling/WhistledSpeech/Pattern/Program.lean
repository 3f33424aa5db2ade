import WhistledSpeech.Pattern.Rule

/-!
# Programs

A pattern is carried out as a program: steps that each know the steps after them. `Pattern.before` makes
the program that does what a pattern says and then goes on with a given program, so sequences and groups
leave no trace. Alternatives, repetitions and conditions have programs of their own inside, which end
with `done`.

`Pattern.start` is what can be told of the places where a match can start without trying them.
-/

namespace WhistledSpeech

/-- **A program.** -/
inductive Program where
  /-- The end of a program. What follows it at once may be one code point, which is then given. -/
  | done (following : Option Nat)
  /-- A step that cannot be taken. -/
  | never
  /-- One character. -/
  | char (rule : CharRule) (rest : Program)
  /-- A condition on the place reached. -/
  | anchor (a : Anchor) (rest : Program)
  /-- Notes the place reached: each capture has a slot for its start and the next for its end. -/
  | mark (slot : Nat) (rest : Program)
  /-- What was captured under a number, again. -/
  | reference (index : Nat) (letters : Text.LetterCase) (rest : Program)
  /-- One of two programs, by whether something was captured under a number. -/
  | conditional (index : Nat) (present absent rest : Program)
  /-- A program, or else another. -/
  | either (first others rest : Program)
  /-- Characters that follow one rule. -/
  | run (greed : Greed) (least : Nat) (most : Option Nat) (rule : CharRule) (rest : Program)
  /-- Rounds of a program. -/
  | rounds (greed : Greed) (least : Nat) (most : Option Nat) (body rest : Program)
  /-- A program of which only the first way to the end counts. -/
  | atomic (body rest : Program)
  /-- Whether a program gets to its end, or does not, from a place so many characters back. -/
  | around (wanted : Bool) (back : Nat) (body rest : Program)
  deriving Repr, DecidableEq

namespace Program

/-- The one code point that a program starts with, if it starts with one. -/
def first? : Program → Option Nat
  | char (.exactly n) _ => some n
  | done following => following
  | _ => none

/-- The code points that a program starts with, one after the other. -/
def leading : Program → List Nat
  | char (.exactly n) rest => n :: rest.leading
  | mark _ rest => rest.leading
  | _ => []

end Program

namespace Pattern

/-- The rule of a pattern that is one character. -/
def single? : Pattern → Option CharRule
  | char test flags => some (test.rule flags)
  | group body => body.single?
  | _ => none

/-- The slots of a capture. -/
def slot (index : Nat) : Nat := 2 * (index - 1)

/-- **The program that does what a pattern says, and then goes on.** -/
def before : Pattern → Program → Program
  | empty, rest => rest
  | never, _ => .never
  | char test flags, rest => .char (test.rule flags) rest
  | anchor a, rest => .anchor a rest
  | sequence first second, rest => first.before (second.before rest)
  | either first others, rest => .either (first.before (.done none)) (others.before (.done none)) rest
  | group body, rest => body.before rest
  | capture index body, rest =>
    .mark (slot index) (body.before (.mark (slot index + 1) rest))
  | reference index letters, rest => .reference index letters rest
  | conditional index present absent, rest =>
    let next := rest.first?
    .conditional index (present.before (.done (if absent = empty then next else none)))
      (absent.before (.done next)) rest
  | repeated least most greed body, rest =>
    match body.single? with
    | some rule => .run greed least most rule rest
    | none => .rounds greed least most (body.before (.done none)) rest
  | atomic body, rest => .atomic (body.before (.done none)) rest
  | around wanted back body, rest => .around wanted back (body.before (.done none)) rest

/-! ## Where a match can start -/

/-- The first of the patterns that a pattern is made of. -/
def first : Pattern → Pattern
  | sequence first _ => first
  | p => p

/-- The code point that an alternative starts with, if it starts with one that comes in no other
case. -/
def leadingCode? (p : Pattern) : Option Nat :=
  match p.first with
  | char (.code n false) flags => if flags.letters.isCased n then none else some n
  | _ => none

/-- The code points that alternatives start with, if each starts with one. -/
def leadingCodes? : Pattern → Option (List Nat)
  | never => some []
  | either p others => do return (← p.leadingCode?) :: (← others.leadingCodes?)
  | _ => none

/-- **A rule for the character that a match starts with.** A set gives one if it lists no letters, or
case counts; its categories are then those that hold for the pattern as a whole. -/
def startRule? (asciiOnly : Bool) : Pattern → Option CharRule
  | sequence first _ => first.startRule? asciiOnly
  | group body | capture _ body => body.startRule? asciiOnly
  | char (.within set) flags =>
    if flags.ignoreCase && set.items.any (fun item => match item with
        | .code n => flags.letters.isCased n
        | item => item.needsFold flags.letters)
    then none else some (set.plainRule asciiOnly)
  | either p others => do
    let codes ← (either p others).leadingCodes?
    return .oneOf .exact (codes.map fun n => .between n n) false
  | _ => none

end Pattern

/-- **What can be told of the places where a match starts.** -/
inductive PatternStart where
  /-- Nothing, except that so many characters have to follow. -/
  | anywhere (least : Nat)
  /-- Code points stand there, and so many characters have to follow. -/
  | codes (least : Nat) (codes : List Nat)
  /-- A character stands there that follows a rule, and so many characters have to follow. -/
  | rule (least : Nat) (rule : CharRule)
  deriving Repr, DecidableEq

/-- **A pattern that has been read.** -/
structure WrittenPattern where
  /-- The pattern. -/
  pattern : Pattern
  /-- The number of its captures. -/
  captures : Nat
  /-- The smallest number of characters it covers. -/
  least : Nat
  /-- Whether categories are those of ASCII, unless a group says otherwise. -/
  asciiOnly : Bool
  deriving Repr, DecidableEq

namespace WrittenPattern

/-- The program of a pattern. -/
def program (written : WrittenPattern) : Program := written.pattern.before (.done none)

/-- **Where a match can start.** A pattern that can cover nothing can match anywhere. -/
def start (written : WrittenPattern) : PatternStart :=
  if written.least = 0 then .anywhere 0
  else match written.program.leading with
    | [] =>
      match written.pattern.startRule? written.asciiOnly with
      | some rule => .rule written.least rule
      | none => .anywhere written.least
    | codes => .codes written.least codes

end WrittenPattern

end WhistledSpeech
