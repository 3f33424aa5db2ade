import WhistledSpeech.Pattern.Listed
import WhistledSpeech.Pattern.Program
import WhistledSpeech.Text.Identifier

/-!
# Reading patterns

A pattern is read mark by mark. Groups nest, so the groups still open are kept on a stack; each holds
what has been read of its current alternative and the alternatives before it. Closing a group makes
one pattern of it, which joins what the group around it has. A group that neither captures nor has flags
of its own counts as one thing for a repetition behind it, and otherwise as the things inside it.

The flags of a pattern are read along: those at the very start hold everywhere, those of a group inside
it. Captures are numbered in the order in which they open, and may have names; a reference to a capture
asks for one that is closed.

`WrittenPattern.read` gives the pattern with the number of its captures.
-/

namespace WhistledSpeech

/-! ## Flags -/

/-- The letters of flags in a group: those turned on, those turned off, and whether they hold for the
whole pattern. -/
structure FlagLetters where
  /-- The flags turned on. -/
  on : List Char
  /-- The flags turned off. -/
  off : List Char
  /-- Whether they hold for the whole pattern. -/
  everywhere : Bool

namespace FlagLetters

/-- A letter of a flag. -/
def isFlag (c : Char) : Bool := ['i', 'm', 's', 'x', 'a', 'u', 't'].contains c

/-- A flag that can be turned off. -/
def canTurnOff (c : Char) : Bool := ['i', 'm', 's', 'x'].contains c

/-- Whether letters ask for ASCII only and for every script. -/
def areContrary (letters : List Char) : Bool := letters.contains 'a' && letters.contains 'u'

/-- Whether letters forbid repetition, which can only hold for the whole pattern. -/
def forbidRepetition (letters : List Char) : Bool := letters.contains 't'

/-- **Reads the letters of flags** and the mark that ends them. -/
def read (marks : List Mark) : Except PatternFault (FlagLetters × List Mark) :=
  let on := Mark.takeWhile isFlag marks
  if areContrary on.1 then .error .malformed
  else match on.2 with
    | .plain ')' :: rest => if on.1.isEmpty then .error .malformed else .ok (⟨on.1, [], true⟩, rest)
    | .plain ':' :: rest =>
      if forbidRepetition on.1 then .error .malformed else .ok (⟨on.1, [], false⟩, rest)
    | .plain '-' :: rest =>
      let off := Mark.takeWhile canTurnOff rest
      if forbidRepetition on.1 || off.1.isEmpty || off.1.any on.1.contains then .error .malformed
      else match off.2 with
        | .plain ':' :: rest => .ok (⟨on.1, off.1, false⟩, rest)
        | _ => .error .malformed
    | _ => .error .malformed

end FlagLetters

/-! ## Groups -/

/-- **What a group becomes when it closes.** -/
inductive Opening where
  /-- The things inside it. -/
  | bare
  /-- A pattern with flags of its own. -/
  | flagged
  /-- A capture. -/
  | capture (index : Nat)
  /-- A pattern of which only the first way to match counts. -/
  | atomic
  /-- A condition on what follows. -/
  | ahead (wanted : Bool)
  /-- A condition on what stands before. `outermost` tells whether it is in no other. -/
  | behind (wanted outermost : Bool)
  /-- One of two alternatives, by a capture. -/
  | conditional (index : Nat)
  deriving Repr, DecidableEq

/-- A thing that has been read: the patterns it is made of, and whether it may be repeated. -/
structure PatternItem where
  /-- The patterns, of which there is one except for a bare group. -/
  parts : List Pattern
  /-- Whether it may be repeated. -/
  repeatable : Bool

/-- **A group that is open.** -/
structure OpenGroup where
  /-- What it will become. -/
  opening : Opening
  /-- The flags inside it. -/
  flags : PatternFlags
  /-- The alternatives before the current one, the latest first. -/
  alternatives : List (List Pattern)
  /-- What the current alternative has so far, the latest first. -/
  items : List PatternItem

namespace OpenGroup

/-- A group just opened. -/
def start (opening : Opening) (flags : PatternFlags) : OpenGroup := ⟨opening, flags, [], []⟩

/-- Adds to the current alternative. -/
def push (group : OpenGroup) (parts : List Pattern) (repeatable : Bool) : OpenGroup :=
  { group with items := ⟨parts, repeatable⟩ :: group.items }

/-- The current alternative. -/
def current (group : OpenGroup) : List Pattern := group.items.reverse.flatMap PatternItem.parts

/-- Ends the current alternative. Of a choice by a capture there are two at most. -/
def turn (group : OpenGroup) : Except PatternFault OpenGroup :=
  match group.opening, group.alternatives with
  | .conditional _, _ :: _ => .error .malformed
  | _, _ => .ok { group with alternatives := group.current :: group.alternatives, items := [] }

/-- All alternatives as patterns one after the other. -/
def parts (group : OpenGroup) : List Pattern :=
  Pattern.ofAlternatives group.flags (group.current :: group.alternatives).reverse

/-- All alternatives as one pattern. -/
def whole (group : OpenGroup) : Pattern := Pattern.all group.parts

end OpenGroup

/-- **How far a pattern has been read.** -/
structure PatternReading where
  /-- The innermost open group. -/
  inner : OpenGroup
  /-- The open groups around it, from the inside out. -/
  outer : List OpenGroup
  /-- The number of captures opened. -/
  captures : Nat
  /-- The captures that have a name. -/
  names : List (String × Nat)
  /-- The widths of the captures that are closed. -/
  widths : List (Nat × PatternWidth)
  /-- Inside a condition on what stands before: the number of captures opened before it. -/
  bound : Option Nat
  /-- The captures that choices depend on. -/
  awaited : List Nat
  /-- The letters of the flags that hold everywhere. -/
  letters : List Char
  /-- Whether some condition on what stands before is of no fixed width. -/
  unfixed : Bool
  /-- Whether something is repeated. -/
  repeats : Bool

namespace PatternReading

/-- Nothing read. -/
def start : PatternReading :=
  ⟨.start .bare .none, [], 0, [], [], none, [], [], false, false⟩

/-- The flags that hold here. -/
def flags (reading : PatternReading) : PatternFlags := reading.inner.flags

/-- Adds a pattern that may be repeated. -/
def push (reading : PatternReading) (pattern : Pattern) : PatternReading :=
  { reading with inner := reading.inner.push [pattern] true }

/-- Adds a condition on the place. -/
def pushAnchor (reading : PatternReading) (a : Anchor) : PatternReading :=
  { reading with inner := reading.inner.push [.anchor a] false }

/-- Adds a test of one character. -/
def pushTest (reading : PatternReading) (test : CharTest) : PatternReading :=
  reading.push (.char test reading.flags)

/-- Adds a character. -/
def pushCode (reading : PatternReading) (code : Nat) : PatternReading :=
  reading.pushTest (.code code false)

/-- The width of a closed capture. -/
def widthOf (reading : PatternReading) (index : Nat) : PatternWidth :=
  (reading.widths.lookup index).getD .zero

/-- Whether a capture is closed. -/
def isClosed (reading : PatternReading) (index : Nat) : Bool :=
  (reading.widths.lookup index).isSome

/-- Whether a condition on what stands before may depend on a capture: one closed before it opened. -/
def isWithinBound (reading : PatternReading) (index : Nat) : Bool :=
  match reading.bound with
  | none => true
  | some bound => reading.isClosed index && index ≤ bound

/-- Opens a group. -/
def openGroup (reading : PatternReading) (opening : Opening) (flags : PatternFlags) :
    PatternReading :=
  { reading with inner := .start opening flags, outer := reading.inner :: reading.outer }

/-- Opens the next capture. -/
def openCapture (reading : PatternReading) : PatternReading :=
  let opened := reading.openGroup (.capture (reading.captures + 1)) reading.flags
  { opened with captures := reading.captures + 1 }

/-- Opens the next capture under a name, which has to be new. -/
def openNamed (reading : PatternReading) (name : String) : Except PatternFault PatternReading :=
  if (reading.names.lookup name).isSome then .error .malformed
  else .ok { reading.openCapture with names := (name, reading.captures + 1) :: reading.names }

/-- Opens a condition on what stands before. -/
def openBehind (reading : PatternReading) (wanted : Bool) : PatternReading :=
  let opened := reading.openGroup (.behind wanted reading.bound.isNone) reading.flags
  { opened with bound := reading.bound.or (some reading.captures) }

/-- **Closes the innermost group.** -/
def close (reading : PatternReading) : Except PatternFault PatternReading :=
  match reading.outer with
  | [] =>
    .error (if FlagLetters.areContrary reading.letters then .contrary else .malformed)
  | around :: outer =>
    let group := reading.inner
    let body := group.whole
    let back : PatternReading := { reading with inner := around, outer := outer }
    match group.opening with
    | .bare => .ok { back with inner := around.push group.parts true }
    | .flagged => .ok (back.push (.group body))
    | .capture index =>
      let closed := back.push (.capture index body)
      .ok { closed with widths := (index, body.width reading.widthOf) :: reading.widths }
    | .atomic => .ok (back.push (.atomic body))
    | .ahead wanted => .ok (back.push (.around wanted 0 body))
    | .behind wanted outermost =>
      let bound := if outermost then none else reading.bound
      match (body.width reading.widthOf).fixed? with
      | some width => .ok { back.push (.around wanted width body) with bound := bound }
      | none => .ok { back.push (.around wanted 0 body) with bound := bound, unfixed := true }
    | .conditional index =>
      match group.alternatives with
      | [] => .ok (back.push (.conditional index (.all group.current) .empty))
      | present :: _ =>
        .ok (back.push (.conditional index (.all present) (.all group.current)))

/-- Adds a reference to a capture, which has to be closed. -/
def refer (reading : PatternReading) (index : Nat) : Except PatternFault PatternReading :=
  if reading.isClosed index && reading.isWithinBound index then
    .ok (reading.push (.reference index reading.flags.letters))
  else .error .malformed

/-! ## Escapes -/

/-- Adds what an escape of a digit other than zero stands for: three base-eight digits are a code
point, anything else is a reference by a number of at most two digits. -/
def addDigits (reading : PatternReading) (c : Char) (rest : List Mark) :
    Except PatternFault (PatternReading × List Mark) :=
  let more := Mark.takeAtMost Text.isAsciiDigit 1 rest
  let third := Mark.takeAtMost Mark.isOctal 1 more.2
  match more.1, third.1 with
  | [d], [e] =>
    if Mark.isOctal c && Mark.isOctal d then
      let code := Mark.inBase 8 [c, d, e]
      if code ≤ 0xFF then .ok (reading.pushCode code, third.2) else .error .malformed
    else (reading.refer (Mark.inBase 10 [c, d])).map fun reading => (reading, more.2)
  | digits, _ =>
    (reading.refer (Mark.inBase 10 (c :: digits))).map fun reading => (reading, more.2)

/-- Adds what an escape stands for. -/
def addEscape (reading : PatternReading) (c : Char) (rest : List Mark) :
    Except PatternFault (PatternReading × List Mark) :=
  let flags := reading.flags
  match Mark.category? c with
  | some (kind, outside) =>
    .ok (reading.pushTest (.within ⟨[.category kind outside], false⟩), rest)
  | none =>
    match c with
    | 'A' => .ok (reading.pushAnchor .textStart, rest)
    | 'Z' => .ok (reading.pushAnchor .textEnd, rest)
    | 'b' => .ok (reading.pushAnchor (.wordEdge flags.ascii false), rest)
    | 'B' => .ok (reading.pushAnchor (.wordEdge flags.ascii true), rest)
    | '0' => (Mark.octalCode c rest).map fun read => (reading.pushCode read.1, read.2)
    | _ =>
      if Text.isAsciiDigit c then reading.addDigits c rest
      else (Mark.escapedCode c rest).map fun read => (reading.pushCode read.1, read.2)

/-! ## Repetition -/

/-- The number from which on repetitions cannot be counted. -/
def tooManyRepeats : Nat := 4294967295

/-- The limit that digits write, if there are any. -/
def limit? (digits : List Char) : Except PatternFault (Option Nat) :=
  if digits.isEmpty then .ok none
  else if Text.digitLimit < digits.length then .error .tooLong
  else
    let n := Mark.inBase 10 digits
    if n < tooManyRepeats then .ok (some n) else .error .tooMany

/-- The limits between braces, and what follows; nothing if the braces hold no limits and so stand for
themselves. They are looked at only after what follows them has proved to be a mark. -/
def limits? (marks : List Mark) :
    Except PatternFault (Option ((Nat × Option Nat) × List Mark)) :=
  let low := Mark.takeWhile Text.isAsciiDigit marks
  let high := match low.2 with
    | .plain ',' :: rest => Mark.takeWhile Text.isAsciiDigit rest
    | rest => (low.1, rest)
  match marks.head?, high.2 with
  | some (.plain '}'), _ => .ok none
  | _, [.plain '}', .lone] => .error .malformed
  | _, .plain '}' :: rest => do
    let least ← limit? low.1
    let most ← limit? high.1
    match least, most with
    | some a, some b => if b < a then .error .malformed else return some ((a, some b), rest)
    | _, _ => return some ((least.getD 0, most), rest)
  | _, _ => .ok none

/-- **Repeats the last item.** There has to be one, and neither a condition on the place nor a repetition
can be repeated. -/
def repeatLast (reading : PatternReading) (least : Nat) (most : Option Nat) (rest : List Mark) :
    Except PatternFault (PatternReading × List Mark) :=
  match reading.inner.items with
  | ⟨parts, true⟩ :: before =>
    let greed : Greed × List Mark := match rest with
      | .plain '?' :: rest => (.reluctant, rest)
      | .plain '+' :: rest => (.possessive, rest)
      | _ => (.greedy, rest)
    let repeated := Pattern.repeated least most greed.1 (.all parts)
    let inner := { reading.inner with items := ⟨[repeated], false⟩ :: before }
    .ok ({ reading with inner := inner, repeats := true }, greed.2)
  | _ => .error .malformed

/-- Adds what an opening brace stands for. -/
def addBrace (reading : PatternReading) (rest : List Mark) :
    Except PatternFault (PatternReading × List Mark) := do
  match ← limits? rest with
  | none => return (reading.pushCode 0x7B, rest)
  | some (limits, after) => reading.repeatLast limits.1 limits.2 after

/-! ## Opening groups -/

/-- Opens a group behind the letter that announces a name: a capture with a name, or a reference to
one. -/
def addNamed (reading : PatternReading) (marks : List Mark) :
    Except PatternFault (PatternReading × List Mark) :=
  match marks with
  | .plain '<' :: rest =>
    match Mark.until? '>' rest with
    | some (name, after) =>
      if Text.isIdentifier name then (reading.openNamed (String.ofList name)).map fun opened => (opened, after)
      else .error .malformed
    | none => .error .malformed
  | .plain '=' :: rest =>
    match Mark.until? ')' rest with
    | some (name, after) =>
      match reading.names.lookup (String.ofList name) with
      | some index => (reading.refer index).map fun referred => (referred, after)
      | none => .error .malformed
    | none => .error .malformed
  | _ => .error .malformed

/-- The number from which on captures cannot be counted. -/
def tooManyCaptures : Nat := 1073741823

/-- The capture that a choice names, by its name or its number. -/
def awaitedCapture? (reading : PatternReading) (name : List Char) : Option Nat :=
  if Text.isIdentifier name then reading.names.lookup (String.ofList name)
  else match Text.integer? name with
    | some n => if 0 < n && n < tooManyCaptures then some n.toNat else none
    | none => none

/-- Opens a choice by a capture, which has to be there in the end. -/
def openConditional (reading : PatternReading) (marks : List Mark) :
    Except PatternFault (PatternReading × List Mark) :=
  match Mark.until? ')' marks with
  | some (name, after) =>
    match reading.awaitedCapture? name with
    | some index =>
      if reading.isWithinBound index then
        let opened := reading.openGroup (.conditional index) reading.flags
        .ok ({ opened with awaited := index :: reading.awaited }, after)
      else .error .malformed
    | none => .error .malformed
  | none => .error .malformed

/-- Sets flags, for the whole pattern or for a group that opens. For the whole pattern they have to
stand at its very start. -/
def addFlags (reading : PatternReading) (marks : List Mark) :
    Except PatternFault (PatternReading × List Mark) := do
  let (letters, after) ← FlagLetters.read marks
  let flags := (reading.flags.turnAll letters.on true).turnAll letters.off false
  if letters.everywhere then
    let isFirst := reading.outer.isEmpty && reading.inner.alternatives.isEmpty &&
      reading.inner.items.isEmpty
    if isFirst then
      let all := letters.on ++ reading.letters
      return ({ reading with inner := .start .bare flags, letters := all }, after)
    else .error .malformed
  else return (reading.openGroup .flagged flags, after)

/-- **Opens a group**, by what follows its parenthesis. -/
def addGroup (reading : PatternReading) (marks : List Mark) :
    Except PatternFault (PatternReading × List Mark) :=
  let opened (opening : Opening) (rest : List Mark) :=
    Except.ok (reading.openGroup opening reading.flags, rest)
  match marks with
  | .plain '?' :: .plain 'P' :: rest => reading.addNamed rest
  | .plain '?' :: .plain ':' :: rest => opened .bare rest
  | .plain '?' :: .plain '>' :: rest => opened .atomic rest
  | .plain '?' :: .plain '=' :: rest => opened (.ahead true) rest
  | .plain '?' :: .plain '!' :: rest => opened (.ahead false) rest
  | .plain '?' :: .plain '<' :: .plain '=' :: rest => .ok (reading.openBehind true, rest)
  | .plain '?' :: .plain '<' :: .plain '!' :: rest => .ok (reading.openBehind false, rest)
  | .plain '?' :: .plain '(' :: rest => reading.openConditional rest
  | .plain '?' :: .plain '#' :: rest =>
    match Mark.until? ')' rest with
    | some (_, after) => .ok (reading, after)
    | none => .error .malformed
  | .plain '?' :: rest => reading.addFlags rest
  | rest => .ok (reading.openCapture, rest)

/-! ## The whole pattern -/

/-- White space that a verbose pattern passes over. -/
def isPassedOver (c : Char) : Bool :=
  c.toNat == 0x20 || (0x09 ≤ c.toNat && c.toNat ≤ 0x0D)

/-- What follows the end of a line. -/
def afterLine : List Mark → List Mark
  | [] => []
  | .lone :: _ => [.lone]
  | .plain '\n' :: rest => rest
  | _ :: rest => afterLine rest

/-- Adds what a character stands for that is not behind a backslash. -/
def addPlain (reading : PatternReading) (c : Char) (rest : List Mark) :
    Except PatternFault (PatternReading × List Mark) :=
  let flags := reading.flags
  match c with
  | '.' => .ok (reading.pushTest .any, rest)
  | '^' => .ok (reading.pushAnchor (.lineStart flags.multiline), rest)
  | '$' => .ok (reading.pushAnchor (.lineEnd flags.multiline), rest)
  | '[' => (CharSet.read rest).map fun read => (reading.pushTest read.1, read.2)
  | '(' => reading.addGroup rest
  | ')' => reading.close.map fun closed => (closed, rest)
  | '|' => reading.inner.turn.map fun inner => ({ reading with inner := inner }, rest)
  | '?' => reading.repeatLast 0 (some 1) rest
  | '*' => reading.repeatLast 0 none rest
  | '+' => reading.repeatLast 1 none rest
  | '{' => reading.addBrace rest
  | _ => .ok (reading.pushCode (Text.code c), rest)

/-- **Reads one thing** that starts with a given mark. -/
def step (reading : PatternReading) (mark : Mark) (rest : List Mark) :
    Except PatternFault (PatternReading × List Mark) :=
  match mark with
  | .lone => .error .malformed
  | .escaped c => reading.addEscape c rest
  | .plain c =>
    if reading.flags.verbose && isPassedOver c then .ok (reading, rest)
    else if reading.flags.verbose && c == '#' then .ok (reading, afterLine rest)
    else reading.addPlain c rest

/-- Reads marks to their end. -/
def readAll : Nat → PatternReading → List Mark → Except PatternFault PatternReading
  | _, reading, [] => .ok reading
  | 0, _, _ :: _ => .error .malformed
  | fuel + 1, reading, mark :: rest => do
    let (reading, rest) ← reading.step mark rest
    readAll fuel reading rest

/-- **The pattern that has been read to its end.** The captures that choices depend on have to be there,
and nothing may be repeated if that is forbidden. -/
def finish (reading : PatternReading) : Except PatternFault WrittenPattern :=
  if !reading.outer.isEmpty then .error .malformed
  else if FlagLetters.areContrary reading.letters then .error .contrary
  else if reading.unfixed || reading.awaited.any (reading.captures < ·) ||
      (FlagLetters.forbidRepetition reading.letters && reading.repeats) then .error .malformed
  else
    let pattern := reading.inner.whole
    .ok ⟨pattern, reading.captures, (pattern.width reading.widthOf).least, reading.flags.ascii⟩

end PatternReading

/-- **Reads a pattern.** -/
def WrittenPattern.read (text : String) : Except PatternFault WrittenPattern := do
  let marks := Mark.ofChars text.toList
  (← PatternReading.readAll marks.length .start marks).finish

end WhistledSpeech
