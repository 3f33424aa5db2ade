import WhistledSpeech.Pattern.Program

/-!
# Matching patterns

A program is carried out from a place in a text, and what is to follow it is handed along as a
continuation: a way to match counts only if the rest can go on from where it ends, and otherwise the
next way is tried. Repetition counts its rounds. Once enough have been made a further round is tried
only where it can make a difference, that is from another place than the round before, so a program
that covers nothing is not repeated without end; the number of rounds is bounded by the number
required and the length of the text.

An attempt that fails leaves traces. It may have noted captures, and it leaves the cursor where the
latest step put it that looks beyond one character. Going back to a choice forgets the captures noted
since; those noted before and changed since are brought back inside a repetition only. Nobody brings
back the cursor of a possessive repetition: the rounds made count, and what follows them goes on from
where the last round, which failed, left the cursor. That is not as it is documented, but it is how the
release behaves that texts are split with; a later one puts the cursor back to the end of the last round
that was made. How far the two are apart is said by `Program.possessiveRounds_cases`.

`WrittenPattern.split` cuts a text at its matches. What the pattern captured stands between the pieces it
was found between, and a match of nothing cuts as well, though never twice at one place.
-/

namespace WhistledSpeech

/-- **Where an attempt stands.** -/
structure Attempt where
  /-- The number of characters before the place reached. -/
  position : Nat
  /-- The cursor. -/
  cursor : Nat
  /-- The places noted so far, by slot. -/
  marks : List (Option Nat)
  /-- Whether a repetition is under way around this place. -/
  repeating : Bool
  deriving Repr, DecidableEq

/-- Where an attempt ended that got to its end, or else what a failed attempt leaves. -/
abbrev Attempted := Except Attempt Attempt

/-- What is to follow. -/
abbrev Continuation := Attempt → Attempted

/-- A way to match: given where an attempt stands, and what is to follow. -/
abbrev Matcher := Attempt → Continuation → Attempted

namespace Attempt

/-- An attempt that starts at a place. -/
def start (position : Nat) : Attempt := ⟨position, position, [], false⟩

/-- An attempt some characters on. -/
def advance (here : Attempt) (count : Nat) : Attempt :=
  { here with position := here.position + count }

/-- Puts the cursor to the place reached. -/
def setCursor (here : Attempt) : Attempt := { here with cursor := here.position }

/-- Goes to the place of the cursor. -/
def toCursor (here : Attempt) : Attempt := { here with position := here.cursor }

/-- Goes to a place, with the cursor. -/
def moveTo (here : Attempt) (position : Nat) : Attempt :=
  { here with position := position, cursor := position }

/-- Notes the place reached in a slot. Slots before it that have not been used stay empty. -/
def note (here : Attempt) (slot : Nat) : Attempt :=
  if slot < here.marks.length then { here with marks := here.marks.set slot (some here.position) }
  else
    let gap := List.replicate (slot - here.marks.length) none
    { here with marks := here.marks ++ gap ++ [some here.position] }

/-- **Goes back to a choice** after an attempt from there has failed. -/
def backFrom (here failed : Attempt) : Attempt :=
  { here with
    cursor := failed.cursor
    marks := if here.repeating then here.marks else failed.marks.take here.marks.length }

/-- The places in the two slots of a capture. -/
def ends? (here : Attempt) (index : Nat) : Option (Nat × Nat) :=
  match here.marks[Pattern.slot index]?, here.marks[Pattern.slot index + 1]? with
  | some (some start), some (some stop) => some (start, stop)
  | _, _ => none

/-- The stretch captured under a number. -/
def stretch? (here : Attempt) (index : Nat) : Option (Nat × Nat) :=
  match here.ends? index with
  | some (start, stop) => if start ≤ stop then some (start, stop) else none
  | none => none

/-- What follows an attempt that only has to get to its end. -/
def finish : Continuation := fun here => .ok here.setCursor

end Attempt

/-! ## Rounds -/

namespace Program

/-- Whether one more round is allowed. -/
def allows (most : Option Nat) (count : Nat) : Bool :=
  match most with
  | none => true
  | some limit => count < limit

/-- Tries something, and puts the cursor back if it fails. -/
def keepingCursor (here : Attempt) (result : Attempted) : Attempted :=
  match result with
  | .ok there => .ok there
  | .error failed => .error { failed with cursor := here.position }

/-- As many rounds as there can be, then fewer. `last` is where the latest round started that was
made although it was not required. What follows is no part of the repetition. -/
def greedyRounds (item : Matcher) (least : Nat) (most : Option Nat) (outside : Bool)
    (next : Continuation) : Nat → Nat → Option Nat → Continuation
  | 0, _, _, here => next { here with repeating := outside }
  | fuel + 1, count, last, here =>
    let here := here.setCursor
    let leave (here : Attempt) := keepingCursor here (next { here with repeating := outside })
    if count < least then
      keepingCursor here
        (item here (greedyRounds item least most outside next fuel (count + 1) last))
    else if allows most count && last != some here.position then
      match item here
          (greedyRounds item least most outside next fuel (count + 1) (some here.position)) with
      | .ok there => .ok there
      | .error _ => leave here
    else leave here

/-- As few rounds as there may be, then more. -/
def reluctantRounds (item : Matcher) (least : Nat) (most : Option Nat) (outside : Bool)
    (next : Continuation) : Nat → Nat → Option Nat → Continuation
  | 0, _, _, here => next { here with repeating := outside }
  | fuel + 1, count, last, here =>
    let here := here.setCursor
    if count < least then
      keepingCursor here
        (item here (reluctantRounds item least most outside next fuel (count + 1) last))
    else
      let left := { here with repeating := outside }
      match next left with
      | .ok there => .ok there
      | .error failed =>
        let back := { (left.backFrom failed).setCursor with repeating := here.repeating }
        if allows most count && last != some here.position then
          keepingCursor here (item back
            (reluctantRounds item least most outside next fuel (count + 1) (some here.position)))
        else .error back

/-- As many rounds as there can be, each made in the first way it can, from cursor to cursor. A last round
that fails leaves its cursor behind. -/
def possessiveRounds (item : Matcher) (least : Nat) (most : Option Nat) :
    Nat → Nat → Option Nat → Continuation
  | 0, _, _, here => .ok here
  | fuel + 1, count, last, here =>
    if count < least then
      match item here.toCursor Attempt.finish with
      | .ok there => possessiveRounds item least most fuel (count + 1) last there
      | .error failed => .error failed
    else if allows most count && last != some here.cursor then
      match item here.toCursor Attempt.finish with
      | .ok there => possessiveRounds item least most fuel (count + 1) (some here.cursor) there
      | .error failed => .ok { here with cursor := failed.cursor }
    else .ok here

/-- The rounds of a repetition, in the order its greed asks for. -/
def roundsOf (greed : Greed) (item : Matcher) (least : Nat) (most : Option Nat) (fuel : Nat) :
    Matcher := fun here next =>
  let started := { here.setCursor with repeating := true }
  match greed with
  | .greedy => greedyRounds item least most here.repeating next fuel 0 none started
  | .reluctant => reluctantRounds item least most here.repeating next fuel 0 none started
  | .possessive =>
    match possessiveRounds item least most fuel 0 none here.setCursor with
    | .ok there => next { there.toCursor with repeating := here.repeating }
    | .error failed => .error { failed with cursor := here.position }

/-! ## Runs of characters -/

/-- How many characters from a place on follow a rule, at most so many. -/
def countFrom (text : Array Char) (rule : CharRule) : Nat → Nat → Nat
  | 0, _ => 0
  | fuel + 1, position =>
    match text[position]? with
    | some c => if rule.holds c then countFrom text rule fuel (position + 1) + 1 else 0
    | none => 0

/-- How many characters follow a rule where an attempt stands, up to a limit. -/
def countAt (text : Array Char) (rule : CharRule) (most : Option Nat) (here : Attempt) : Nat :=
  let left := text.size - here.position
  countFrom text rule (match most with | some limit => min limit left | none => left) here.position

/-- An attempt that has counted characters. Only a rule that brings characters to lower case takes the
cursor along. -/
def counted (rule : CharRule) (count : Nat) (here : Attempt) : Attempt :=
  { here with cursor := if rule.isFoldedSet then here.position + count else here.position }

/-- Whether what follows can start with the character at a position. -/
def canFollow (text : Array Char) (following : Option Nat) (position : Nat) : Bool :=
  match following with
  | none => true
  | some n => (text[position]?).map Text.code == some n

/-- Goes on after the longest run that lets it, `extra` characters longer than the shortest at most. -/
def longestRun (text : Array Char) (following : Option Nat) (next : Continuation) (shortest : Nat)
    (here : Attempt) : Nat → Attempted
  | 0 =>
    let position := here.position + shortest
    if canFollow text following position then
      match next (here.moveTo position) with
      | .ok there => .ok there
      | .error failed => .error (here.backFrom failed)
    else .error here
  | extra + 1 =>
    let position := here.position + shortest + (extra + 1)
    if canFollow text following position then
      match next (here.moveTo position) with
      | .ok there => .ok there
      | .error failed => longestRun text following next shortest (here.backFrom failed) extra
    else longestRun text following next shortest here extra

/-- Goes on after the shortest run that lets it, from a run of `count` characters on. -/
def shortestRun (text : Array Char) (rule : CharRule) (most : Option Nat) (next : Continuation) :
    Nat → Nat → Continuation
  | 0, _, here => .error here
  | fuel + 1, count, here =>
    match next here.setCursor with
    | .ok there => .ok there
    | .error failed =>
      let back := here.backFrom failed
      let found := countAt text rule (some 1) back
      let after := counted rule found back
      if found = 0 then .error after
      else if allows most count then
        shortestRun text rule most next fuel (count + 1) (after.advance 1)
      else .error after

/-- A run of characters, of the length its greed asks for. -/
def runOf (text : Array Char) (greed : Greed) (least : Nat) (most : Option Nat) (rule : CharRule)
    (following : Option Nat) : Matcher := fun here next =>
  if text.size < here.position + least then .error here
  else
    let most' := match greed with
      | .reluctant => some least
      | _ => most
    let count := countAt text rule most' here
    let here := if greed = .reluctant && least = 0 then here.setCursor else counted rule count here
    if count < least then .error here
    else match greed with
      | .greedy => longestRun text following next least here (count - least)
      | .reluctant =>
        shortestRun text rule most next (text.size - here.position + 1) count (here.advance count)
      | .possessive => next (here.advance count)

/-! ## Places -/

/-- Whether the character at a position is a word character. -/
def wordAt (text : Array Char) (asciiOnly : Bool) (position : Nat) : Bool :=
  match text[position]? with
  | some c => Category.word.contains asciiOnly c
  | none => false

/-- Whether the character before a position is a word character. -/
def wordBefore (text : Array Char) (asciiOnly : Bool) (position : Nat) : Bool :=
  match position with
  | 0 => false
  | k + 1 => wordAt text asciiOnly k

/-- Whether two characters are there and count as the same. -/
def sameAt (text : Array Char) (letters : Text.LetterCase) (i j : Nat) : Bool :=
  match text[i]?, text[j]? with
  | some a, some b => letters.fold (Text.code a) == letters.fold (Text.code b)
  | _, _ => false

end Program

/-- **Whether a condition holds at a position of a text.** An empty text has no edges of words and no
insides of words either. -/
def Anchor.holds (text : Array Char) (position : Nat) : Anchor → Bool
  | .textStart => position == 0
  | .textEnd => position == text.size
  | .lineStart anyLine => position == 0 || (anyLine && text[position - 1]? == some '\n')
  | .lineEnd anyLine =>
    position == text.size ||
      ((anyLine || position + 1 == text.size) && text[position]? == some '\n')
  | .wordEdge asciiOnly inside =>
    text.size != 0 &&
      (Program.wordBefore text asciiOnly position != Program.wordAt text asciiOnly position) != inside

namespace Program

/-! ## Carrying out a program -/

/-- Whether a program that is one of some alternatives can be passed over: it starts with a character
that is not there. -/
def isHopeless (text : Array Char) (position : Nat) : Program → Bool
  | char rule _ =>
    match rule, text[position]? with
    | .exactly n, some c => Text.code c != n
    | .exactly _, none => true
    | rule, some c => rule.isPlainSet && !rule.holds c
    | rule, none => rule.isPlainSet
  | _ => false

/-- **Carries out a program** from where an attempt stands, with what is to follow. -/
def matcher (text : Array Char) : Program → Matcher
  | done _, here, next => next here
  | never, here, _ => .error here
  | char rule rest, here, next =>
    match text[here.position]? with
    | some c => if rule.holds c then matcher text rest (here.advance 1) next else .error here
    | none => .error here
  | anchor a rest, here, next =>
    if a.holds text here.position then matcher text rest here next else .error here
  | mark slot rest, here, next => matcher text rest (here.note slot) next
  | reference index letters rest, here, next =>
    match here.stretch? index with
    | none => .error here
    | some (start, stop) =>
      if (List.range (stop - start)).all fun k =>
          sameAt text letters (start + k) (here.position + k)
      then matcher text rest (here.advance (stop - start)) next else .error here
  | conditional index present absent rest, here, next =>
    let after : Continuation := fun there => matcher text rest there next
    if (here.stretch? index).isSome then matcher text present here after
    else matcher text absent here after
  | either first others rest, here, next =>
    let after : Continuation := fun there => matcher text rest there next
    if first.isHopeless text here.position then matcher text others here after
    else
      match matcher text first here.setCursor after with
      | .ok there => .ok there
      | .error failed => matcher text others (here.backFrom failed) after
  | run greed least most rule rest, here, next =>
    runOf text greed least most rule rest.first? here fun there => matcher text rest there next
  | rounds greed least most body rest, here, next =>
    roundsOf greed (matcher text body) least most (least + text.size + 2) here
      fun there => matcher text rest there next
  | atomic body rest, here, next =>
    match matcher text body here.setCursor Attempt.finish with
    | .ok there => matcher text rest { there.toCursor with repeating := here.repeating } next
    | .error failed => .error { failed with cursor := here.position }
  | around wanted back body rest, here, next =>
    let goOn (there : Attempt) :=
      matcher text rest { there with position := here.position, repeating := here.repeating } next
    if here.position < back then if wanted then .error here else goOn here
    else
      match matcher text body (here.moveTo (here.position - back)) Attempt.finish, wanted with
      | .ok there, true => goOn there
      | .error failed, false => goOn (here.backFrom failed)
      | .ok there, false => .error there
      | .error failed, true => .error failed

end Program

/-! ## Splitting -/

/-- **A match in a text.** -/
structure Found where
  /-- Where the match starts. -/
  start : Nat
  /-- Where the attempt ended. -/
  reached : Attempt

namespace PatternStart

/-- Whether a match can start at a position, as far as the text there goes. -/
def admits (text : Array Char) (position : Nat) : PatternStart → Bool
  | .anywhere _ => true
  | .codes _ expected =>
    expected.zipIdx.all fun code => (text[position + code.2]?).map Text.code == some code.1
  | .rule _ wanted =>
    match text[position]? with
    | some c => wanted.holds c
    | none => false

/-- The number of characters that have to follow. -/
def least : PatternStart → Nat
  | .anywhere least | .codes least _ | .rule least _ => least

/-- Whether matches are looked for everywhere. -/
def isAnywhere : PatternStart → Bool
  | .anywhere _ => true
  | _ => false

end PatternStart

namespace Program

/-- The first match that starts at a position or at one of those after it, so many in all. -/
def firstFrom (text : Array Char) (program : Program) (start : PatternStart) (position : Nat) :
    Nat → Option Found
  | 0 => none
  | count + 1 =>
    let found := if start.admits text position
      then (matcher text program (.start position) Attempt.finish).toOption else none
    match found with
    | some reached => some ⟨position, reached⟩
    | none => firstFrom text program start (position + 1) count

/-- **The next match** from a position on. After a match of nothing at that very position the next has
to cover something, if it starts there too and could start anywhere. -/
def next? (text : Array Char) (program : Program) (start : PatternStart) (position : Nat)
    (hasToAdvance : Bool) : Option Found :=
  if text.size < position + start.least then none
  else if start.isAnywhere then
    let ends : Continuation := fun here =>
      if hasToAdvance && here.position == position then .error here else Attempt.finish here
    match matcher text program (.start position) ends with
    | .ok reached => some ⟨position, reached⟩
    | .error _ =>
      firstFrom text program start (position + 1) (text.size - (start.least - 1) - position)
  else firstFrom text program start position (text.size - position)

end Program

/-- A stretch of a text. -/
def piece (text : Array Char) (start stop : Nat) : String :=
  String.ofList (text.extract start stop).toList

namespace Attempt

/-- What was captured, in the order of the numbers; nothing if some capture ends before it starts. -/
def captured? (text : Array Char) (captures : Nat) (here : Attempt) : Option (List String) :=
  ((List.range captures).filterMap fun k => here.ends? (k + 1)).mapM fun ends =>
    if ends.2 < ends.1 then none else some (piece text ends.1 ends.2)

end Attempt

namespace WrittenPattern

/-- The pieces of a text from a position on. -/
def pieces? (text : Array Char) (program : Program) (start : PatternStart) (captures : Nat) :
    Nat → Nat → Bool → Option (List String)
  | 0, position, _ => some [piece text position text.size]
  | fuel + 1, position, hasToAdvance =>
    match program.next? text start position hasToAdvance with
    | none => some [piece text position text.size]
    | some found => do
      let stop := found.reached.cursor
      let captured ← found.reached.captured? text captures
      let rest ← pieces? text program start captures fuel stop (stop == found.start)
      return piece text position found.start :: (captured ++ rest)

/-- **Cuts a text at the matches of a pattern**: the pieces between the matches, and between those what
was captured. A capture that ends before it starts is no piece, and then there are none. -/
def split? (written : WrittenPattern) (text : String) : Option (List String) :=
  let characters := text.toList.toArray
  pieces? characters written.program written.start written.captures (2 * characters.size + 2) 0 false

end WrittenPattern

end WhistledSpeech
