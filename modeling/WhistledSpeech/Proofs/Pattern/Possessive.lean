import WhistledSpeech.Pattern.Match
import WhistledSpeech.Pattern.Reader

/-!
# Possessive repetition and the cursor

A possessive repetition goes from cursor to cursor. If its last round fails, the cursor stays where that
round has left it, and what follows the repetition goes on from there (`Program.possessiveRounds`). That is
how the release of the matcher behaves that texts are split with. It is not what is documented: there a
possessive repetition is an atomic one, so the cursor belongs where the last round has ended that was made,
and later releases put it there. `Program.steadyRounds` is the repetition with that one thing changed.

The two differ in nothing else (`possessiveRounds_cases`). They make the same rounds, note the same places and
fail alike; and only where one more round is tried and fails the cursor may be another one, namely the one
that this round has left. So what leaves the cursor alone whenever it fails is repeated by both in the same
way, and that is every program that goes straight on (`possessiveRounds_of_isStraight`). It takes an
alternative, a run, a repetition or a look around inside the repetition for them to part.
-/

namespace WhistledSpeech.Program

/-- The rounds of a possessive repetition, with the cursor put back where the last of them fails. -/
def steadyRounds (item : Matcher) (least : Nat) (most : Option Nat) :
    Nat → Nat → Option Nat → Continuation
  | 0, _, _, here => .ok here
  | fuel + 1, count, last, here =>
    if count < least then
      match item here.toCursor Attempt.finish with
      | .ok there => steadyRounds item least most fuel (count + 1) last there
      | .error failed => .error failed
    else if allows most count && last != some here.cursor then
      match item here.toCursor Attempt.finish with
      | .ok there => steadyRounds item least most fuel (count + 1) (some here.cursor) there
      | .error _ => .ok here
    else .ok here

/-- **What becomes of the cursor**: the second of two results is the first, or the first with the cursor
where one more round has failed. -/
inductive Strays (item : Matcher) : Attempted → Attempted → Prop where
  /-- They are the same. -/
  | alike (result : Attempted) : Strays item result result
  /-- One more round has failed, and has left its cursor. -/
  | astray {there failed : Attempt} (fails : item there.toCursor Attempt.finish = .error failed) :
      Strays item (.ok there) (.ok { there with cursor := failed.cursor })

/-- **A possessive repetition makes the rounds it should**, and then its cursor may have strayed. -/
theorem possessiveRounds_cases (item : Matcher) (least : Nat) (most : Option Nat) (fuel count : Nat)
    (last : Option Nat) (here : Attempt) :
    Strays item (steadyRounds item least most fuel count last here)
      (possessiveRounds item least most fuel count last here) := by
  induction fuel generalizing count last here with
  | zero => exact .alike _
  | succ fuel ih =>
    rw [steadyRounds, possessiveRounds]
    by_cases required : count < least
    · rw [if_pos required, if_pos required]
      cases item here.toCursor Attempt.finish with
      | ok there => exact ih (count + 1) last there
      | error failed => exact .alike _
    · rw [if_neg required, if_neg required]
      by_cases further : (allows most count && last != some here.cursor) = true
      · rw [if_pos further, if_pos further]
        cases round : item here.toCursor Attempt.finish with
        | ok there => exact ih (count + 1) (some here.cursor) there
        | error failed => exact .astray round
      · rw [if_neg further, if_neg further]
        exact .alike _

/-- After `a` there is no `c`, so the repetition makes no round; yet the `b` that follows is looked for
behind the `a`, and all of the text is a match. -/
example : (WrittenPattern.read "(?:ab?c)*+b").toOption.bind (fun written => written.split? "ab")
    = some ["", ""] := by
  cbv

/-! ## Programs that do not stray -/

/-- **What leaves the cursor alone** wherever it fails. -/
def LeavesCursor (next : Continuation) : Prop :=
  ∀ here failed, next here = .error failed → failed.cursor = here.cursor

/-- **Where the cursor is left alone a possessive repetition is a steady one.** -/
theorem possessiveRounds_eq_steadyRounds {item : Matcher}
    (leaves : LeavesCursor fun here => item here Attempt.finish) (least : Nat) (most : Option Nat)
    (fuel count : Nat) (last : Option Nat) (here : Attempt) :
    possessiveRounds item least most fuel count last here
      = steadyRounds item least most fuel count last here := by
  have strays := possessiveRounds_cases item least most fuel count last here
  generalize possessiveRounds item least most fuel count last here = result at strays ⊢
  generalize steadyRounds item least most fuel count last here = steady at strays ⊢
  cases strays with
  | alike => rfl
  | @astray there failed fails =>
    rw [leaves there.toCursor failed fails]
    rfl

/-- A program that goes straight on: without alternatives, runs and repetitions, and without looking around. -/
def isStraight : Program → Bool
  | done _ | never => true
  | char _ rest | anchor _ rest | mark _ rest | reference _ _ rest => rest.isStraight
  | conditional _ present absent rest => present.isStraight && absent.isStraight && rest.isStraight
  | _ => false

/-- **A program that goes straight on leaves the cursor alone**, as far as what follows does. -/
theorem leavesCursor_matcher (text : Array Char) {program : Program} (straight : program.isStraight = true)
    {next : Continuation} (leaves : LeavesCursor next) :
    LeavesCursor fun here => matcher text program here next := by
  induction program generalizing next with
  | done first => exact leaves
  | never =>
    intro here failed fails
    cases fails
    rfl
  | char rule rest ih =>
    intro here failed fails
    dsimp only [matcher] at fails
    split at fails
    · split at fails
      · exact ih straight leaves (here.advance 1) failed fails
      · cases fails
        rfl
    · cases fails
      rfl
  | anchor a rest ih =>
    intro here failed fails
    dsimp only [matcher] at fails
    split at fails
    · exact ih straight leaves here failed fails
    · cases fails
      rfl
  | mark slot rest ih =>
    intro here failed fails
    have noted : (here.note slot).cursor = here.cursor := by
      unfold Attempt.note
      split <;> rfl
    exact (ih straight leaves (here.note slot) failed fails).trans noted
  | reference index letters rest ih =>
    intro here failed fails
    dsimp only [matcher] at fails
    split at fails
    · cases fails
      rfl
    · split at fails
      · exact ih straight leaves (here.advance _) failed fails
      · cases fails
        rfl
  | conditional index present absent rest ihPresent ihAbsent ihRest =>
    intro here failed fails
    rw [isStraight, Bool.and_eq_true, Bool.and_eq_true] at straight
    have after := ihRest straight.2 leaves
    dsimp only [matcher] at fails
    split at fails
    · exact ihPresent straight.1.1 after here failed fails
    · exact ihAbsent straight.1.2 after here failed fails
  | either | run | rounds | atomic | around => exact absurd straight nofun

/-- **What goes straight on is repeated possessively as it should be.** -/
theorem possessiveRounds_of_isStraight (text : Array Char) {body : Program}
    (straight : body.isStraight = true) (least : Nat) (most : Option Nat) (fuel count : Nat)
    (last : Option Nat) (here : Attempt) :
    possessiveRounds (matcher text body) least most fuel count last here
      = steadyRounds (matcher text body) least most fuel count last here :=
  possessiveRounds_eq_steadyRounds
    (leavesCursor_matcher text straight fun _ _ fails => absurd fails nofun) least most fuel count last here

end WhistledSpeech.Program
