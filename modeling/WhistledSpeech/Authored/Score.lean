import WhistledSpeech.Authored.Segment
import WhistledSpeech.Signal.Rendering

/-!
# Scores

Sound can be written down without a text, segment by segment. Such a score is a list of segments, at
least one of them, alone or in an object beside the constants that its formulas refer to.
-/

namespace WhistledSpeech.Authored

/-- **A score.** -/
structure Score where
  /-- The segments. -/
  segments : List Segment
  /-- The constants of their formulas. -/
  constants : List (String × Quantity)

namespace Score

/-- A list of segments, at least one. -/
def segments? (value : Document) : Option (List Segment) :=
  match list? Segment.ofDocument? value with
  | some (first :: rest) => some (first :: rest)
  | _ => none

/-- **The score of a value.** -/
def ofDocument? : Document → Option Score
  | .object entries => do
    let segments ← required segments? "segments" entries
    let constants ← withDefault (table? Quantity.ofDocument?) "constants" [] entries
    return ⟨segments, constants⟩
  | value => (segments? value).map fun segments => ⟨segments, []⟩

/-- The score of a document that has to be one. -/
def ofDocument (value : Document) : Except Fault Score :=
  match ofDocument? value with
  | some score => .ok score
  | none => .error .invalidDocument

/-- The segments as raw segments. -/
def rawSegments (score : Score) : List Document := score.segments.map Segment.toDocument

/-- The constants as a document. -/
def constantsDocument (score : Score) : Document := ofTable Quantity.toDocument score.constants

/-- A score as an utterance. -/
def utterance (score : Score) (voice? : Option (Voice Float)) : Except Fault Utterance := do
  let scope ← Scope.ofDocument score.constantsDocument
  return ⟨scope, voice?, Feed.ofList score.rawSegments⟩

/-- **The sound of a score**, moved by a voice if there is one. -/
def tone (score : Score) (voice? : Option (Voice Float)) (rate : Float) :
    Except Fault (Array Float) := do
  (← score.utterance voice?).samples rate

end Score

end WhistledSpeech.Authored
