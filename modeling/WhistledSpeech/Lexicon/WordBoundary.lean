import WhistledSpeech.Document.Access
import WhistledSpeech.Pattern.Match
import WhistledSpeech.Pattern.Reader

/-!
# Words

A model may say what separates words. A text is then cut at every match, and what the separator
captured counts as words of its own; pieces of no characters are not words. Without a separator the
whole text is one word, be it empty.
-/

namespace WhistledSpeech

namespace PatternFault

/-- The fault of a model whose separator is no pattern. -/
def toFault : PatternFault → Fault
  | malformed => .malformedPattern
  | tooMany => .overflow
  | contrary => .contraryFlags
  | tooLong => .longInteger

end PatternFault

/-- **What separates words**: the pattern of a separator. -/
abbrev WordBoundary := WrittenPattern

namespace WordBoundary

/-- The boundary a value of a document gives, if it gives one. -/
def ofDocument (value : Document) : Except Fault (Option WordBoundary) :=
  if value.isEmptyValue then .ok none
  else match value with
    | .text written =>
      match WrittenPattern.read written with
      | .ok boundary => .ok (some boundary)
      | .error fault => .error fault.toFault
    | _ => .error .wrongType

/-- **The words of a text**, or the fault of a separator whose captures are no stretches of it. -/
def words (boundary? : Option WordBoundary) (text : String) : Feed String :=
  match boundary? with
  | none => Feed.ofList [text]
  | some boundary =>
    match boundary.split? text with
    | some pieces => Feed.ofList (pieces.filter fun piece => !piece.isEmpty)
    | none => Feed.broken .reversedCapture

end WordBoundary

end WhistledSpeech
