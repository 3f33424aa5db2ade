import WhistledSpeech.Lexicon.Entries
import WhistledSpeech.Lexicon.Graphemes
import WhistledSpeech.Lexicon.WordBoundary
import WhistledSpeech.Signal.Rendering

/-!
# Speakers: a model that pronounces text

A speaker is a compiled model: what separates words, the lexicon, and the constants that formulas
refer to. It pronounces a text word by word. A word with a pronunciation of its own takes that; any
other is cut into graphemes, and each grapheme is pronounced between its neighbours, the edge of the
word counting as the empty text. No neighbour is taken from another word.

A grapheme is pronounced only when the one after it is known. So where a word cannot be cut to its end,
the last grapheme found has not been pronounced when the fault is met; `contexts` says this in one
place.
-/

namespace WhistledSpeech

/-- **A grapheme between its neighbours.** -/
structure GraphemeContext where
  /-- The preceding grapheme, or the empty text. -/
  ante : String
  /-- The grapheme. -/
  current : String
  /-- The following grapheme, or the empty text. -/
  post : String
  deriving Repr, DecidableEq

namespace GraphemeContext

/-- **Each grapheme of a word with its neighbours**, given the grapheme before the first. The last one
has the edge of the word after it, unless the word breaks off there. -/
def ofGraphemes (ante : String) : List String → Option Fault → Feed GraphemeContext
  | [], fault => ⟨[], fault⟩
  | [current], none => Feed.ofList [⟨ante, current, ""⟩]
  | [_], some fault => Feed.broken fault
  | current :: post :: rest, fault =>
    Feed.cons ⟨ante, current, post⟩ (ofGraphemes current (post :: rest) fault)

end GraphemeContext

namespace Lexicon

/-- The graphemes of a lexicon. -/
def graphemeNames (lexicon : Lexicon) : List String := lexicon.graphemes.map Prod.fst

/-- The graphemes a word is cut into. -/
def cut (lexicon : Lexicon) (word : String) : Feed String :=
  Graphemes.cut (Graphemes.among lexicon.graphemeNames) word.toList

/-- The pronunciation of a word by its graphemes. -/
def spell (lexicon : Lexicon) (word : String) : Feed Document :=
  let graphemes := lexicon.cut word
  (GraphemeContext.ofGraphemes "" graphemes.items graphemes.fault).expand fun context =>
    Feed.ofExcept (lexicon.pronunciation context.ante context.current context.post)

/-- **The pronunciation of a word**: its own, or that of its graphemes. -/
def pronounceWord (lexicon : Lexicon) (word : String) : Feed Document :=
  match Document.find? word lexicon.words with
  | some segments => Feed.ofList segments
  | none => lexicon.spell word

end Lexicon

/-- **A compiled model.** -/
structure Speaker where
  /-- What separates words, if anything does. -/
  boundary : Option WordBoundary
  /-- The pronunciations. -/
  lexicon : Lexicon
  /-- The constants. -/
  scope : Scope Float

namespace Speaker

/-- **Compiles a model**: the boundary first, then the lexicon, then the constants. -/
def compile (model : List (String × Document)) : Except Fault Speaker := do
  let part (key : String) : Document := (Document.find? key model).getD .null
  let boundary ← WordBoundary.ofDocument (part "wordBoundary")
  let lexicon ← Lexicon.compile model
  let scope ← Scope.ofDocument (part "constants")
  return ⟨boundary, lexicon, scope⟩

/-- **The raw segments of a text.** -/
def pronounce (speaker : Speaker) (text : String) : Feed Document :=
  (WordBoundary.words speaker.boundary text).expand speaker.lexicon.pronounceWord

/-- The segments of a text. -/
def segments (speaker : Speaker) (text : String) : Feed (Segment Float) :=
  Rendering.segments speaker.scope none (speaker.pronounce text)

/-- The track of a text, moved by a voice if there is one. -/
def track (speaker : Speaker) (voice? : Option (Voice Float)) (text : String) (rate : Float)
    (atHand : Option (Array Float)) (offset : Int) : Except Fault (Array Float × Int) :=
  Rendering.track speaker.scope voice? (speaker.pronounce text) rate atHand offset

/-- **The sound of a text**: the samples and their number. -/
def tone (speaker : Speaker) (voice? : Option (Voice Float)) (text : String) (rate : Float) :
    Except Fault (Array Float × Int) :=
  Rendering.tone speaker.scope voice? (speaker.pronounce text) rate

/-- A text, without the white space at its ends, as an utterance. -/
def utterance (speaker : Speaker) (voice? : Option (Voice Float)) (text : String) : Utterance :=
  ⟨speaker.scope, voice?, speaker.pronounce (String.ofList (Text.strip text.toList))⟩

/-- The sound of a text without the white space at its ends. -/
def say (speaker : Speaker) (voice? : Option (Voice Float)) (text : String) (rate : Float) :
    Except Fault (Array Float) :=
  (speaker.utterance voice? text).samples rate

end Speaker

end WhistledSpeech
