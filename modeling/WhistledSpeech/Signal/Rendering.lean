import WhistledSpeech.Signal.Linking
import WhistledSpeech.Signal.Tone
import WhistledSpeech.Signal.Track
import WhistledSpeech.Signal.Voice

/-!
# From raw segments to sound

The way every utterance takes, whether its raw segments come from a text or were written down: they
are linked and resolved, moved by a voice if there is one, written into a track and made audible. All
segments are resolved before the first sample is written.
-/

namespace WhistledSpeech

namespace Rendering

/-- **The segments of raw segments**, moved by a voice if there is one. -/
def segments (scope : Scope Float) (voice? : Option (Voice Float)) (source : Feed Document) :
    Feed (Segment Float) :=
  let resolved := Segment.normalize scope Links.initial source
  match voice? with
  | none => resolved
  | some voice => voice.mapSegments resolved

/-- **The track of raw segments**, written at an offset of a buffer or into a new one; with it, the
offset after the write. -/
def track (scope : Scope Float) (voice? : Option (Voice Float)) (source : Feed Document)
    (rate : Float) (atHand : Option (Array Float)) (offset : Int) :
    Except Fault (Array Float × Int) := do
  let resolved ← (segments scope voice? source).toExcept
  (Track.write (some scope) resolved rate atHand offset).toExcept

/-- **The sound of raw segments**: the samples and their number. -/
def tone (scope : Scope Float) (voice? : Option (Voice Float)) (source : Feed Document)
    (rate : Float) : Except Fault (Array Float × Int) := do
  let (buffer, _) ← track scope voice? source rate none 0
  Tone.render buffer rate none 0 0

/-- The first fault of the sound of raw segments, without the sound. -/
def check (scope : Scope Float) (voice? : Option (Voice Float)) (source : Feed Document)
    (rate : Float) : Except Fault Unit := do
  let resolved ← (segments scope voice? source).toExcept
  Track.check (some scope) resolved rate
  if Arithmetic.eq rate 0 then throw .zeroRate

end Rendering

/-- **What is to be heard**: raw segments, the constants that their formulas refer to, and the voice
that moves them, if there is one. -/
structure Utterance where
  /-- The constants. -/
  scope : Scope Float
  /-- The voice. -/
  voice? : Option (Voice Float)
  /-- The raw segments. -/
  source : Feed Document

namespace Utterance

/-- The segments of an utterance. -/
def segments (utterance : Utterance) : Except Fault (List (Segment Float)) :=
  (Rendering.segments utterance.scope utterance.voice? utterance.source).toExcept

/-- **The samples of an utterance.** -/
def samples (utterance : Utterance) (rate : Float) : Except Fault (Array Float) :=
  (Rendering.tone utterance.scope utterance.voice? utterance.source rate).map Prod.fst

/-- The first fault of an utterance that nobody is to hear. -/
def check (utterance : Utterance) (rate : Float) : Except Fault Unit :=
  Rendering.check utterance.scope utterance.voice? utterance.source rate

end Utterance

end WhistledSpeech
