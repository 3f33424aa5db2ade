import WhistledSpeech.Signal.Track

/-!
# Tones: a track made audible

A track becomes sound by a single sine whose phase moves on, sample by sample, by the frequency of the
sample. Sample `k` has the phase reached after `k` steps, so the last frequency is never used and a
change of frequency never makes the wave jump.
-/

namespace WhistledSpeech.Tone

open Arithmetic

variable {α : Type} [Arithmetic α]

/-- The cells of a track two by two: frequency and amplitude of each sample. -/
def pairs : List α → List (α × α)
  | f :: a :: rest => (f, a) :: pairs rest
  | _ => []

/-- The sums of the starts of a list, `sum` already being there. -/
def runningSums (sum : α) : List α → List α
  | [] => []
  | x :: rest => (sum + x) :: runningSums (sum + x) rest

/-- **The phases** of the samples: the first is `start`, and each later one is `start` and the sum of
the steps before it. -/
def phases (start : α) : List α → List α
  | [] => []
  | [_] => [start]
  | step :: rest => start :: (start + step) :: (runningSums step rest.dropLast).map (start + ·)

/-- **The samples** of a track at a rate that is not zero. -/
def samples (rate start : α) (track : List (α × α)) : List α :=
  let perSample := (nat 2 * pi) / rate
  let angles := phases start (track.map fun pair => pair.1 * perSample)
  List.zipWith (fun pair angle => toCell (pair.2 * sin angle)) track angles

/-- **Writes the samples of a track** from an offset on: into the buffer at hand, or without one into a
new buffer that ends with them. Everything that can be wrong is found before the first sample is
written. -/
def write (track : Array α) (rate : α) (atHand : Option (Array α)) (offset : Int) (start : α) :
    Written α :=
  if track.size % 2 = 1 then ⟨atHand.getD #[], .error (.oddInterlaced track.size)⟩
  else
    let track := pairs track.toList
    let stop := offset + track.length
    match destination (nat 0) atHand stop with
    | .error fault => ⟨atHand.getD #[], .error fault⟩
    | .ok buffer =>
      if eq rate (nat 0) then ⟨buffer, .error .zeroRate⟩
      else
        match (Stretch.between buffer.size offset stop 1).fill buffer (samples rate start track) with
        | .error fault => ⟨buffer, .error fault⟩
        | .ok filled => ⟨filled, .ok stop⟩

/-- **Renders a track**: the buffer with its samples, and the offset after them. -/
def render (track : Array α) (rate : α) (atHand : Option (Array α)) (offset : Int) (start : α) :
    Except Fault (Array α × Int) :=
  (write track rate atHand offset start).toExcept

end WhistledSpeech.Tone
