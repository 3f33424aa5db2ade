import WhistledSpeech.Signal.Profile
import WhistledSpeech.Signal.Stretch

/-!
# Tracks: frequency and amplitude, sample by sample

A track is a buffer in which the frequency and the amplitude of each sample stand next to each other.
Segments are written into it one after the other, from an offset on, each over as many samples as its
time holds; a segment of no samples is passed over. The offset after the last one is where the next
write can go on.

The lane of the frequencies is written before the amplitudes are computed, so a write that meets a
fault keeps what was written up to there: `Written` gives the buffer along with the outcome.
-/

namespace WhistledSpeech

open Arithmetic

variable {α : Type} [Arithmetic α]

/-- The fault of a number of samples that cannot be counted. -/
def CountFault.toFault : CountFault → Fault
  | infinite => .overflow
  | undefined => .undefinedCount

/-- **The number of samples** in a time of `run` milliseconds. -/
def sampleCount (run rate : α) : Except Fault Int :=
  match floor (run * rate / nat 1000) with
  | .ok count => .ok count
  | .error fault => .error fault.toFault

/-- The number of samples of all segments together. -/
def totalCount (rate : α) : List (Segment α) → Except Fault Int
  | [] => .ok 0
  | segment :: rest => do
    let count ← sampleCount segment.run rate
    let others ← totalCount rate rest
    return count + others

/-- The length of the track of some segments: two cells for each sample. -/
def trackLength (rate : α) (segments : List (Segment α)) : Except Fault Int := do
  let count ← totalCount rate segments
  return 2 * count

namespace Profile

/-- **The levels of a profile** at the first `count` points, as cells keep them. -/
def levels (profile : Profile α) (count : Nat) : Except Fault (List α) :=
  (List.range count).mapM fun (k : Nat) => (profile.eval (ofInt k)).map toCell

/-- The fault of the levels at the first `count` points, if there is one. Only the levels of a formula
have to be computed for that. -/
def check (profile : Profile α) (count : Nat) : Except Fault Unit :=
  match profile with
  | ramp r =>
    match r.shape with
    | .formula .. => count.forM fun k _ => (profile.eval (ofInt k)).map fun _ => ()
    | _ => .ok ()
  | _ => .ok ()

end Profile

/-- **What a write leaves**: the buffer, and the offset after the write or the fault that ended it. -/
structure Written (α : Type) where
  /-- The buffer, with everything written before a fault. -/
  buffer : Array α
  /-- Where the next write can go on. -/
  outcome : Except Fault Int

namespace Track

/-- The stretch of a lane: every second cell from `first` to before `stop`. -/
def lane (size : Nat) (first stop : Int) : Stretch := Stretch.between size first stop 2

/-- **Writes one lane** of a segment and goes on with the other, or with nothing. A lane whose levels
cannot be computed is not begun. -/
def writeLane (buffer : Array α) (stretch : Stretch) (profile : Profile α) (count : Nat)
    (next : Array α → Written α) : Written α :=
  match profile.levels count with
  | .error fault => ⟨buffer, .error fault⟩
  | .ok values =>
    match stretch.spread values with
    | .error fault => ⟨buffer, .error fault⟩
    | .ok cells => next (stretch.put buffer 0 cells)

/-- **Writes one segment** of a known number of samples: both profiles are made, then the frequencies
are written, then the amplitudes. -/
def writeSegment (scope? : Option (Scope α)) (buffer : Array α) (offset count : Int)
    (segment : Segment α) : Written α :=
  let stop := offset + 2 * count
  match segment.f.profile (ofInt count) scope?, segment.a.profile (ofInt count) scope? with
  | .error fault, _ => ⟨buffer, .error fault⟩
  | .ok _, .error fault => ⟨buffer, .error fault⟩
  | .ok frequency, .ok amplitude =>
    writeLane buffer (lane buffer.size offset stop) frequency count.toNat fun buffer =>
      writeLane buffer (lane buffer.size (offset + 1) stop) amplitude count.toNat fun buffer =>
        ⟨buffer, .ok stop⟩

/-- Writes segments one after the other into a buffer known to be long enough. -/
def writeAll (scope? : Option (Scope α)) (rate : α) (buffer : Array α) (offset : Int) :
    List (Segment α) → Written α
  | [] => ⟨buffer, .ok offset⟩
  | segment :: rest =>
    match sampleCount segment.run rate with
    | .error fault => ⟨buffer, .error fault⟩
    | .ok count =>
      if count = 0 then writeAll scope? rate buffer offset rest
      else
        match writeSegment scope? buffer offset count segment with
        | ⟨buffer, .error fault⟩ => ⟨buffer, .error fault⟩
        | ⟨buffer, .ok offset⟩ => writeAll scope? rate buffer offset rest

/-- **Writes segments into a track** from an offset on: into the buffer at hand, or without one into
a new buffer that ends with them. A buffer that is too short is left as it is. -/
def write (scope? : Option (Scope α)) (segments : List (Segment α)) (rate : α)
    (atHand : Option (Array α)) (offset : Int) : Written α :=
  match totalCount rate segments with
  | .error fault => ⟨atHand.getD #[], .error fault⟩
  | .ok pairs =>
    match destination (nat 0) atHand (offset + 2 * pairs) with
    | .error fault => ⟨atHand.getD #[], .error fault⟩
    | .ok buffer => writeAll scope? rate buffer offset segments

/-! ### Faults without samples

A track that is of no use need not be written to know whether it could be. `check` meets the faults of a
write into a new track in the same order and makes no buffer. -/

/-- The fault of writing one lane, if there is one. -/
def checkLane (stretch : Stretch) (profile : Profile α) (count : Nat) : Except Fault Unit := do
  profile.check count
  if stretch.takes count then return () else throw .unevenStretch

/-- The first fault of writing segments into a buffer of a size. -/
def checkAll (scope? : Option (Scope α)) (rate : α) (size : Nat) (offset : Int) :
    List (Segment α) → Except Fault Unit
  | [] => .ok ()
  | segment :: rest => do
    let count ← sampleCount segment.run rate
    if count = 0 then checkAll scope? rate size offset rest
    else
      let stop := offset + 2 * count
      let frequency ← segment.f.profile (ofInt count) scope?
      let amplitude ← segment.a.profile (ofInt count) scope?
      checkLane (lane size offset stop) frequency count.toNat
      checkLane (lane size (offset + 1) stop) amplitude count.toNat
      checkAll scope? rate size stop rest

/-- **The first fault of writing segments into a new track.** -/
def check (scope? : Option (Scope α)) (segments : List (Segment α)) (rate : α) :
    Except Fault Unit := do
  let length ← trackLength rate segments
  match lengthFault? length with
  | some fault => throw fault
  | none => checkAll scope? rate length.toNat 0 segments

end Track

namespace Written

/-- The buffer and the offset after a write that met no fault. -/
def toExcept (written : Written α) : Except Fault (Array α × Int) :=
  written.outcome.map fun offset => (written.buffer, offset)

end Written

end WhistledSpeech
