import Mathlib
import WhistledSpeech.Proofs.Signal.Rendering

/-!
# Sound that nobody is to hear

Where only the first fault of a sound is asked for, no buffer is made and the rate may be any number.
Samples may then be fewer than none or undefined in number, and need not fit. What else a check of
authored raw segments ends with is what their sound would end with, or that the rate is zero
(`Rendering.raises_check`).
-/

namespace WhistledSpeech

open Arithmetic

/-! ## Segments -/

/-- **What stops a check at a segment.** -/
inductive Segment.Stops (scope? : Option (Scope Float)) (rate : Float) (segment : Segment Float) :
    Fault → Prop
  /-- Something is at fault in it. -/
  | faulty {fault : Fault} (why : segment.Faulty scope? rate fault) : Stops scope? rate segment fault
  /-- The number of its samples is undefined. -/
  | undefined : Stops scope? rate segment .undefinedCount
  /-- Its samples do not fit. -/
  | uneven : Stops scope? rate segment .unevenStretch

variable {scope? : Option (Scope Float)} {rate : Float} {segment : Segment Float}

theorem Segment.raises_sampleCount :
    Raises (segment.Stops scope? rate) (sampleCount segment.run rate) := by
  refine raises_of_error fun fault counted => ?_
  have cause := counted
  unfold sampleCount at cause
  split at cause
  · exact absurd cause nofun
  · next reason _ =>
    cases cause
    cases reason with
    | infinite => exact .faulty (.overflow (.inl counted))
    | undefined => exact .undefined

/-- A component of a proper segment has a profile unless that is at fault. -/
theorem Segment.IsProper.raises_profiles (scope? : Option (Scope Float)) (proper : segment.IsProper)
    {count : Int} (counted : sampleCount segment.run rate = .ok count) :
    Raises (segment.Stops scope? rate) (segment.f.profile (ofInt count) scope?)
      ∧ Raises (segment.Stops scope? rate) (segment.a.profile (ofInt count) scope?) :=
  ⟨raises_of_error fun _ failed => .faulty (proper.faulty_of_profile counted (.inl failed)),
    raises_of_error fun _ failed => .faulty (proper.faulty_of_profile counted (.inr failed))⟩

namespace Track

/-- A lane fails with a formula, or where its samples do not fit. -/
theorem raises_checkLane (stretch : Stretch) (profile : Profile Float) (count : Nat) :
    Raises (segment.Stops scope? rate) (checkLane stretch profile count) := by
  have levels : Raises (segment.Stops scope? rate) (profile.check count) := by
    cases profile with
    | level _ | bump _ => trivial
    | ramp r =>
      unfold Profile.check
      dsimp only
      split
      · refine raises_forM fun k _ => ?_
        have level := (Profile.ramp r).raises_eval (ofInt k)
        exact (level.raises fun _ h => .faulty (.formula h)).map fun _ _ => trivial
      · trivial
  unfold checkLane
  refine levels.bind fun _ _ => ?_
  split
  · trivial
  · exact .uneven

/-- **One of some segments stops a check.** -/
def Stops (scope? : Option (Scope Float)) (rate : Float) (segments : List (Segment Float))
    (fault : Fault) : Prop :=
  ∃ segment ∈ segments, segment.Stops scope? rate fault

variable {segments : List (Segment Float)} {fault : Fault}

theorem Stops.here (stops : segment.Stops scope? rate fault) :
    Stops scope? rate (segment :: segments) fault :=
  ⟨segment, List.mem_cons_self, stops⟩

theorem Stops.later (stops : Stops scope? rate segments fault) :
    Stops scope? rate (segment :: segments) fault := by
  obtain ⟨other, mem, stops⟩ := stops
  exact ⟨other, List.mem_cons_of_mem _ mem, stops⟩

theorem raises_totalCount : Raises (Stops scope? rate segments) (totalCount rate segments) := by
  induction segments with
  | nil => trivial
  | cons segment rest ih =>
    rw [totalCount]
    refine (Segment.raises_sampleCount.raises fun _ => .here).bind fun count _ => ?_
    exact (ih.raises fun _ => .later).bind fun _ _ => trivial

theorem raises_checkAll (proper : ∀ segment ∈ segments, segment.IsProper) (size : Nat)
    (offset : Int) : Raises (Stops scope? rate segments) (checkAll scope? rate size offset segments) := by
  induction segments generalizing offset with
  | nil => trivial
  | cons segment rest ih =>
    have others : ∀ offset, Raises (Stops scope? rate (segment :: rest))
        (checkAll scope? rate size offset rest) := fun offset =>
      (ih (fun other mem => proper other (List.mem_cons_of_mem _ mem)) offset).raises fun _ => .later
    rw [checkAll]
    cases counted : sampleCount segment.run rate with
    | error fault => exact .here (Segment.raises_sampleCount.fault counted)
    | ok count =>
      obtain ⟨frequency, amplitude⟩ :=
        (proper segment List.mem_cons_self).raises_profiles scope? counted
      show Raises _ (if count = 0 then _ else _)
      split
      · exact others offset
      · refine (frequency.raises fun _ => .here).bind fun f _ => ?_
        refine (amplitude.raises fun _ => .here).bind fun a _ => ?_
        refine ((raises_checkLane _ f _).raises fun _ => .here).bind fun _ _ => ?_
        refine ((raises_checkLane _ a _).raises fun _ => .here).bind fun _ _ => ?_
        exact others _

end Track

/-! ## Raw segments -/

/-- **The ways in which a check of raw segments ends with a fault.** -/
inductive Rendering.Stops (scope : Scope Float) (voice? : Option (Voice Float))
    (source : Feed Document) (rate : Float) : Fault → Prop
  /-- There are no more raw segments. -/
  | source {fault : Fault} (broken : source.fault = some fault) : Stops scope voice? source rate fault
  /-- A formula in a raw segment is at fault. -/
  | formula {fault : Fault} (h : fault.OfFormula) : Stops scope voice? source rate fault
  /-- A segment stops the check. -/
  | segment {resolved : List (Segment Float)} {segment : Segment Float} {fault : Fault}
      (made : (segments scope voice? source).toExcept = .ok resolved) (mem : segment ∈ resolved)
      (stops : segment.Stops (some scope) rate fault) : Stops scope voice? source rate fault
  /-- A buffer cannot have so many cells. -/
  | length {resolved : List (Segment Float)} {length : Int} {fault : Fault}
      (made : (segments scope voice? source).toExcept = .ok resolved)
      (measured : trackLength rate resolved = .ok length)
      (refused : lengthFault? length = some fault) : Stops scope voice? source rate fault
  /-- The rate is zero. -/
  | zeroRate (zero : eq rate 0 = true) : Stops scope voice? source rate .zeroRate

/-- **A check of authored raw segments**, at any rate whatever. -/
theorem Rendering.raises_check (scope : Scope Float) {voice? : Option (Voice Float)}
    {source : Feed Document} (authored : ∀ raw ∈ source.items, IsAuthored raw)
    (voicePositive : ∀ voice ∈ voice?, lt (nat 0) voice.rate = true) :
    Raises (Stops scope voice? source rate) (check scope voice? source rate) := by
  have resolves := comesTo_segments scope authored voicePositive
  unfold check
  cases made : (segments scope voice? source).toExcept with
  | error fault => exact (resolves.fault made).elim .formula .source
  | ok resolved =>
    have stopped : ∀ fault, Track.Stops (some scope) rate resolved fault →
        Stops scope voice? source rate fault := by
      rintro fault ⟨segment, mem, stops⟩
      exact .segment made mem stops
    have checked : Raises (Stops scope voice? source rate)
        (Track.check (some scope) resolved rate) := by
      unfold Track.check
      cases measured : trackLength rate resolved with
      | error fault =>
        have total : Raises (Track.Stops (some scope) rate resolved) (trackLength rate resolved) :=
          Track.raises_totalCount.bind fun _ _ => trivial
        exact stopped fault (total.fault measured)
      | ok length =>
        dsimp only [bind, Except.bind]
        cases refused : lengthFault? length with
        | some fault => exact .length made measured refused
        | none =>
          refine (Track.raises_checkAll (fun segment mem => ?_) _ _).raises stopped
          exact (resolves.result made segment mem).proper
    refine checked.bind fun _ _ => ?_
    split
    · next zero => exact .zeroRate zero
    · trivial

end WhistledSpeech
