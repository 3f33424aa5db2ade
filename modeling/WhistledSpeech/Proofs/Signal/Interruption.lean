import Mathlib
import WhistledSpeech.Proofs.Formula.Curves
import WhistledSpeech.Proofs.Signal.Profile
import WhistledSpeech.Proofs.Signal.Track

/-!
# Writes that meet a fault

A write stops at the first segment that meets a fault. The segments before it stand in the buffer as if
there were no others (`exists_stop`). Of that segment itself, as a rule, nothing is written: both
profiles are made before its first cell is touched, and a lane is not begun before all its levels are
known (`Segment.FailsBefore`).

There is one exception. The frequencies of a segment are written before its amplitudes are computed, so
an amplitude that follows a formula, and one without a value at some sample, leaves all frequencies of
the segment in the buffer and none of its amplitudes (`Segment.FailsBetween`, `HalfWritten`).
`write_error_cases` says that there is no third case.
-/

namespace WhistledSpeech

open Arithmetic

section Faults

variable {α : Type} [Arithmetic α] {scope? : Option (Scope α)} {component : Component α}
  {segment : Segment α} {count k : Nat} {fault : Fault}

/-! ## Components without a level somewhere -/

/-- **A component breaks at a sample**: its profile can be made, but has no level there. -/
structure Component.BreaksAt (scope? : Option (Scope α)) (component : Component α) (count k : Nat)
    (fault : Fault) : Prop where
  /-- The profile can be made. -/
  made : ∃ profile, component.profile (ofInt count) scope? = .ok profile
  /-- The sample is one of the segment. -/
  inside : k < count
  /-- There is no level. -/
  failed : component.levelAt scope? count k = .error fault

/-- Of all shapes only a formula can lack a value. -/
theorem TransitionShape.formula_of_eval {shape : TransitionShape α} {x : α}
    (failed : shape.eval x = .error fault) : ∃ scope f, shape = .formula scope f := by
  cases shape with
  | formula scope f => exact ⟨scope, f, rfl⟩
  | sine => exact absurd failed nofun
  | arcsine => exact absurd failed nofun
  | concaveUp => exact absurd failed nofun
  | concaveDown => exact absurd failed nofun
  | convexUp => exact absurd failed nofun
  | convexDown => exact absurd failed nofun

/-- Of all profiles only one that runs through a formula can lack a level. -/
theorem Profile.ramp_of_eval {profile : Profile α} {t : α} (failed : profile.eval t = .error fault) :
    ∃ r scope f, profile = .ramp r ∧ r.shape = .formula scope f := by
  cases profile with
  | level y => exact absurd failed nofun
  | bump b => exact absurd failed nofun
  | ramp r =>
    unfold eval at failed
    dsimp only at failed
    cases value : r.shape.eval (r.firstAngle + r.domain * (t / r.samples)) with
    | ok v => rw [value] at failed; exact absurd failed nofun
    | error cause =>
      obtain ⟨scope, f, shape⟩ := TransitionShape.formula_of_eval value
      exact ⟨r, scope, f, rfl, shape⟩

/-- A profile that runs through a formula is that of a transition along one. -/
theorem Component.transition_of_profile {samples : α} {r : Ramp α} {scope : Scope α} {f : Formula}
    (made : component.profile samples scope? = .ok (.ramp r)) (shape : r.shape = .formula scope f) :
    ∃ move text, component = .transition move ∧ move.curve = .formula text := by
  cases component with
  | constant level => exact absurd made nofun
  | foreign label => exact absurd made nofun
  | contour excursion =>
    change excursion.profile samples = _ at made
    unfold Contour.profile at made
    split at made
    · exact absurd made nofun
    · obtain ⟨_, _, made⟩ := bind_eq_ok_iff.mp made
      obtain ⟨_, _, made⟩ := bind_eq_ok_iff.mp made
      dsimp only at made
      split at made <;> exact absurd made nofun
  | transition move =>
    change move.profile samples scope? = _ at made
    unfold Transition.profile at made
    split at made
    · exact absurd made nofun
    · obtain ⟨shape', found, made⟩ := bind_eq_ok_iff.mp made
      obtain ⟨_, _, made⟩ := bind_eq_ok_iff.mp made
      obtain ⟨_, _, made⟩ := bind_eq_ok_iff.mp made
      dsimp only at made
      split at made
      · cases made
        obtain rfl : shape' = .formula scope f := shape
        obtain ⟨text, curve⟩ := move.curve_of_shape found
        exact ⟨move, text, rfl, curve⟩
      · exact absurd made nofun

/-- **Only a formula breaks.** -/
theorem Component.BreaksAt.formula (breaks : component.BreaksAt scope? count k fault) :
    ∃ move text, component = .transition move ∧ move.curve = .formula text := by
  obtain ⟨profile, made⟩ := breaks.made
  have failed := breaks.failed
  rw [levelAt_of_profile made] at failed
  cases level : profile.eval (ofInt k) with
  | ok x => rw [level] at failed; exact absurd failed nofun
  | error cause =>
    obtain ⟨r, scope, f, rfl, shape⟩ := Profile.ramp_of_eval level
    exact transition_of_profile made shape

/-! ## What stops a segment -/

/-- **What stops a segment before its first cell**: one of its profiles cannot be made, or the frequency
breaks. -/
inductive Segment.FailsBefore (scope? : Option (Scope α)) (segment : Segment α) (count : Nat)
    (fault : Fault) : Prop where
  /-- The profile of the frequency cannot be made. -/
  | frequency (failed : segment.f.profile (ofInt count) scope? = .error fault)
  /-- That one can, the profile of the amplitude cannot. -/
  | amplitude (made : ∃ profile, segment.f.profile (ofInt count) scope? = .ok profile)
      (failed : segment.a.profile (ofInt count) scope? = .error fault)
  /-- Both can, and the frequency breaks at a sample. -/
  | sample (made : ∃ profile, segment.a.profile (ofInt count) scope? = .ok profile)
      (breaks : ∃ k, segment.f.BreaksAt scope? count k fault)

/-- **What stops a segment between its lanes**: the frequency has its levels, and an amplitude that
follows a formula breaks at a sample. -/
structure Segment.FailsBetween (scope? : Option (Scope α)) (segment : Segment α) (count : Nat)
    (fault : Fault) : Prop where
  /-- The frequency has a level at every sample. -/
  frequencies : ∀ k < count, ∃ x, segment.f.levelAt scope? count k = .ok x
  /-- The amplitude follows a formula. -/
  formula : ∃ move text, segment.a = .transition move ∧ move.curve = .formula text
  /-- At some sample it has no level. -/
  breaks : ∃ k, segment.a.BreaksAt scope? count k fault

end Faults

namespace Track

/-! ## What is left behind -/

section Left

variable {α : Type} [Arithmetic α] {scope? : Option (Scope α)} {rate : α} {segment : Segment α}
  {segments : List (Segment α)} {counts : List Nat} {count offset : Nat} {buffer filled : Array α}
  {fault : Fault}

/-- **A segment is half written**: its frequencies stand in the buffer from a cell on, and every other
cell is as it was. -/
structure HalfWritten (scope? : Option (Scope α)) (buffer : Array α) (offset : Nat)
    (segment : Segment α) (count : Nat) (filled : Array α) : Prop where
  /-- The buffer keeps its size. -/
  size : filled.size = buffer.size
  /-- The frequencies stand. -/
  frequencies : ∀ k < count, ∃ x, segment.f.levelAt scope? count k = .ok x
    ∧ filled[offset + 2 * k]? = some x
  /-- The other cells stay, those of the amplitudes among them. -/
  others : ∀ c, (∀ k < count, c ≠ offset + 2 * k) → filled[c]? = buffer[c]?

/-- **A segment that meets a fault** leaves nothing, or its frequencies. -/
theorem writeSegment_error (positive : 0 < count) (room : offset + 2 * count ≤ buffer.size)
    (failed : writeSegment scope? buffer offset count segment = ⟨filled, .error fault⟩) :
    segment.FailsBefore scope? count fault ∧ filled = buffer
      ∨ segment.FailsBetween scope? count fault
        ∧ HalfWritten scope? buffer offset segment count filled := by
  cases hf : segment.f.profile (ofInt count) scope? with
  | error cause =>
    unfold writeSegment at failed
    rw [hf] at failed
    cases failed
    exact .inl ⟨.frequency hf, rfl⟩
  | ok frequency =>
    cases ha : segment.a.profile (ofInt count) scope? with
    | error cause =>
      unfold writeSegment at failed
      rw [hf, ha] at failed
      cases failed
      exact .inl ⟨.amplitude ⟨frequency, hf⟩ ha, rfl⟩
    | ok amplitude =>
      obtain ⟨fs, gs, _, _, written⟩ | ⟨fs, cause, levels, _, ⟨k, hk, broken⟩, written⟩
        | ⟨cause, _, ⟨k, hk, broken⟩, written⟩ := writeSegment_cases positive room hf ha
      · rw [written] at failed
        exact absurd (congrArg Written.outcome failed) nofun
      · rw [written] at failed
        cases failed
        have breaks : segment.a.BreaksAt scope? count k fault := ⟨⟨amplitude, ha⟩, hk, broken⟩
        refine .inr ⟨⟨fun k hk => ?_, breaks.formula, k, breaks⟩,
          Stretch.size_put _ _ _ _, fun k hk => ?_, fun c apart => ?_⟩
        · obtain ⟨x, level, _⟩ := levels.each k hk
          exact ⟨x, level⟩
        · obtain ⟨x, level, value⟩ := levels.each k hk
          refine ⟨x, level, ?_⟩
          rw [Stretch.getElem?_put_lane levels.length hk (by omega)]
          exact value
        · exact Stretch.getElem?_put_lane_of_ne levels.length apart
      · rw [written] at failed
        cases failed
        exact .inl ⟨.sample ⟨amplitude, ha⟩ ⟨k, ⟨frequency, hf⟩, hk, broken⟩, rfl⟩

/-- Writing no segments leaves a buffer as it is. -/
theorem write_nil (room : offset ≤ buffer.size) :
    write scope? [] rate (some buffer) offset = ⟨buffer, .ok offset⟩ :=
  (write_some_eq_ok_iff .nil).mpr ⟨room, rfl⟩

/-- **Where a write stops**: at a segment that has samples and meets the fault, with the segments before
it written. -/
theorem exists_stop (counted : Counts rate segments counts)
    (room : offset + 2 * counts.sum ≤ buffer.size)
    (failed : writeAll scope? rate buffer offset segments = ⟨filled, .error fault⟩) :
    ∃ front segment back frontCounts before, ∃ count : Nat, segments = front ++ segment :: back
      ∧ Counts rate front frontCounts ∧ sampleCount segment.run rate = .ok (count : Int)
      ∧ 0 < count ∧ frontCounts.sum + count ≤ counts.sum
      ∧ writeAll scope? rate buffer offset front
        = ⟨before, .ok (offset + 2 * frontCounts.sum : Nat)⟩
      ∧ writeSegment scope? before (offset + 2 * frontCounts.sum : Nat) count segment
        = ⟨filled, .error fault⟩ := by
  induction counted generalizing buffer offset with
  | nil => exact absurd (congrArg Written.outcome failed) nofun
  | @cons segment count segments counts first _ ih =>
    rw [List.sum_cons] at room
    rw [writeAll, first] at failed
    dsimp only at failed
    by_cases zero : count = 0
    · subst zero
      rw [if_pos Nat.cast_zero] at failed
      obtain ⟨front, stop, back, frontCounts, before, count, rfl, counted, known, positive, le,
        written, stops⟩ := ih (by omega) failed
      refine ⟨segment :: front, stop, back, 0 :: frontCounts, before, count, rfl,
        .cons first counted, known, positive, ?_, ?_, ?_⟩
      · rw [List.sum_cons, List.sum_cons]
        omega
      · rw [writeAll, first, List.sum_cons, Nat.zero_add]
        exact written
      · rw [List.sum_cons, Nat.zero_add]
        exact stops
    · have step : Writes buffer offset count _ _ (writeSegment scope? buffer offset count segment) :=
        writeSegment_spec buffer segment (Nat.pos_of_ne_zero zero) (by omega)
      rw [if_neg (mt Int.natCast_eq_zero.mp zero)] at failed
      cases written : writeSegment scope? buffer offset count segment with
      | mk middle outcome =>
      rw [written] at step failed
      cases outcome with
      | error cause =>
        cases failed
        refine ⟨[], segment, segments, [], buffer, count, rfl, .nil, first,
          Nat.pos_of_ne_zero zero, ?_, rfl, written⟩
        rw [List.sum_nil, List.sum_cons]
        omega
      | ok next =>
        obtain rfl := step.keeps.ends next rfl
        have size : middle.size = buffer.size := step.keeps.size
        obtain ⟨front, stop, back, frontCounts, before, count', rfl, counted, known, positive, le,
          written', stops⟩ := ih (by omega) failed
        have place : offset + 2 * (count :: frontCounts).sum
            = offset + 2 * count + 2 * frontCounts.sum := by
          rw [List.sum_cons, Nat.mul_add, Nat.add_assoc]
        refine ⟨segment :: front, stop, back, count :: frontCounts, before, count', rfl,
          .cons first counted, known, positive, ?_, ?_, ?_⟩
        · rw [List.sum_cons, List.sum_cons]
          omega
        · rw [writeAll, first, place]
          dsimp only
          rw [if_neg (mt Int.natCast_eq_zero.mp zero), written]
          exact written'
        · rw [place]
          exact stops

end Left

/-! ## An amplitude without a value in the middle -/

/-- A tone whose amplitude follows the reciprocal of the angle. It has no value halfway, where the
angle is zero. -/
def reciprocal : Segment Float := ⟨.constant 5, .transition ⟨0, 1, .formula "1/t", 0, 0⟩, 2⟩

theorem runs_reciprocal : ∀ segment ∈ [reciprocal], lt (nat 0) segment.run = true := by
  intro segment mem
  cases List.mem_singleton.mp mem
  rfl

/-- The profile of that amplitude can be made, and its first two levels cannot be computed. -/
theorem profile_reciprocal :
    ∃ profile, reciprocal.a.profile (ofInt (2 : Nat)) (some Scope.builtIn) = .ok profile
      ∧ profile.levels 2 = .error (.undefinedFormula "1/t" .divisionByZero) := by
  unfold reciprocal Component.profile Transition.profile Transition.shape
  dsimp only
  rw [if_neg (by decide +kernel), Scope.compile_reciprocal]
  exact ⟨_, rfl, rfl⟩

/-- Two samples of it leave the frequencies in a buffer. -/
theorem write_reciprocal (x : Float) :
    write (some Scope.builtIn) [reciprocal] 1000 (some #[x, x, x, x]) (0 : Nat)
      = ⟨#[toCell (nat 0 + 5), x, toCell (nat 0 + 5), x],
        .error (.undefinedFormula "1/t" .divisionByZero)⟩ := by
  have counted : Counts (1000 : Float) [reciprocal] [2] := .cons rfl .nil
  have two : sampleCount reciprocal.run (1000 : Float) = .ok (2 : Nat) := rfl
  have tone : reciprocal.f.profile (ofInt (2 : Nat)) (some Scope.builtIn) = .ok (.level 5) := rfl
  have levels : (Profile.level (5 : Float)).levels 2
      = .ok [toCell (nat 0 + 5), toCell (nat 0 + 5)] := rfl
  obtain ⟨profile, made, undefined⟩ := profile_reciprocal
  have long : ¬ #[x, x, x, x].size < 0 + 2 * [2].sum := Nat.lt_irrefl 4
  have evens : lane 4 ((0 : Nat) : Int) ((0 : Nat) + 2 * (2 : Nat)) = ⟨0, 2, 2⟩ := by decide
  rw [write_some counted, if_neg long, writeAll, two]
  dsimp only
  rw [if_neg (by decide), writeSegment, tone, made]
  dsimp only
  unfold writeLane
  rw [Int.toNat_natCast, levels, undefined]
  dsimp only
  rw [show #[x, x, x, x].size = 4 from rfl, evens]
  rfl

/-! ## A whole write -/

section Whole

variable {scope? : Option (Scope Float)} {rate : Float} {segments : List (Segment Float)}
  {buffer filled : Array Float} {length : Int} {fault : Fault}

/-- **What a write leaves that meets a fault.** Times and the rate are above zero and the buffer is long
enough. The write stops at a segment that has samples. The segments before it can be written by
themselves, and either the buffer is what they leave, and the segment failed before its first cell; or
the segment failed between its lanes, and the buffer is what they leave with the segment half
written. -/
theorem write_error_cases (runs : ∀ segment ∈ segments, lt (nat 0) segment.run = true)
    (positive : lt (nat 0) rate = true) {offset : Nat}
    (measured : trackLength rate segments = .ok length) (room : offset + length ≤ buffer.size)
    (failed : write scope? segments rate (some buffer) offset = ⟨filled, .error fault⟩) :
    ∃ front segment back before, ∃ next count : Nat, segments = front ++ segment :: back
      ∧ write scope? front rate (some buffer) offset = ⟨before, .ok next⟩
      ∧ sampleCount segment.run rate = .ok count ∧ 0 < count
      ∧ (segment.FailsBefore scope? count fault ∧ filled = before
        ∨ segment.FailsBetween scope? count fault
          ∧ HalfWritten scope? before next segment count filled) := by
  unfold trackLength at measured
  obtain ⟨counts, counted⟩ | ⟨_, total⟩ := counts_or_overflow runs positive
  · rw [counted.totalCount] at measured
    have long : offset + 2 * counts.sum ≤ buffer.size := by
      cases measured
      omega
    rw [write_some counted, if_neg (Nat.not_lt.mpr long)] at failed
    obtain ⟨front, segment, back, frontCounts, before, count, parts, counted', known, positive', le,
      written, stops⟩ := exists_stop counted long failed
    have front_written : write scope? front rate (some buffer) offset
        = ⟨before, .ok (offset + 2 * frontCounts.sum : Nat)⟩ :=
      (write_some_eq_ok_iff counted').mpr ⟨by omega, written⟩
    have size : before.size = buffer.size := by
      have keeps : KeepsTo buffer offset frontCounts.sum
          (writeAll scope? rate buffer offset front) :=
        (writeAll_spec counted' buffer (by omega)).keeps
      rw [written] at keeps
      exact keeps.size
    exact ⟨front, segment, back, before, _, count, parts, front_written, known, positive',
      writeSegment_error positive' (by omega) stops⟩
  · rw [total] at measured
    exact absurd measured nofun

/-- The amplitude without a value in the middle stops a write between the lanes. -/
theorem write_error_cases_reciprocal :
    reciprocal.FailsBetween (some Scope.builtIn) 2 (.undefinedFormula "1/t" .divisionByZero)
      ∧ HalfWritten (some Scope.builtIn) #[9, 9, 9, 9] 0 reciprocal 2
        #[toCell (nat 0 + 5), 9, toCell (nat 0 + 5), 9] := by
  obtain ⟨front, segment, back, before, next, count, parts, written, known, _, cases⟩ :=
    write_error_cases runs_reciprocal rfl (show trackLength 1000 [reciprocal] = .ok 4 from rfl)
      (le_refl 4) (write_reciprocal 9)
  obtain ⟨rfl, rfl, rfl⟩ : front = [] ∧ segment = reciprocal ∧ back = [] := by
    simpa [List.append_eq_singleton_iff] using parts.symm
  obtain ⟨rfl, rfl⟩ : before = #[9, 9, 9, 9] ∧ next = 0 := by
    rw [write_nil (Nat.zero_le 4)] at written
    cases written
    exact ⟨rfl, rfl⟩
  obtain rfl : count = 2 := by
    cases known
    rfl
  obtain ⟨fails, _⟩ | between := cases
  · cases fails with
    | frequency failed => exact absurd failed nofun
    | amplitude _ failed =>
      obtain ⟨profile, made, _⟩ := profile_reciprocal
      exact absurd (made.symm.trans failed) nofun
    | sample _ breaks =>
      obtain ⟨k, breaks⟩ := breaks
      exact absurd breaks.failed nofun
  · exact between

/-- **A write that meets a fault may leave more than whole segments.** It is not so that the buffer is
always what the segments before the one at fault leave by themselves, not even where the fault is a
formula without a value. -/
theorem not_forall_write_whole_segments :
    ¬ ∀ (scope? : Option (Scope Float)) (segments : List (Segment Float)) (rate : Float)
        (offset : Nat) (length : Int) (buffer filled : Array Float) (text : String)
        (cause : ArithmeticFault),
      (∀ segment ∈ segments, lt (nat 0) segment.run = true) → lt (nat 0) rate = true →
      trackLength rate segments = .ok length → offset + length ≤ buffer.size →
      write scope? segments rate (some buffer) offset
        = ⟨filled, .error (.undefinedFormula text cause)⟩ →
      ∃ front segment back next, segments = front ++ segment :: back
        ∧ write scope? front rate (some buffer) offset = ⟨filled, .ok next⟩ := by
  intro whole
  -- whatever was in the buffer would be the frequency, so all numbers would be one
  have cell : ∀ x : Float, toCell (nat 0 + 5) = x := by
    intro x
    obtain ⟨front, segment, back, next, parts, written⟩ :=
      whole _ [reciprocal] 1000 0 4 #[x, x, x, x] _ _ _ runs_reciprocal rfl rfl (le_refl 4)
        (write_reciprocal x)
    obtain ⟨rfl, _⟩ : front = [] ∧ segment = reciprocal ∧ back = [] := by
      simpa [List.append_eq_singleton_iff] using parts.symm
    rw [write_nil (Nat.zero_le 4)] at written
    have same : #[x, x, x, x] = #[toCell (nat 0 + 5), x, toCell (nat 0 + 5), x] :=
      congrArg Written.buffer written
    exact (congrArg (fun buffer => buffer.getD 0 0) same).symm
  have same : (8 : Float) = 9 := (cell 8).symm.trans (cell 9)
  exact absurd same (by decide +kernel)

end Whole

end Track

end WhistledSpeech
