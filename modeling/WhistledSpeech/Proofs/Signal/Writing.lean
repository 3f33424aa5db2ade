import Mathlib
import WhistledSpeech.Proofs.Signal.Levels
import WhistledSpeech.Proofs.Signal.Stretch

/-!
# Writing segments into a buffer that is long enough

A write of so many samples works on the cells from its offset to twice their number behind it.
`KeepsTo` is what holds of it in any case: the buffer keeps its size and every other cell, the write
ends behind its cells or in a fault, and no fault says that the buffer is too short. How many samples
there are is known from the times of the segments (`Counts`).

What then stands in the cells is `Shows`: the levels of both components at each sample, next to each
other. `writeSegment_spec` has the step, `writeAll_spec` the run.
-/

namespace WhistledSpeech

open Arithmetic

namespace Track

variable {α : Type} {counts : List Nat} {count offset : Nat} {buffer : Array α}

/-! ## What every write keeps -/

/-- **A write keeps to its cells**, two for each of so many samples from an offset on. -/
structure KeepsTo (buffer : Array α) (offset count : Nat) (written : Written α) : Prop where
  /-- The buffer keeps its size. -/
  size : written.buffer.size = buffer.size
  /-- The other cells stay. -/
  frame : ∀ c, c < offset ∨ offset + 2 * count ≤ c → written.buffer[c]? = buffer[c]?
  /-- The next write goes on behind the last cell. -/
  ends : ∀ next, written.outcome = .ok next → next = (offset + 2 * count : Nat)
  /-- The buffer is not found too short. -/
  free : LengthFree written.outcome

/-- A write that is not begun. -/
theorem KeepsTo.of_error {fault : Fault} (free : LengthFree (.error fault : Except Fault Int)) :
    KeepsTo buffer offset count ⟨buffer, .error fault⟩ where
  size := rfl
  frame := fun _ _ => rfl
  ends := fun _ same => absurd same (by simp)
  free := free

/-- A write that ends in a fault keeps to more cells, too. -/
theorem KeepsTo.error_mono {written : Written α} {count' : Nat} {fault : Fault}
    (h : KeepsTo buffer offset count written) (le : count ≤ count')
    (failed : written.outcome = .error fault) : KeepsTo buffer offset count' written where
  size := h.size
  frame := fun c hc => h.frame c (by omega)
  ends := fun next same => absurd (failed.symm.trans same) (by simp)
  free := h.free

/-- **One write after the other.** -/
theorem KeepsTo.trans {written written' : Written α} {count' : Nat}
    (h : KeepsTo buffer offset count written)
    (h' : KeepsTo written.buffer (offset + 2 * count) count' written') :
    KeepsTo buffer offset (count + count') written' where
  size := h'.size.trans h.size
  frame := fun c hc => (h'.frame c (by omega)).trans (h.frame c (by omega))
  ends := fun next same => by
    rw [h'.ends next same]
    congr 1
    omega
  free := h'.free

/-- **What a write comes to**, where there is room: it keeps to its cells, and either the buffer then
shows what it should, or that is not possible. -/
structure Writes (buffer : Array α) (offset count : Nat) (shown : Array α → Prop) (possible : Prop)
    (written : Written α) : Prop where
  /-- Nothing else is touched. -/
  keeps : KeepsTo buffer offset count written
  /-- Where the write goes through, all is written. -/
  shows : ∀ next, written.outcome = .ok next → shown written.buffer
  /-- Where it does not, something could not be. -/
  missing : ∀ fault, written.outcome = .error fault → ¬ possible

/-- Where the cells of so many samples end. -/
theorem natCast_end (offset count : Nat) :
    (offset : Int) + 2 * count = (offset + 2 * count : Nat) := by
  rw [Nat.cast_add, Nat.cast_mul]
  rfl

variable [Arithmetic α] {scope? : Option (Scope α)} {rate : α} {segment : Segment α}
  {segments front back : List (Segment α)}

/-! ## Numbers of samples -/

/-- **How many samples the segments have**, none of them a negative number. -/
def Counts (rate : α) : List (Segment α) → List Nat → Prop :=
  List.Forall₂ fun segment count => sampleCount segment.run rate = .ok (count : Int)

theorem Counts.totalCount (h : Counts rate segments counts) :
    totalCount rate segments = .ok (counts.sum : Int) := by
  induction h with
  | nil => rfl
  | @cons segment count segments counts first _ ih =>
    rw [WhistledSpeech.totalCount, first, ih, List.sum_cons, Nat.cast_add]
    rfl

theorem Counts.exists_of_mem (h : Counts rate segments counts) (mem : segment ∈ segments) :
    ∃ count : Nat, sampleCount segment.run rate = .ok (count : Int) := by
  induction h with
  | nil => exact absurd mem List.not_mem_nil
  | @cons first count _ _ counted _ ih =>
    obtain rfl | mem := List.mem_cons.mp mem
    · exact ⟨count, counted⟩
    · exact ih mem

/-! ## What stands in the cells -/

/-- **The samples of a segment have levels.** -/
def HasLevels (scope? : Option (Scope α)) (segment : Segment α) (count : Nat) : Prop :=
  ∀ k < count, (∃ x, segment.f.levelAt scope? count k = .ok x)
    ∧ ∃ y, segment.a.levelAt scope? count k = .ok y

/-- **The levels of a segment stand in a buffer** from a cell on: of each sample the frequency and, in
the next cell, the amplitude. -/
def Shows (scope? : Option (Scope α)) (buffer : Array α) (offset : Nat) (segment : Segment α)
    (count : Nat) : Prop :=
  ∀ k < count, (∃ x, segment.f.levelAt scope? count k = .ok x ∧ buffer[offset + 2 * k]? = some x)
    ∧ ∃ y, segment.a.levelAt scope? count k = .ok y ∧ buffer[offset + 2 * k + 1]? = some y

/-- Writing behind a segment leaves it. -/
theorem Shows.of_keepsTo {written : Written α} {offset' count' : Nat}
    (h : Shows scope? buffer offset segment count) (behind : offset + 2 * count ≤ offset')
    (keeps : KeepsTo buffer offset' count' written) :
    Shows scope? written.buffer offset segment count := by
  intro k hk
  rw [keeps.frame _ (by omega), keeps.frame _ (by omega)]
  exact h k hk

/-! ## One segment -/

/-- **Writing a lane**: it goes on with the levels in their cells, or ends without having begun. -/
theorem writeLane_cases (buffer : Array α) (stretch : Stretch) (profile : Profile α)
    (next : Array α → Written α) :
    (∃ values, values.length = stretch.count
        ∧ (∀ k < stretch.count, ∃ x, (profile.eval (ofInt k)).map toCell = .ok x
            ∧ values[k]? = some x)
        ∧ writeLane buffer stretch profile stretch.count next = next (stretch.put buffer 0 values))
      ∨ ∃ fault, LengthFree (.error fault : Except Fault Int)
        ∧ (∃ k < stretch.count, (profile.eval (ofInt k)).map toCell = .error fault)
        ∧ writeLane buffer stretch profile stretch.count next = ⟨buffer, .error fault⟩ := by
  unfold writeLane
  obtain ⟨values, result, length, each⟩ | ⟨fault, result, k, hk, failed⟩ :=
    profile.levels_cases stretch.count
  · refine .inl ⟨values, length, each, ?_⟩
    rw [result]
    dsimp only
    rw [Stretch.spread_of_length_eq length]
  · refine .inr ⟨fault, ?_, ⟨k, hk, failed⟩, ?_⟩
    · exact ((profile.lengthFree_eval (ofInt k)).map toCell).error failed
    · rw [result]

theorem not_hasLevels_of_frequency {fault : Fault} {k : Nat} (hk : k < count)
    (failed : segment.f.levelAt scope? count k = .error fault) :
    ¬ HasLevels scope? segment count := by
  intro has
  obtain ⟨⟨x, hx⟩, _⟩ := has k hk
  exact absurd (failed.symm.trans hx) (by simp)

theorem not_hasLevels_of_amplitude {fault : Fault} {k : Nat} (hk : k < count)
    (failed : segment.a.levelAt scope? count k = .error fault) :
    ¬ HasLevels scope? segment count := by
  intro has
  obtain ⟨_, y, hy⟩ := has k hk
  exact absurd (failed.symm.trans hy) (by simp)

/-- **Values are the levels of a component** at its samples. -/
structure LevelsOf (scope? : Option (Scope α)) (component : Component α) (count : Nat)
    (values : List α) : Prop where
  /-- There is one for each sample. -/
  length : values.length = count
  /-- It is the level there. -/
  each : ∀ k < count, ∃ x, component.levelAt scope? count k = .ok x ∧ values[k]? = some x

/-- **What a segment comes to whose profiles could be made**: both lanes stand, or the frequencies
alone, or nothing. -/
theorem writeSegment_cases {frequency amplitude : Profile α} (positive : 0 < count)
    (room : offset + 2 * count ≤ buffer.size)
    (hf : segment.f.profile (ofInt count) scope? = .ok frequency)
    (ha : segment.a.profile (ofInt count) scope? = .ok amplitude) :
    (∃ fs gs, LevelsOf scope? segment.f count fs ∧ LevelsOf scope? segment.a count gs
        ∧ writeSegment scope? buffer offset count segment
          = ⟨(⟨offset + 1, 2, count⟩ : Stretch).put
              ((⟨offset, 2, count⟩ : Stretch).put buffer 0 fs) 0 gs,
            .ok (offset + 2 * count : Nat)⟩)
      ∨ (∃ fs fault, LevelsOf scope? segment.f count fs
        ∧ LengthFree (.error fault : Except Fault Int)
        ∧ (∃ k < count, segment.a.levelAt scope? count k = .error fault)
        ∧ writeSegment scope? buffer offset count segment
          = ⟨(⟨offset, 2, count⟩ : Stretch).put buffer 0 fs, .error fault⟩)
      ∨ ∃ fault, LengthFree (.error fault : Except Fault Int)
        ∧ (∃ k < count, segment.f.levelAt scope? count k = .error fault)
        ∧ writeSegment scope? buffer offset count segment = ⟨buffer, .error fault⟩ := by
  have evens : lane buffer.size offset (offset + 2 * count : Nat) = ⟨offset, 2, count⟩ :=
    Stretch.between_two room (by omega) (.inl rfl)
  have odds : ∀ size, size = buffer.size →
      lane size ((offset : Int) + 1) (offset + 2 * count : Nat) = ⟨offset + 1, 2, count⟩ := by
    rintro _ rfl
    rw [← Nat.cast_one, ← Nat.cast_add]
    exact Stretch.between_two room (by omega) (.inr (by omega))
  unfold writeSegment
  rw [natCast_end, hf, ha]
  dsimp only
  rw [evens, Int.toNat_natCast]
  simp only [Component.levelAt_of_profile hf, Component.levelAt_of_profile ha]
  obtain ⟨fs, length, each, written⟩ | ⟨fault, free, breaks, written⟩ :=
    writeLane_cases buffer ⟨offset, 2, count⟩ frequency fun buffer =>
      writeLane buffer (lane buffer.size (offset + 1) (offset + 2 * count : Nat)) amplitude count
        fun buffer => ⟨buffer, .ok (offset + 2 * count : Nat)⟩
  · have levels : LevelsOf scope? segment.f count fs :=
      ⟨length, fun k hk => by rw [Component.levelAt_of_profile hf]; exact each k hk⟩
    rw [written, odds _ (Stretch.size_put _ _ _ _)]
    obtain ⟨gs, length', each', written'⟩ | ⟨fault, free, breaks, written'⟩ :=
      writeLane_cases ((⟨offset, 2, count⟩ : Stretch).put buffer 0 fs)
        ⟨offset + 1, 2, count⟩ amplitude fun buffer => ⟨buffer, .ok (offset + 2 * count : Nat)⟩
    · have levels' : LevelsOf scope? segment.a count gs :=
        ⟨length', fun k hk => by rw [Component.levelAt_of_profile ha]; exact each' k hk⟩
      exact .inl ⟨fs, gs, levels, levels', written'⟩
    · -- the frequencies stand already
      exact .inr (.inl ⟨fs, fault, levels, free, breaks, written'⟩)
  · exact .inr (.inr ⟨fault, free, breaks, written⟩)

/-- Both lanes of a segment whose profiles could be made. -/
theorem writeSegment_of_profiles {frequency amplitude : Profile α} (positive : 0 < count)
    (room : offset + 2 * count ≤ buffer.size)
    (hf : segment.f.profile (ofInt count) scope? = .ok frequency)
    (ha : segment.a.profile (ofInt count) scope? = .ok amplitude) :
    Writes buffer offset count (Shows scope? · offset segment count) (HasLevels scope? segment count)
      (writeSegment scope? buffer offset count segment) := by
  obtain ⟨fs, gs, levels, levels', written⟩ | ⟨fs, fault, levels, free, ⟨k, hk, failed⟩, written⟩
    | ⟨fault, free, ⟨k, hk, failed⟩, written⟩ := writeSegment_cases positive room hf ha
  · obtain ⟨cells, frame⟩ := Stretch.getElem?_put_lanes levels.length levels'.length room rfl
    rw [written]
    refine ⟨⟨?_, frame, ?_, lengthFree_ok _⟩, fun _ _ k hk => ?_, nofun⟩
    · exact (Stretch.size_put _ _ _ _).trans (Stretch.size_put _ _ _ _)
    · rintro _ ⟨⟩
      rfl
    · obtain ⟨x, hx, cell⟩ := levels.each k hk
      obtain ⟨y, hy, cell'⟩ := levels'.each k hk
      exact ⟨⟨x, hx, (cells k hk).1.trans cell⟩, y, hy, (cells k hk).2.trans cell'⟩
  · rw [written]
    refine ⟨⟨Stretch.size_put _ _ _ _, fun c hc => ?_, nofun, free⟩, nofun, fun _ _ => ?_⟩
    · exact Stretch.getElem?_put_lane_of_ne levels.length fun j _ => by omega
    · exact not_hasLevels_of_amplitude hk failed
  · rw [written]
    exact ⟨.of_error free, nofun, fun _ _ => not_hasLevels_of_frequency hk failed⟩

/-- **Writing a segment** that has samples. -/
theorem writeSegment_spec (buffer : Array α) (segment : Segment α) (positive : 0 < count)
    (room : offset + 2 * count ≤ buffer.size) :
    Writes buffer offset count (Shows scope? · offset segment count) (HasLevels scope? segment count)
      (writeSegment scope? buffer offset count segment) := by
  cases hf : segment.f.profile (ofInt count) scope? with
  | error fault =>
    unfold writeSegment
    rw [hf]
    refine ⟨.of_error ?_, nofun, fun _ _ => ?_⟩
    · exact (segment.f.lengthFree_profile (ofInt count) scope?).error hf
    · exact not_hasLevels_of_frequency positive (Component.levelAt_of_error hf 0)
  | ok frequency =>
    cases ha : segment.a.profile (ofInt count) scope? with
    | error fault =>
      unfold writeSegment
      rw [hf, ha]
      refine ⟨.of_error ?_, nofun, fun _ _ => ?_⟩
      · exact (segment.a.lengthFree_profile (ofInt count) scope?).error ha
      · exact not_hasLevels_of_amplitude positive (Component.levelAt_of_error ha 0)
    | ok amplitude => exact writeSegment_of_profiles positive room hf ha

/-! ## All segments -/

/-- **The levels of segments stand in a buffer**, one segment after the other from a cell on. -/
def ShowsAll (scope? : Option (Scope α)) (buffer : Array α) :
    Nat → List (Segment α) → List Nat → Prop
  | offset, segment :: segments, count :: counts =>
    Shows scope? buffer offset segment count
      ∧ ShowsAll scope? buffer (offset + 2 * count) segments counts
  | _, _, _ => True

/-- **Writing segments one after the other.** -/
theorem writeAll_spec (counted : Counts rate segments counts) (buffer : Array α)
    (room : offset + 2 * counts.sum ≤ buffer.size) :
    Writes buffer offset counts.sum (ShowsAll scope? · offset segments counts)
      (List.Forall₂ (HasLevels scope?) segments counts)
      (writeAll scope? rate buffer offset segments) := by
  induction counted generalizing buffer offset with
  | nil =>
    refine ⟨⟨rfl, fun _ _ => rfl, ?_, lengthFree_ok _⟩, fun _ _ => trivial, nofun⟩
    rintro _ ⟨⟩
    rfl
  | @cons segment count segments counts first _ ih =>
    rw [List.sum_cons] at room ⊢
    rw [writeAll, first]
    dsimp only
    by_cases zero : count = 0
    · subst zero
      rw [if_pos Nat.cast_zero, Nat.zero_add]
      have rest : Writes buffer offset counts.sum _ _ _ := ih buffer (by omega)
      refine ⟨rest.keeps, fun next h => ⟨?_, rest.shows next h⟩, fun fault h has => ?_⟩
      · exact fun k hk => absurd hk (Nat.not_lt_zero k)
      · exact rest.missing fault h (List.forall₂_cons.mp has).2
    · rw [if_neg (mt Int.natCast_eq_zero.mp zero)]
      have front : Writes buffer offset count _ _ (writeSegment scope? buffer offset count segment) :=
        writeSegment_spec buffer segment (Nat.pos_of_ne_zero zero) (by omega)
      cases written : writeSegment scope? buffer offset count segment with
      | mk middle outcome =>
      rw [written] at front
      cases outcome with
      | error fault =>
        refine ⟨front.keeps.error_mono (by omega) rfl, nofun, fun _ _ has => ?_⟩
        exact front.missing fault rfl (List.forall₂_cons.mp has).1
      | ok next =>
        obtain rfl := front.keeps.ends next rfl
        have rest : Writes middle (offset + 2 * count) counts.sum _ _ _ :=
          ih middle (by rw [front.keeps.size]; omega)
        refine ⟨front.keeps.trans rest.keeps, fun next h => ⟨?_, rest.shows next h⟩,
          fun fault h has => ?_⟩
        · exact (front.shows _ rfl).of_keepsTo le_rfl rest.keeps
        · exact rest.missing fault h (List.forall₂_cons.mp has).2

/-- **Writing more segments** goes on where the first ones end. -/
theorem writeAll_append (buffer : Array α) (offset : Int) :
    writeAll scope? rate buffer offset (front ++ back) =
      match writeAll scope? rate buffer offset front with
      | ⟨buffer, .error fault⟩ => ⟨buffer, .error fault⟩
      | ⟨buffer, .ok next⟩ => writeAll scope? rate buffer next back := by
  induction front generalizing buffer offset with
  | nil => rfl
  | cons segment front ih =>
    rw [List.cons_append, writeAll, writeAll]
    cases sampleCount segment.run rate with
    | error fault => rfl
    | ok count =>
      dsimp only
      by_cases zero : count = 0
      · rw [if_pos zero, if_pos zero]
        exact ih buffer offset
      · rw [if_neg zero, if_neg zero]
        cases writeSegment scope? buffer offset count segment with
        | mk middle outcome =>
        cases outcome with
        | error fault => rfl
        | ok next => exact ih middle next

/-! ## Segments by number -/

/-- Where the levels of all segments stand, those of each do, behind the ones before it. -/
theorem ShowsAll.get (h : ShowsAll scope? buffer offset segments counts) {i : Nat}
    (hs : segments[i]? = some segment) (hc : counts[i]? = some count) :
    Shows scope? buffer (offset + 2 * (counts.take i).sum) segment count := by
  induction segments generalizing offset counts i with
  | nil => exact absurd hs (by simp)
  | cons first segments ih =>
    cases counts with
    | nil => exact absurd hc (by simp)
    | cons count' counts =>
      obtain ⟨front, rest⟩ := h
      cases i with
      | zero =>
        cases hs
        cases hc
        exact front
      | succ i =>
        have shown := ih rest hs hc
        rw [Nat.add_assoc, ← Nat.mul_add] at shown
        exact shown

/-- Each sample belongs to one of the segments. -/
theorem exists_sample {m : Nat} (hm : m < counts.sum) :
    ∃ i count, counts[i]? = some count ∧ ∃ k < count, m = (counts.take i).sum + k := by
  induction counts generalizing m with
  | nil => exact absurd hm (Nat.not_lt_zero m)
  | cons count counts ih =>
    rw [List.sum_cons] at hm
    by_cases first : m < count
    · exact ⟨0, count, rfl, m, first, (Nat.zero_add m).symm⟩
    · obtain ⟨i, count', hc, k, hk, rest⟩ := ih (by omega : m - count < counts.sum)
      refine ⟨i + 1, count', hc, k, hk, ?_⟩
      rw [List.take_succ_cons, List.sum_cons]
      omega

/-- What every number has to give, the lists give. -/
theorem Counts.forall₂ (counted : Counts rate segments counts) {R : Segment α → Nat → Prop}
    (each : ∀ (i : Nat) segment count, segments[i]? = some segment → counts[i]? = some count →
      R segment count) :
    List.Forall₂ R segments counts := by
  induction counted with
  | nil => exact .nil
  | cons _ _ ih =>
    exact .cons (each 0 _ _ rfl rfl) (ih fun i segment count hs hc =>
      each (i + 1) segment count hs hc)

end Track

end WhistledSpeech
