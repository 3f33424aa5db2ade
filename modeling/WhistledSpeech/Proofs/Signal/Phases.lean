import Mathlib
import WhistledSpeech.Proofs.Exact
import WhistledSpeech.Proofs.Signal.Tone

/-!
# The wave of a tone

In exact arithmetic the samples of a track can be written down. Sample `k` is its amplitude times the sine
of its phase, and the phase is the one at the start and the steps of the `k` samples before
(`phases_number`): the frequency of a sample moves the wave on to the next and has no part in its own
phase. The last frequency of a track is thus not heard in it. It counts in `phaseAfter`, the phase with
which the wave goes on, and a track rendered from there into the cells behind continues the wave as if the
two tracks were one (`Fills.append`).
-/

namespace WhistledSpeech.Tone

open Arithmetic Exact

/-! ## The cells of a track -/

/-- The cells of a pair, where it lies within the track. -/
theorem getElem?_pairs {α : Type} (cells : List α) {k : ℕ} (inside : 2 * k + 1 < cells.length) :
    (pairs cells)[k]? = some (cells[2 * k], cells[2 * k + 1]) := by
  induction cells using pairs.induct generalizing k with
  | case1 f a rest ih =>
    cases k with
    | zero => rfl
    | succ k => exact ih (by rw [List.length_cons, List.length_cons] at inside; omega)
  | case2 cells short =>
    cases cells with
    | nil => exact absurd inside (Nat.not_lt_zero _)
    | cons f rest =>
      cases rest with
      | nil => exact absurd inside (by rw [List.length_singleton]; omega)
      | cons a rest => exact absurd rfl (short f a rest)

/-- The frequency of a sample. -/
def frequency (track : Array ℝ) (k : ℕ) : ℝ := track.getD (2 * k) 0

/-- The amplitude of a sample. -/
def amplitude (track : Array ℝ) (k : ℕ) : ℝ := track.getD (2 * k + 1) 0

/-- **A track is read two by two**, the frequency of each sample and its amplitude. -/
theorem pairs_number {track : Array ℝ} {n : ℕ} (even : track.size = 2 * n) :
    pairs (track.map number).toList
      = (List.range n).map fun k => (number (frequency track k), number (amplitude track k)) := by
  have length : (track.map number).toList.length = 2 * n := by
    rw [Array.length_toList, Array.size_map, even]
  refine List.ext_getElem? fun k => ?_
  rw [List.getElem?_map]
  by_cases inside : k < n
  · have here : 2 * k < track.size := by omega
    have behind : 2 * k + 1 < track.size := by omega
    rw [getElem?_pairs _ (by omega), List.getElem?_range inside, Option.map_some, frequency, amplitude,
      Array.getD, dif_pos here, Array.getD, dif_pos behind]
    simp
  · rw [List.getElem?_eq_none (by rw [length_pairs]; omega),
      List.getElem?_eq_none (by rw [List.length_range]; omega)]
    rfl

/-! ## Phases -/

/-- With more than one sample there are running sums from the second on, of all steps but the last. -/
theorem phases_cons {α : Type} [Arithmetic α] (start step : α) {steps : List α} (more : steps ≠ []) :
    phases start (step :: steps)
      = start :: (start + step) :: (runningSums step steps.dropLast).map (start + ·) := by
  cases steps with
  | nil => exact absurd rfl more
  | cons next rest => rfl

theorem runningSums_number (sum : ℝ) (step : ℕ → ℝ) (n : ℕ) :
    runningSums (number sum) ((List.range n).map fun j => number (step j))
      = (List.range n).map fun k => number (sum + ∑ j ∈ Finset.range (k + 1), step j) := by
  induction n generalizing sum step with
  | zero => rfl
  | succ n ih =>
    rw [List.range_succ_eq_map, List.map_cons, List.map_cons, List.map_map, List.map_map, runningSums,
      number_add, Function.comp_def, ih, Finset.sum_range_one]
    congr 1
    refine List.map_congr_left fun k _ => ?_
    rw [Function.comp_apply, Finset.sum_range_succ' step, add_assoc, add_comm (step 0)]

/-- **The phase of a sample** is the one at the start and the steps before it. -/
theorem phases_number (start : ℝ) (step : ℕ → ℝ) (n : ℕ) :
    phases (number start) ((List.range n).map fun j => number (step j))
      = (List.range n).map fun k => number (start + ∑ j ∈ Finset.range k, step j) := by
  cases n with
  | zero => rfl
  | succ n =>
    cases n with
    | zero =>
      show [number start] = [number (start + ∑ j ∈ Finset.range 0, step j)]
      rw [Finset.sum_range_zero, add_zero]
    | succ n =>
      have inner : ((List.range (n + 1)).map fun j => number (step (j + 1))).dropLast
          = (List.range n).map fun j => number (step (j + 1)) := by
        rw [← List.map_dropLast, List.range_succ, List.dropLast_concat]
      rw [List.range_succ_eq_map, List.map_cons, List.map_map, Function.comp_def,
        phases_cons _ _ (by simp), inner, runningSums_number, List.map_map, List.map_cons, List.map_map,
        List.range_succ_eq_map, List.map_cons, List.map_map, Finset.sum_range_zero, add_zero]
      congr 2
      · show number (start + step 0) = number (start + ∑ j ∈ Finset.range 1, step j)
        rw [Finset.sum_range_one]
      · refine List.map_congr_left fun k _ => ?_
        show number (start + (step 0 + ∑ j ∈ Finset.range (k + 1), step (j + 1)))
          = number (start + ∑ j ∈ Finset.range (k + 2), step j)
        rw [Finset.sum_range_succ' step, add_comm (step 0)]

/-! ## Samples -/

/-- **The phase after some samples of a track**: that at the start, moved on by the frequency of each,
with the step that a frequency of one makes from a sample to the next. -/
def phaseAfter (step start : ℝ) (track : Array ℝ) (k : ℕ) : ℝ :=
  start + step * ∑ j ∈ Finset.range k, frequency track j

/-- **The samples of a track**: the amplitude of each, times the sine of its phase. -/
theorem samples_number {rate : ℝ} (rateNotZero : rate ≠ 0) (start : ℝ) {track : Array ℝ} {n : ℕ}
    (even : track.size = 2 * n) :
    samples (number rate) (number start) (pairs (track.map number).toList)
      = (List.range n).map fun k =>
          number (amplitude track k * Real.sin (phaseAfter (2 * Real.pi / rate) start track k)) := by
  have perSample : nat 2 * pi / number rate = number (2 * Real.pi / rate) := by
    rw [nat_eq, pi_eq, number_mul, number_div rateNotZero, Nat.cast_ofNat]
  have steps : ((pairs (track.map number).toList).map fun pair => pair.1 * number (2 * Real.pi / rate))
      = (List.range n).map fun k => number (frequency track k * (2 * Real.pi / rate)) := by
    rw [pairs_number even, List.map_map]
    rfl
  unfold samples
  dsimp only
  rw [perSample, steps, phases_number, pairs_number even, List.zipWith_map, List.zipWith_self]
  refine List.map_congr_left fun k _ => ?_
  show number (amplitude track k * Real.sin _) = _
  rw [phaseAfter, Finset.mul_sum]
  simp only [mul_comm]

/-! ## Buffers -/

/-- **A buffer with the samples of a track** from an offset on, and otherwise as another. -/
structure Fills (rate start : ℝ) (track : Array ℝ) (offset n : ℕ) (buffer filled : Array Exact) :
    Prop where
  /-- There are as many cells as there were. -/
  size : filled.size = buffer.size
  /-- Each cell from the offset on has its sample. -/
  inside : ∀ k < n, filled[offset + k]?
    = some (number (amplitude track k * Real.sin (phaseAfter (2 * Real.pi / rate) start track k)))
  /-- Before the offset and behind the samples each cell has what it had. -/
  outside : ∀ c, c < offset ∨ offset + n ≤ c → filled[c]? = buffer[c]?

variable {rate step start : ℝ} {track more : Array ℝ} {offset n m : ℕ} {buffer filled filled' : Array Exact}

/-- There is one such buffer. -/
theorem Fills.unique (fills : Fills rate start track offset n buffer filled)
    (fills' : Fills rate start track offset n buffer filled') : filled = filled' := by
  refine Array.ext_getElem? fun c => ?_
  by_cases within : offset ≤ c ∧ c < offset + n
  · obtain ⟨k, rfl⟩ := Nat.exists_eq_add_of_le within.1
    rw [fills.inside k (by omega), fills'.inside k (by omega)]
  · rw [fills.outside c (by omega), fills'.outside c (by omega)]

/-- **A write fills the cells from the offset on** and goes on behind them. -/
theorem exists_fills (start : ℝ) (rateNotZero : rate ≠ 0) (even : track.size = 2 * n)
    (room : offset + n ≤ buffer.size) :
    ∃ filled, write (track.map number) (number rate) (some buffer) offset (number start)
        = ⟨filled, .ok (offset + n)⟩
      ∧ Fills rate start track offset n buffer filled := by
  have zero : eq (number rate) (nat 0) = false := by
    rw [nat_eq, Nat.cast_zero]
    exact eq_number_eq_false.mpr rateNotZero
  have made : destination (nat 0) (some buffer) ((offset : ℤ) + n) = .ok buffer :=
    if_neg (by omega)
  refine ⟨_, write_of_destination _ (by rw [Array.size_map, even]) made room zero, ?_⟩
  have each := samples_number rateNotZero start even
  have length : (samples (number rate) (number start) (pairs (track.map number).toList)).length = n := by
    rw [each, List.length_map, List.length_range]
  obtain ⟨cells, others⟩ := Stretch.getElem?_put_run length room rfl
  refine ⟨Stretch.size_put _ _ _ _, fun k hk => ?_, others⟩
  rw [cells k hk, each, List.getElem?_map, List.getElem?_range hk]
  rfl

/-! ### Two tracks one after the other -/

theorem getD_append_left {c : ℕ} (inside : c < track.size) :
    (track ++ more).getD c 0 = track.getD c 0 := by
  rw [Array.getD_eq_getD_getElem?, Array.getElem?_append_left inside, Array.getD_eq_getD_getElem?]

theorem getD_append_right (c : ℕ) : (track ++ more).getD (track.size + c) 0 = more.getD c 0 := by
  rw [Array.getD_eq_getD_getElem?, Array.getElem?_append_right (Nat.le_add_right _ _),
    Nat.add_sub_cancel_left, Array.getD_eq_getD_getElem?]

section Append

variable (even : track.size = 2 * n)

include even

theorem frequency_append_left {k : ℕ} (hk : k < n) :
    frequency (track ++ more) k = frequency track k :=
  getD_append_left (by omega)

theorem amplitude_append_left {k : ℕ} (hk : k < n) :
    amplitude (track ++ more) k = amplitude track k :=
  getD_append_left (by omega)

theorem frequency_append_right (k : ℕ) :
    frequency (track ++ more) (n + k) = frequency more k := by
  have place : 2 * (n + k) = track.size + 2 * k := by omega
  rw [frequency, place, getD_append_right, frequency]

theorem amplitude_append_right (k : ℕ) :
    amplitude (track ++ more) (n + k) = amplitude more k := by
  have place : 2 * (n + k) + 1 = track.size + (2 * k + 1) := by omega
  rw [amplitude, place, getD_append_right, amplitude]

/-- Up to the end of the first track only its own frequencies count. -/
theorem phaseAfter_append_left {k : ℕ} (hk : k ≤ n) :
    phaseAfter step start (track ++ more) k = phaseAfter step start track k := by
  unfold phaseAfter
  rw [Finset.sum_congr rfl fun j hj =>
    frequency_append_left even ((Finset.mem_range.mp hj).trans_le hk)]

/-- **Behind it the wave goes on** from the phase after the first. -/
theorem phaseAfter_append_right (k : ℕ) :
    phaseAfter step start (track ++ more) (n + k)
      = phaseAfter step (phaseAfter step start track n) more k := by
  have first : phaseAfter step start (track ++ more) n = phaseAfter step start track n :=
    phaseAfter_append_left even le_rfl
  unfold phaseAfter at first ⊢
  rw [Finset.sum_range_add, mul_add, ← add_assoc, first,
    Finset.sum_congr rfl fun j _ => frequency_append_right even j]

/-- **Two tracks are one**, if the second is rendered behind the first from the phase after it. -/
theorem Fills.append (fills : Fills rate start track offset n buffer filled)
    (fills' : Fills rate (phaseAfter (2 * Real.pi / rate) start track n) more (offset + n) m filled
      filled') :
    Fills rate start (track ++ more) offset (n + m) buffer filled' := by
  refine ⟨fills'.size.trans fills.size, fun k hk => ?_, fun c hc => ?_⟩
  · by_cases first : k < n
    · rw [fills'.outside _ (.inl (by omega)), fills.inside k first, amplitude_append_left even first,
        phaseAfter_append_left even first.le]
    · obtain ⟨k, rfl⟩ := Nat.exists_eq_add_of_le (not_lt.mp first)
      rw [← Nat.add_assoc, fills'.inside k (by omega), amplitude_append_right even,
        phaseAfter_append_right even]
  · rw [fills'.outside c (by omega), fills.outside c (by omega)]

end Append

/-- **A tone is one sine with a running phase.** A track with half a pair, or one that the buffer has no
room for, is refused and leaves the buffer as it is. Every other one is written at any rate but zero: each
sample is its amplitude times the sine of its phase, the phase being that at the start moved on by the
frequency of each sample before; no other cell changes, and the next write can go on behind. A track that
does so from the phase after the first leaves the buffer that both in one would have left. -/
theorem write_wave (rate start : ℝ) (track : Array ℝ) (offset : ℕ) (buffer : Array Exact) :
    (track.size % 2 = 1 →
      write (track.map number) (number rate) (some buffer) offset (number start)
        = ⟨buffer, .error (.oddInterlaced track.size)⟩)
      ∧ ∀ n, track.size = 2 * n →
        (buffer.size < offset + n →
          write (track.map number) (number rate) (some buffer) offset (number start)
            = ⟨buffer, .error (.shortBuffer (offset + n) buffer.size)⟩)
        ∧ (rate ≠ 0 → offset + n ≤ buffer.size →
          ∃ filled, write (track.map number) (number rate) (some buffer) offset (number start)
              = ⟨filled, .ok (offset + n)⟩
            ∧ Fills rate start track offset n buffer filled
            ∧ ∀ more m, more.size = 2 * m → offset + n + m ≤ buffer.size →
              write ((track ++ more).map number) (number rate) (some buffer) offset (number start)
                = write (more.map number) (number rate) (some filled) (offset + n)
                  (number (phaseAfter (2 * Real.pi / rate) start track n))) := by
  refine ⟨fun odd => ?_, fun n even => ⟨fun short => ?_, fun rateNotZero room => ?_⟩⟩
  · rw [← Array.size_map (f := number)] at odd ⊢
    exact if_pos odd
  · have length : (pairs (track.map number).toList).length = n := by
      rw [pairs_number even, List.length_map, List.length_range]
    have refused : destination (nat 0) (some buffer) ((offset : ℤ) + n)
        = .error (.shortBuffer (offset + n) buffer.size) :=
      if_pos (by omega)
    unfold write
    rw [if_neg (by rw [Array.size_map]; omega)]
    dsimp only
    rw [length, refused]
    rfl
  · obtain ⟨filled, written, fills⟩ := exists_fills start rateNotZero even room
    refine ⟨filled, written, fills, fun more m even' room' => ?_⟩
    have both : (track ++ more).size = 2 * (n + m) := by
      rw [Array.size_append, even, even']
      omega
    have behind : offset + n + m ≤ filled.size := by rwa [fills.size]
    have within : offset + (n + m) ≤ buffer.size := by omega
    obtain ⟨filled', written', fills'⟩ :=
      exists_fills (phaseAfter (2 * Real.pi / rate) start track n) rateNotZero even' behind
    obtain ⟨whole, writtenWhole, fillsWhole⟩ := exists_fills start rateNotZero both within
    rw [Nat.cast_add] at written' writtenWhole
    rw [writtenWhole, written', fillsWhole.unique (fills.append even fills'), add_assoc]

/-- Three samples, the second of them of no frequency. At a rate of four the other two move the wave on by
a quarter of a turn each. -/
def glide : Array ℝ := #[1, 1, 0, 1, 1, -1]

/-- The glide is heard at zero, at the top of the wave and, the other way up, at the top again, in the cells
from the second on; and another one behind it goes on from half a turn. With a cell less the glide is
refused, and so it is by a buffer that has no room for it. -/
theorem write_wave_glide :
    (∃ filled, write (glide.map number) (number 4) (some (.replicate 7 undefined)) (1 : ℕ) (number 0)
        = ⟨filled, .ok 4⟩
      ∧ filled[0]? = some undefined ∧ filled[1]? = some (number 0) ∧ filled[2]? = some (number 1)
      ∧ filled[3]? = some (number (-1)) ∧ filled[4]? = some undefined
      ∧ write ((glide ++ glide).map number) (number 4) (some (.replicate 7 undefined)) (1 : ℕ) (number 0)
        = write (glide.map number) (number 4) (some filled) 4 (number Real.pi))
      ∧ write (glide.pop.map number) (number 4) (some #[]) (1 : ℕ) (number 0)
        = ⟨#[], .error (.oddInterlaced 5)⟩
      ∧ write (glide.map number) (number 4) (some #[undefined]) (1 : ℕ) (number 0)
        = ⟨#[undefined], .error (.shortBuffer 4 1)⟩ := by
  refine ⟨?_, (write_wave 4 0 glide.pop 1 #[]).1 rfl,
    ((write_wave 4 0 glide 1 #[undefined]).2 3 rfl).1 (by decide)⟩
  obtain ⟨filled, written, fills, follows⟩ :=
    ((write_wave 4 0 glide 1 (.replicate 7 undefined)).2 3 rfl).2 four_ne_zero (by simp)
  have first : phaseAfter (2 * Real.pi / 4) 0 glide 0 = 0 := by
    rw [phaseAfter, Finset.sum_range_zero, mul_zero, add_zero]
  have second : phaseAfter (2 * Real.pi / 4) 0 glide 1 = Real.pi / 2 := by
    rw [phaseAfter, Finset.sum_range_one]
    show 0 + 2 * Real.pi / 4 * 1 = _
    ring
  have third : phaseAfter (2 * Real.pi / 4) 0 glide 2 = Real.pi / 2 := by
    rw [phaseAfter, Finset.sum_range_succ, Finset.sum_range_one]
    show 0 + 2 * Real.pi / 4 * (1 + 0) = _
    ring
  have behind : phaseAfter (2 * Real.pi / 4) 0 glide 3 = Real.pi := by
    rw [phaseAfter, Finset.sum_range_succ, Finset.sum_range_succ, Finset.sum_range_one]
    show 0 + 2 * Real.pi / 4 * (1 + 0 + 1) = _
    ring
  refine ⟨filled, written, fills.outside 0 (.inl Nat.one_pos), ?_, ?_, ?_,
    fills.outside 4 (.inr le_rfl), ?_⟩
  · rw [fills.inside 0 (by decide), first, Real.sin_zero, mul_zero]
  · rw [fills.inside 1 (by decide), second, Real.sin_pi_div_two, mul_one]
    rfl
  · rw [fills.inside 2 (by decide), third, Real.sin_pi_div_two, mul_one]
    rfl
  · rw [follows glide 3 rfl (by simp), behind]
    rfl

end WhistledSpeech.Tone
