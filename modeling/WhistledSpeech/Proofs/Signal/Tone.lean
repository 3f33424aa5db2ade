import Mathlib
import WhistledSpeech.Proofs.Signal.Stretch
import WhistledSpeech.Signal.Tone

/-!
# One sample for each pair of cells

A track of so many pairs of cells becomes as many samples, whatever is in the cells. So at every rate but
zero a track with pairs throughout is made audible without a fault, in a buffer that has room for its
samples (`write_of_destination`) or, if it is not too long to be followed, in one of its own
(`render_none`).
-/

namespace WhistledSpeech

open Arithmetic

namespace Tone

variable {α : Type}

theorem length_pairs (cells : List α) : (pairs cells).length = cells.length / 2 := by
  induction cells using pairs.induct with
  | case1 f a rest ih =>
    rw [pairs, List.length_cons, List.length_cons, List.length_cons, ih]
    omega
  | case2 cells short =>
    cases cells with
    | nil => simp [pairs]
    | cons f rest =>
      cases rest with
      | nil => simp [pairs]
      | cons a rest => exact absurd rfl (short f a rest)

variable [Arithmetic α]

theorem length_runningSums (sum : α) (steps : List α) :
    (runningSums sum steps).length = steps.length := by
  induction steps generalizing sum with
  | nil => rfl
  | cons step rest ih => rw [runningSums, List.length_cons, List.length_cons, ih]

theorem length_phases (start : α) (steps : List α) : (phases start steps).length = steps.length := by
  unfold phases
  split
  · rfl
  · rfl
  · next step rest more =>
    -- each phase after the first is the sum of steps before it, so nothing starts from the last step
    have some : rest ≠ [] := more
    have positive : 0 < rest.length := List.length_pos_iff.mpr some
    rw [List.length_cons, List.length_cons, List.length_map, length_runningSums, List.length_dropLast,
      List.length_cons]
    omega

/-- **There is one sample for each pair.** -/
theorem length_samples (rate start : α) (track : List (α × α)) :
    (samples rate start track).length = track.length := by
  unfold samples
  dsimp only
  rw [List.length_zipWith, length_phases, List.length_map, Nat.min_self]

variable {track : Array α} {rate : α} {atHand : Option (Array α)} {buffer : Array α}
  {offset count : Nat}

/-- **A track of pairs becomes sound** in the buffer of a write that has room for it. -/
theorem write_of_destination (start : α) (even : track.size = 2 * count)
    (made : destination (nat 0) atHand ((offset : Int) + count) = .ok buffer)
    (room : offset + count ≤ buffer.size) (rateNotZero : eq rate (nat 0) = false) :
    write track rate atHand offset start
      = ⟨(⟨offset, 1, count⟩ : Stretch).put buffer 0 (samples rate start (pairs track.toList)),
        .ok (offset + count)⟩ := by
  have length : (pairs track.toList).length = count := by
    rw [length_pairs, Array.length_toList, even]
    omega
  have fill : (⟨offset, 1, count⟩ : Stretch).fill buffer (samples rate start (pairs track.toList))
      = .ok ((⟨offset, 1, count⟩ : Stretch).put buffer 0
        (samples rate start (pairs track.toList))) := by
    unfold Stretch.fill
    rw [Stretch.spread_of_length_eq ((length_samples rate start _).trans length)]
  unfold write
  rw [if_neg (by omega)]
  dsimp only
  rw [length, made]
  dsimp only
  rw [rateNotZero, if_neg nofun, Stretch.between_one room, fill]

/-- A buffer of its own has room for it. -/
theorem render_none (even : track.size = 2 * count) (fits : lengthFault? count = none)
    (rateNotZero : eq rate (nat 0) = false) (start : α) :
    ∃ buffer, render track rate none 0 start = .ok (buffer, (count : Int)) := by
  have made : destination (nat 0 : α) none (((0 : Nat) : Int) + count)
      = .ok (Array.replicate count (nat 0)) := by
    rw [Nat.cast_zero, Int.zero_add]
    unfold destination zeroBuffer
    rw [fits]
    rfl
  have written := write_of_destination start even made
    (by rw [Nat.zero_add, Array.size_replicate]) rateNotZero
  rw [Nat.cast_zero, Int.zero_add] at written
  exact ⟨_, congrArg Written.toExcept written⟩

end Tone

end WhistledSpeech
