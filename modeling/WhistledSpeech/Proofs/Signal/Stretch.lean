import Mathlib
import WhistledSpeech.Signal.Stretch

/-!
# The cells of a stretch

What `Stretch.put` leaves is described cell by cell: a cell of the stretch has the value that belongs
to it, any other cell what it had (`getElem?_put_cell`, `getElem?_put_of_ne`).

Of a stretch from one place to before another, both within the buffer, it is enough to know where it
starts and how many cells it has (`between_one`, `between_two`). Where it takes every cell, these are all
there are between the two places (`getElem?_put_run`). Where it takes every second cell, another one that
starts a cell later shares none with it (`getElem?_put_lanes`).
-/

namespace WhistledSpeech

namespace Stretch

variable {α : Type}

/-- Cells that are not written keep what they have. -/
theorem getElem?_put_of_ne (stretch : Stretch) (buffer : Array α) (values : List α) {c : Nat}
    (k : Nat) (apart : ∀ j < values.length, c ≠ stretch.cell (k + j)) :
    (stretch.put buffer k values)[c]? = buffer[c]? := by
  induction values generalizing buffer k with
  | nil => rfl
  | cons value rest ih =>
    have first : c ≠ stretch.cell k := apart 0 (Nat.zero_lt_succ _)
    have others : ∀ j < rest.length, c ≠ stretch.cell (k + 1 + j) := by
      intro j hj
      rw [Nat.add_assoc, Nat.add_comm 1 j]
      exact apart (j + 1) (Nat.succ_lt_succ hj)
    rw [put, ih _ _ others]
    exact Array.getElem?_setIfInBounds_ne first.symm

/-- **Each cell of a stretch has its value.** -/
theorem getElem?_put_cell {stretch : Stretch} (step : 0 < stretch.step) (buffer : Array α)
    (values : List α) (k : Nat) {j : Nat} (hj : j < values.length)
    (inside : stretch.cell (k + j) < buffer.size) :
    (stretch.put buffer k values)[stretch.cell (k + j)]? = values[j]? := by
  have later : ∀ {m n}, m < n → stretch.cell m < stretch.cell n := by
    intro m n lt
    unfold cell
    have := Nat.mul_lt_mul_of_pos_left lt step
    omega
  induction values generalizing buffer k j with
  | nil => exact absurd hj (Nat.not_lt_zero _)
  | cons value rest ih =>
    rw [put]
    cases j with
    | zero =>
      rw [getElem?_put_of_ne _ _ _ _ fun j _ => (later (by omega)).ne]
      exact Array.getElem?_setIfInBounds_self_of_lt inside
    | succ j =>
      have shift : k + (j + 1) = k + 1 + j := by omega
      rw [shift] at inside ⊢
      exact ih _ _ (Nat.lt_of_succ_lt_succ hj) (by rwa [Array.size_setIfInBounds])

/-! ## Every cell -/

/-- **A run of cells**: each has its value, and none outside is reached. -/
theorem getElem?_put_run {first count : Nat} {values : List α} {buffer : Array α}
    (length : values.length = count) (room : first + count ≤ buffer.size) {filled : Array α}
    (put_eq : filled = (⟨first, 1, count⟩ : Stretch).put buffer 0 values) :
    (∀ k < count, filled[first + k]? = values[k]?)
      ∧ ∀ c, c < first ∨ first + count ≤ c → filled[c]? = buffer[c]? := by
  have cell : ∀ k, (⟨first, 1, count⟩ : Stretch).cell (0 + k) = first + k := by
    intro k
    rw [Nat.zero_add, Stretch.cell, Nat.one_mul]
  subst put_eq
  refine ⟨fun k hk => ?_, fun c hc => getElem?_put_of_ne _ _ _ _ fun k hk => ?_⟩
  · rw [← cell k]
    exact getElem?_put_cell Nat.one_pos buffer values 0 (by rwa [length]) (by rw [cell]; omega)
  · rw [cell]
    omega

/-! ## Every second cell -/

section Lanes

variable {first count : Nat} {values : List α} {buffer : Array α}

theorem getElem?_put_lane (length : values.length = count) {k : Nat} (hk : k < count)
    (inside : first + 2 * k < buffer.size) :
    ((⟨first, 2, count⟩ : Stretch).put buffer 0 values)[first + 2 * k]? = values[k]? := by
  have cell : (⟨first, 2, count⟩ : Stretch).cell (0 + k) = first + 2 * k := by
    rw [Nat.zero_add]
    rfl
  rw [← cell] at inside ⊢
  exact getElem?_put_cell Nat.two_pos buffer values 0 (by rwa [length]) inside

theorem getElem?_put_lane_of_ne (length : values.length = count) {c : Nat}
    (apart : ∀ k < count, c ≠ first + 2 * k) :
    ((⟨first, 2, count⟩ : Stretch).put buffer 0 values)[c]? = buffer[c]? := by
  refine getElem?_put_of_ne _ _ _ _ fun k hk => ?_
  rw [length] at hk
  rw [Nat.zero_add]
  exact apart k hk

/-- **Two lanes side by side**: neither reaches a cell of the other, or one outside. -/
theorem getElem?_put_lanes {offset : Nat} {fs gs : List α} (length : fs.length = count)
    (length' : gs.length = count) (room : offset + 2 * count ≤ buffer.size) {filled : Array α}
    (both : filled = (⟨offset + 1, 2, count⟩ : Stretch).put
      ((⟨offset, 2, count⟩ : Stretch).put buffer 0 fs) 0 gs) :
    (∀ k < count, filled[offset + 2 * k]? = fs[k]? ∧ filled[offset + 2 * k + 1]? = gs[k]?)
      ∧ ∀ c, c < offset ∨ offset + 2 * count ≤ c → filled[c]? = buffer[c]? := by
  subst both
  refine ⟨fun k hk => ⟨?_, ?_⟩, fun c hc => ?_⟩
  · rw [getElem?_put_lane_of_ne length' fun j _ => by omega]
    exact getElem?_put_lane length hk (by omega)
  · rw [Nat.add_right_comm]
    exact getElem?_put_lane length' hk (by rw [size_put]; omega)
  · rw [getElem?_put_lane_of_ne length' fun j _ => by omega]
    exact getElem?_put_lane_of_ne length fun j _ => by omega

end Lanes

/-- A place within the buffer stays. -/
theorem place_of_le {size index : Nat} (h : index ≤ size) : place size index = index := by
  unfold place
  rw [if_neg (by omega), Int.toNat_natCast, Nat.min_eq_left h]

/-- **Every cell** from one place to before another. -/
theorem between_one {size first count : Nat} (room : first + count ≤ size) :
    between size first (first + count) 1 = ⟨first, 1, count⟩ := by
  unfold between
  rw [← Nat.cast_add, place_of_le room, place_of_le (Nat.le_of_add_right_le room)]
  dsimp only
  congr 1
  split <;> omega

/-- **Every second cell** from one place to before another. -/
theorem between_two {size first count stop : Nat} (room : stop ≤ size)
    (start : first < stop) (cells : stop = first + 2 * count ∨ stop + 1 = first + 2 * count) :
    between size first stop 2 = ⟨first, 2, count⟩ := by
  unfold between
  rw [place_of_le room, place_of_le (start.le.trans room)]
  have count_eq : (stop - first - 1) / 2 + 1 = count := by omega
  show (⟨first, 2, if first < stop then (stop - first - 1) / 2 + 1 else 0⟩ : Stretch) = _
  rw [if_pos start, count_eq]

end Stretch

/-! ## Lengths -/

/-- **A length a buffer can have.** -/
theorem lengthFault?_eq_none_iff {length : Int} :
    lengthFault? length = none ↔ 0 ≤ length ∧ length < excessiveLength := by
  have below : excessiveLength < impossibleLength := by decide
  unfold lengthFault?
  split
  · next wrong => exact ⟨nofun, by omega⟩
  · split
    · next excessive => exact ⟨nofun, by omega⟩
    · exact ⟨fun _ => by omega, fun _ => rfl⟩

/-- A length that is not negative and refused is beyond all that can be held. -/
theorem excessive_of_lengthFault? {length : Int} {fault : Fault} (natural : 0 ≤ length)
    (refused : lengthFault? length = some fault) : excessiveLength ≤ length := by
  by_contra short
  rw [lengthFault?_eq_none_iff.mpr ⟨natural, not_le.mp short⟩] at refused
  exact absurd refused nofun

end WhistledSpeech
