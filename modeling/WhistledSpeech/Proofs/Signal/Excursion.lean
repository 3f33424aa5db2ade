import Mathlib
import WhistledSpeech.Proofs.Signal.Course

/-!
# The course of an excursion

A contour runs through its angles from the one end to the opposite one, at a constant rate, and its level
is that at the ends and the part of its excursion that the shape has made of its own. In exact arithmetic,
with a known curve and a clip that leaves something of the domain, it always has a profile, and this goes
up to the excursion and comes back the same way (`Contour.exists_symmetric_course`).

That it comes back the same way is because the shapes are even (`ContourShape.height_neg`), and two points
at the same distance from the middle have opposite angles (`Contour.angle_one_sub`). That it goes there
without ever turning is because a shape only falls as the angle leaves zero (`height_strictAntiOn`), of
which nothing enters but that the cosine falls up to a half turn and that the root rises. The ellipse is
held above zero where rounding would push it below. No exact angle within a half turn needs that, and the
one at the half turn has the height zero with it and without.
-/

namespace WhistledSpeech

open Arithmetic Exact

/-! ## Shapes -/

namespace ContourShape

/-- **The names of the curves that contours know.** -/
def known : List String := ["sine", "ellipse"]

/-- A known curve has a shape. -/
theorem exists_ofDocument {name : String} (mem : name ∈ known) :
    ∃ shape, ofDocument (.text name) = .ok shape := by
  rw [known, List.mem_cons, List.mem_singleton] at mem
  obtain rfl | rfl := mem
  · exact ⟨.sine, rfl⟩
  · exact ⟨.ellipse, rfl⟩

/-- The angles between the middle of a contour and its furthest end. -/
def halfTurn : Set ℝ := Set.Icc 0 Real.pi

theorem sine_strictAntiOn : StrictAntiOn sine.height halfTurn := by
  intro x hx y hy lt
  have falls : Real.cos y < Real.cos x := Real.strictAntiOn_cos hx hy lt
  exact div_lt_div_of_pos_right (add_lt_add_left falls 1) (Nat.cast_pos.mpr two_pos)

/-- Within a half turn nothing has to be held above zero. -/
theorem ellipse_height_eq {x : ℝ} (hx : x ∈ halfTurn) :
    ellipse.height x = √(1 - (x / Real.pi) ^ 2) := by
  have inside : (x / Real.pi) ^ 2 ≤ 1 :=
    pow_le_one₀ (div_nonneg hx.1 Real.pi_pos.le) ((div_le_one Real.pi_pos).mpr hx.2)
  rw [height, max_eq_left (sub_nonneg.mpr inside)]

theorem ellipse_strictAntiOn : StrictAntiOn ellipse.height halfTurn := by
  intro x hx y hy lt
  have further : (x / Real.pi) ^ 2 < (y / Real.pi) ^ 2 :=
    pow_lt_pow_left₀ (div_lt_div_of_pos_right lt Real.pi_pos) (div_nonneg hx.1 Real.pi_pos.le) two_ne_zero
  have inside : (y / Real.pi) ^ 2 ≤ 1 :=
    pow_le_one₀ (div_nonneg hy.1 Real.pi_pos.le) ((div_le_one Real.pi_pos).mpr hy.2)
  rw [ellipse_height_eq hx, ellipse_height_eq hy]
  exact Real.sqrt_lt_sqrt (sub_nonneg.mpr inside) (sub_lt_sub_left further 1)

/-- **Every shape falls away from the middle.** -/
theorem height_strictAntiOn (shape : ContourShape) : StrictAntiOn shape.height halfTurn := by
  cases shape with
  | sine => exact sine_strictAntiOn
  | ellipse => exact ellipse_strictAntiOn

end ContourShape

/-! ## Angles -/

namespace Contour

variable (contour : Contour ℝ) (shape : ContourShape)

/-- **The angle of a contour** when some part of the time has passed. -/
noncomputable def angle (u : ℝ) : ℝ := (contour.clip - Real.pi) * (1 - u - u)

theorem angle_eq (u : ℝ) : contour.angle u = (contour.clip - Real.pi) * (1 - 2 * u) := by
  rw [angle, sub_sub, two_mul]

theorem angle_zero : contour.angle 0 = contour.clip - Real.pi := by
  rw [angle, sub_zero, sub_zero, mul_one]

theorem angle_half : contour.angle (1 / 2) = 0 := by
  rw [angle, sub_sub, add_halves, sub_self, mul_zero]

/-- Two points at the same distance from the middle have opposite angles. -/
theorem angle_one_sub (u : ℝ) : contour.angle (1 - u) = -contour.angle u := by
  rw [angle, angle]
  ring

/-- The part of its excursion that a contour has made when some part of the time has passed. -/
noncomputable def part (u : ℝ) : ℝ :=
  (shape.height (contour.angle u) - shape.height (contour.clip - Real.pi))
    / (shape.height 0 - shape.height (contour.clip - Real.pi))

/-- **The level of a contour** when some part of the time has passed. -/
noncomputable def levelAt (u : ℝ) : ℝ := contour.level + contour.excursion * contour.part shape u

/-- **What is made of an excursion is undone in the same way.** -/
theorem levelAt_one_sub (u : ℝ) : contour.levelAt shape (1 - u) = contour.levelAt shape u := by
  rw [levelAt, levelAt, part, part, angle_one_sub, shape.height_neg]

theorem levelAt_zero : contour.levelAt shape 0 = contour.level := by
  rw [levelAt, part, angle_zero, sub_self, zero_div, mul_zero, add_zero]

/-- In the middle all of the excursion has been made. -/
theorem levelAt_half (spans : shape.height 0 - shape.height (contour.clip - Real.pi) ≠ 0) :
    contour.levelAt shape (1 / 2) = contour.level + contour.excursion := by
  rw [levelAt, part, angle_half, div_self spans, mul_one]

section Clips

variable {contour} (clip : 0 ≤ contour.clip) (clip' : contour.clip < Real.pi)

include clip clip'

/-- In the first half the angle comes from within a half turn. -/
theorem neg_angle_mem_halfTurn {u : ℝ} (hu : u ∈ Set.Icc 0 (1 / 2)) :
    -contour.angle u ∈ ContourShape.halfTurn := by
  have width : 0 < Real.pi - contour.clip := sub_pos.mpr clip'
  have left : 0 ≤ 1 - u - u := by linarith [hu.2]
  have opposite : -contour.angle u = (Real.pi - contour.clip) * (1 - u - u) := by
    rw [angle]
    ring
  rw [opposite]
  refine ⟨mul_nonneg width.le left, ?_⟩
  calc (Real.pi - contour.clip) * (1 - u - u)
      ≤ (Real.pi - contour.clip) * 1 := mul_le_mul_of_nonneg_left (by linarith [hu.1]) width.le
    _ ≤ Real.pi := by linarith

/-- **In the first half the shape rises.** -/
theorem height_angle_strictMonoOn :
    StrictMonoOn (fun u => shape.height (contour.angle u)) (Set.Icc 0 (1 / 2)) := by
  intro u hu v hv lt
  have nearer : -contour.angle v < -contour.angle u := by
    have width : contour.clip - Real.pi < 0 := sub_neg.mpr clip'
    exact neg_lt_neg (mul_lt_mul_of_neg_left (by linarith) width)
  have rises := shape.height_strictAntiOn (neg_angle_mem_halfTurn clip clip' hv)
    (neg_angle_mem_halfTurn clip clip' hu) nearer
  rwa [shape.height_neg, shape.height_neg] at rises

/-- A shape is higher in the middle than at the start. -/
theorem height_first_lt : shape.height (contour.clip - Real.pi) < shape.height 0 := by
  have rises : shape.height (contour.angle 0) < shape.height (contour.angle (1 / 2)) :=
    height_angle_strictMonoOn shape clip clip' ⟨le_rfl, one_half_pos.le⟩ ⟨one_half_pos.le, le_rfl⟩
      one_half_pos
  rwa [angle_zero, angle_half] at rises

/-- **The part of its excursion that a contour has made grows in the first half.** -/
theorem part_strictMonoOn : StrictMonoOn (contour.part shape) (Set.Icc 0 (1 / 2)) := by
  intro u hu v hv lt
  have rises := height_angle_strictMonoOn shape clip clip' hu hv lt
  exact div_lt_div_of_pos_right (sub_lt_sub_right rises _)
    (sub_pos.mpr (height_first_lt shape clip clip'))

end Clips

/-- A level that is reached by a strict rise or a strict fall lies between the ends. -/
theorem mem_uIcc_of_strict {f : ℝ → ℝ} {a b m : ℝ} (apart : a ≠ b) (first : f 0 = a) (last : f m = b)
    (rising : a < b → StrictMonoOn f (Set.Icc 0 m)) (falling : b < a → StrictAntiOn f (Set.Icc 0 m))
    {t : ℝ} (ht : t ∈ Set.Icc 0 m) : f t ∈ Set.uIcc a b := by
  obtain rises | falls := apart.lt_or_gt
  · rw [Set.uIcc_of_le rises.le, ← first, ← last]
    exact (rising rises).monotoneOn.mapsTo_Icc ht
  · rw [Set.uIcc_of_ge falls.le, ← first, ← last]
    exact (falling falls).antitoneOn.mapsTo_Icc ht

/-- **A contour goes to its excursion and comes back the same way.** With a known curve, an excursion and a
clip that leaves something of the domain, it has a profile over any positive length. The level at a point
is the level at the same distance from the end; it is the full excursion in the middle, and up to there it
strictly rises, or strictly falls, from the level at the start. So it stays between the two. -/
theorem exists_symmetric_course (contour : Contour ℝ) (name : String)
    (named : contour.curve = .text name) (curve : name ∈ ContourShape.known)
    (moves : contour.excursion ≠ 0) (clip : 0 ≤ contour.clip) (clip' : contour.clip < Real.pi) (n : ℝ)
    (positive : 0 < n) :
    ∃ profile, ∃ levelAt : ℝ → ℝ, (contour.map number).profile (number n) = .ok profile
      ∧ (∀ t ∈ Set.Icc 0 n, profile.eval (number t) = .ok (number (levelAt t)))
      ∧ (∀ t ∈ Set.Icc 0 n, levelAt t = levelAt (n - t))
      ∧ levelAt 0 = contour.level ∧ levelAt (n / 2) = contour.level + contour.excursion
      ∧ (0 < contour.excursion → StrictMonoOn levelAt (Set.Icc 0 (n / 2)))
      ∧ (contour.excursion < 0 → StrictAntiOn levelAt (Set.Icc 0 (n / 2)))
      ∧ ∀ t ∈ Set.Icc 0 n,
          levelAt t ∈ Set.uIcc contour.level (contour.level + contour.excursion) := by
  obtain ⟨shape, shaped⟩ := ContourShape.exists_ofDocument curve
  rw [← named] at shaped
  have spans : shape.height 0 - shape.height (contour.clip - Real.pi) ≠ 0 :=
    sub_ne_zero.mpr (height_first_lt shape clip clip').ne'
  have grows := part_strictMonoOn shape clip clip'
  have passes : Set.MapsTo (· / n) (Set.Icc 0 (n / 2)) (Set.Icc 0 (1 / 2)) := fun t ht =>
    ⟨div_nonneg ht.1 positive.le, (div_le_iff₀ positive).mpr (by linarith [ht.2])⟩
  have quicker : StrictMonoOn (· / n) (Set.Icc 0 (n / 2)) := fun _ _ _ _ lt =>
    div_lt_div_of_pos_right lt positive
  have mirrored : ∀ t, contour.levelAt shape (t / n) = contour.levelAt shape ((n - t) / n) := by
    intro t
    rw [sub_div, div_self positive.ne', levelAt_one_sub]
  have first : contour.levelAt shape (0 / n) = contour.level := by
    rw [zero_div, levelAt_zero]
  have middle : contour.levelAt shape (n / 2 / n) = contour.level + contour.excursion := by
    rw [div_right_comm, div_self positive.ne', levelAt_half _ _ spans]
  have rising : 0 < contour.excursion →
      StrictMonoOn (contour.levelAt shape ∘ (· / n)) (Set.Icc 0 (n / 2)) :=
    fun up => (strictMonoOn_add_mul grows _ up).comp quicker passes
  have falling : contour.excursion < 0 →
      StrictAntiOn (contour.levelAt shape ∘ (· / n)) (Set.Icc 0 (n / 2)) :=
    fun down => (strictAntiOn_add_mul grows _ down).comp_strictMonoOn quicker passes
  have between : ∀ t ∈ Set.Icc 0 (n / 2), contour.levelAt shape (t / n)
      ∈ Set.uIcc contour.level (contour.level + contour.excursion) := fun t ht =>
    mem_uIcc_of_strict (f := contour.levelAt shape ∘ (· / n)) (left_ne_add.mpr moves) first middle
      (fun up => rising (pos_of_lt_add_right up)) (fun down => falling (neg_of_add_lt_right down)) ht
  refine ⟨_, contour.levelAt shape ∘ (· / n),
    profile_number_eq_ok_iff.mpr (.inr ⟨moves, shape, shaped, spans, rfl⟩),
    fun t _ => ?_, fun t _ => mirrored t, first, middle, rising, falling, fun t ht => ?_⟩
  · rw [Function.comp, levelAt, part, angle_eq]
    exact Profile.eval_bump_number spans (number_div positive.ne')
  · obtain early | late := le_total t (n / 2)
    · exact between t ⟨ht.1, early⟩
    · rw [Function.comp, mirrored]
      exact between (n - t) ⟨sub_nonneg.mpr ht.2, by linarith⟩

/-- An ellipse downwards whose ends are cut off. -/
def clippedDip : Contour ℝ := ⟨1, -1, .text "ellipse", 1⟩

/-- It falls to zero up to the middle, and is then where it was before. -/
theorem exists_symmetric_course_clippedDip :
    ∃ profile, ∃ levelAt : ℝ → ℝ, (clippedDip.map number).profile (number 4) = .ok profile
      ∧ profile.eval (number 3) = .ok (number (levelAt 3)) ∧ levelAt 3 = levelAt 1
      ∧ levelAt 0 = 1 ∧ levelAt 2 = 0 ∧ StrictAntiOn levelAt (Set.Icc 0 2) := by
  have clip' : clippedDip.clip < Real.pi := by
    show (1 : ℝ) < Real.pi
    linarith [Real.pi_gt_three]
  have down : clippedDip.excursion < 0 := neg_one_lt_zero
  obtain ⟨profile, levelAt, built, points, mirrored, first, middle, _, falls, _⟩ :=
    exists_symmetric_course clippedDip "ellipse" rfl (by decide) down.ne zero_le_one clip' 4 four_pos
  refine ⟨profile, levelAt, built, points 3 ⟨by norm_num, by norm_num⟩, ?_, first, ?_, ?_⟩
  · rw [mirrored 3 ⟨by norm_num, by norm_num⟩]
    norm_num
  · rw [show (2 : ℝ) = 4 / 2 by norm_num, middle]
    show (1 : ℝ) + -1 = 0
    norm_num
  · rw [show (2 : ℝ) = 4 / 2 by norm_num]
    exact falls down

end Contour

end WhistledSpeech
