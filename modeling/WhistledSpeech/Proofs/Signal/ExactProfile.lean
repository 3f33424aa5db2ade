import Mathlib
import WhistledSpeech.Proofs.Exact
import WhistledSpeech.Proofs.Signal.Profile

/-!
# Profiles in exact arithmetic

With exact numbers for its levels and clips the profile of a component can be written down. A transition
runs through its angles at a constant rate (`Transition.angle`), a contour through opposite ones
(`Contour.angle_number`), and the level at a point is the first level and the part of the rise that the
shape has made of its own (`Profile.eval_ramp_number`, `Profile.eval_bump_number`). What a shape has to
move between the two ends is a number that can be divided by, as no profile is built without
(`exists_of_isSpan`).
-/

namespace WhistledSpeech

open Arithmetic Exact

/-- The level held. -/
theorem eval_level_number {y : ℝ} (t : Exact) : (Profile.level (number y)).eval t = .ok (number y) := by
  show Except.ok (nat 0 + number y) = _
  rw [nat_eq, number_add, Nat.cast_zero, zero_add]

/-! ## Spans -/

/-- The difference of two numbers can be divided by if they are not the same. -/
theorem isSpan_number {h l : ℝ} (spans : h - l ≠ 0) : isSpan (number h - number l) = true := by
  have apart : eq (number (h - l)) (nat 0) = false := by
    rw [nat_eq, eq_number_eq_false, Nat.cast_zero]
    exact spans
  rw [isSpan, number_sub, apart]
  rfl

/-- **What can be divided by** is the difference of two numbers that are not the same. -/
theorem exists_of_isSpan {high low : Exact} (divides : isSpan (high - low) = true) :
    ∃ h l : ℝ, high = number h ∧ low = number l ∧ h - l ≠ 0 := by
  unfold isSpan at divides
  obtain ⟨apart, finite⟩ := Bool.and_eq_true_iff.mp divides
  cases difference : high - low with
  | undefined =>
    rw [difference] at finite
    exact absurd finite nofun
  | number d =>
    obtain ⟨h, l, rfl, rfl, rfl⟩ := lift₂_eq_number difference
    refine ⟨h, l, rfl, rfl, ?_⟩
    rw [difference, Bool.not_eq_true', nat_eq, eq_number_eq_false, Nat.cast_zero] at apart
    exact apart

/-- A level moved by the part of a rise that a value has covered of a span. -/
theorem level_add_mul {h l : ℝ} (spans : h - l ≠ 0) (level rise v : ℝ) :
    number level + number rise * ((number v - number l) / (number h - number l))
      = number (level + rise * ((v - l) / (h - l))) := by
  rw [number_sub, number_sub, number_div spans, number_mul, number_add]

/-! ## Transitions -/

namespace Transition

variable (move : Transition ℝ)

theorem firstAngle_number :
    (move.map number).firstAngle = number (move.startClip - Real.pi / 2) := by
  show number move.startClip - quarterTurn = _
  rw [quarterTurn_eq, number_sub]

theorem domain_number :
    (move.map number).domain = number (Real.pi - move.startClip - move.endClip) := by
  show quarterTurn - number move.endClip - (move.map number).firstAngle = _
  rw [firstAngle_number, quarterTurn_eq, number_sub, number_sub]
  congr 1
  ring

/-- **The angle of a transition** at some part of the way through its domain. -/
noncomputable def angle (u : ℝ) : ℝ :=
  move.startClip - Real.pi / (2 : ℕ) + (Real.pi - move.startClip - move.endClip) * u

theorem angle_number (u : ℝ) :
    (move.map number).firstAngle + (move.map number).domain * number u = number (move.angle u) := by
  rw [firstAngle_number, domain_number, number_mul, number_add, angle, Nat.cast_ofNat]

theorem angle_zero : move.angle 0 = move.startClip - Real.pi / 2 := by
  rw [angle, mul_zero, add_zero, Nat.cast_ofNat]

theorem angle_one : move.angle 1 = Real.pi / 2 - move.endClip := by
  rw [angle, Nat.cast_ofNat]
  ring

variable {move} {samples : Exact} {scope? : Option (Scope Exact)} {profile : Profile Exact}

/-- **When a transition has a profile**: its levels are equal, or its shape has a value at the first and at
the last of its angles, and not the same. -/
theorem profile_number_eq_ok_iff :
    (move.map number).profile samples scope? = .ok profile ↔
      move.start = move.finish ∧ profile = .level (number move.start)
      ∨ move.start ≠ move.finish ∧ ∃ shape, (move.map number).shape scope? = .ok shape
        ∧ ∃ l h : ℝ, shape.eval (number (move.angle 0)) = .ok (number l)
        ∧ shape.eval (number (move.angle 1)) = .ok (number h) ∧ h - l ≠ 0
        ∧ profile = .ramp ((move.map number).ramp shape (number l) (number h) samples) := by
  have first : (move.map number).firstAngle = number (move.angle 0) := by
    rw [firstAngle_number, angle_zero]
  have last : (move.map number).firstAngle + (move.map number).domain * nat 1
      = number (move.angle 1) := by
    rw [nat_eq, angle_number, Nat.cast_one]
  rw [profile_eq_ok_iff, last, first]
  simp only [evalEnd_eq_eval]
  refine or_congr (and_congr_left' eq_number_iff) (and_congr eq_number_eq_false
    (exists_congr fun shape => and_congr_right' ⟨?_, ?_⟩))
  · rintro ⟨low, atStart, high, atEnd, divides, built⟩
    obtain ⟨h, l, rfl, rfl, spans⟩ := exists_of_isSpan divides
    exact ⟨l, h, atStart, atEnd, spans, built⟩
  · rintro ⟨l, h, atStart, atEnd, spans, built⟩
    exact ⟨_, atStart, _, atEnd, isSpan_number spans, built⟩

end Transition

/-- **The level of a ramp** where its shape has some value. -/
theorem Profile.eval_ramp_number {move : Transition ℝ} {shape : TransitionShape Exact} {h l u v : ℝ}
    {samples t : Exact} (spans : h - l ≠ 0) (part : t / samples = number u)
    (value : shape.eval (number (move.angle u)) = .ok (number v)) :
    (ramp ((move.map number).ramp shape (number l) (number h) samples)).eval t
      = .ok (number (move.start + (move.finish - move.start) * ((v - l) / (h - l)))) := by
  rw [eval_ramp, ← level_add_mul spans]
  show Except.map _ ((shape.eval
    ((move.map number).firstAngle + (move.map number).domain * (t / samples))).map _) = _
  rw [part, move.angle_number, value]
  rfl

/-! ## Contours -/

namespace ContourShape

/-- **The height of a contour's shape** at an angle. -/
noncomputable def height : ContourShape → ℝ → ℝ
  | sine, x => (Real.cos x + 1) / (2 : ℕ)
  | ellipse, x => √(max (1 - (x / Real.pi) ^ 2) 0)

theorem atLeastZero_number (x : ℝ) : atLeastZero (number x) = number (max x 0) := by
  have is : atLeastZero (number x) = if lt (number x) (nat 0) then nat 0 else number x := rfl
  rw [is, nat_eq, Nat.cast_zero]
  by_cases below : x < 0
  · rw [if_pos (lt_number_iff.mpr below), max_eq_right below.le]
  · rw [if_neg (mt lt_number_iff.mp below), max_eq_left (not_lt.mp below)]

/-- It has one at every angle. -/
theorem eval_number (shape : ContourShape) (x : ℝ) :
    shape.eval (number x) = number (shape.height x) := by
  cases shape with
  | sine =>
    show (number (Real.cos x) + nat 1) * number ((5 : ℕ) / 10 ^ 1) = number ((Real.cos x + 1) / (2 : ℕ))
    rw [nat_eq, number_add, number_mul]
    congr 1
    push_cast
    ring
  | ellipse =>
    show sqrt (atLeastZero (nat 1 - square (number x * perHalfTurn))) = _
    rw [mul_perHalfTurn, square, number_mul, nat_eq, number_sub, atLeastZero_number,
      sqrt_number (le_max_right _ _), Nat.cast_one, ← sq]
    rfl

theorem evalEnd_number (shape : ContourShape) (x : ℝ) :
    shape.evalEnd (number x) = .ok (number (shape.height x)) := by
  rw [← shape.eval_number]
  cases shape with
  | sine => rfl
  | ellipse =>
    show (boundedSquare (number x * perHalfTurn) >>= fun _ => .ok (ellipse.eval (number x))) = _
    rw [boundedSquare_eq]
    rfl

/-- **The shapes of contours are even.** -/
theorem height_neg (shape : ContourShape) (x : ℝ) : shape.height (-x) = shape.height x := by
  cases shape with
  | sine => rw [height, height, Real.cos_neg]
  | ellipse => rw [height, height, neg_div, neg_sq]

end ContourShape

/-- **The angle of a contour** at some part of its time. -/
theorem Contour.angle_number (contour : Contour ℝ) (u : ℝ) :
    ((contour.map number).clip - pi) * (nat 1 - nat 2 * number u)
      = number ((contour.clip - Real.pi) * (1 - 2 * u)) := by
  show (number contour.clip - pi) * _ = _
  rw [pi_eq, nat_eq, nat_eq, number_sub, number_mul, number_sub, number_mul, Nat.cast_one, Nat.cast_ofNat]

/-- **When a contour has a profile**: it does not move, or its shape is not as high at the first of its
angles as in the middle. -/
theorem Contour.profile_number_eq_ok_iff {contour : Contour ℝ} {samples : Exact}
    {profile : Profile Exact} :
    (contour.map number).profile samples = .ok profile ↔
      contour.excursion = 0 ∧ profile = .level (number contour.level)
      ∨ contour.excursion ≠ 0 ∧ ∃ shape, ContourShape.ofDocument contour.curve = .ok shape
        ∧ shape.height 0 - shape.height (contour.clip - Real.pi) ≠ 0
        ∧ profile = .bump ((contour.map number).bump shape
          (number (shape.height (contour.clip - Real.pi))) samples) := by
  have still : eq (number contour.excursion) (nat 0) = true ↔ contour.excursion = 0 := by
    rw [nat_eq, eq_number_iff, Nat.cast_zero]
  have moves : eq (number contour.excursion) (nat 0) = false ↔ contour.excursion ≠ 0 := by
    rw [nat_eq, eq_number_eq_false, Nat.cast_zero]
  have first : (contour.map number).clip - pi = number (contour.clip - Real.pi) := rfl
  rw [profile_eq_ok_iff, first]
  refine or_congr (and_congr_left' still) (and_congr moves
    (exists_congr fun shape => and_congr_right' ⟨?_, ?_⟩))
  · rintro ⟨base, atStart, rises, built⟩
    rw [shape.evalEnd_number] at atStart
    cases atStart
    rw [nat_eq, Nat.cast_zero, shape.eval_number] at rises
    obtain ⟨h, l, middle, low, spans⟩ := exists_of_isSpan rises
    cases middle
    cases low
    exact ⟨spans, built⟩
  · rintro ⟨spans, built⟩
    refine ⟨_, shape.evalEnd_number _, ?_, built⟩
    rw [nat_eq, Nat.cast_zero, shape.eval_number]
    exact isSpan_number spans

/-- **The level of a bump** at some part of its time. -/
theorem Profile.eval_bump_number {contour : Contour ℝ} {shape : ContourShape} {base u : ℝ}
    {samples t : Exact} (rises : shape.height 0 - base ≠ 0) (part : t / samples = number u) :
    (bump ((contour.map number).bump shape (number base) samples)).eval t
      = .ok (number (contour.level + contour.excursion
        * ((shape.height ((contour.clip - Real.pi) * (1 - 2 * u)) - base) / (shape.height 0 - base)))) := by
  rw [eval_bump, ← level_add_mul rises, ← shape.eval_number, ← contour.angle_number, ← part,
    ← shape.eval_number, ← Nat.cast_zero, ← nat_eq]
  rfl

end WhistledSpeech
