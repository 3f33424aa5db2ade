import Mathlib
import WhistledSpeech.Proofs.Signal.ExactProfile

/-!
# The shapes of named transitions

In exact arithmetic a shape with a name is a real function (`TransitionShape.height`) on an interval of
angles (`TransitionShape.angles`): a sine is defined everywhere, an arcsine within a half turn, and an arc
over the width of the ellipse it is a part of. It has its height at each of these angles and no value at
any other (`eval_of_mem_angles`, `mem_angles_of_eval`). As these are intervals, a shape that has a value at
two angles has one at every angle between them (`convex_angles`).

Within a quarter turn of zero, where a transition runs whose clips cut something off its domain, every
shape only rises or only falls (`height_strict`). Of the sine, the arcsine and the root nothing enters there
but that they rise.
-/

namespace WhistledSpeech

open Arithmetic Exact

/-! ## Arcs -/

/-- The height of a concave arc at some part of a turn from its lowest point. -/
noncomputable def hollow (q : ℝ) : ℝ := 1 - 2 * √(1 - q ^ 2)

/-- An arc is higher further out. -/
theorem hollow_lt_hollow {q r : ℝ} (lt : q ^ 2 < r ^ 2) (inside : r ^ 2 ≤ 1) : hollow q < hollow r := by
  have root : √(1 - r ^ 2) < √(1 - q ^ 2) :=
    Real.sqrt_lt_sqrt (sub_nonneg.mpr inside) (sub_lt_sub_left lt 1)
  unfold hollow
  linarith

theorem mul_perFullTurn (y : ℝ) : number y * perFullTurn = number (y / (2 * Real.pi)) := by
  rw [perFullTurn_eq, number_mul, mul_one_div]

/-- An angle is no more than a whole turn away. -/
theorem sq_turns_le_one_iff {y : ℝ} : (y / (2 * Real.pi)) ^ 2 ≤ 1 ↔ |y| ≤ 2 * Real.pi := by
  have turn : 0 < 2 * Real.pi := Real.two_pi_pos
  rw [sq_le_one_iff_abs_le_one, abs_div, abs_of_pos turn, div_le_one turn]

theorem abs_add_pi_le_iff {x : ℝ} :
    |x + Real.pi| ≤ 2 * Real.pi ↔ x ∈ Set.Icc (-(3 * Real.pi)) Real.pi := by
  rw [abs_le, Set.mem_Icc]
  constructor
  · exact fun ⟨low, high⟩ => ⟨by linarith, by linarith⟩
  · exact fun ⟨low, high⟩ => ⟨by linarith, by linarith⟩

theorem abs_sub_pi_le_iff {x : ℝ} :
    |x - Real.pi| ≤ 2 * Real.pi ↔ x ∈ Set.Icc (-Real.pi) (3 * Real.pi) := by
  rw [abs_le, Set.mem_Icc]
  constructor
  · exact fun ⟨low, high⟩ => ⟨by linarith, by linarith⟩
  · exact fun ⟨low, high⟩ => ⟨by linarith, by linarith⟩

namespace TransitionShape

variable {y : ℝ}

/-- An arc has a height as far as its ellipse is wide. -/
theorem two_mul_arcHeight (near : |y| ≤ 2 * Real.pi) :
    nat 2 * arcHeight (square (number y * perFullTurn))
      = number (2 * √(1 - (y / (2 * Real.pi)) ^ 2)) := by
  have inside : (y / (2 * Real.pi)) * (y / (2 * Real.pi)) ≤ 1 := by
    rw [← sq]
    exact sq_turns_le_one_iff.mpr near
  rw [mul_perFullTurn, square, number_mul, arcHeight, nat_eq, nat_eq, number_sub, Nat.cast_one,
    sqrt_number (sub_nonneg.mpr inside), number_mul, Nat.cast_ofNat, sq]

/-- And no further. -/
theorem abs_le_of_arcHeight {v : ℝ}
    (height : nat 2 * arcHeight (square (number y * perFullTurn)) = number v) : |y| ≤ 2 * Real.pi := by
  obtain ⟨_, _, _, root, _⟩ := mul_eq_number height
  unfold arcHeight square at root
  rw [mul_perFullTurn, nat_eq, number_mul, number_sub, Nat.cast_one, ← sq] at root
  exact sq_turns_le_one_iff.mp (sub_nonneg.mp (mem_of_liftOn_number root))

/-! ## Shapes -/

/-- Whether a shape has a name, and is no formula. -/
def IsNamed {α : Type} : TransitionShape α → Prop
  | formula _ _ => False
  | _ => True

/-- **The angles at which a named shape has a value.** -/
def angles : TransitionShape Exact → Set ℝ
  | sine => Set.univ
  | arcsine => Set.Icc (-Real.pi) Real.pi
  | concaveUp | convexDown => Set.Icc (-(3 * Real.pi)) Real.pi
  | concaveDown | convexUp => Set.Icc (-Real.pi) (3 * Real.pi)
  | formula _ _ => ∅

/-- **The height of a named shape** at an angle. -/
noncomputable def height : TransitionShape Exact → ℝ → ℝ
  | sine, x => Real.sin x
  | arcsine, x => Real.arcsin (x / Real.pi) * (2 / Real.pi)
  | concaveUp, x => hollow ((x + Real.pi) / (2 * Real.pi))
  | concaveDown, x => hollow ((x - Real.pi) / (2 * Real.pi))
  | convexUp, x => -hollow ((x - Real.pi) / (2 * Real.pi))
  | convexDown, x => -hollow ((x + Real.pi) / (2 * Real.pi))
  | formula _ _, _ => 0

variable {shape : TransitionShape Exact} {x v : ℝ}

/-- **A named shape has its height** at each of its angles. -/
theorem eval_of_mem_angles (mem : x ∈ shape.angles) :
    shape.eval (number x) = .ok (number (shape.height x)) := by
  have concave : ∀ {y : ℝ}, |y| ≤ 2 * Real.pi →
      nat 1 - nat 2 * arcHeight (square (number y * perFullTurn))
        = number (hollow (y / (2 * Real.pi))) := by
    intro y near
    rw [two_mul_arcHeight near, nat_eq, number_sub, Nat.cast_one, hollow]
  have convex : ∀ {y : ℝ}, |y| ≤ 2 * Real.pi →
      nat 2 * arcHeight (square (number y * perFullTurn)) - nat 1
        = number (-hollow (y / (2 * Real.pi))) := by
    intro y near
    rw [two_mul_arcHeight near, nat_eq, number_sub, Nat.cast_one, hollow, neg_sub]
  cases shape with
  | sine => rfl
  | arcsine =>
    have within : x / Real.pi ∈ Set.Icc (-1) 1 :=
      ⟨(le_div_iff₀ Real.pi_pos).mpr (by linarith [mem.1]), (div_le_one Real.pi_pos).mpr mem.2⟩
    show Except.ok (arcsin (number x * perHalfTurn) * perQuarterTurn) = _
    rw [mul_perHalfTurn, arcsin_number within, perQuarterTurn_eq, number_mul]
    rfl
  | concaveUp => exact congrArg Except.ok (concave (abs_add_pi_le_iff.mpr mem))
  | concaveDown => exact congrArg Except.ok (concave (abs_sub_pi_le_iff.mpr mem))
  | convexUp => exact congrArg Except.ok (convex (abs_sub_pi_le_iff.mpr mem))
  | convexDown => exact congrArg Except.ok (convex (abs_add_pi_le_iff.mpr mem))
  | formula scope f => exact absurd mem (Set.notMem_empty x)

/-- **It has a value at no other.** -/
theorem mem_angles_of_eval (named : shape.IsNamed) (value : shape.eval (number x) = .ok (number v)) :
    x ∈ shape.angles := by
  cases shape with
  | sine => exact Set.mem_univ x
  | arcsine =>
    obtain ⟨_, _, angle, _, _⟩ := mul_eq_number (Except.ok.inj value)
    rw [mul_perHalfTurn] at angle
    obtain ⟨low, high⟩ := mem_of_liftOn_number angle
    exact ⟨by linarith [(le_div_iff₀ Real.pi_pos).mp low], (div_le_one Real.pi_pos).mp high⟩
  | concaveUp =>
    obtain ⟨_, _, _, arc, _⟩ := sub_eq_number (Except.ok.inj value)
    exact abs_add_pi_le_iff.mp (abs_le_of_arcHeight arc)
  | concaveDown =>
    obtain ⟨_, _, _, arc, _⟩ := sub_eq_number (Except.ok.inj value)
    exact abs_sub_pi_le_iff.mp (abs_le_of_arcHeight arc)
  | convexUp =>
    obtain ⟨_, _, arc, _, _⟩ := sub_eq_number (Except.ok.inj value)
    exact abs_sub_pi_le_iff.mp (abs_le_of_arcHeight arc)
  | convexDown =>
    obtain ⟨_, _, arc, _, _⟩ := sub_eq_number (Except.ok.inj value)
    exact abs_add_pi_le_iff.mp (abs_le_of_arcHeight arc)
  | formula scope f => exact absurd named id

/-- **There are no gaps between them.** -/
theorem convex_angles (shape : TransitionShape Exact) : Convex ℝ shape.angles := by
  cases shape with
  | sine => exact convex_univ
  | formula scope f => exact convex_empty
  | arcsine | concaveUp | concaveDown | convexUp | convexDown => exact convex_Icc _ _

/-! ## Within a quarter turn -/

/-- The angles that transitions run through whose clips cut something off. -/
def quarterTurns : Set ℝ := Set.Icc (-(Real.pi / 2)) (Real.pi / 2)

/-- **Every named shape has a value there.** -/
theorem quarterTurns_subset_angles (named : shape.IsNamed) : quarterTurns ⊆ shape.angles := by
  have positive := Real.pi_pos
  cases shape with
  | sine => exact Set.subset_univ _
  | formula scope f => exact absurd named id
  | arcsine | concaveUp | concaveDown | convexUp | convexDown =>
    exact Set.Icc_subset_Icc (by linarith) (by linarith)

theorem arcsine_strictMonoOn : StrictMonoOn arcsine.height quarterTurns := by
  have positive := Real.pi_pos
  have within : ∀ {x : ℝ}, x ∈ quarterTurns → x / Real.pi ∈ Set.Icc (-1) 1 := fun {x} mem =>
    ⟨(le_div_iff₀ positive).mpr (by linarith [mem.1]), (div_le_one positive).mpr (by linarith [mem.2])⟩
  intro x hx y hy lt
  have angle : Real.arcsin (x / Real.pi) < Real.arcsin (y / Real.pi) :=
    Real.strictMonoOn_arcsin (within hx) (within hy) (div_lt_div_of_pos_right lt positive)
  exact mul_lt_mul_of_pos_right angle (by positivity)

/-- A rising arc lies to the right of its lowest point. -/
theorem concaveUp_strictMonoOn : StrictMonoOn concaveUp.height quarterTurns := by
  have positive := Real.pi_pos
  intro x hx y hy lt
  have right : 0 ≤ (x + Real.pi) / (2 * Real.pi) := div_nonneg (by linarith [hx.1]) (by linarith)
  have further : (x + Real.pi) / (2 * Real.pi) < (y + Real.pi) / (2 * Real.pi) :=
    div_lt_div_of_pos_right (by linarith) (by linarith)
  exact hollow_lt_hollow (pow_lt_pow_left₀ further right two_ne_zero)
    (sq_turns_le_one_iff.mpr (abs_add_pi_le_iff.mpr ⟨by linarith [hy.1], by linarith [hy.2]⟩))

/-- A falling arc is the mirror image of a rising one. -/
theorem concaveDown_height_eq (x : ℝ) : concaveDown.height x = concaveUp.height (-x) := by
  have opposite : (-x + Real.pi) / (2 * Real.pi) = -((x - Real.pi) / (2 * Real.pi)) := by
    ring
  rw [height, height, opposite, hollow, hollow, neg_sq]

theorem concaveDown_strictAntiOn : StrictAntiOn concaveDown.height quarterTurns := by
  have mirrored : ∀ {x : ℝ}, x ∈ quarterTurns → -x ∈ quarterTurns := fun mem =>
    ⟨neg_le_neg mem.2, neg_le.mp mem.1⟩
  intro x hx y hy lt
  rw [concaveDown_height_eq, concaveDown_height_eq]
  exact concaveUp_strictMonoOn (mirrored hy) (mirrored hx) (neg_lt_neg lt)

/-- **Every named shape rises throughout or falls throughout.** -/
theorem height_strict (named : shape.IsNamed) :
    StrictMonoOn shape.height quarterTurns ∨ StrictAntiOn shape.height quarterTurns := by
  cases shape with
  | sine => exact .inl Real.strictMonoOn_sin
  | arcsine => exact .inl arcsine_strictMonoOn
  | concaveUp => exact .inl concaveUp_strictMonoOn
  | concaveDown => exact .inr concaveDown_strictAntiOn
  | convexUp => exact .inl concaveDown_strictAntiOn.neg
  | convexDown => exact .inr concaveUp_strictMonoOn.neg
  | formula scope f => exact absurd named id

end TransitionShape

end WhistledSpeech
