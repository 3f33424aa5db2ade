import Mathlib
import WhistledSpeech.Proofs.Signal.Levels
import WhistledSpeech.Proofs.Signal.Shapes

/-!
# The course of a profile between its ends

A profile is made from the values of its shape at two angles, and then asked for the level at every sample
between. In exact arithmetic nothing can go wrong there if the curve has a name: the angles at which a named
shape has a value have no gaps, so what is found at the first and the last angle of a transition holds
between them, however the clips stretch, shrink or reverse the domain; and the shapes of contours have a
value everywhere (`exists_level_of_profile`). Only a formula can have no value at some sample in the middle.

Where the clips do no more than cut something off the domain, a transition with a known curve always has a
profile, and that goes from the one level to the other without ever turning back
(`Transition.exists_strict_course`). It does not matter whether the shape rises or falls, since the levels
move with the part that the shape has made of its own way, and of a falling shape both are negative
(`part_strictMonoOn`).
-/

namespace WhistledSpeech

open Arithmetic Exact

variable {n : ℝ} {scope? : Option (Scope Exact)} {profile : Profile Exact}

/-! ## Levels -/

/-- Whether the curve of a component has a name. -/
def Component.IsNamed {α : Type} : Component α → Prop
  | .transition move => ∃ name, move.curve = .named name
  | .contour _ | .constant _ | .foreign _ => True

/-- A curve with a name has a shape with a name. -/
theorem Transition.isNamed_of_shape {α : Type} [Arithmetic α] {move : Transition α}
    {scope? : Option (Scope α)} {shape : TransitionShape α} {name : String}
    (named : move.curve = .named name) (made : move.shape scope? = .ok shape) : shape.IsNamed := by
  cases shape with
  | formula scope f =>
    obtain ⟨text, formula⟩ := curve_of_shape made
    exact absurd (named.symm.trans formula) nofun
  | sine | arcsine | concaveUp | concaveDown | convexUp | convexDown => trivial

namespace Transition

variable {move : Transition ℝ} {shape : TransitionShape Exact}

/-- A transition has a profile where its shape has a height at the first and the last angle, and not the
same. -/
theorem profile_of_mem_angles (levels : move.start ≠ move.finish)
    (shaped : (move.map number).shape scope? = .ok shape) (first : move.angle 0 ∈ shape.angles)
    (last : move.angle 1 ∈ shape.angles)
    (spans : shape.height (move.angle 1) - shape.height (move.angle 0) ≠ 0) :
    (move.map number).profile (number n) scope?
      = .ok (.ramp ((move.map number).ramp shape (number (shape.height (move.angle 0)))
        (number (shape.height (move.angle 1))) (number n))) :=
  profile_number_eq_ok_iff.mpr (.inr ⟨levels, shape, shaped, _, _, shape.eval_of_mem_angles first,
    shape.eval_of_mem_angles last, spans, rfl⟩)

/-- The angles of a transition have no gaps: each is between the first and the last. -/
theorem angle_mem {angles : Set ℝ} (convex : Convex ℝ angles)
    (first : move.angle 0 ∈ angles) (last : move.angle 1 ∈ angles) {u : ℝ} (hu : u ∈ Set.Icc 0 1) :
    move.angle u ∈ angles := by
  have between : move.angle u = move.angle 0 + u • (move.angle 1 - move.angle 0) := by
    rw [angle_zero, angle_one, angle, smul_eq_mul]
    ring
  rw [between]
  exact convex.add_smul_sub_mem first last hu

end Transition

/-- The part of the time that has passed at a point. -/
theorem div_mem_Icc {t : ℝ} (positive : 0 < n) (ht : t ∈ Set.Icc 0 n) : t / n ∈ Set.Icc 0 1 :=
  ⟨div_nonneg ht.1 positive.le, (div_le_one positive).mpr ht.2⟩

/-- **Where a profile has been made, there is a level at every point**, if the curve has a name. -/
theorem Component.exists_level {component : Component ℝ} (named : component.IsNamed) (positive : 0 < n)
    (built : (component.map number).profile (number n) scope? = .ok profile) {t : ℝ}
    (ht : t ∈ Set.Icc 0 n) : ∃ v, profile.eval (number t) = .ok (number v) := by
  have part : number t / number n = number (t / n) := number_div positive.ne'
  cases component with
  | transition move =>
    obtain ⟨_, rfl⟩ | ⟨_, shape, shaped, l, h, atStart, atEnd, spans, rfl⟩ :=
      Transition.profile_number_eq_ok_iff.mp built
    · exact ⟨_, eval_level_number _⟩
    obtain ⟨name, named⟩ := named
    have curve : (move.map number).curve = .named name := named
    have shapeNamed : shape.IsNamed := Transition.isNamed_of_shape curve shaped
    have within : move.angle (t / n) ∈ shape.angles :=
      Transition.angle_mem shape.convex_angles (shape.mem_angles_of_eval shapeNamed atStart)
        (shape.mem_angles_of_eval shapeNamed atEnd) (div_mem_Icc positive ht)
    exact ⟨_, Profile.eval_ramp_number spans part (shape.eval_of_mem_angles within)⟩
  | contour contour =>
    obtain ⟨_, rfl⟩ | ⟨_, shape, _, spans, rfl⟩ := Contour.profile_number_eq_ok_iff.mp built
    · exact ⟨_, eval_level_number _⟩
    · exact ⟨_, Profile.eval_bump_number spans part⟩
  | constant level =>
    cases built
    exact ⟨_, eval_level_number _⟩
  | foreign label => exact absurd built nofun

/-- **To look at the ends is enough.** If a component with a named curve has a profile, whatever its clips
are, then it has a level at every point from zero to the number of samples. And so none of its samples is
undefined. -/
theorem Component.exists_level_of_profile (component : Component ℝ) (named : component.IsNamed) (n : ℝ)
    (scope? : Option (Scope Exact)) (profile : Profile Exact)
    (built : (component.map number).profile (number n) scope? = .ok profile) :
    (0 < n → ∀ t ∈ Set.Icc 0 n, ∃ v, profile.eval (number t) = .ok (number v))
      ∧ ∀ count : ℕ, count ≤ n → ∃ values, profile.levels count = .ok values ∧ values.length = count
        ∧ ∀ value ∈ values, isUndefined value = false := by
  refine ⟨fun positive t ht => exists_level named positive built ht, fun count enough => ?_⟩
  have sample : ∀ k < count, ∃ v, profile.eval (ofInt k) = .ok (number v) := by
    intro k hk
    have within : (k : ℝ) < n := (Nat.cast_lt.mpr hk).trans_le enough
    exact exists_level named ((Nat.cast_nonneg k).trans_lt within) built ⟨Nat.cast_nonneg k, within.le⟩
  obtain ⟨values, made, length, each⟩ | ⟨fault, _, k, hk, failed⟩ := profile.levels_cases count
  · refine ⟨values, made, length, fun value mem => ?_⟩
    obtain ⟨k, hk, rfl⟩ := List.getElem_of_mem mem
    obtain ⟨x, level, here⟩ := each k (by rwa [← length])
    obtain ⟨v, has⟩ := sample k (by rwa [← length])
    rw [has] at level
    cases level
    rw [List.getElem?_eq_getElem hk] at here
    rw [Option.some.inj here]
    rfl
  · obtain ⟨v, has⟩ := sample k hk
    rw [has] at failed
    exact absurd failed nofun

/-- A rising arc whose start is stretched by half a turn. -/
noncomputable def stretched : Transition ℝ := ⟨0, 1, .named "concave", -Real.pi, 0⟩

/-- It falls and then rises, and has a level at every point. -/
theorem Component.exists_level_of_profile_stretched :
    ∃ profile, ((Component.transition stretched).map number).profile (number 2) none = .ok profile
      ∧ (∃ v, profile.eval (number (1 / 2)) = .ok (number v))
      ∧ ∃ values, profile.levels 2 = .ok values ∧ values.length = 2
        ∧ ∀ value ∈ values, isUndefined value = false := by
  have positive := Real.pi_pos
  have first : stretched.angle 0 = -(3 * Real.pi / 2) := by
    rw [Transition.angle_zero]
    show -Real.pi - Real.pi / 2 = _
    ring
  have last : stretched.angle 1 = Real.pi / 2 := by
    rw [Transition.angle_one]
    show Real.pi / 2 - 0 = _
    ring
  have shaped : (stretched.map number).shape none = .ok .concaveUp :=
    congrArg Except.ok (if_pos (lt_number_iff.mpr zero_lt_one))
  have left : TransitionShape.concaveUp.height (-(3 * Real.pi / 2)) = hollow (-1 / 4) := by
    rw [TransitionShape.height]
    congr 1
    field_simp
    ring
  have right : TransitionShape.concaveUp.height (Real.pi / 2) = hollow (3 / 4) := by
    rw [TransitionShape.height]
    congr 1
    field_simp
    ring
  have spans : TransitionShape.concaveUp.height (stretched.angle 1)
      - TransitionShape.concaveUp.height (stretched.angle 0) ≠ 0 := by
    rw [first, last, left, right]
    exact sub_ne_zero.mpr (hollow_lt_hollow (by norm_num) (by norm_num)).ne'
  have built := Transition.profile_of_mem_angles (n := 2) zero_ne_one shaped
    (first ▸ ⟨by linarith, by linarith⟩) (last ▸ ⟨by linarith, by linarith⟩) spans
  obtain ⟨points, samples⟩ :=
    exists_level_of_profile (.transition stretched) ⟨"concave", rfl⟩ 2 none _ built
  exact ⟨_, built, points zero_lt_two _ ⟨by norm_num, by norm_num⟩, samples 2 le_rfl⟩

/-! ## From one level to the other -/

section Rise

variable {part : ℝ → ℝ} {times : Set ℝ} {rise : ℝ}

/-- With a growing part of a rise a level rises. -/
theorem strictMonoOn_add_mul (grows : StrictMonoOn part times) (level : ℝ) (up : 0 < rise) :
    StrictMonoOn (fun u => level + rise * part u) times :=
  fun _ hu _ hv lt => add_lt_add_right (mul_lt_mul_of_pos_left (grows hu hv lt) up) level

/-- And it falls where the rise is negative. -/
theorem strictAntiOn_add_mul (grows : StrictMonoOn part times) (level : ℝ) (down : rise < 0) :
    StrictAntiOn (fun u => level + rise * part u) times :=
  fun _ hu _ hv lt => add_lt_add_right (mul_lt_mul_of_neg_left (grows hu hv lt) down) level

end Rise

/-- **The names of the curves that transitions know.** -/
def TransitionCurve.known : List String := ["sine", "arcsine", "concave", "convex"]

namespace Transition

/-- A known curve has a shape. -/
theorem exists_shape {α : Type} [Arithmetic α] {move : Transition α} {name : String}
    (named : move.curve = .named name) (known : name ∈ TransitionCurve.known)
    (scope? : Option (Scope α)) : ∃ shape, move.shape scope? = .ok shape := by
  unfold shape
  rw [named]
  rw [TransitionCurve.known, List.mem_cons, List.mem_cons, List.mem_cons, List.mem_singleton] at known
  obtain rfl | rfl | rfl | rfl := known
  · exact ⟨_, rfl⟩
  · exact ⟨_, rfl⟩
  · exact ⟨_, rfl⟩
  · exact ⟨_, rfl⟩

variable (move : Transition ℝ) (shape : TransitionShape Exact)

/-- The part of its way that a shape has made when some part of the time has passed. -/
noncomputable def part (u : ℝ) : ℝ :=
  (shape.height (move.angle u) - shape.height (move.angle 0))
    / (shape.height (move.angle 1) - shape.height (move.angle 0))

/-- **The level of a transition** when some part of the time has passed. -/
noncomputable def level (u : ℝ) : ℝ := move.start + (move.finish - move.start) * move.part shape u

variable {move shape}

theorem level_zero : move.level shape 0 = move.start := by
  rw [level, part, sub_self, zero_div, mul_zero, add_zero]

theorem level_one (spans : shape.height (move.angle 1) - shape.height (move.angle 0) ≠ 0) :
    move.level shape 1 = move.finish := by
  rw [level, part, div_self spans, mul_one, add_sub_cancel]

section Clips

variable (startClip : 0 ≤ move.startClip) (endClip : 0 ≤ move.endClip)
  (clips : move.startClip + move.endClip < Real.pi)

include clips

/-- Where the clips leave something of the domain, the angle grows. -/
theorem angle_strictMono : StrictMono move.angle := by
  intro u v lt
  have width : 0 < Real.pi - move.startClip - move.endClip := by linarith
  rw [angle, angle]
  exact add_lt_add_right (mul_lt_mul_of_pos_left lt width) _

include startClip endClip

/-- Where they add nothing to it, it stays within a quarter turn. -/
theorem angle_mem_quarterTurns {u : ℝ} (hu : u ∈ Set.Icc 0 1) :
    move.angle u ∈ TransitionShape.quarterTurns := by
  have first := (angle_strictMono clips).monotone hu.1
  have last := (angle_strictMono clips).monotone hu.2
  rw [angle_zero] at first
  rw [angle_one] at last
  exact ⟨by linarith, by linarith⟩

variable (named : shape.IsNamed)

include named

/-- A named shape does not end at the height it starts on. -/
theorem spans_of_isNamed : shape.height (move.angle 1) - shape.height (move.angle 0) ≠ 0 := by
  have first := angle_mem_quarterTurns startClip endClip clips ⟨le_rfl, zero_le_one⟩
  have last := angle_mem_quarterTurns startClip endClip clips ⟨zero_le_one, le_rfl⟩
  have lt := angle_strictMono clips zero_lt_one
  obtain rises | falls := shape.height_strict named
  · exact sub_ne_zero.mpr (rises first last lt).ne'
  · exact sub_ne_zero.mpr (falls first last lt).ne

/-- **The part of its way that a shape has made grows**, whether the shape rises or falls. -/
theorem part_strictMonoOn : StrictMonoOn (move.part shape) (Set.Icc 0 1) := by
  intro u hu v hv lt
  have first := angle_mem_quarterTurns startClip endClip clips ⟨le_rfl, zero_le_one⟩
  have last := angle_mem_quarterTurns startClip endClip clips ⟨zero_le_one, le_rfl⟩
  have here := angle_mem_quarterTurns startClip endClip clips hu
  have there := angle_mem_quarterTurns startClip endClip clips hv
  have grows := angle_strictMono clips
  obtain rises | falls := shape.height_strict named
  · exact div_lt_div_of_pos_right (sub_lt_sub_right (rises here there (grows lt)) _)
      (sub_pos.mpr (rises first last (grows zero_lt_one)))
  · exact (div_lt_div_right_of_neg (sub_neg.mpr (falls first last (grows zero_lt_one)))).mpr
      (sub_lt_sub_right (falls here there (grows lt)) _)

end Clips

/-- A level that moves with a growing part of its rise moves with the rise. -/
theorem level_strictMonoOn (grows : StrictMonoOn (move.part shape) (Set.Icc 0 1))
    (rises : move.start < move.finish) : StrictMonoOn (move.level shape) (Set.Icc 0 1) :=
  strictMonoOn_add_mul grows _ (sub_pos.mpr rises)

/-- And against it where that is negative. -/
theorem level_strictAntiOn (grows : StrictMonoOn (move.part shape) (Set.Icc 0 1))
    (falls : move.finish < move.start) : StrictAntiOn (move.level shape) (Set.Icc 0 1) :=
  strictAntiOn_add_mul grows _ (sub_neg.mpr falls)

/-- **A transition never turns back.** With a known curve, between different levels and with clips that
leave something of the domain, it has a profile over any positive length; and the profile goes through
levels that strictly rise, or strictly fall, from the one level to the other, and so stays between them. -/
theorem exists_strict_course (move : Transition ℝ) (name : String) (named : move.curve = .named name)
    (known : name ∈ TransitionCurve.known) (levels : move.start ≠ move.finish)
    (startClip : 0 ≤ move.startClip) (endClip : 0 ≤ move.endClip)
    (clips : move.startClip + move.endClip < Real.pi) (n : ℝ) (positive : 0 < n)
    (scope? : Option (Scope Exact)) :
    ∃ profile, ∃ levelAt : ℝ → ℝ, (move.map number).profile (number n) scope? = .ok profile
      ∧ (∀ t ∈ Set.Icc 0 n, profile.eval (number t) = .ok (number (levelAt t)))
      ∧ levelAt 0 = move.start ∧ levelAt n = move.finish
      ∧ (move.start < move.finish → StrictMonoOn levelAt (Set.Icc 0 n))
      ∧ (move.finish < move.start → StrictAntiOn levelAt (Set.Icc 0 n))
      ∧ ∀ t ∈ Set.Icc 0 n, levelAt t ∈ Set.uIcc move.start move.finish := by
  have curve : (move.map number).curve = .named name := named
  obtain ⟨shape, shaped⟩ := exists_shape curve known scope?
  have shapeNamed : shape.IsNamed := isNamed_of_shape curve shaped
  have within : ∀ {u : ℝ}, u ∈ Set.Icc 0 1 → move.angle u ∈ shape.angles := fun hu =>
    shape.quarterTurns_subset_angles shapeNamed (angle_mem_quarterTurns startClip endClip clips hu)
  have spans := spans_of_isNamed startClip endClip clips shapeNamed
  have grows := part_strictMonoOn startClip endClip clips shapeNamed
  have passes : Set.MapsTo (· / n) (Set.Icc 0 n) (Set.Icc 0 1) := fun _ ht => div_mem_Icc positive ht
  have quicker : StrictMonoOn (· / n) (Set.Icc 0 n) := fun _ _ _ _ lt => div_lt_div_of_pos_right lt positive
  have first : move.level shape (0 / n) = move.start := by
    rw [zero_div, level_zero]
  have last : move.level shape (n / n) = move.finish := by
    rw [div_self positive.ne', level_one spans]
  have rising : move.start < move.finish → StrictMonoOn (move.level shape ∘ (· / n)) (Set.Icc 0 n) :=
    fun rises => (level_strictMonoOn grows rises).comp quicker passes
  have falling : move.finish < move.start → StrictAntiOn (move.level shape ∘ (· / n)) (Set.Icc 0 n) :=
    fun falls => (level_strictAntiOn grows falls).comp_strictMonoOn quicker passes
  refine ⟨_, move.level shape ∘ (· / n),
    profile_of_mem_angles levels shaped (within ⟨le_rfl, zero_le_one⟩) (within ⟨zero_le_one, le_rfl⟩) spans,
    fun t ht => ?_, first, last, rising, falling, fun t ht => ?_⟩
  · exact Profile.eval_ramp_number spans (number_div positive.ne')
      (shape.eval_of_mem_angles (within (passes ht)))
  · obtain rises | falls := levels.lt_or_gt
    · rw [Set.uIcc_of_le rises.le, ← first, ← last]
      exact (rising rises).monotoneOn.mapsTo_Icc ht
    · rw [Set.uIcc_of_ge falls.le, ← first, ← last]
      exact (falling falls).antitoneOn.mapsTo_Icc ht

/-- A fall from one to zero along an arc whose ends are cut off. -/
def clippedFall : Transition ℝ := ⟨1, 0, .named "convex", 1, 1⟩

/-- It falls all the way. -/
theorem exists_strict_course_clippedFall :
    ∃ profile, ∃ levelAt : ℝ → ℝ, (clippedFall.map number).profile (number 2) none = .ok profile
      ∧ profile.eval (number 1) = .ok (number (levelAt 1))
      ∧ levelAt 0 = 1 ∧ levelAt 2 = 0 ∧ StrictAntiOn levelAt (Set.Icc 0 2) := by
  have clips : clippedFall.startClip + clippedFall.endClip < Real.pi := by
    show (1 : ℝ) + 1 < Real.pi
    linarith [Real.pi_gt_three]
  obtain ⟨profile, levelAt, built, points, first, last, _, falls, _⟩ :=
    exists_strict_course clippedFall "convex" rfl (by decide) one_ne_zero zero_le_one zero_le_one clips 2
      zero_lt_two none
  exact ⟨profile, levelAt, built, points 1 ⟨by norm_num, by norm_num⟩, first, last, falls zero_lt_one⟩

end Transition

end WhistledSpeech
