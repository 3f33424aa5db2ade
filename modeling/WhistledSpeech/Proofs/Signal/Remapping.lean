import Mathlib
import WhistledSpeech.Proofs.Signal.Shapes

/-!
# A voice and the profiles of components

A voice maps the parameters of a component, and what is heard are the levels of its profile. In exact
arithmetic it comes to the same: the profile of the mapped component goes through the images of the
levels that the profile of the component goes through (`eval_profile_mapComponent`).

The exception is an arc turned upside down. A named arc has one shape for rising and one for falling,
and neither is the mirror image of the other; a negative scale makes a rising transition fall, and so
changes the shape with the levels (`image_concave_ne`).
-/

namespace WhistledSpeech

open Arithmetic Exact

/-! ## The image of a level -/

namespace AxisMap

variable {m : AxisMap ℝ}

/-- **The image of a level** under an affine map. -/
def image (m : AxisMap ℝ) (v : ℝ) : ℝ := m.scale * (v - m.center) + (m.center + m.shift)

/-- Without a change of scale the centre cancels out. -/
@[simp] theorem apply_number (m : AxisMap ℝ) (v : ℝ) :
    (m.map number).apply (number v) = number (m.image v) := by
  unfold apply
  split
  · next unscaled =>
    have one : m.scale = 1 := by
      rw [← Nat.cast_one, ← eq_number_iff, ← nat_eq]
      exact unscaled
    show number (v + m.shift) = _
    rw [image, one]
    congr 1
    ring
  · rfl

/-- Differences of levels are scaled. -/
theorem image_sub_image (m : AxisMap ℝ) (v w : ℝ) : m.image w - m.image v = m.scale * (w - v) := by
  unfold image
  ring

/-- What is at some part of the way between two levels stays there. -/
theorem image_add_mul (m : AxisMap ℝ) (v rise part : ℝ) :
    m.image (v + rise * part) = m.image v + m.scale * rise * part := by
  unfold image
  ring

theorem image_of_scale_eq_zero (h : m.scale = 0) (v w : ℝ) : m.image v = m.image w := by
  rw [image, image, h, zero_mul, zero_mul]

theorem image_inj (h : m.scale ≠ 0) {v w : ℝ} : m.image v = m.image w ↔ v = w := by
  rw [eq_comm, ← sub_eq_zero, image_sub_image, mul_eq_zero, or_iff_right h, sub_eq_zero, eq_comm]

theorem image_lt_image_iff (h : 0 < m.scale) {v w : ℝ} : m.image v < m.image w ↔ v < w := by
  rw [← sub_pos, image_sub_image, mul_pos_iff_of_pos_left h, sub_pos]

/-- The image of a transition. -/
def transition (m : AxisMap ℝ) (move : Transition ℝ) : Transition ℝ :=
  { move with start := m.image move.start, finish := m.image move.finish }

/-- The image of a contour. -/
def contour (m : AxisMap ℝ) (excursion : Contour ℝ) : Contour ℝ :=
  { excursion with level := m.image excursion.level, excursion := m.scale * excursion.excursion }

end AxisMap

/-- A transition whose curve is one of the arcs, between different levels. -/
def Component.IsArc : Component ℝ → Prop
  | .transition move =>
    (move.curve = .named "concave" ∨ move.curve = .named "convex") ∧ move.start ≠ move.finish
  | _ => False

/-! ## Levels and their images -/

variable {m : AxisMap ℝ} {samples : Exact} {scope? : Option (Scope Exact)} {v : ℝ}

/-- Where a level moved by a part of some rise is a number, its image is the image of the level moved
by the same part of the scaled rise. -/
theorem image_of_add_mul {level rise : ℝ} {part : Exact}
    (h : number level + number rise * part = number v) :
    number (m.image level) + number (m.scale * rise) * part = number (m.image v) := by
  obtain ⟨x, moved, here, there, rfl⟩ := add_eq_number h
  obtain ⟨y, q, rose, rfl, rfl⟩ := mul_eq_number there
  cases here
  cases rose
  rw [number_mul, number_add, AxisMap.image_add_mul]

/-- **The profile goes through the images**: wherever the first has a level, the second has the image
of it. -/
def IsImage (m : AxisMap ℝ) (profile profile' : Profile Exact) : Prop :=
  ∀ t v, profile.eval t = .ok (number v) → profile'.eval t = .ok (number (m.image v))

theorem isImage_level (y : ℝ) : IsImage m (.level (number y)) (.level (number (m.image y))) := by
  intro t v h
  cases (eval_level_number t).symm.trans h
  exact eval_level_number t

/-- Without a scale there is one image, whatever the profile goes through. -/
theorem isImage_level_of_scale_eq_zero (unscaled : m.scale = 0) (profile : Profile Exact) (y : ℝ) :
    IsImage m profile (.level (number (m.image y))) := by
  intro t v _
  rw [eval_level_number, AxisMap.image_of_scale_eq_zero unscaled y v]

theorem isImage_ramp {r r' : Ramp Exact} {level rise : ℝ} (start : r.start = number level)
    (rises : r.rise = number rise) (start' : r'.start = number (m.image level))
    (rises' : r'.rise = number (m.scale * rise)) (same : r'.part = r.part) :
    IsImage m (.ramp r) (.ramp r') := by
  intro t v h
  rw [Profile.eval_ramp, start, rises] at h
  rw [Profile.eval_ramp, start', rises', same]
  cases part : r.part t with
  | error fault =>
    rw [part] at h
    exact absurd h nofun
  | ok q =>
    rw [part] at h
    exact congrArg Except.ok (image_of_add_mul (Except.ok.inj h))

theorem isImage_bump {b b' : Bump Exact} {level excursion : ℝ} (start : b.level = number level)
    (rises : b.excursion = number excursion) (start' : b'.level = number (m.image level))
    (rises' : b'.excursion = number (m.scale * excursion)) (same : b'.part = b.part) :
    IsImage m (.bump b) (.bump b') := by
  intro t v h
  rw [Profile.eval_bump, start, rises] at h
  rw [Profile.eval_bump, start', rises', same]
  exact congrArg Except.ok (image_of_add_mul (Except.ok.inj h))

/-! ## Concave arcs -/

theorem eval_concaveUp {x q : ℝ} (offset : x + Real.pi = q * (2 * Real.pi)) (inside : q ^ 2 ≤ 1) :
    TransitionShape.concaveUp.eval (number x) = .ok (number (hollow q)) := by
  have turns : (x + Real.pi) / (2 * Real.pi) = q := by
    rw [offset, mul_div_cancel_right₀ q (by positivity)]
  have mem : x ∈ TransitionShape.concaveUp.angles :=
    abs_add_pi_le_iff.mp (sq_turns_le_one_iff.mp (by rwa [turns]))
  rw [TransitionShape.eval_of_mem_angles mem, TransitionShape.height, turns]

theorem eval_concaveDown {x q : ℝ} (offset : x - Real.pi = -q * (2 * Real.pi)) (inside : q ^ 2 ≤ 1) :
    TransitionShape.concaveDown.eval (number x) = .ok (number (hollow q)) := by
  have turns : (x - Real.pi) / (2 * Real.pi) = -q := by
    rw [offset, mul_div_cancel_right₀ (-q) (by positivity)]
  have mem : x ∈ TransitionShape.concaveDown.angles :=
    abs_sub_pi_le_iff.mp (sq_turns_le_one_iff.mp (by rwa [turns, neg_sq]))
  rw [TransitionShape.eval_of_mem_angles mem, TransitionShape.height, turns, hollow, hollow, neg_sq]

/-- Halfway out an arc is not halfway up. -/
theorem two_mul_hollow_ne : 2 * hollow (1 / 2) ≠ hollow (1 / 4) + hollow (3 / 4) := by
  intro straight
  -- squared, this gives the product of two of the roots, and that is not the root of their product
  have sides : √(15 / 16) + √(7 / 16) = 2 * √(3 / 4) := by
    unfold hollow at straight
    norm_num at straight ⊢
    linarith
  have outer : √(15 / 16) ^ 2 = 15 / 16 := Real.sq_sqrt (by norm_num)
  have inner : √(7 / 16) ^ 2 = 7 / 16 := Real.sq_sqrt (by norm_num)
  have middle : √(3 / 4) ^ 2 = 3 / 4 := Real.sq_sqrt (by norm_num)
  have product : √(15 / 16) * √(7 / 16) = 13 / 16 := by
    linear_combination (√(15 / 16) + √(7 / 16) + 2 * √(3 / 4)) / 2 * sides + 2 * middle - outer / 2
      - inner / 2
  have : (13 / 16 : ℝ) ^ 2 = 15 / 16 * (7 / 16) := by
    rw [← product, mul_pow, outer, inner]
  norm_num at this

/-- The middle of a transition without clips, from what its shape is there and at the two ends. -/
theorem exists_profile_of_values {start finish low middle high : ℝ} {curve : TransitionCurve}
    {shape : TransitionShape Exact} (levels : start ≠ finish)
    (shaped : ((⟨start, finish, curve, 0, 0⟩ : Transition ℝ).map number).shape none = .ok shape)
    (atStart : shape.eval (number (-(Real.pi / 2))) = .ok (number low))
    (inMiddle : shape.eval (number 0) = .ok (number middle))
    (atEnd : shape.eval (number (Real.pi / 2)) = .ok (number high)) (spans : high - low ≠ 0) :
    ∃ profile, ((Component.transition ⟨start, finish, curve, 0, 0⟩).map number).profile (number 2) none
        = .ok profile
      ∧ profile.eval (number 1)
        = .ok (number (start + (finish - start) * ((middle - low) / (high - low)))) := by
  set move : Transition ℝ := ⟨start, finish, curve, 0, 0⟩
  have first : move.angle 0 = -(Real.pi / 2) := by
    rw [move.angle_zero, zero_sub]
  have last : move.angle 1 = Real.pi / 2 := by
    rw [move.angle_one, sub_zero]
  -- one sample of two is halfway through the domain, where the angle is zero
  have half : move.angle (1 / 2) = 0 := by
    show 0 - Real.pi / 2 + (Real.pi - 0 - 0) * (1 / 2) = 0
    ring
  refine ⟨_, Transition.profile_number_eq_ok_iff.mpr (.inr ⟨levels, shape, shaped, low, high, ?_, ?_,
    spans, rfl⟩), Profile.eval_ramp_number spans (number_div two_ne_zero) ?_⟩
  · rw [first, atStart]
  · rw [last, atEnd]
  · rw [half, inMiddle]

/-- A concave arc between two levels that rises, halfway. -/
theorem exists_profile_rising {start finish : ℝ} (rises : start < finish) :
    ∃ profile, ((Component.transition ⟨start, finish, .named "concave", 0, 0⟩).map number).profile
        (number 2) none = .ok profile
      ∧ profile.eval (number 1) = .ok (number (start + (finish - start)
        * ((hollow (1 / 2) - hollow (1 / 4)) / (hollow (3 / 4) - hollow (1 / 4))))) := by
  have up : lt (number start) (number finish) = true := lt_number_iff.mpr rises
  have shaped : ((⟨start, finish, .named "concave", 0, 0⟩ : Transition ℝ).map number).shape none
      = .ok .concaveUp :=
    congrArg Except.ok (if_pos up)
  have spans : hollow (3 / 4) - hollow (1 / 4) ≠ 0 :=
    sub_ne_zero.mpr (hollow_lt_hollow (by norm_num) (by norm_num)).ne'
  exact exists_profile_of_values rises.ne shaped (eval_concaveUp (by ring) (by norm_num))
    (eval_concaveUp (by ring) (by norm_num)) (eval_concaveUp (by ring) (by norm_num)) spans

/-- A concave arc between two levels that falls, halfway. -/
theorem exists_profile_falling {start finish : ℝ} (falls : finish < start) :
    ∃ profile, ((Component.transition ⟨start, finish, .named "concave", 0, 0⟩).map number).profile
        (number 2) none = .ok profile
      ∧ profile.eval (number 1) = .ok (number (start + (finish - start)
        * ((hollow (1 / 2) - hollow (3 / 4)) / (hollow (1 / 4) - hollow (3 / 4))))) := by
  have down : lt (number start) (number finish) = false := by
    rw [← Bool.not_eq_true, lt_number_iff]
    exact falls.not_gt
  have shaped : ((⟨start, finish, .named "concave", 0, 0⟩ : Transition ℝ).map number).shape none
      = .ok .concaveDown :=
    congrArg Except.ok (if_neg (Bool.eq_false_iff.mp down))
  have spans : hollow (1 / 4) - hollow (3 / 4) ≠ 0 :=
    sub_ne_zero.mpr (hollow_lt_hollow (by norm_num) (by norm_num)).ne
  exact exists_profile_of_values falls.ne' shaped (eval_concaveDown (by ring) (by norm_num))
    (eval_concaveDown (by ring) (by norm_num)) (eval_concaveDown (by ring) (by norm_num)) spans

/-! ## The images of components -/

/-- The shape of a transition does not change with its levels as long as they stay in order; only an
arc looks at their order. -/
theorem Transition.shape_eq_of_levels {move move' : Transition Exact} (curve : move'.curve = move.curve)
    (order : lt move'.start move'.finish = lt move.start move.finish
      ∨ ¬ (move.curve = .named "concave" ∨ move.curve = .named "convex")) :
    move'.shape scope? = move.shape scope? := by
  unfold shape
  rw [curve]
  obtain order | other := order
  · rw [order]
  · split
    · rfl
    · rfl
    · rfl
    · next named => exact absurd (.inl named) other
    · next named => exact absurd (.inr named) other
    · rfl

/-- **The image of a transition** has a profile, and that goes through the images. -/
theorem exists_profile_transition {move : Transition ℝ} {profile : Profile Exact}
    (keeps : 0 ≤ m.scale ∨ ¬ (Component.transition move).IsArc)
    (built : (move.map number).profile samples scope? = .ok profile) :
    ∃ profile', ((m.transition move).map number).profile samples scope? = .ok profile'
      ∧ IsImage m profile profile' := by
  obtain ⟨still, rfl⟩ | ⟨moves, shape, shaped, low, atStart, high, atEnd, divides, rfl⟩ :=
    Transition.profile_eq_ok_iff.mp built
  · have same : m.image move.start = m.image move.finish := congrArg _ (eq_number_iff.mp still)
    exact ⟨_, Transition.profile_eq_ok_iff.mpr (.inl ⟨eq_number_iff.mpr same, rfl⟩), isImage_level _⟩
  -- without a scale the images of the levels are equal and held; with one they differ and the shape stays
  have levels : move.start ≠ move.finish := eq_number_eq_false.mp moves
  by_cases unscaled : m.scale = 0
  · have same : m.image move.start = m.image move.finish := AxisMap.image_of_scale_eq_zero unscaled _ _
    exact ⟨_, Transition.profile_eq_ok_iff.mpr (.inl ⟨eq_number_iff.mpr same, rfl⟩),
      isImage_level_of_scale_eq_zero unscaled _ _⟩
  have apart : m.image move.start ≠ m.image move.finish := mt (AxisMap.image_inj unscaled).mp levels
  have shaped' : ((m.transition move).map number).shape scope? = .ok shape := by
    rw [← shaped]
    refine Transition.shape_eq_of_levels rfl (keeps.imp (fun nonneg => ?_) fun other arc => ?_)
    · rw [Bool.eq_iff_iff]
      show lt (number (m.image _)) (number (m.image _)) = true ↔ lt (number _) (number _) = true
      rw [lt_number_iff, lt_number_iff]
      exact AxisMap.image_lt_image_iff (nonneg.lt_of_ne' unscaled)
    · exact other ⟨arc, levels⟩
  refine ⟨_, Transition.profile_eq_ok_iff.mpr (.inr ⟨eq_number_eq_false.mpr apart, shape, shaped', low,
    atStart, high, atEnd, divides, rfl⟩), isImage_ramp rfl rfl rfl ?_ rfl⟩
  exact congrArg number (AxisMap.image_sub_image _ _ _)

/-- **The image of a contour** has a profile, and that goes through the images. -/
theorem exists_profile_contour {contour : Contour ℝ} {profile : Profile Exact}
    (built : (contour.map number).profile samples = .ok profile) :
    ∃ profile', ((m.contour contour).map number).profile samples = .ok profile'
      ∧ IsImage m profile profile' := by
  have eq_zero_iff : ∀ x, eq (number x) (nat 0) = true ↔ x = 0 := fun x => by
    rw [nat_eq, eq_number_iff, Nat.cast_zero]
  obtain ⟨still, rfl⟩ | ⟨moves, shape, named, base, atStart, divides, rfl⟩ :=
    Contour.profile_eq_ok_iff.mp built
  · have still' : m.scale * contour.excursion = 0 := by
      rw [(eq_zero_iff _).mp still, mul_zero]
    exact ⟨_, Contour.profile_eq_ok_iff.mpr (.inl ⟨(eq_zero_iff _).mpr still', rfl⟩), isImage_level _⟩
  by_cases unscaled : m.scale = 0
  · have still' : m.scale * contour.excursion = 0 := by
      rw [unscaled, zero_mul]
    exact ⟨_, Contour.profile_eq_ok_iff.mpr (.inl ⟨(eq_zero_iff _).mpr still', rfl⟩),
      isImage_level_of_scale_eq_zero unscaled _ _⟩
  have moves' : eq (number (m.scale * contour.excursion)) (nat 0) = false := by
    rw [← Bool.not_eq_true, eq_zero_iff, mul_eq_zero, or_iff_right unscaled, ← eq_zero_iff,
      Bool.not_eq_true]
    exact moves
  exact ⟨_, Contour.profile_eq_ok_iff.mpr (.inr ⟨moves', shape, named, base, atStart, divides, rfl⟩),
    isImage_bump rfl rfl rfl rfl rfl⟩

/-- The image of a transition is that with the images of its levels. -/
theorem mapComponent_transition (m : AxisMap ℝ) (move : Transition ℝ) :
    (m.map number).mapComponent ((Component.transition move).map number)
      = .ok ((Component.transition (m.transition move)).map number) := by
  show Except.ok (Component.transition ⟨(m.map number).apply (number _),
    (m.map number).apply (number _), _, _, _⟩) = _
  rw [AxisMap.apply_number, AxisMap.apply_number]
  rfl

/-- **The image of a component** has a profile wherever the component has one, and that goes through
the images. -/
theorem exists_profile_mapComponent {component : Component ℝ} {profile : Profile Exact}
    (keeps : 0 ≤ m.scale ∨ ¬ component.IsArc)
    (built : (component.map number).profile samples scope? = .ok profile) :
    ∃ mapped profile', (m.map number).mapComponent (component.map number) = .ok mapped
      ∧ mapped.profile samples scope? = .ok profile' ∧ IsImage m profile profile' := by
  cases component with
  | transition move =>
    obtain ⟨profile', has, through⟩ := exists_profile_transition keeps built
    exact ⟨_, profile', mapComponent_transition m move, has, through⟩
  | contour contour =>
    have is : (m.map number).mapComponent ((Component.contour contour).map number)
        = .ok (.contour ((m.contour contour).map number)) := by
      show Except.ok (Component.contour ⟨(m.map number).apply (number _), _, _, _⟩) = _
      rw [AxisMap.apply_number]
      rfl
    obtain ⟨profile', has, through⟩ := exists_profile_contour built
    exact ⟨_, profile', is, has, through⟩
  | constant level =>
    have is : (m.map number).mapComponent ((Component.constant level).map number)
        = .ok (.constant (number (m.image level))) :=
      congrArg (fun level => Except.ok (Component.constant level)) (AxisMap.apply_number m level)
    cases built
    exact ⟨_, _, is, rfl, isImage_level level⟩
  | foreign label => exact absurd built nofun

/-- **A voice maps what is heard.** Where a component has a profile, its image under a voice has one
too, and that is at every point at the image `scale · (v - center) + (center + shift)` of the level –
for every component if nothing is turned upside down, and else for every one but an arc between
different levels. -/
theorem eval_profile_mapComponent (m : AxisMap ℝ) (component : Component ℝ) (samples : Exact)
    (scope? : Option (Scope Exact)) (profile : Profile Exact)
    (keeps : 0 ≤ m.scale ∨ ¬ component.IsArc)
    (built : (component.map number).profile samples scope? = .ok profile) :
    ∃ mapped profile', (m.map number).mapComponent (component.map number) = .ok mapped
      ∧ mapped.profile samples scope? = .ok profile'
      ∧ ∀ t v, profile.eval t = .ok (number v) →
        profile'.eval t = .ok ((m.map number).apply (number v))
          ∧ (m.map number).apply (number v)
            = number (m.scale * (v - m.center) + (m.center + m.shift)) := by
  obtain ⟨mapped, profile', is, has, through⟩ := exists_profile_mapComponent keeps built
  refine ⟨mapped, profile', is, has, fun t v h => ⟨?_, AxisMap.apply_number m v⟩⟩
  rw [AxisMap.apply_number]
  exact through t v h

/-- Twice as high above one and then three further up, a rising arc is halfway where twice its level
and two more is. -/
theorem eval_profile_mapComponent_concave :
    ∃ profile mapped profile' v,
      ((Component.transition ⟨0, 1, .named "concave", 0, 0⟩).map number).profile (number 2) none
        = .ok profile
      ∧ ((⟨1, 3, 2⟩ : AxisMap ℝ).map number).mapComponent
          ((Component.transition ⟨0, 1, .named "concave", 0, 0⟩).map number) = .ok mapped
      ∧ mapped.profile (number 2) none = .ok profile'
      ∧ profile.eval (number 1) = .ok (number v)
      ∧ profile'.eval (number 1) = .ok (number (2 * (v - 1) + (1 + 3))) := by
  obtain ⟨profile, built, level⟩ := exists_profile_rising zero_lt_one
  obtain ⟨mapped, profile', is, has, through⟩ :=
    eval_profile_mapComponent ⟨1, 3, 2⟩ _ _ _ profile (.inl zero_le_two) built
  obtain ⟨there, image⟩ := through _ _ level
  exact ⟨profile, mapped, profile', _, built, is, has, level, there.trans (congrArg _ image)⟩

/-- **An arc turned upside down is another arc.** Rising from zero to one it is, halfway, at a level
whose image is not the level of the falling arc there. -/
theorem image_concave_ne :
    ∃ profile mapped profile' v v',
      ((Component.transition ⟨0, 1, .named "concave", 0, 0⟩).map number).profile (number 2) none
        = .ok profile
      ∧ ((⟨0, 0, -1⟩ : AxisMap ℝ).map number).mapComponent
          ((Component.transition ⟨0, 1, .named "concave", 0, 0⟩).map number) = .ok mapped
      ∧ mapped.profile (number 2) none = .ok profile'
      ∧ profile.eval (number 1) = .ok (number v) ∧ profile'.eval (number 1) = .ok (number v')
      ∧ v' ≠ (-1) * (v - 0) + (0 + 0) := by
  obtain ⟨profile, built, level⟩ := exists_profile_rising zero_lt_one
  obtain ⟨profile', built', level'⟩ := exists_profile_falling (neg_lt_zero.mpr zero_lt_one)
  have mapped : ((⟨0, 0, -1⟩ : AxisMap ℝ).map number).mapComponent
      ((Component.transition ⟨0, 1, .named "concave", 0, 0⟩).map number)
      = .ok ((Component.transition ⟨0, -1, .named "concave", 0, 0⟩).map number) := by
    rw [mapComponent_transition]
    norm_num [AxisMap.transition, AxisMap.image]
  refine ⟨profile, _, profile', _, _, built, mapped, built', level, level', fun same => ?_⟩
  have spans : hollow (3 / 4) - hollow (1 / 4) ≠ 0 :=
    sub_ne_zero.mpr (hollow_lt_hollow (by norm_num) (by norm_num)).ne'
  rw [← neg_sub (hollow (3 / 4)) (hollow (1 / 4)), div_neg] at same
  have parts : (2 * hollow (1 / 2) - (hollow (1 / 4) + hollow (3 / 4)))
      / (hollow (3 / 4) - hollow (1 / 4)) = 0 := by
    linear_combination same
  exact two_mul_hollow_ne (sub_eq_zero.mp ((div_eq_zero_iff.mp parts).resolve_right spans))

end WhistledSpeech
