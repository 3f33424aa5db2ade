import Mathlib
import WhistledSpeech.Proofs.Signal.ExactProfile
import WhistledSpeech.Proofs.Signal.Remapping

/-!
# Where a profile starts and ends

What a component hands on to the next one is read off its fields, and its profile is built without looking
there. In exact arithmetic the two agree (`eval_profile_ends`): a profile starts on the level its component
starts on and ends on the level its component hands on, whatever its shape and however much of its domain
is cut off.

A ramp is scaled by what its shape is at the two ends, so it has made nothing of its rise at the first and
all of it at the second. A bump is scaled by what its shape is at the start and in the middle only. That
it is back at its end is a matter of symmetry, as the two ends are opposite angles and the shapes of
contours are even (`ContourShape.height_neg`).
-/

namespace WhistledSpeech

open Arithmetic Exact

/-- **The level a component starts on**, if it is one. -/
def Component.start? {α : Type} : Component α → Option α
  | .transition move => some move.start
  | .contour excursion => some excursion.level
  | .constant level => some level
  | .foreign _ => none

variable {n : ℝ} {scope? : Option (Scope Exact)} {profile : Profile Exact}

/-- **A transition goes from the one level to the other**, whatever its shape is between the ends. -/
theorem Transition.eval_ends (move : Transition ℝ) (positive : 0 < n)
    (built : (move.map number).profile (number n) scope? = .ok profile) :
    profile.eval (number 0) = .ok (number move.start)
      ∧ profile.eval (number n) = .ok (number move.finish) := by
  obtain ⟨same, rfl⟩ | ⟨_, shape, _, l, h, atStart, atEnd, spans, rfl⟩ :=
    profile_number_eq_ok_iff.mp built
  · exact ⟨eval_level_number _, same ▸ eval_level_number _⟩
  constructor
  · have part : number 0 / number n = number 0 := by
      rw [number_div positive.ne', zero_div]
    rw [Profile.eval_ramp_number spans part atStart, sub_self, zero_div, mul_zero, add_zero]
  · have part : number n / number n = number 1 := by
      rw [number_div positive.ne', div_self positive.ne']
    rw [Profile.eval_ramp_number spans part atEnd, div_self spans, mul_one, add_sub_cancel]

/-- **A contour leaves its level and comes back to it.** -/
theorem Contour.eval_ends (contour : Contour ℝ) (positive : 0 < n)
    (built : (contour.map number).profile (number n) = .ok profile) :
    profile.eval (number 0) = .ok (number contour.level)
      ∧ profile.eval (number n) = .ok (number contour.level) := by
  obtain ⟨_, rfl⟩ | ⟨_, shape, _, spans, rfl⟩ := profile_number_eq_ok_iff.mp built
  · exact ⟨eval_level_number _, eval_level_number _⟩
  constructor
  · have part : number 0 / number n = number 0 := by
      rw [number_div positive.ne', zero_div]
    rw [Profile.eval_bump_number spans part, mul_zero, sub_zero, mul_one, sub_self, zero_div, mul_zero,
      add_zero]
  · -- the end is the angle opposite to the start
    have part : number n / number n = number 1 := by
      rw [number_div positive.ne', div_self positive.ne']
    have opposite : (contour.clip - Real.pi) * (1 - 2 * 1) = -(contour.clip - Real.pi) := by
      ring
    rw [Profile.eval_bump_number spans part, opposite, shape.height_neg, sub_self, zero_div, mul_zero,
      add_zero]

namespace Component

/-- **Every component goes from where it starts to where it says it ends.** -/
theorem eval_ends (component : Component ℝ) (positive : 0 < n)
    (built : (component.map number).profile (number n) scope? = .ok profile) :
    ∃ first last phase, component.start? = some first
      ∧ (component.map number).terminal = .ok (number last, phase)
      ∧ profile.eval (number 0) = .ok (number first) ∧ profile.eval (number n) = .ok (number last) := by
  cases component with
  | transition move =>
    obtain ⟨atStart, atEnd⟩ := move.eval_ends positive built
    exact ⟨move.start, move.finish, _, rfl, rfl, atStart, atEnd⟩
  | contour contour =>
    obtain ⟨atStart, atEnd⟩ := contour.eval_ends positive built
    exact ⟨contour.level, contour.level, _, rfl, rfl, atStart, atEnd⟩
  | constant level =>
    cases built
    exact ⟨level, level, _, rfl, rfl, eval_level_number _, eval_level_number _⟩
  | foreign label => exact absurd built nofun

/-- **A profile ends where its component says it ends.** If a component has a profile, this is at zero on
the level the component starts on and, at the number of samples, on the level that it hands on. So the
profile of a component that starts on that level, of whatever kind and length, begins just where this one
ends. -/
theorem eval_profile_ends (component : Component ℝ) (n : ℝ) (positive : 0 < n)
    (scope? : Option (Scope Exact)) (profile : Profile Exact)
    (built : (component.map number).profile (number n) scope? = .ok profile) :
    ∃ first last phase, component.start? = some first
      ∧ (component.map number).terminal = .ok (number last, phase)
      ∧ profile.eval (number 0) = .ok (number first)
      ∧ profile.eval (number n) = .ok (number last)
      ∧ ∀ (next : Component ℝ) (m : ℝ) (profile' : Profile Exact), next.start? = some last → 0 < m →
          (next.map number).profile (number m) scope? = .ok profile' →
          profile'.eval (number 0) = profile.eval (number n) := by
  obtain ⟨first, last, phase, starts, ends, atStart, atEnd⟩ := component.eval_ends positive built
  refine ⟨first, last, phase, starts, ends, atStart, atEnd, fun next m profile' links positive' built' => ?_⟩
  obtain ⟨first', _, _, starts', _, atStart', _⟩ := next.eval_ends positive' built'
  cases starts'.symm.trans links
  rw [atStart', atEnd]

/-- A rising arc to one, and a falling one from there: the second begins where the first ends. -/
theorem eval_profile_ends_concave :
    ∃ profile profile',
      ((Component.transition ⟨0, 1, .named "concave", 0, 0⟩).map number).profile (number 2) none
        = .ok profile
      ∧ ((Component.transition ⟨1, -1, .named "concave", 0, 0⟩).map number).profile (number 2) none
        = .ok profile'
      ∧ profile.eval (number 2) = .ok (number 1)
      ∧ profile'.eval (number 0) = profile.eval (number 2) := by
  obtain ⟨profile, built, _⟩ := exists_profile_rising zero_lt_one
  obtain ⟨profile', built', _⟩ := exists_profile_falling (neg_lt_self (zero_lt_one (α := ℝ)))
  obtain ⟨_, last, _, _, ends, _, atEnd, follows⟩ :=
    eval_profile_ends _ 2 zero_lt_two none profile built
  cases ends
  exact ⟨profile, profile', built, built', atEnd, follows _ 2 profile' rfl zero_lt_two built'⟩

end Component

end WhistledSpeech
