import Mathlib
import WhistledSpeech.Proofs.Steps
import WhistledSpeech.Signal.Profile

/-!
# Building a profile

A component has a profile if its curve is known and moves between the two ends of its domain, and the
profile is made of what the shape is at those ends (`Transition.profile_eq_ok_iff`,
`Contour.profile_eq_ok_iff`). The level at a point is the level at the start and some part of the rise,
and the part does not depend on the levels (`Profile.eval_ramp`, `Profile.eval_bump`).
-/

namespace WhistledSpeech

open Arithmetic

/-! ## When there is a profile -/

section Built

variable {α : Type} [Arithmetic α] {samples : α} {scope? : Option (Scope α)} {profile : Profile α}

/-- **When a choice has a result**: the side taken has it. -/
theorem ite_eq_ok_iff {ε β : Type} {c : Bool} {yes no : Except ε β} {b : β} :
    (if c then yes else no) = .ok b ↔ c = true ∧ yes = .ok b ∨ c = false ∧ no = .ok b := by
  cases c with
  | true => exact ⟨fun h => .inl ⟨rfl, h⟩, fun h => h.elim And.right fun h => nomatch h.1⟩
  | false => exact ⟨fun h => .inr ⟨rfl, h⟩, fun h => h.elim (fun h => nomatch h.1) And.right⟩

/-- A difference that has to be fit for dividing by. -/
theorem ite_isSpan_eq_ok_iff {span : α} {fault : Fault} {built : Profile α} :
    (if isSpan span then .ok built else .error fault : Except Fault (Profile α)) = .ok profile ↔
      isSpan span = true ∧ profile = built := by
  rw [ite_eq_ok_iff, Except.ok.injEq, eq_comm (a := built)]
  exact or_iff_left fun h => nomatch h.2

namespace Transition

/-- A shape is a formula only where the curve is. -/
theorem curve_of_shape {move : Transition α} {scope : Scope α} {f : Formula}
    (made : move.shape scope? = .ok (.formula scope f)) : ∃ text, move.curve = .formula text := by
  unfold Transition.shape at made
  dsimp only at made
  split at made
  · next text curve => exact ⟨text, curve⟩
  · exact absurd made nofun
  · exact absurd made nofun
  · split at made <;> exact absurd made nofun
  · split at made <;> exact absurd made nofun
  · exact absurd made nofun

/-- The angle a transition starts at. -/
def firstAngle (move : Transition α) : α := move.startClip - quarterTurn

/-- The width of the domain of a transition. -/
def domain (move : Transition α) : α := quarterTurn - move.endClip - move.firstAngle

/-- The ramp of a transition, from what its shape is at the two ends. -/
def ramp (move : Transition α) (shape : TransitionShape α) (low high samples : α) : Ramp α :=
  ⟨shape, move.start, move.finish - move.start, move.firstAngle, move.domain, low, high - low, samples⟩

/-- **When a transition has a profile**, and which. -/
theorem profile_eq_ok_iff {move : Transition α} :
    move.profile samples scope? = .ok profile ↔
      eq move.start move.finish = true ∧ profile = .level move.start
      ∨ eq move.start move.finish = false ∧ ∃ shape, move.shape scope? = .ok shape
        ∧ ∃ low, shape.evalEnd move.firstAngle = .ok low
        ∧ ∃ high, shape.evalEnd (move.firstAngle + move.domain * nat 1) = .ok high
        ∧ isSpan (high - low) = true ∧ profile = .ramp (move.ramp shape low high samples) := by
  rw [Transition.profile, ite_eq_ok_iff]
  refine or_congr (and_congr_right' ⟨fun h => by cases h; rfl, fun h => h ▸ rfl⟩) ?_
  refine and_congr_right' (bind_eq_ok_iff.trans (exists_congr fun shape => and_congr_right' ?_))
  refine bind_eq_ok_iff.trans (exists_congr fun low => and_congr_right' ?_)
  refine bind_eq_ok_iff.trans (exists_congr fun high => and_congr_right' ?_)
  exact ite_isSpan_eq_ok_iff

end Transition

namespace Contour

/-- The bump of a contour, from what its shape is at the start. -/
def bump (contour : Contour α) (shape : ContourShape) (base samples : α) : Bump α :=
  ⟨shape, contour.level, contour.excursion, contour.clip - pi, base, shape.eval (nat 0) - base, samples⟩

/-- **When a contour has a profile**, and which. -/
theorem profile_eq_ok_iff {contour : Contour α} :
    contour.profile samples = .ok profile ↔
      eq contour.excursion (nat 0) = true ∧ profile = .level contour.level
      ∨ eq contour.excursion (nat 0) = false
        ∧ ∃ shape, ContourShape.ofDocument contour.curve = .ok shape
        ∧ ∃ base, shape.evalEnd (contour.clip - pi) = .ok base
        ∧ isSpan (shape.eval (nat 0) - base) = true
        ∧ profile = .bump (contour.bump shape base samples) := by
  rw [Contour.profile, ite_eq_ok_iff]
  refine or_congr (and_congr_right' ⟨fun h => by cases h; rfl, fun h => h ▸ rfl⟩) ?_
  refine and_congr_right' (bind_eq_ok_iff.trans (exists_congr fun shape => and_congr_right' ?_))
  refine bind_eq_ok_iff.trans (exists_congr fun base => and_congr_right' ?_)
  exact ite_isSpan_eq_ok_iff

end Contour

end Built

/-! ## Parts of a rise -/

section Parts

variable {α : Type} [Arithmetic α]

/-- The part of its rise that a ramp has made at a point. -/
def Ramp.part (r : Ramp α) (t : α) : Except Fault α :=
  (r.shape.eval (r.firstAngle + r.domain * (t / r.samples))).map fun v => (v - r.low) / r.span

/-- The part of its excursion that a bump has made at a point. -/
def Bump.part (b : Bump α) (t : α) : α :=
  (b.shape.eval (b.firstAngle * (nat 1 - nat 2 * (t / b.samples))) - b.base) / b.height

theorem Profile.eval_ramp (r : Ramp α) (t : α) :
    (ramp r).eval t = (r.part t).map fun part => r.start + r.rise * part := by
  unfold Ramp.part
  show (r.shape.eval _ >>= fun v => pure (r.start + r.rise * ((v - r.low) / r.span))) = _
  cases r.shape.eval (r.firstAngle + r.domain * (t / r.samples)) with
  | error fault => rfl
  | ok v => rfl

theorem Profile.eval_bump (b : Bump α) (t : α) :
    (bump b).eval t = .ok (b.level + b.excursion * b.part t) := rfl

end Parts

end WhistledSpeech
