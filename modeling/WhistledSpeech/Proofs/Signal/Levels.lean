import Mathlib
import WhistledSpeech.Proofs.Faults
import WhistledSpeech.Signal.Track

/-!
# The levels of a component, sample by sample

`Component.levelAt` is what the cell of one sample is to hold: the profile of the component over the
segment, evaluated at that sample. A write computes the levels of all samples at once and does so only
for a segment that has samples; `Profile.levels` has a result exactly if every sample has a level, and
then it holds just those (`levels_cases`).

Making and evaluating a profile never finds a buffer too short (`Component.lengthFree_profile`,
`Profile.lengthFree_eval`), so where that fault is met, it is the buffer's.
-/

namespace WhistledSpeech

open Arithmetic

variable {α : Type} [Arithmetic α] {β γ : Type}

/-- **The level of a component at a sample**, in a segment of so many samples, as a cell keeps it. -/
def Component.levelAt (scope? : Option (Scope α)) (component : Component α) (count k : Nat) :
    Except Fault α := do
  let profile ← component.profile (ofInt count) scope?
  (profile.eval (ofInt k)).map toCell

section LevelAt

variable {scope? : Option (Scope α)} {component : Component α} {count : Nat}

theorem Component.levelAt_of_profile {profile : Profile α}
    (made : component.profile (ofInt count) scope? = .ok profile) (k : Nat) :
    component.levelAt scope? count k = (profile.eval (ofInt k)).map toCell := by
  unfold levelAt
  rw [made]
  rfl

theorem Component.levelAt_of_error {fault : Fault}
    (failed : component.profile (ofInt count) scope? = .error fault) (k : Nat) :
    component.levelAt scope? count k = .error fault := by
  unfold levelAt
  rw [failed]
  rfl

end LevelAt

/-! ## All levels at once -/

/-- **The levels of a profile**: as many as asked for, or the fault of one of the points. -/
theorem Profile.levels_cases (profile : Profile α) (count : Nat) :
    (∃ values, profile.levels count = .ok values ∧ values.length = count
        ∧ ∀ k < count, ∃ x, (profile.eval (ofInt k)).map toCell = .ok x ∧ values[k]? = some x)
      ∨ ∃ fault, profile.levels count = .error fault
        ∧ ∃ k < count, (profile.eval (ofInt k)).map toCell = .error fault := by
  obtain ⟨values, result, each⟩ | ⟨fault, result, k, mem, failed⟩ :=
    forall₂_of_mapM (fun k : Nat => (profile.eval (ofInt k)).map toCell) (List.range count)
  · have length : values.length = count := by
      rw [← each.length_eq, List.length_range]
    refine .inl ⟨values, result, length, fun k hk => ?_⟩
    have hk' : k < values.length := by rwa [length]
    refine ⟨values[k], ?_, List.getElem?_eq_getElem hk'⟩
    have level := each.get (by simpa using hk) hk'
    simpa using level
  · exact .inr ⟨fault, result, k, List.mem_range.mp mem, failed⟩

/-! ## The faults of curves and profiles -/

/-- **A component that has a curve to ask for**: it is none in name only, and the curve of a contour is
a text. -/
def Component.IsProper : Component α → Prop
  | .contour excursion => ∃ name, excursion.curve = .text name
  | .foreign _ => False
  | .transition _ | .constant _ => True

theorem raises_boundedSquare (x : α) : Raises Fault.OfLevel (boundedSquare x) := by
  unfold boundedSquare
  split
  · exact .overflow
  · trivial

theorem TransitionShape.raises_eval (shape : TransitionShape α) (x : α) :
    Raises Fault.OfFormula (shape.eval x) := by
  cases shape with
  | formula scope f => exact raises_formula_eval f _
  | sine | arcsine | concaveUp | concaveDown | convexUp | convexDown => trivial

theorem TransitionShape.raises_evalEnd (shape : TransitionShape α) (x : α) :
    Raises Fault.OfLevel (shape.evalEnd x) := by
  unfold TransitionShape.evalEnd
  split
  · exact (raises_boundedSquare _).bind fun _ _ => (shape.raises_eval x).raises fun _ => .formula
  · exact (shape.raises_eval x).raises fun _ => .formula

theorem Transition.raises_shape (move : Transition α) (scope? : Option (Scope α)) :
    Raises Fault.OfLevel (move.shape scope?) := by
  unfold Transition.shape
  split
  · split
    · exact .curve (.withoutScope _)
    · exact ((Scope.raises_compile _ _).raises fun _ => .formula).map fun _ _ => trivial
  · trivial
  · trivial
  · trivial
  · trivial
  · exact .curve (.unknownTransition _)

theorem Transition.raises_profile (move : Transition α) (samples : α) (scope? : Option (Scope α)) :
    Raises Fault.OfLevel (move.profile samples scope?) := by
  unfold Transition.profile
  split
  · trivial
  · refine (move.raises_shape scope?).bind fun shape _ => ?_
    refine (shape.raises_evalEnd _).bind fun low _ => ?_
    refine (shape.raises_evalEnd _).bind fun high _ => ?_
    dsimp only
    split
    · trivial
    · exact .curve (.flatTransition _ _ _)

/-- A curve that is a text is read without a fault of its type. -/
theorem ContourShape.raises_ofDocument (curve : Document) :
    Raises (fun fault => fault.OfLevel ∨ fault = .wrongType ∧ ¬ ∃ name, curve = .text name)
      (ofDocument curve) := by
  unfold ofDocument
  split
  · trivial
  · trivial
  · exact .inr ⟨rfl, nofun⟩
  · exact .inr ⟨rfl, nofun⟩
  · exact .inl (.curve (.unknownContour _))

theorem ContourShape.raises_evalEnd (shape : ContourShape) (x : α) :
    Raises Fault.OfLevel (shape.evalEnd x) := by
  unfold ContourShape.evalEnd
  split
  · trivial
  · exact (raises_boundedSquare _).bind fun _ _ => trivial

theorem Contour.raises_profile (contour : Contour α) (samples : α) :
    Raises (fun fault => fault.OfLevel ∨ fault = .wrongType ∧ ¬ ∃ name, contour.curve = .text name)
      (contour.profile samples) := by
  unfold Contour.profile
  split
  · trivial
  · refine (ContourShape.raises_ofDocument _).bind fun shape _ => ?_
    refine ((shape.raises_evalEnd _).raises fun _ => .inl).bind fun base _ => ?_
    dsimp only
    split
    · trivial
    · exact .inl (.curve (.flatContour _ _))

/-- **Making the profile of a component** fails as curves do, if it is a proper one. -/
theorem Component.raises_profile (component : Component α) (samples : α)
    (scope? : Option (Scope α)) :
    Raises (fun fault => fault.OfLevel ∨ fault = .wrongType ∧ ¬ component.IsProper)
      (component.profile samples scope?) := by
  cases component with
  | transition move => exact (move.raises_profile samples scope?).raises fun _ => .inl
  | contour excursion => exact excursion.raises_profile samples
  | constant level => trivial
  | foreign label => exact .inl (.curve (.none label))

theorem Component.IsProper.raises_profile {component : Component α} (proper : component.IsProper)
    (samples : α) (scope? : Option (Scope α)) :
    Raises Fault.OfLevel (component.profile samples scope?) :=
  (component.raises_profile samples scope?).raises fun _ fault =>
    fault.resolve_right fun wrong => wrong.2 proper

/-- **Evaluating a profile** fails as formulas do. -/
theorem Profile.raises_eval (profile : Profile α) (t : α) :
    Raises Fault.OfFormula (profile.eval t) := by
  cases profile with
  | level y => trivial
  | ramp r => exact (r.shape.raises_eval _).bind fun _ _ => trivial
  | bump b => trivial

/-! ## Faults that are not about a buffer -/

/-- **A step that has nothing to do with the length of a buffer**: it never finds one too short. -/
def LengthFree (step : Except Fault β) : Prop :=
  ∀ need size, step ≠ .error (.shortBuffer need size)

/-- The fault of such a step is one of any other, too. -/
theorem LengthFree.error {step : Except Fault β} {fault : Fault} (free : LengthFree step)
    (failed : step = .error fault) : LengthFree (.error fault : Except Fault γ) := by
  intro need size same
  cases same
  exact free need size failed

theorem LengthFree.map {step : Except Fault β} (free : LengthFree step) (f : β → γ) :
    LengthFree (step.map f) := by
  cases step with
  | ok b => exact fun _ _ same => absurd same (by simp [Except.map])
  | error fault => exact free.error rfl

theorem lengthFree_ok (b : β) : LengthFree (.ok b : Except Fault β) :=
  fun _ _ same => absurd same (by simp)

/-- A step whose faults are known not to be about a buffer. -/
theorem lengthFree_of_raises {failed : Fault → Prop} {step : Except Fault β}
    (raises : Raises failed step) (other : ∀ need size, ¬ failed (.shortBuffer need size)) :
    LengthFree step :=
  fun need size is => other need size (raises.fault is)

theorem not_ofLevel_shortBuffer (need : Int) (size : Nat) :
    ¬ Fault.OfLevel (.shortBuffer need size) := by
  intro is
  cases is with
  | formula h => exact nomatch h
  | curve h => exact nomatch h

/-- Making a profile says nothing about a buffer. -/
theorem Component.lengthFree_profile (component : Component α) (samples : α)
    (scope? : Option (Scope α)) : LengthFree (component.profile samples scope?) :=
  lengthFree_of_raises (component.raises_profile samples scope?) fun need size is =>
    is.elim (not_ofLevel_shortBuffer need size) fun wrong => nomatch wrong.1

/-- Nor does evaluating it. -/
theorem Profile.lengthFree_eval (profile : Profile α) (t : α) : LengthFree (profile.eval t) :=
  lengthFree_of_raises (profile.raises_eval t) fun _ _ is => nomatch is

end WhistledSpeech
