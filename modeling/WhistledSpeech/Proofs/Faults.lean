import Mathlib
import WhistledSpeech.Formula.Field
import WhistledSpeech.Proofs.Steps

/-!
# What a step can fail with

Every step of the engine says in its type that it can fail, and with any fault there is. Which ones it
does fail with is said here by what is known of its fault, beside what is known of its result
(`ComesTo`). A chain of steps fails as its steps do.

Formulas have faults of their own, and no others (`Fault.OfFormula`): that holds of reading one, of
evaluating it, of using it as a curve and of resolving constants.
-/

namespace WhistledSpeech

variable {ε α β γ : Type}

/-- **What a step comes to**: a result of one kind, or a fault of another. -/
def ComesTo (made : β → Prop) (failed : ε → Prop) : Except ε β → Prop
  | .ok b => made b
  | .error fault => failed fault

/-- A step that fails only with faults of a kind, whatever it makes. -/
abbrev Raises (failed : ε → Prop) (step : Except ε β) : Prop := ComesTo (fun _ => True) failed step

namespace ComesTo

variable {made made' : β → Prop} {failed failed' : ε → Prop} {step : Except ε β}

theorem result {b : β} (h : ComesTo made failed step) (is : step = .ok b) : made b := by
  subst is
  exact h

theorem fault {fault : ε} (h : ComesTo made failed step) (is : step = .error fault) :
    failed fault := by
  subst is
  exact h

theorem mono (h : ComesTo made failed step) (result : ∀ b, made b → made' b)
    (fault : ∀ fault, failed fault → failed' fault) : ComesTo made' failed' step := by
  cases step with
  | ok b => exact result b h
  | error cause => exact fault cause h

/-- The same of the fault alone. -/
theorem raises (h : ComesTo made failed step) (fault : ∀ fault, failed fault → failed' fault) :
    Raises failed' step :=
  h.mono (fun _ _ => trivial) fault

/-- **One step after the other**: the second starts from what the first has made. -/
theorem bind {then_ : γ → Prop} {next : β → Except ε γ} (h : ComesTo made failed step)
    (h' : ∀ b, made b → ComesTo then_ failed (next b)) : ComesTo then_ failed (step >>= next) := by
  cases step with
  | ok b => exact h' b h
  | error fault => exact h

/-- Changing the result changes nothing else. -/
theorem map {then_ : γ → Prop} {f : β → γ} (h : ComesTo made failed step)
    (h' : ∀ b, made b → then_ (f b)) : ComesTo then_ failed (step.map f) := by
  cases step with
  | ok b => exact h' b h
  | error fault => exact h

end ComesTo

/-- What a step fails with, fault by fault. -/
theorem raises_of_error {failed : ε → Prop} {step : Except ε β}
    (each : ∀ fault, step = .error fault → failed fault) : Raises failed step := by
  cases step with
  | ok b => trivial
  | error fault => exact each fault rfl

/-- **The same step so many times**, with nothing to keep of it. -/
theorem raises_forM {failed : ε → Prop} {count : Nat} {step : (k : Nat) → k < count → Except ε Unit}
    (each : ∀ k h, Raises failed (step k h)) : Raises failed (count.forM step) := by
  unfold Nat.forM
  -- the loop has no name here, so this is said of anything with its two equations
  suffices all : ∀ (loop : (left : Nat) → left ≤ count → Except ε Unit),
      (∀ h, loop 0 h = .ok ()) →
      (∀ left h, loop (left + 1) h
        = step (count - left - 1) (by omega) >>= fun _ => loop left (Nat.le_of_succ_le h)) →
      Raises failed (loop count (Nat.le_refl count)) from
    all _ (fun _ => rfl) fun _ _ => rfl
  intro loop done next
  have rest : ∀ left h, Raises failed (loop left h) := by
    intro left
    induction left with
    | zero =>
      intro h
      rw [done]
      trivial
    | succ left ih =>
      intro h
      rw [next]
      exact (each _ _).bind fun _ _ => ih _
  exact rest count _

/-! ## Formulas -/

/-- **The faults of formulas** and of the constants that are defined by them. -/
inductive Fault.OfFormula : Fault → Prop
  /-- A text is none. -/
  | malformed (formula : String) (cause : SyntaxFault) : OfFormula (.malformedFormula formula cause)
  /-- A name stands for nothing. -/
  | unknown (name formula : String) : OfFormula (.unknownConstant name formula)
  /-- A formula has no value. -/
  | undefined (formula : String) (cause : ArithmeticFault) : OfFormula (.undefinedFormula formula cause)
  /-- A curve has names other than the angle and the constants. -/
  | stray (formula : String) (names : List String) : OfFormula (.strayNames formula names)
  /-- Constants depend on one another. -/
  | unresolvable (entries : List (String × String)) : OfFormula (.unresolvableConstants entries)

theorem raises_parse (text : String) : Raises Fault.OfFormula (Formula.parse text) := by
  unfold Formula.parse
  split
  · trivial
  · exact .malformed _ _

section Evaluating

variable [Arithmetic α]

theorem raises_formula_eval (formula : Formula) (lookup : String → Option α) :
    Raises Fault.OfFormula (formula.eval lookup) := by
  unfold Formula.eval
  split
  · trivial
  · exact .unknown _ _
  · exact .undefined _ _

theorem Scope.raises_evalText (scope : Scope α) (text : String) (bindings : String → Option α) :
    Raises Fault.OfFormula (scope.evalText text bindings) := by
  have read := raises_parse text
  unfold evalText
  cases parsed : Formula.parse text with
  | ok formula => exact raises_formula_eval formula _
  | error fault => exact read.fault parsed

omit [Arithmetic α] in
theorem Scope.raises_compile (scope : Scope α) (text : String) :
    Raises Fault.OfFormula (scope.compile text) := by
  have read := raises_parse text
  unfold compile
  cases parsed : Formula.parse text with
  | ok formula =>
    show Raises _ (if (scope.strayNames formula).isEmpty then _ else _)
    split
    · trivial
    · exact .stray _ _
  | error fault => exact read.fault parsed

theorem Scope.raises_resolveRound (scope : Scope α) (pending : Pending) :
    Raises Fault.OfFormula (scope.resolveRound pending) := by
  induction pending generalizing scope with
  | nil => trivial
  | cons entry rest ih =>
    obtain ⟨name, formula⟩ := entry
    have value := raises_formula_eval formula (scope.lookup unbound)
    rw [resolveRound]
    cases evaluated : scope.eval formula unbound with
    | ok x => exact ih _
    | error fault => exact value.fault evaluated

/-- **Resolving constants** fails as formulas do. -/
theorem Scope.raises_resolve (scope : Scope α) (pending : Pending) :
    Raises Fault.OfFormula (scope.resolve pending) := by
  induction scope, pending using resolve.induct with
  | case1 scope pending done =>
    rw [resolve, if_pos done]
    trivial
  | case2 scope pending some stuck =>
    rw [resolve, if_neg some, dif_pos stuck]
    exact .unresolvable _
  | case3 scope pending some moves _ fault failed =>
    have round := scope.raises_resolveRound (scope.ready pending)
    rw [resolve, if_neg some, dif_neg moves, failed]
    exact round.fault failed
  | case4 scope pending some moves _ next resolved ih =>
    rw [resolve, if_neg some, dif_neg moves, resolved]
    exact ih

end Evaluating

/-! ## Curves -/

/-- **The faults of curves.** -/
inductive Fault.OfCurve : Fault → Prop
  /-- A formula has no constants to be read with. -/
  | withoutScope (formula : String) : OfCurve (.curveWithoutScope formula)
  /-- The curve of a transition is not known. -/
  | unknownTransition (name : String) : OfCurve (.unknownTransitionCurve name)
  /-- The curve of a contour is not known. -/
  | unknownContour (name : Document) : OfCurve (.unknownContourCurve name)
  /-- A transition gets nowhere. -/
  | flatTransition (curve startClip endClip : String) :
      OfCurve (.flatTransition curve startClip endClip)
  /-- A contour gets nowhere. -/
  | flatContour (curve clip : String) : OfCurve (.flatContour curve clip)
  /-- What has no curve is asked for one. -/
  | none (label : String) : OfCurve (.noCurve label)

/-- **The faults of a level**: those of formulas and of curves, and one that is beyond the range of the
numbers. -/
inductive Fault.OfLevel : Fault → Prop
  /-- A formula is at fault. -/
  | formula {fault : Fault} (h : fault.OfFormula) : OfLevel fault
  /-- A curve is. -/
  | curve {fault : Fault} (h : fault.OfCurve) : OfLevel fault
  /-- The end of a domain is too far out. -/
  | overflow : OfLevel .overflow

end WhistledSpeech
