import Mathlib
import WhistledSpeech.Proofs.Faults
import WhistledSpeech.Proofs.Formula.Resolution
import WhistledSpeech.Proofs.Formula.Session

/-!
# Formulas as curves

A formula can be taken as a curve of the angle `t`, and it can be evaluated with `t` bound to a number.
The two look names up in different ways. A curve takes every name that is no constant for the angle, but
is refused if there is another such name; an evaluation takes any formula, and fails at a name that stands
for nothing. Both let a constant named `t` hide the angle.

They come to the same (`Session.compile_agrees`). Where a formula is a curve, all its names are constants
or the angle, and the two ways agree on these. Where it is refused, one of its names stands for nothing,
and since an evaluation asks for all of them it fails at every angle – at that name or at something
before it.
-/

namespace WhistledSpeech

/-! ## Names that stand for nothing -/

section Strict

variable {α : Type} [Arithmetic α] {lookup : String → Option α} {n : String}

/-- **Evaluating asks for every name**: where one stands for nothing, there is no value. -/
theorem Expr.exists_error_of_unbound {e : Expr} (mem : n ∈ e.names) (unbound : lookup n = none) :
    ∃ fault, e.eval lookup = .error fault := by
  induction e with
  | number _ _ => exact absurd mem List.not_mem_nil
  | name m =>
    cases List.mem_singleton.mp mem
    rw [Expr.eval, unbound]
    exact ⟨_, rfl⟩
  | neg operand ih =>
    obtain ⟨fault, failed⟩ := ih mem
    rw [Expr.eval, failed]
    exact ⟨fault, rfl⟩
  | binary op left right ihLeft ihRight =>
    rw [Expr.eval]
    cases first : left.eval lookup with
    | error fault => exact ⟨fault, rfl⟩
    | ok x =>
      -- the left operand has a value, so the name is in the right one
      obtain mem | mem := List.mem_append.mp mem
      · obtain ⟨fault, failed⟩ := ihLeft mem
        exact absurd (first.symm.trans failed) nofun
      · obtain ⟨fault, failed⟩ := ihRight mem
        rw [failed]
        exact ⟨fault, rfl⟩
  | apply f argument ih =>
    obtain ⟨fault, failed⟩ := ih mem
    rw [Expr.eval, failed]
    exact ⟨fault, rfl⟩

/-- A formula with a name that stands for nothing has no value. -/
theorem Formula.exists_error_of_unbound {f : Formula} (mem : n ∈ f.names) (unbound : lookup n = none) :
    ∃ fault, f.eval lookup = .error fault := by
  obtain ⟨cause, failed⟩ := Expr.exists_error_of_unbound mem unbound
  unfold eval
  rw [failed]
  cases cause <;> exact ⟨_, rfl⟩

end Strict

/-! ## The angle -/

/-- A set of names as a list has the names in it. -/
theorem mem_sortedNames {names : List String} {n : String} : n ∈ sortedNames names ↔ n ∈ names := by
  rw [sortedNames, List.mem_mergeSort, List.mem_eraseDups]

/-- **The angle as a binding.** -/
def angle {α : Type} (x : α) : String → Option α := fun name => if name = "t" then some x else none

namespace Scope

variable {α : Type} {scope : Scope α} {f : Formula} {n : String}

/-- The names that keep a formula from being a curve are its own, are not the angle and not constants. -/
theorem mem_strayNames :
    n ∈ scope.strayNames f ↔ n ∈ f.names ∧ n ≠ "t" ∧ scope.get? n = none := by
  rw [strayNames, mem_sortedNames, List.mem_filter, Bool.and_eq_true, bne_iff_ne, Bool.not_eq_true',
    contains, Option.isSome_eq_false_iff, Option.isNone_iff_eq_none]

/-- On constants and on the angle a curve and an evaluation agree. -/
theorem lookup_angle (known : n ≠ "t" → scope.get? n ≠ none) (x : α) :
    scope.lookup (fun _ => some x) n = scope.lookup (angle x) n := by
  unfold lookup
  cases found : scope.get? n with
  | some _ => rfl
  | none => exact (if_pos (not_not.mp fun other => known other found)).symm

/-- On any other name an evaluation fails. -/
theorem lookup_angle_eq_none (other : n ≠ "t") (unknown : scope.get? n = none) (x : α) :
    scope.lookup (angle x) n = none := by
  unfold lookup
  rw [unknown]
  exact if_neg other

/-- **When a formula is a curve**: there are no such names. -/
theorem asCurve_cases (scope : Scope α) (f : Formula) :
    scope.strayNames f = [] ∧ scope.asCurve f = .ok f
      ∨ scope.strayNames f ≠ []
        ∧ scope.asCurve f = .error (.strayNames f.text (scope.strayNames f)) := by
  by_cases none : scope.strayNames f = []
  · exact .inl ⟨none, if_pos (List.isEmpty_iff.mpr none)⟩
  · exact .inr ⟨none, if_neg (mt List.isEmpty_iff.mp none)⟩

variable [Arithmetic α]

/-- **A curve has the values of its formula.** -/
theorem curveAt_of_compile {text : String} (compiled : scope.compile text = .ok f) (x : α) :
    scope.curveAt f x = scope.evalText text (angle x) := by
  unfold compile at compiled
  unfold evalText
  cases parsed : Formula.parse text with
  | error fault =>
    rw [parsed] at compiled
    exact absurd compiled nofun
  | ok formula =>
    rw [parsed] at compiled
    obtain ⟨none, isCurve⟩ | ⟨_, refused⟩ := asCurve_cases scope formula
    · cases isCurve.symm.trans compiled
      refine Formula.eval_congr fun n mem => lookup_angle (fun other unknown => ?_) x
      have stray := mem_strayNames.mpr ⟨mem, other, unknown⟩
      rw [none] at stray
      exact absurd stray List.not_mem_nil
    · exact absurd (refused.symm.trans compiled) nofun

/-- **A formula that is no curve has no value**, at any angle. -/
theorem exists_error_of_compile {text : String} {fault : Fault}
    (refused : scope.compile text = .error fault) (x : α) :
    ∃ fault', scope.evalText text (angle x) = .error fault' := by
  unfold compile at refused
  unfold evalText
  cases parsed : Formula.parse text with
  | error fault' => exact ⟨fault', rfl⟩
  | ok formula =>
    rw [parsed] at refused
    obtain ⟨_, isCurve⟩ | ⟨some, _⟩ := asCurve_cases scope formula
    · exact absurd (isCurve.symm.trans refused) nofun
    · obtain ⟨n, stray⟩ := List.exists_mem_of_ne_nil _ some
      obtain ⟨mem, other, unknown⟩ := mem_strayNames.mp stray
      exact Formula.exists_error_of_unbound mem (lookup_angle_eq_none other unknown x)

/-- The reciprocal of the angle is a curve without constants. -/
theorem compile_reciprocal :
    (builtIn : Scope Float).compile "1/t" = .ok ⟨"1/t", .binary .div (.number 1 0) (.name "t")⟩ := by
  have parsed : Formula.parse "1/t" = .ok ⟨"1/t", .binary .div (.number 1 0) (.name "t")⟩ := by cbv
  unfold compile asCurve
  rw [parsed]
  simp [strayNames, Formula.names, Expr.names, sortedNames]

/-- The quotient of an unknown and the angle is none. -/
theorem compile_quotient :
    (builtIn : Scope Float).compile "x/t" = .error (.strayNames "x/t" ["x"]) := by
  have parsed : Formula.parse "x/t" = .ok ⟨"x/t", .binary .div (.name "x") (.name "t")⟩ := by cbv
  unfold compile asCurve
  rw [parsed]
  simp [strayNames, Formula.names, Expr.names, sortedNames, contains, get?, builtIn, Document.find?,
    List.eraseDups_cons]

end Scope

/-! ## Sessions -/

namespace Session

/-- **Taking a text as a curve agrees with evaluating it**, in a session that has been asked anything
before the one and anything between the two. If the text is a curve, its value at every angle is that of
the text with the angle bound, or it fails with the same fault, which is one of formulas. If it is
refused, then with a fault of formulas, and with one of those the text fails at every angle. -/
theorem compile_agrees {constants : Document} {start session later : Session Float}
    (started : ofDocument constants = .ok start) (before : Becomes start session)
    (between : Becomes session later) (text : String) :
    (∀ formula, (session.compile text).1 = .ok formula →
        ∀ x, session.scope.curveAt formula x = (later.evalField (.text text) (angle x)).1
          ∧ ∀ fault, session.scope.curveAt formula x = .error fault → fault.OfFormula)
      ∧ (∀ fault, (session.compile text).1 = .error fault → fault.OfFormula
        ∧ ∀ x, ∃ fault', (later.evalField (.text text) (angle x)).1 = .error fault'
          ∧ fault'.OfFormula) := by
  obtain ⟨_, faithful⟩ := before.keeps (isFaithful_ofDocument started)
  obtain ⟨same, faithful'⟩ := between.keeps faithful
  have compiles : (session.compile text).1 = session.scope.compile text := by
    obtain ⟨_, is, _, _⟩ := faithful.compile_cases text
    rw [is]
  have evaluates : ∀ x, (later.evalField (.text text) (angle x)).1
      = session.scope.evalText text (angle x) := by
    intro x
    obtain ⟨_, is, _, _⟩ := faithful'.evalText_cases text (angle x)
    change (later.evalText text (angle x)).1 = _
    rw [is, same]
  rw [compiles]
  refine ⟨fun formula compiled x => ⟨?_, fun fault failed => ?_⟩, fun fault refused => ⟨?_, fun x => ?_⟩⟩
  · rw [evaluates]
    exact Scope.curveAt_of_compile compiled x
  · exact (raises_formula_eval formula _).fault failed
  · exact (session.scope.raises_compile text).fault refused
  · obtain ⟨fault', failed⟩ := Scope.exists_error_of_compile refused x
    exact ⟨fault', (evaluates x).trans failed, (session.scope.raises_evalText text _).fault failed⟩

/-- **The session without constants.** -/
def bare : Session Float := fresh Scope.builtIn

theorem ofDocument_null : ofDocument .null = .ok bare := by
  have scope : Scope.ofDefinitions ([] : List (String × Definition Float)) = .ok Scope.builtIn := by
    unfold Scope.ofDefinitions
    rw [Scope.resolve]
    rfl
  show ofDefinitions [] = _
  unfold ofDefinitions
  rw [scope]
  rfl

/-- A session that has refused one text takes another as a curve, and whatever it is asked in between it
evaluates the two as it compiles them: the reciprocal of the angle has the values of its formula, and the
quotient of an unknown and the angle has none. -/
theorem compile_agrees_reciprocal :
    ∃ (session : Session Float) (formula : Formula) (fault : Fault),
      ofDocument .null = .ok bare ∧ session = (bare.compile "x/t").2
      ∧ (session.compile "1/t").1 = .ok formula
      ∧ (∀ x, session.scope.curveAt formula x
          = ((session.compile "1/t").2.evalField (.text "1/t") (angle x)).1)
      ∧ (bare.compile "x/t").1 = .error fault
      ∧ ∀ x, ∃ fault', (session.evalField (.text "x/t") (angle x)).1 = .error fault'
        ∧ fault'.OfFormula := by
  have once : Becomes bare (bare.compile "x/t").2 := .compile .idle _
  obtain ⟨session, compiles, same, faithful⟩ :=
    (isFaithful_ofDocument ofDocument_null).compile_cases "x/t"
  obtain ⟨after, compiles', _, _⟩ := faithful.compile_cases "1/t"
  have refused : (bare.compile "x/t").1 = .error (.strayNames "x/t" ["x"]) := by
    rw [compiles]
    exact Scope.compile_quotient
  have taken : ((bare.compile "x/t").2.compile "1/t").1
      = .ok ⟨"1/t", .binary .div (.number 1 0) (.name "t")⟩ := by
    rw [compiles, compiles', same]
    exact Scope.compile_reciprocal
  refine ⟨_, _, _, ofDocument_null, rfl, taken, fun x => ?_, refused, fun x => ?_⟩
  · exact ((compile_agrees ofDocument_null once (.compile .idle "1/t") "1/t").1 _ taken x).1
  · exact ((compile_agrees ofDocument_null .idle once "x/t").2 _ refused).2 x

end Session

end WhistledSpeech
