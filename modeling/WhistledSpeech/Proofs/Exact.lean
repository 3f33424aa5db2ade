import Mathlib
import WhistledSpeech.Signal.Profile
import WhistledSpeech.Signal.Voice

/-!
# Exact arithmetic

`Exact` reads the arithmetic of the engine without rounding: a number is a real number, and one value
stands for whatever has none – a quotient by zero, a function outside its domain, and every operation
on what is undefined already. Nothing overflows, so the numbers are exactly the finite values.

Only a message asks for the text of a number. A real number has none, and a fixed text stands in for
it.
-/

namespace WhistledSpeech

open Arithmetic

/-- **A number, or nothing.** -/
inductive Exact where
  /-- A real number. -/
  | number (x : ℝ)
  /-- No number. -/
  | undefined

namespace Exact

/-- Applies a function that every number has a value under. -/
def lift (f : ℝ → ℝ) : Exact → Exact
  | number x => number (f x)
  | undefined => undefined

/-- Applies an operation that any two numbers have a value under. -/
def lift₂ (f : ℝ → ℝ → ℝ) : Exact → Exact → Exact
  | number x, number y => number (f x y)
  | _, _ => undefined

open scoped Classical in
/-- Applies a function to the numbers in its domain. -/
noncomputable def liftOn (domain : ℝ → Prop) (f : ℝ → ℝ) : Exact → Exact
  | number x => if domain x then number (f x) else undefined
  | undefined => undefined

open scoped Classical in
/-- Applies an operation to the pairs of numbers in its domain. -/
noncomputable def liftOn₂ (domain : ℝ → ℝ → Prop) (f : ℝ → ℝ → ℝ) : Exact → Exact → Exact
  | number x, number y => if domain x y then number (f x y) else undefined
  | _, _ => undefined

open scoped Classical in
/-- Compares two numbers; what is undefined compares to nothing. -/
noncomputable def compare (relation : ℝ → ℝ → Prop) : Exact → Exact → Bool
  | number x, number y => decide (relation x y)
  | _, _ => false

/-- Whether there is a number. -/
def isNumber : Exact → Bool
  | number _ => true
  | undefined => false

/-- The largest integer not above a number. -/
noncomputable def floor : Exact → Except CountFault Int
  | number x => .ok ⌊x⌋
  | undefined => .error .undefined

/-- **The exact operations.** A power of zero needs an exponent that is not negative, and a power of a
negative number one that is an integer. -/
noncomputable instance : Arithmetic Exact where
  add := lift₂ (· + ·)
  sub := lift₂ (· - ·)
  mul := lift₂ (· * ·)
  div := liftOn₂ (fun _ y => y ≠ 0) (· / ·)
  neg := lift (- ·)
  ofDecimal m places := number (m / 10 ^ places)
  ofInt n := number n
  pi := number Real.pi
  e := number (Real.exp 1)
  sin := lift Real.sin
  cos := lift Real.cos
  arcsin := liftOn (fun x => x ∈ Set.Icc (-1) 1) Real.arcsin
  sqrt := liftOn (fun x => 0 ≤ x) Real.sqrt
  log := liftOn (fun x => 0 < x) Real.log
  pow := liftOn₂ (fun x y => 0 < x ∨ x = 0 ∧ 0 ≤ y ∨ x < 0 ∧ ∃ n : ℤ, y = n) (· ^ ·)
  lt := compare (· < ·)
  eq := compare (· = ·)
  isFinite := isNumber
  isUndefined x := !isNumber x
  floor := floor
  toCell := id
  shown _ := "a number"

section Numbers

variable {x y : ℝ}

@[simp] theorem number_inj : number x = number y ↔ x = y := ⟨fun h => by injection h, congrArg number⟩

@[simp] theorem number_add : number x + number y = number (x + y) := rfl

@[simp] theorem number_sub : number x - number y = number (x - y) := rfl

@[simp] theorem number_mul : number x * number y = number (x * y) := rfl

@[simp] theorem number_div (h : y ≠ 0) : number x / number y = number (x / y) := if_pos h

@[simp] theorem nat_eq (n : ℕ) : (nat n : Exact) = number n := by
  show number ((n : ℝ) / 10 ^ 0) = number n
  rw [pow_zero, div_one]

@[simp] theorem pi_eq : (pi : Exact) = number Real.pi := rfl

@[simp] theorem sqrt_number (h : 0 ≤ x) : sqrt (number x) = number (Real.sqrt x) := if_pos h

@[simp] theorem arcsin_number (h : x ∈ Set.Icc (-1) 1) : arcsin (number x) = number (Real.arcsin x) :=
  if_pos h

@[simp] theorem eq_number_iff : eq (number x) (number y) = true ↔ x = y := decide_eq_true_iff

theorem eq_number_eq_false : eq (number x) (number y) = false ↔ x ≠ y := by
  rw [← Bool.not_eq_true, eq_number_iff]

@[simp] theorem lt_number_iff : lt (number x) (number y) = true ↔ x < y := decide_eq_true_iff

end Numbers

/-- An operation gives a number only on two numbers. -/
theorem lift₂_eq_number {f : ℝ → ℝ → ℝ} {a b : Exact} {v : ℝ} (h : lift₂ f a b = number v) :
    ∃ x y, a = number x ∧ b = number y ∧ v = f x y := by
  cases a with
  | undefined => exact absurd h nofun
  | number x =>
    cases b with
    | undefined => exact absurd h nofun
    | number y => exact ⟨x, y, rfl, rfl, (number_inj.mp h).symm⟩

theorem add_eq_number {a b : Exact} {v : ℝ} (h : a + b = number v) :
    ∃ x y, a = number x ∧ b = number y ∧ v = x + y :=
  lift₂_eq_number h

theorem sub_eq_number {a b : Exact} {v : ℝ} (h : a - b = number v) :
    ∃ x y, a = number x ∧ b = number y ∧ v = x - y :=
  lift₂_eq_number h

theorem mul_eq_number {a b : Exact} {v : ℝ} (h : a * b = number v) :
    ∃ x y, a = number x ∧ b = number y ∧ v = x * y :=
  lift₂_eq_number h

/-- A function gives a number only on a number in its domain. -/
theorem mem_of_liftOn_number {domain : ℝ → Prop} {f : ℝ → ℝ} {x v : ℝ}
    (h : liftOn domain f (number x) = number v) : domain x := by
  by_contra outside
  exact absurd ((if_neg outside).symm.trans h) nofun

/-! ## Curves -/

/-- No square is beyond the range of exact numbers. -/
theorem boundedSquare_eq (y : Exact) : boundedSquare y = .ok (square y) := by
  cases y with
  | number y => rfl
  | undefined => rfl

/-- A shape has the same value at an end of its domain as everywhere. -/
theorem evalEnd_eq_eval (shape : TransitionShape Exact) (x : Exact) :
    shape.evalEnd x = shape.eval x := by
  unfold TransitionShape.evalEnd
  cases shape.arcOffset? x with
  | none => rfl
  | some offset =>
    show (boundedSquare offset >>= fun _ => shape.eval x) = _
    rw [boundedSquare_eq]
    rfl

theorem quarterTurn_eq : (quarterTurn : Exact) = number (Real.pi / 2) := by
  rw [quarterTurn, nat_eq, pi_eq]
  exact number_div two_ne_zero

theorem perQuarterTurn_eq : (perQuarterTurn : Exact) = number (2 / Real.pi) := by
  rw [perQuarterTurn, nat_eq, pi_eq, Nat.cast_ofNat]
  exact number_div Real.pi_ne_zero

/-- An angle in half turns. -/
theorem mul_perHalfTurn (x : ℝ) : number x * perHalfTurn = number (x / Real.pi) := by
  rw [perHalfTurn, nat_eq, pi_eq, number_div Real.pi_ne_zero, number_mul, Nat.cast_one, mul_one_div]

theorem perFullTurn_eq : (perFullTurn : Exact) = number (1 / (2 * Real.pi)) := by
  rw [perFullTurn, nat_eq, nat_eq, pi_eq, number_mul, number_div (by positivity)]
  norm_num

end Exact

/-! ## Over other numbers -/

section Map

variable {α β : Type} (g : α → β)

/-- A transition with every number replaced. -/
def Transition.map (move : Transition α) : Transition β :=
  ⟨g move.start, g move.finish, move.curve, g move.startClip, g move.endClip⟩

/-- A contour with every number replaced. -/
def Contour.map (excursion : Contour α) : Contour β :=
  ⟨g excursion.level, g excursion.excursion, excursion.curve, g excursion.clip⟩

/-- A component with every number replaced. -/
def Component.map : Component α → Component β
  | .transition move => .transition (move.map g)
  | .contour excursion => .contour (excursion.map g)
  | .constant level => .constant (g level)
  | .foreign label => .foreign label

/-- The map of an axis with every number replaced. -/
def AxisMap.map (m : AxisMap α) : AxisMap β := ⟨g m.center, g m.shift, g m.scale⟩

end Map

end WhistledSpeech
