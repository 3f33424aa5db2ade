import WhistledSpeech.Formula.Scope
import WhistledSpeech.Signal.Component

/-!
# Profiles: the level of a component over time

The profile of a component gives its level at every point of a segment, from zero to the number of
samples. A transition maps that range onto an interval of angles – `[-π/2, π/2]`, less the clips – and
sends the angle through a *shape*; what the shape does between the two ends is scaled so that the
profile starts and finishes on the levels of the transition. A contour runs symmetrically through
`[-π, π]`, less the clips, and is scaled so that it is at its level at both ends and at its full
excursion in the middle.

A profile is data and not a function: `Component.profile` checks the ends of the domain and keeps what
`Profile.eval` then needs at each point.
-/

namespace WhistledSpeech

open Arithmetic

variable {α : Type} [Arithmetic α]

/-- A quarter turn. -/
def quarterTurn : α := pi / nat 2

/-- The reciprocal of a half turn. -/
def perHalfTurn : α := nat 1 / pi

/-- The reciprocal of a quarter turn. -/
def perQuarterTurn : α := nat 2 / pi

/-- The reciprocal of a full turn. -/
def perFullTurn : α := nat 1 / (nat 2 * pi)

/-- The square of a number. -/
def square (x : α) : α := x * x

/-- The square of a number that bounds a domain; one beyond the range of the numbers is a fault. -/
def boundedSquare (x : α) : Except Fault α :=
  if isFinite x && !isFinite (square x) then .error .overflow else .ok (square x)

/-- The larger of zero and a number; undefined if the number is. -/
def atLeastZero (x : α) : α :=
  if isUndefined x then x else if lt x (nat 0) then nat 0 else x

/-! ## Shapes of transitions -/

/-- **The shape of a transition**, a function of the angle. -/
inductive TransitionShape (α : Type) where
  /-- Sine. -/
  | sine
  /-- Arcsine, scaled so that it is flatter than a sine near the ends. -/
  | arcsine
  /-- An arc of an ellipse, hollow towards above, rising. -/
  | concaveUp
  /-- An arc of an ellipse, hollow towards above, falling. -/
  | concaveDown
  /-- An arc of an ellipse, hollow towards below, rising. -/
  | convexUp
  /-- An arc of an ellipse, hollow towards below, falling. -/
  | convexDown
  /-- A formula of the angle, with the constants it is read with. -/
  | formula (scope : Scope α) (f : Formula)

namespace TransitionShape

/-- The quantity an arc squares: the distance of the angle from the arc's centre, in full turns. The
other shapes square nothing. -/
def arcOffset? : TransitionShape α → α → Option α
  | concaveUp, x | convexDown, x => some ((x + pi) * perFullTurn)
  | concaveDown, x | convexUp, x => some ((x - pi) * perFullTurn)
  | _, _ => none

/-- The height of an arc at the square of its offset. -/
def arcHeight (squared : α) : α := sqrt (nat 1 - squared)

/-- **The value of a shape at an angle.** Only a formula can fault. -/
def eval (shape : TransitionShape α) (x : α) : Except Fault α :=
  match shape with
  | sine => .ok (sin x)
  | arcsine => .ok (arcsin (x * perHalfTurn) * perQuarterTurn)
  | concaveUp => .ok (nat 1 - nat 2 * arcHeight (square ((x + pi) * perFullTurn)))
  | concaveDown => .ok (nat 1 - nat 2 * arcHeight (square ((x - pi) * perFullTurn)))
  | convexUp => .ok (nat 2 * arcHeight (square ((x - pi) * perFullTurn)) - nat 1)
  | convexDown => .ok (nat 2 * arcHeight (square ((x + pi) * perFullTurn)) - nat 1)
  | formula scope f => scope.curveAt f x

/-- The value of a shape at an end of its domain. An end so far out that its square is beyond the
range of the numbers is a fault. -/
def evalEnd (shape : TransitionShape α) (x : α) : Except Fault α :=
  match shape.arcOffset? x with
  | some offset => do
    let _ ← boundedSquare offset
    shape.eval x
  | none => shape.eval x

end TransitionShape

/-- **The shape of a transition's curve.** An arc has one shape for rising and one for falling; a
formula needs constants to be read with. -/
def Transition.shape (move : Transition α) (scope? : Option (Scope α)) :
    Except Fault (TransitionShape α) :=
  let rising := lt move.start move.finish
  match move.curve with
  | .formula text =>
    match scope? with
    | none => .error (.curveWithoutScope text)
    | some scope => (scope.compile text).map (.formula scope)
  | .named "sine" => .ok .sine
  | .named "arcsine" => .ok .arcsine
  | .named "concave" => .ok (if rising then .concaveUp else .concaveDown)
  | .named "convex" => .ok (if rising then .convexUp else .convexDown)
  | .named name => .error (.unknownTransitionCurve name)

/-! ## Shapes of contours -/

/-- **The shape of a contour**, a function of the angle that is even. -/
inductive ContourShape where
  /-- A raised cosine. -/
  | sine
  /-- Half an ellipse. -/
  | ellipse
  deriving Repr, DecidableEq

namespace ContourShape

/-- The quantity under the root of the ellipse, held above zero where rounding would push it below. -/
def radicand (x : α) : α := atLeastZero (nat 1 - square (x * perHalfTurn))

/-- **The value of a shape at an angle.** -/
def eval : ContourShape → α → α
  | sine, x => (cos x + nat 1) * ofDecimal 5 1
  | ellipse, x => sqrt (radicand x)

/-- The value of a shape at an end of its domain. -/
def evalEnd (shape : ContourShape) (x : α) : Except Fault α :=
  match shape with
  | sine => .ok (shape.eval x)
  | ellipse => do
    let _ ← boundedSquare (x * perHalfTurn)
    return shape.eval x

/-- The shape with a given name. A name that cannot even be compared is of the wrong type. -/
def ofDocument : Document → Except Fault ContourShape
  | .text "sine" => .ok sine
  | .text "ellipse" => .ok ellipse
  | .list _ | .object _ => .error .wrongType
  | name => .error (.unknownContourCurve name)

end ContourShape

/-! ## Profiles -/

/-- A transition whose ends have been checked. -/
structure Ramp (α : Type) where
  /-- The shape. -/
  shape : TransitionShape α
  /-- The level at the start. -/
  start : α
  /-- How far the level moves. -/
  rise : α
  /-- The angle at the start. -/
  firstAngle : α
  /-- The width of the domain. -/
  domain : α
  /-- The value of the shape at the start. -/
  low : α
  /-- How far the shape moves. -/
  span : α
  /-- The length in samples. -/
  samples : α

/-- A contour whose ends have been checked. -/
structure Bump (α : Type) where
  /-- The shape. -/
  shape : ContourShape
  /-- The level at both ends. -/
  level : α
  /-- How far the middle is from it. -/
  excursion : α
  /-- The angle at the start. -/
  firstAngle : α
  /-- The value of the shape at the start. -/
  base : α
  /-- How far the shape is above that in the middle. -/
  height : α
  /-- The length in samples. -/
  samples : α

/-- **A profile.** -/
inductive Profile (α : Type) where
  /-- A level held. -/
  | level (y : α)
  /-- A transition. -/
  | ramp (r : Ramp α)
  /-- A contour. -/
  | bump (b : Bump α)

namespace Profile

/-- **The level at a point.** -/
def eval : Profile α → α → Except Fault α
  | level y, _ => .ok (nat 0 + y)
  | ramp r, t => do
    let u := t / r.samples
    let v ← r.shape.eval (r.firstAngle + r.domain * u)
    return r.start + r.rise * ((v - r.low) / r.span)
  | bump b, t =>
    let u := t / b.samples
    .ok (b.level + b.excursion *
      ((b.shape.eval (b.firstAngle * (nat 1 - nat 2 * u)) - b.base) / b.height))

end Profile

/-- Whether a difference can be divided by: it is neither zero nor infinite nor undefined. -/
def isSpan (d : α) : Bool := !eq d (nat 0) && isFinite d

/-- **The profile of a transition.** Between equal levels nothing moves and the curve is not looked
at. -/
def Transition.profile (move : Transition α) (samples : α) (scope? : Option (Scope α)) :
    Except Fault (Profile α) :=
  if eq move.start move.finish then .ok (.level move.start)
  else do
    let shape ← move.shape scope?
    let firstAngle := move.startClip - quarterTurn
    let domain := (quarterTurn - move.endClip) - firstAngle
    let low ← shape.evalEnd firstAngle
    let high ← shape.evalEnd (firstAngle + domain * nat 1)
    let span := high - low
    if isSpan span then
      return .ramp ⟨shape, move.start, move.finish - move.start, firstAngle, domain, low, span, samples⟩
    else
      .error (.flatTransition move.curve.shown (shown move.startClip) (shown move.endClip))

/-- **The profile of a contour.** Without an excursion nothing moves and the curve is not looked at. -/
def Contour.profile (contour : Contour α) (samples : α) : Except Fault (Profile α) :=
  if eq contour.excursion (nat 0) then .ok (.level contour.level)
  else do
    let shape ← ContourShape.ofDocument contour.curve
    let firstAngle := contour.clip - pi
    let base ← shape.evalEnd firstAngle
    let height := shape.eval (nat 0) - base
    if isSpan height then
      return .bump ⟨shape, contour.level, contour.excursion, firstAngle, base, height, samples⟩
    else
      .error (.flatContour contour.curve.display (shown contour.clip))

/-- **The profile of a component** over a length in samples. -/
def Component.profile (samples : α) (scope? : Option (Scope α)) :
    Component α → Except Fault (Profile α)
  | .transition move => move.profile samples scope?
  | .contour excursion => excursion.profile samples
  | .constant level => .ok (.level level)
  | .foreign label => .error (.noCurve label)

end WhistledSpeech
