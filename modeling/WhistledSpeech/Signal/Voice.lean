import WhistledSpeech.Feed
import WhistledSpeech.Signal.Component

/-!
# Voices

A voice moves a whole utterance: up or down and wider or narrower on each axis, faster or slower in
time. On an axis it is the affine map `scale · (v - center) + (center + shift)`, and without a change
of scale the centre cancels out. A level is mapped; the excursion of a contour is a difference of
levels and is only scaled.

`Voice.isIdentity` tells the voices that change nothing, which need not be kept
(`Voice.unlessIdentity`); an axis that changes nothing is passed through as it is.
-/

namespace WhistledSpeech

open Arithmetic

/-- **The map of one axis.** -/
structure AxisMap (α : Type) where
  /-- The level that scaling leaves in place. -/
  center : α
  /-- How far levels are moved. -/
  shift : α
  /-- How much distances from the centre are scaled. -/
  scale : α
  deriving Repr, DecidableEq

/-- **A voice**: the maps of the two axes, where there are any, and the factor on time. -/
structure Voice (α : Type) where
  /-- The map of frequencies. -/
  f : Option (AxisMap α)
  /-- The map of amplitudes. -/
  a : Option (AxisMap α)
  /-- The factor on times. -/
  rate : α
  deriving Repr, DecidableEq

variable {α : Type} [Arithmetic α]

namespace AxisMap

/-- The image of a level. -/
def apply (m : AxisMap α) (v : α) : α :=
  if eq m.scale (nat 1) then v + m.shift
  else m.scale * (v - m.center) + (m.center + m.shift)

/-- Whether the map leaves every level in place: nothing is scaled and nothing is moved. -/
def isIdentity (m : AxisMap α) : Bool :=
  eq m.scale (nat 1) && eq m.shift (nat 0)

/-- **The image of a component.** -/
def mapComponent (m : AxisMap α) : Component α → Except Fault (Component α)
  | .transition move =>
    .ok (.transition { move with start := m.apply move.start, finish := m.apply move.finish })
  | .contour contour =>
    .ok (.contour { contour with
      level := m.apply contour.level, excursion := m.scale * contour.excursion })
  | .constant level => .ok (.constant (m.apply level))
  | .foreign _ => .error .wrongType

end AxisMap

namespace Voice

/-- Whether the voice leaves every segment as it is. -/
def isIdentity (voice : Voice α) : Bool :=
  eq voice.rate (nat 1) && voice.f.all AxisMap.isIdentity && voice.a.all AxisMap.isIdentity

/-- A voice, unless it leaves everything as it is. -/
def unlessIdentity (voice : Voice α) : Option (Voice α) :=
  if voice.isIdentity then none else some voice

/-- The image of a component on an axis; an axis without a map, or with one that changes nothing,
passes its components through. -/
def mapAxis (m? : Option (AxisMap α)) (component : Component α) : Except Fault (Component α) :=
  match m? with
  | none => .ok component
  | some m => if m.isIdentity then .ok component else m.mapComponent component

/-- The image of a segment. -/
def mapSegment (voice : Voice α) (segment : Segment α) : Except Fault (Segment α) := do
  let f ← mapAxis voice.f segment.f
  let a ← mapAxis voice.a segment.a
  return ⟨f, a, segment.run * voice.rate⟩

/-- **The image of a feed of segments.** -/
def mapSegments (voice : Voice α) (segments : Feed (Segment α)) : Feed (Segment α) :=
  segments.mapExcept voice.mapSegment

end Voice

end WhistledSpeech
