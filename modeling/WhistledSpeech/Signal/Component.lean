import WhistledSpeech.Fault
import WhistledSpeech.Formula.Arithmetic

/-!
# Signal components and segments

A segment lasts for a time and has two components, one for the frequency and one for the amplitude of
the whistle. A component says how its level moves: a *transition* goes from one level to another, a
*contour* leaves its level and comes back, a *constant* stays. All three are written over any numbers.

`terminal` is what a component hands on: the level it ends on and the phase of its angle there, the
values the next segment links to.
-/

namespace WhistledSpeech

open Arithmetic

/-- **The curve of a transition**: one of the named ones, or a formula of the angle `t`. -/
inductive TransitionCurve where
  /-- A curve with a name, known or not. -/
  | named (name : String)
  /-- A formula of the angle. -/
  | formula (text : String)
  deriving Repr, DecidableEq

/-- **A move between two levels.** The clips cut the ends off the angle's domain, for a steeper entry
or exit. -/
structure Transition (α : Type) where
  /-- The level at the start. -/
  start : α
  /-- The level at the end. -/
  finish : α
  /-- How the level moves. -/
  curve : TransitionCurve
  /-- How much of the domain is cut off at the start. -/
  startClip : α
  /-- How much of the domain is cut off at the end. -/
  endClip : α
  deriving Repr, DecidableEq

/-- **An excursion** from a level and back. -/
structure Contour (α : Type) where
  /-- The level at both ends. -/
  level : α
  /-- How far the middle is from the level. -/
  excursion : α
  /-- The name of the curve. It is whatever the document gives, since a contour that does not move is
  never asked for its curve. -/
  curve : Document
  /-- How much of the domain is cut off at either end. -/
  clip : α

/-- **A signal component.** -/
inductive Component (α : Type) where
  /-- A move between two levels. -/
  | transition (move : Transition α)
  /-- An excursion and back. -/
  | contour (excursion : Contour α)
  /-- A level held. -/
  | constant (level : α)
  /-- Something in the place of a component that is none. -/
  | foreign (label : String)

/-- **A segment**: a component for the frequency, one for the amplitude, and a time in milliseconds. -/
structure Segment (α : Type) where
  /-- How the frequency moves. -/
  f : Component α
  /-- How the amplitude moves. -/
  a : Component α
  /-- How long the segment lasts. -/
  run : α

namespace Component

variable {α : Type} [Arithmetic α]

/-- A full turn. -/
def fullTurn : α := nat 2 * pi

/-- **What a component ends on**: its level and the phase of its angle. A contour is back at the level
it left. -/
def terminal : Component α → Except Fault (α × α)
  | transition move => .ok (move.finish, pi - move.endClip)
  | contour excursion => .ok (excursion.level, fullTurn - excursion.clip)
  | constant level => .ok (level, fullTurn)
  | foreign _ => .error .wrongType

end Component

namespace TransitionCurve

/-- How a document marks a formula. -/
def mark : Char := '='

/-- **Reads the curve of a transition**: without one it is a sine, after the mark it is a formula, and
any other text is a name. -/
def ofDocument : Document → Except Fault TransitionCurve
  | .null => .ok (named "sine")
  | .text s =>
    match s.toList with
    | c :: rest => .ok (if c = mark then formula (String.ofList (Text.strip rest)) else named s)
    | [] => .ok (named s)
  | _ => .error .wrongShape

/-- How a document writes the curve. -/
def text : TransitionCurve → String
  | named name => name
  | formula text => String.ofList (mark :: text.toList)

/-- How a message names the curve. -/
def shown : TransitionCurve → String
  | named name => Text.quoted name
  | formula text => "\"=" ++ text ++ "\""

end TransitionCurve

/-! ## Resolved segments as documents -/

namespace Component

/-- **A component as a document**, every field written out. -/
def toDocument : Component Float → Except Fault Document
  | transition move => .ok <| .object
      [("type", .text "transition"), ("curve", .text move.curve.text), ("sy", .float move.start),
        ("ey", .float move.finish), ("sclip", .float move.startClip), ("eclip", .float move.endClip)]
  | contour excursion => .ok <| .object
      [("type", .text "contour"), ("curve", excursion.curve), ("y", .float excursion.level),
        ("a", .float excursion.excursion), ("clip", .float excursion.clip)]
  | constant level => .ok <| .object [("type", .text "constant"), ("y", .float level)]
  | foreign _ => .error .wrongShape

end Component

namespace Segment

/-- **A segment as a document.** Normalizing it again gives the segment back. -/
def toDocument (segment : Segment Float) : Except Fault Document := do
  let f ← segment.f.toDocument
  let a ← segment.a.toDocument
  return .object [("f", f), ("a", a), ("run", .float segment.run)]

end Segment

end WhistledSpeech
