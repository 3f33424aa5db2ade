import WhistledSpeech.Feed
import WhistledSpeech.Formula.Field
import WhistledSpeech.Signal.Component

/-!
# Linking raw segments

In a raw segment a field is a number, a formula, or left out. What is left out is taken from the
segment before: `Links` holds the level and the phase each axis ended on, under the names `lf`, `la`,
`f_phi` and `a_phi` that formulas use. A missing component holds the level; a missing level is the
linking value of its axis, looked up like any other name, so that a constant of that name comes first.

`normalize` goes through raw segments with the links in hand. A segment whose time is not positive
makes no sound and is left out of the result, but what follows links to it all the same.
-/

namespace WhistledSpeech

open Arithmetic

/-- **What the next segment links to.** -/
structure Links (α : Type) where
  /-- The level the frequency ended on. -/
  f : α
  /-- The level the amplitude ended on. -/
  a : α
  /-- The phase of the frequency's angle at its end. -/
  fPhase : α
  /-- The phase of the amplitude's angle at its end. -/
  aPhase : α
  deriving Repr, DecidableEq

namespace Links

variable {α : Type}

/-- The links before the first segment: silence, and half a turn. -/
def initial [Arithmetic α] : Links α := ⟨nat 0, nat 0, pi, pi⟩

/-- The linking values under the names formulas use. -/
def lookup (links : Links α) (name : String) : Option α :=
  if name = "lf" then some links.f
  else if name = "la" then some links.a
  else if name = "f_phi" then some links.fPhase
  else if name = "a_phi" then some links.aPhase
  else none

/-- The links after two components. -/
def after [Arithmetic α] (f a : Component α) : Except Fault (Links α) := do
  let (fLevel, fPhase) ← f.terminal
  let (aLevel, aPhase) ← a.terminal
  return ⟨fLevel, aLevel, fPhase, aPhase⟩

end Links

/-- The two axes of a segment. -/
inductive SignalAxis where
  /-- Frequency. -/
  | frequency
  /-- Amplitude. -/
  | amplitude
  deriving Repr, DecidableEq

namespace SignalAxis

/-- The name of the linking value that stands for a missing level. -/
def level : SignalAxis → String
  | frequency => "lf"
  | amplitude => "la"

end SignalAxis

namespace Component

/-- The value of a field, or of what stands for it when it is left out. -/
def fieldValue (scope : Scope Float) (links : String → Option Float)
    (spec : List (String × Document)) (key : String) (fallback : Document) : Except Fault Float :=
  scope.evalField ((Document.find? key spec).getD fallback) links

/-- **Resolves a component** that is given by its fields, in the order in which their faults are met. -/
def ofFields (scope : Scope Float) (links : String → Option Float) (axis : SignalAxis)
    (spec : List (String × Document)) : Except Fault (Component Float) :=
  let level : Document := .text axis.level
  let value := fieldValue scope links spec
  let curve := (Document.find? "curve" spec).getD .null
  match (Document.find? "type" spec).getD .null with
  | .text "transition" => do
    let start ← value "sy" level
    let finish ← value "ey" level
    let curve ← TransitionCurve.ofDocument curve
    let startClip ← value "sclip" (.int 0)
    let endClip ← value "eclip" (.int 0)
    return transition ⟨start, finish, curve, startClip, endClip⟩
  | .text "contour" => do
    let y ← value "y" level
    let excursion ← value "a" (.int 0)
    let clip ← value "clip" (.int 0)
    return contour ⟨y, excursion, if curve.isEmptyValue then .text "sine" else curve, clip⟩
  | .text "constant" => do
    let y ← value "y" level
    return constant y
  | kind => .error (.unknownComponent kind)

/-- **Resolves a component.** No component at all holds the level of its axis. -/
def resolve (scope : Scope Float) (links : String → Option Float) (axis : SignalAxis) :
    Document → Except Fault (Component Float)
  | .null =>
    match links axis.level with
    | some level => .ok (constant level)
    | none => .error .missingKey
  | .object spec => ofFields scope links axis spec
  | _ => .error .wrongShape

end Component

namespace Segment

/-- Resolves one raw segment with the links before it. -/
def resolve (scope : Scope Float) (links : Links Float) :
    Document → Except Fault (Segment Float)
  | .object fields => do
    let f ← Component.resolve scope links.lookup .frequency ((Document.find? "f" fields).getD .null)
    let a ← Component.resolve scope links.lookup .amplitude ((Document.find? "a" fields).getD .null)
    let run ← scope.evalField ((Document.find? "run" fields).getD (.int 0)) links.lookup
    return ⟨f, a, run⟩
  | _ => .error .wrongShape

/-- Whether a segment makes a sound. -/
def sounds {α : Type} [Arithmetic α] (segment : Segment α) : Bool := lt (nat 0) segment.run

/-- **Resolves raw segments** one after the other, each linked to the one before. -/
def resolveAll (scope : Scope Float) (links : Links Float) :
    List Document → Feed (Segment Float)
  | [] => Feed.ofList []
  | raw :: rest =>
    match resolve scope links raw with
    | .error fault => Feed.broken fault
    | .ok segment =>
      match Links.after segment.f segment.a with
      | .error fault => Feed.broken fault
      | .ok links' => Feed.cons segment (resolveAll scope links' rest)

/-- **The sounding segments** of a feed of raw segments. -/
def normalize (scope : Scope Float) (links : Links Float) (source : Feed Document) :
    Feed (Segment Float) :=
  let resolved := Feed.append (resolveAll scope links source.items) ⟨[], source.fault⟩
  ⟨resolved.items.filter sounds, resolved.fault⟩

end Segment

end WhistledSpeech
