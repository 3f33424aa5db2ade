import WhistledSpeech.Authored.Field
import WhistledSpeech.Decimal.Written
import WhistledSpeech.Signal.Voice

/-!
# Authored voices

A voice as an author may write it: for each axis the centre, the shift and the scale of its map, and the
factor on times, which has to be positive. Everything may be left out. The numbers are numbers, not
formulas, but may be written as texts.
-/

namespace WhistledSpeech

namespace Authored

/-- A number: as it is, as a truth value, or written in a text. -/
def real? : Document → Option Float
  | .text written => Decimal.ofField? written.toList
  | value =>
    match value.number? with
    | some (.ok x) => some x
    | _ => none

end Authored

open Authored

namespace AxisMap

/-- The map of an axis that a value describes. -/
def ofDocument? : Document → Option (AxisMap Float) := ofObject? fun entries => do
  let center ← withDefault real? "center" 0 entries
  let shift ← withDefault real? "shift" 0 entries
  let scale ← withDefault real? "scale" 1 entries
  return ⟨center, shift, scale⟩

end AxisMap

namespace Voice

/-- A positive number. -/
def positive? (value : Document) : Option Float :=
  match real? value with
  | some x => if 0 < x then some x else none
  | none => none

/-- The voice that entries describe. -/
def ofEntries? (entries : Entries) : Option (Voice Float) := do
  let f ← optional AxisMap.ofDocument? "f" entries
  let a ← optional AxisMap.ofDocument? "a" entries
  let rate ← withDefault positive? "rate" 1 entries
  return ⟨f, a, rate⟩

/-- **The voice of a value.** -/
def ofDocument (value : Document) : Except Fault (Voice Float) :=
  match ofObject? ofEntries? value with
  | some voice => .ok voice
  | none => .error .invalidDocument

/-- The voice of two maps and a factor on times, which has to be positive, unless it leaves everything
as it is. -/
def ofMaps (f a : AxisMap Float) (rate : Float) : Except Fault (Option (Voice Float)) :=
  if 0 < rate then .ok (unlessIdentity ⟨some f, some a, rate⟩) else .error .invalidDocument

end Voice

end WhistledSpeech
