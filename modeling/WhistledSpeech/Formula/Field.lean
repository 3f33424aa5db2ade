import WhistledSpeech.Document.Access
import WhistledSpeech.Formula.Scope

/-!
# Numeric fields of a document

Wherever a document takes a number it also takes a formula. A number stands for itself, and a truth
value for one or zero; a text is read as a formula; nothing else has a value. A constant may be
defined by any value at all: what is not a number is read as a formula in the form it has in a
message, which is a formula only if that form happens to be one.
-/

namespace WhistledSpeech

namespace Definition

/-- The definition a value of a document gives. -/
def ofDocument (given : Document) : Except Fault (Definition Float) :=
  match given.number? with
  | some number => number.map .value
  | none => (Formula.parse given.plain).map .formula

/-- The definitions of the entries of an object, up to the first that gives none. -/
def ofEntries : List (String × Document) → Except Fault (List (String × Definition Float))
  | [] => .ok []
  | (name, given) :: rest => do
    let definition ← ofDocument given
    let definitions ← ofEntries rest
    return (name, definition) :: definitions

end Definition

namespace Scope

/-- **The value of a field**: a number, or a formula evaluated with the bindings. -/
def evalField (scope : Scope Float) (value : Document) (bindings : String → Option Float) :
    Except Fault Float :=
  match value.number? with
  | some number => number
  | none =>
    match value with
    | .text formula => scope.evalText formula bindings
    | _ => .error (.notAFormula value)

/-- **The scope of the constants of a document.** -/
def ofDocument (constants : Document) : Except Fault (Scope Float) := do
  let entries ← constants.optionalEntries
  let definitions ← Definition.ofEntries entries
  ofDefinitions definitions

end Scope

end WhistledSpeech
