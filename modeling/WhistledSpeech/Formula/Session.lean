import WhistledSpeech.Formula.Field

/-!
# A scope that remembers what it has parsed

A model evaluates the same few formulas for every segment, so a session keeps each formula it has
parsed under its text. Every request gives its answer together with the session after it: the scope
never changes, and what is remembered only grows, by formulas that parse.
-/

namespace WhistledSpeech

/-- **A scope and the formulas parsed so far**, each under its text. -/
structure Session (α : Type) where
  /-- The constants. -/
  scope : Scope α
  /-- The formulas parsed so far. -/
  remembered : List (String × Formula)

namespace Session

variable {α : Type}

/-- A session that has parsed nothing yet. -/
def fresh (scope : Scope α) : Session α := ⟨scope, []⟩

/-- Remembers a formula under its text. -/
def remember (session : Session α) (formula : Formula) : Session α :=
  { session with remembered := Document.setEntry formula.text formula session.remembered }

/-- **Parses a formula**, or recalls it. A text that does not parse leaves nothing behind. -/
def parse (session : Session α) (text : String) : Except Fault Formula × Session α :=
  match Document.find? text session.remembered with
  | some formula => (.ok formula, session)
  | none =>
    match Formula.parse text with
    | .ok formula => (.ok formula, session.remember formula)
    | .error fault => (.error fault, session)

/-- Evaluates a text as a formula. -/
def evalText [Arithmetic α] (session : Session α) (text : String) (bindings : String → Option α) :
    Except Fault α × Session α :=
  match session.parse text with
  | (.ok formula, after) => (session.scope.eval formula bindings, after)
  | (.error fault, after) => (.error fault, after)

/-- Takes a text as the formula of a curve. -/
def compile (session : Session α) (text : String) : Except Fault Formula × Session α :=
  match session.parse text with
  | (.ok formula, after) => (session.scope.asCurve formula, after)
  | (.error fault, after) => (.error fault, after)

/-- Evaluates a field of a document. -/
def evalField (session : Session Float) (value : Document) (bindings : String → Option Float) :
    Except Fault Float × Session Float :=
  match value with
  | .text formula => session.evalText formula bindings
  | _ => (session.scope.evalField value bindings, session)

/-- **Starts a session** from definitions. Their formulas are the first it remembers. -/
def ofDefinitions [Arithmetic α] (definitions : List (String × Definition α)) :
    Except Fault (Session α) := do
  let scope ← Scope.ofDefinitions definitions
  return (Scope.pendingOf definitions).foldl (fun session entry => session.remember entry.2)
    (fresh scope)

/-- Starts a session from the constants of a document. -/
def ofDocument (constants : Document) : Except Fault (Session Float) := do
  let entries ← constants.optionalEntries
  let definitions ← Definition.ofEntries entries
  ofDefinitions definitions

end Session

end WhistledSpeech
