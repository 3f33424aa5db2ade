import WhistledSpeech.Fault
import WhistledSpeech.Formula.Parse

/-!
# Constants and the formulas over them

A `Scope` is a table of resolved constants. A formula is evaluated in a scope and with *bindings*,
the linking values of the moment; a name is looked up among the constants first, so a constant hides
a binding of the same name.

`Scope.ofDefinitions` builds the table. The definitions that are numbers are entered at once; then,
in rounds, every formula whose names all have a value at the start of the round is evaluated, in the
order of the definitions. When a round finds none and some are left, those are what cannot be
resolved. The two built-in constants are there from the start and may be redefined.
-/

namespace WhistledSpeech

/-- **A parsed formula**: its text and its tree. -/
structure Formula where
  /-- The text, which messages quote. -/
  text : String
  /-- The tree. -/
  tree : Expr
  deriving Repr, DecidableEq

namespace Formula

/-- Parses a formula. -/
def parse (text : String) : Except Fault Formula :=
  match Expr.parse text with
  | .ok tree => .ok ⟨text, tree⟩
  | .error cause => .error (.malformedFormula text cause)

/-- The names in a formula. -/
def names (formula : Formula) : List String := formula.tree.names

/-- **The value of a formula**, given what names stand for. -/
def eval {α : Type} [Arithmetic α] (formula : Formula) (lookup : String → Option α) :
    Except Fault α :=
  match formula.tree.eval lookup with
  | .ok x => .ok x
  | .error (.unbound name) => .error (.unknownConstant name formula.text)
  | .error (.arithmetic cause) => .error (.undefinedFormula formula.text cause)

end Formula

/-- A set of names as a list: each once, in the order of their characters. -/
def sortedNames (names : List String) : List String :=
  names.eraseDups.mergeSort (fun a b => decide (a ≤ b))

/-- What defines a constant. -/
inductive Definition (α : Type) where
  /-- A number. -/
  | value (x : α)
  /-- A formula over the other constants. -/
  | formula (f : Formula)

/-- **Resolved constants**: the value of each name, each name once. -/
structure Scope (α : Type) where
  /-- The entries, in the order in which they were resolved. -/
  entries : List (String × α)

namespace Scope

variable {α : Type}

/-- The value of a constant. -/
def get? (scope : Scope α) (name : String) : Option α := Document.find? name scope.entries

/-- Whether a name is a constant. -/
def contains (scope : Scope α) (name : String) : Bool := (scope.get? name).isSome

/-- Sets a constant. -/
def set (scope : Scope α) (name : String) (x : α) : Scope α :=
  ⟨Document.setEntry name x scope.entries⟩

@[simp] theorem get?_set_self (scope : Scope α) (name : String) (x : α) :
    (scope.set name x).get? name = some x :=
  Document.find?_setEntry_self name x scope.entries

theorem get?_set_of_ne (scope : Scope α) {name other : String} (h : other ≠ name) (x : α) :
    (scope.set name x).get? other = scope.get? other :=
  Document.find?_setEntry_of_ne h x scope.entries

/-- The constants every scope starts from. -/
def builtIn [Arithmetic α] : Scope α :=
  ⟨[("pi", Arithmetic.pi), ("e", Arithmetic.e)]⟩

/-- **What a name stands for**: the constant of that name, and only without one the binding. -/
def lookup (scope : Scope α) (bindings : String → Option α) (name : String) : Option α :=
  match scope.get? name with
  | some x => some x
  | none => bindings name

/-- No bindings at all. -/
def unbound : String → Option α := fun _ => none

/-- The value of a formula in a scope. -/
def eval [Arithmetic α] (scope : Scope α) (formula : Formula) (bindings : String → Option α) :
    Except Fault α :=
  formula.eval (scope.lookup bindings)

/-- The value of a text read as a formula. -/
def evalText [Arithmetic α] (scope : Scope α) (text : String) (bindings : String → Option α) :
    Except Fault α :=
  match Formula.parse text with
  | .ok formula => scope.eval formula bindings
  | .error fault => .error fault

/-! ## Curves of the angle `t` -/

/-- The names of a formula that are neither the angle nor a constant. -/
def strayNames (scope : Scope α) (formula : Formula) : List String :=
  sortedNames (formula.names.filter fun name => name != "t" && !scope.contains name)

/-- **A formula as a curve**: it may name the angle `t` and the constants, and nothing else. -/
def asCurve (scope : Scope α) (formula : Formula) : Except Fault Formula :=
  let stray := scope.strayNames formula
  if stray.isEmpty then .ok formula else .error (.strayNames formula.text stray)

/-- Reads a text as the formula of a curve. -/
def compile (scope : Scope α) (text : String) : Except Fault Formula :=
  match Formula.parse text with
  | .ok formula => scope.asCurve formula
  | .error fault => .error fault

/-- The value of a formula taken as a curve at an angle; a constant named `t` hides the angle. -/
def curveAt [Arithmetic α] (scope : Scope α) (formula : Formula) (t : α) : Except Fault α :=
  formula.eval (scope.lookup fun _ => some t)

/-! ## Resolving definitions -/

/-- A formula still to be resolved, under the name it defines. -/
abbrev Pending := List (String × Formula)

/-- Whether every name of a formula has a value. -/
def isReady (scope : Scope α) (entry : String × Formula) : Bool :=
  entry.2.names.all scope.contains

/-- Evaluates entries one after the other, each in the scope that has the ones before it. -/
def resolveRound [Arithmetic α] (scope : Scope α) : Pending → Except Fault (Scope α)
  | [] => .ok scope
  | (name, formula) :: rest =>
    match scope.eval formula unbound with
    | .ok x => resolveRound (scope.set name x) rest
    | .error fault => .error fault

/-- The entries a round evaluates. -/
def ready (scope : Scope α) (pending : Pending) : Pending :=
  pending.filter scope.isReady

/-- The entries a round leaves. -/
def waiting (scope : Scope α) (pending : Pending) : Pending :=
  pending.filter fun entry => !scope.isReady entry

/-- Where some entry is ready, fewer are left for the next round. -/
theorem length_waiting_lt {scope : Scope α} {pending : Pending}
    (h : ¬(scope.ready pending).isEmpty) : (scope.waiting pending).length < pending.length := by
  induction pending with
  | nil => simp [ready] at h
  | cons entry rest ih =>
    by_cases hr : scope.isReady entry = true
    · have := List.length_filter_le (fun entry => !scope.isReady entry) rest
      simp [waiting, hr]; omega
    · have hrest : ¬(scope.ready rest).isEmpty := by
        simpa [ready, List.filter_cons, hr] using h
      have := ih hrest
      simp only [waiting] at this
      simp [waiting, hr, this]

/-- **Resolves formulas in rounds.** A round that finds no entry ready, with some left, reports those
left, in the order of their names. -/
def resolve [Arithmetic α] (scope : Scope α) (pending : Pending) : Except Fault (Scope α) :=
  if pending.isEmpty then .ok scope
  else if h : (scope.ready pending).isEmpty then
    let left := pending.mergeSort fun a b => decide (a.1 ≤ b.1)
    .error (.unresolvableConstants (left.map fun entry => (entry.1, entry.2.text)))
  else
    have := length_waiting_lt h
    match resolveRound scope (scope.ready pending) with
    | .error fault => .error fault
    | .ok scope' => resolve scope' (scope.waiting pending)
termination_by pending.length

/-- The numbers among definitions, entered into a scope. -/
def enterValues (scope : Scope α) (definitions : List (String × Definition α)) : Scope α :=
  definitions.foldl
    (fun scope entry => match entry.2 with
      | .value x => scope.set entry.1 x
      | .formula _ => scope)
    scope

/-- The formulas among definitions. -/
def pendingOf (definitions : List (String × Definition α)) : Pending :=
  definitions.filterMap fun entry => match entry.2 with
    | .value _ => none
    | .formula f => some (entry.1, f)

/-- **The scope of a list of definitions.** -/
def ofDefinitions [Arithmetic α] (definitions : List (String × Definition α)) :
    Except Fault (Scope α) :=
  resolve (enterValues builtIn definitions) (pendingOf definitions)

end Scope

end WhistledSpeech
