import WhistledSpeech.Formula.Arithmetic

/-!
# Expressions

The tree of a formula: numbers, names, the unary minus, the five binary operators and three
functions. `eval` reads a tree as a number, given what its names stand for; it works from left to
right and stops at the first operand that has no value. `names` lists the names it may ask for.
-/

namespace WhistledSpeech

/-- A binary operator. -/
inductive BinaryOperator where
  /-- Sum. -/
  | add
  /-- Difference. -/
  | sub
  /-- Product. -/
  | mul
  /-- Quotient. -/
  | div
  /-- Power. -/
  | pow
  deriving Repr, DecidableEq

/-- A function of one argument. -/
inductive UnaryFunction where
  /-- Sine. -/
  | sin
  /-- Cosine. -/
  | cos
  /-- Natural logarithm. -/
  | log
  deriving Repr, DecidableEq

/-- **The tree of a formula.** -/
inductive Expr where
  /-- The number `coefficient / 10 ^ places`. -/
  | number (coefficient places : Nat)
  /-- A name, to be looked up. -/
  | name (n : String)
  /-- The opposite of an operand. -/
  | neg (operand : Expr)
  /-- A binary operator and its operands. -/
  | binary (op : BinaryOperator) (left right : Expr)
  /-- A function and its argument. -/
  | apply (f : UnaryFunction) (argument : Expr)
  deriving Repr, DecidableEq

/-- Why an expression has no value. -/
inductive EvalFault where
  /-- A name stands for nothing. -/
  | unbound (name : String)
  /-- An operation has no value. -/
  | arithmetic (cause : ArithmeticFault)
  deriving Repr, DecidableEq

namespace BinaryOperator

open Arithmetic

/-- The value of an operator. Sums, differences and products always have one. -/
def eval {α : Type} [Arithmetic α] : BinaryOperator → α → α → Except ArithmeticFault α
  | add, x, y => .ok (x + y)
  | sub, x, y => .ok (x - y)
  | mul, x, y => .ok (x * y)
  | div, x, y => divide x y
  | pow, x, y => power x y

/-- How tightly an operator binds. The unary minus stands between a product and a power. -/
def precedence : BinaryOperator → Nat
  | add | sub => 1
  | mul | div => 2
  | pow => 4

/-- The least precedence of the operators in the right operand: powers group to the right, all
others to the left. -/
def rightPrecedence : BinaryOperator → Nat
  | pow => 4
  | op => op.precedence + 1

end BinaryOperator

namespace UnaryFunction

open Arithmetic

/-- The value of a function. -/
def eval {α : Type} [Arithmetic α] : UnaryFunction → α → Except ArithmeticFault α
  | sin, x => sine x
  | cos, x => cosine x
  | log, x => logarithm x

/-- The function with a given name, if there is one. -/
def ofName? (name : List Char) : Option UnaryFunction :=
  if name = ['s', 'i', 'n'] then some sin
  else if name = ['c', 'o', 's'] then some cos
  else if name = ['l', 'o', 'g'] then some log
  else none

end UnaryFunction

namespace Expr

/-- Names an arithmetic fault as a fault of the whole expression. -/
def lift {α : Type} : Except ArithmeticFault α → Except EvalFault α
  | .ok x => .ok x
  | .error cause => .error (.arithmetic cause)

/-- **The value of an expression**, its operands taken from left to right. -/
def eval {α : Type} [Arithmetic α] (lookup : String → Option α) : Expr → Except EvalFault α
  | number coefficient places => .ok (Arithmetic.ofDecimal coefficient places)
  | name n =>
    match lookup n with
    | some x => .ok x
    | none => .error (.unbound n)
  | neg operand => do
    let x ← eval lookup operand
    return -x
  | binary op left right => do
    let x ← eval lookup left
    let y ← eval lookup right
    lift (op.eval x y)
  | apply f argument => do
    let x ← eval lookup argument
    lift (f.eval x)

/-- **The names of an expression**, each as often as it occurs, from left to right. -/
def names : Expr → List String
  | number _ _ => []
  | name n => [n]
  | neg operand => names operand
  | binary _ left right => names left ++ names right
  | apply _ argument => names argument

end Expr

end WhistledSpeech
