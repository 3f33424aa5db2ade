import Mathlib
import WhistledSpeech.Formula.Parse

/-!
# The grammar of formulas

A formula is a sum of products of signed powers:

* a *sum* is a product, and further products each behind a `+` or a `-`;
* a *product* is a signed operand, and further ones each behind a `*` or a `/`;
* a *signed* operand is a power, or a signed operand behind a `-`;
* a *power* is a primary, or a primary raised to a signed operand;
* a *primary* is a number, a name, a function of a sum in parentheses, or a sum in parentheses.

Each of these is a type of derivation trees here, whose leaves are the tokens themselves. A tree is
read in three ways. `tokens` writes its leaves down from left to right. `value` computes it, from
left to right and up to the first operand or operation that has no value: sums and products go along
their tails with the value so far, so they group to the left, and a power asks for its exponent
before it raises, so powers group to the right. `expr` is the expression it stands for, and
`SumTree.eval_expr` says that evaluating that expression computes the tree.

The trees know nothing of precedences, and the reading of `Formula.Parse` knows of nothing else.
-/

namespace WhistledSpeech

namespace BinaryOperator

/-- The character an operator is written with. -/
def symbol : BinaryOperator → Char
  | add => '+'
  | sub => '-'
  | mul => '*'
  | div => '/'
  | pow => '^'

theorem symbol_injective : Function.Injective symbol := by
  intro op op' h
  cases op <;> cases op' <;> first | rfl | exact absurd h (by decide)

/-- **A token stands for an operator** exactly if it is an operator in kind and written as that
one. -/
theorem ofToken?_eq_some_iff {token : Token} {op : BinaryOperator} :
    ofToken? token = some op ↔ token.kind = .operator ∧ token.lexeme = [op.symbol] := by
  unfold ofToken?
  by_cases hkind : token.kind = .operator
  · cases op <;> simp only [hkind, symbol, ne_eq, not_true_eq_false, if_false, true_and] <;>
      split_ifs <;> simp_all
  · simp [hkind]

/-- The operators of sums. -/
def Additive (op : BinaryOperator) : Prop := op = add ∨ op = sub

/-- The operators of products. -/
def Multiplicative (op : BinaryOperator) : Prop := op = mul ∨ op = div

/-- The operator of powers. -/
def Exponential (op : BinaryOperator) : Prop := op = pow

end BinaryOperator

namespace UnaryFunction

/-- The name of a function. -/
def lexeme : UnaryFunction → List Char
  | sin => ['s', 'i', 'n']
  | cos => ['c', 'o', 's']
  | log => ['l', 'o', 'g']

/-- Only its own name names a function. -/
theorem ofName?_eq_some_iff {name : List Char} {f : UnaryFunction} :
    ofName? name = some f ↔ name = f.lexeme := by
  unfold ofName?
  cases f <;> simp only [lexeme] <;> split_ifs <;> simp_all

theorem ofName?_eq_none_iff {name : List Char} :
    ofName? name = none ↔ ∀ f : UnaryFunction, name ≠ f.lexeme := by
  constructor
  · intro h f hf
    rw [ofName?_eq_some_iff.mpr hf] at h
    exact absurd h (by simp)
  · intro h
    cases hf : ofName? name with
    | none => rfl
    | some f => exact absurd (ofName?_eq_some_iff.mp hf) (h f)

end UnaryFunction

/-! ## The tokens at the leaves

A token written `-` counts as a minus before it counts as anything else, so a number or a name is a
token of that kind that is not written so. No text is cut into such a number or name, and the
grammar need not rely on it. -/

/-- A token written as one given character. -/
abbrev WrittenToken (c : Char) := { token : Token // token.lexeme = [c] }

/-- The parenthesis that opens a group. -/
abbrev GroupToken := { token : Token // token.kind = .operator ∧ token.lexeme = ['('] }

/-- A number. -/
abbrev NumberToken := { token : Token // token.kind = .number ∧ token.lexeme ≠ ['-'] }

/-- A name that is not the name of a function. -/
abbrev NameToken :=
  { token : Token //
    token.kind = .name ∧ token.lexeme ≠ ['-'] ∧ ∀ f : UnaryFunction, token.lexeme ≠ f.lexeme }

/-- The name of a function. -/
structure FunctionToken where
  /-- The token. -/
  token : Token
  /-- The function it names. -/
  function : UnaryFunction
  /-- It is a name. -/
  kind_eq : token.kind = .name
  /-- It is the name of that function. -/
  lexeme_eq : token.lexeme = function.lexeme

/-- **An operator of a family.** -/
structure OperatorToken (family : BinaryOperator → Prop) where
  /-- The token. -/
  token : Token
  /-- The operator it stands for. -/
  operator : BinaryOperator
  /-- The operator belongs to the family. -/
  mem : family operator
  /-- The token stands for that operator. -/
  stands : token.kind = .operator ∧ token.lexeme = [operator.symbol]

/-- A token names one function at most. -/
theorem FunctionToken.ext {f g : FunctionToken} (h : f.token = g.token) : f = g := by
  obtain ⟨token, function, _, hf⟩ := f
  obtain ⟨_, function', _, hg⟩ := g
  cases h
  have : some function = some function' := by
    rw [← UnaryFunction.ofName?_eq_some_iff.mpr hf, ← UnaryFunction.ofName?_eq_some_iff.mpr hg]
  cases this
  rfl

/-- A token stands for one operator at most. -/
theorem OperatorToken.ext {family : BinaryOperator → Prop} {a b : OperatorToken family}
    (h : a.token = b.token) : a = b := by
  obtain ⟨token, op, _, _, ha⟩ := a
  obtain ⟨_, op', _, _, hb⟩ := b
  cases h
  have : op = op' := BinaryOperator.symbol_injective (by simpa [ha] using hb)
  cases this
  rfl

/-! ## Derivation trees -/

mutual

/-- **A sum**: a product, and what is added to it. -/
inductive SumTree where
  /-- The first product, and the others. -/
  | of (first : ProductTree) (more : SumTail)

/-- The products of a sum after its first, each behind its operator. -/
inductive SumTail where
  /-- No more. -/
  | done
  /-- One more, and the others. -/
  | next (op : OperatorToken BinaryOperator.Additive) (operand : ProductTree) (more : SumTail)

/-- **A product**: a signed operand, and what it is multiplied with. -/
inductive ProductTree where
  /-- The first operand, and the others. -/
  | of (first : SignedTree) (more : ProductTail)

/-- The operands of a product after its first, each behind its operator. -/
inductive ProductTail where
  /-- No more. -/
  | done
  /-- One more, and the others. -/
  | next (op : OperatorToken BinaryOperator.Multiplicative) (operand : SignedTree)
    (more : ProductTail)

/-- **A signed operand**: a power behind any number of minuses. -/
inductive SignedTree where
  /-- The opposite of an operand. -/
  | neg (minus : WrittenToken '-') (operand : SignedTree)
  /-- A power. -/
  | power (p : PowerTree)

/-- **A power.** -/
inductive PowerTree where
  /-- A primary by itself. -/
  | base (p : PrimaryTree)
  /-- A primary raised to an exponent, which may be signed and a power in turn. -/
  | raised (p : PrimaryTree) (caret : OperatorToken BinaryOperator.Exponential)
    (exponent : SignedTree)

/-- **A primary.** -/
inductive PrimaryTree where
  /-- A number. -/
  | number (token : NumberToken)
  /-- A name. -/
  | name (token : NameToken)
  /-- A function of a sum. -/
  | apply (f : FunctionToken) (left : WrittenToken '(') (argument : SumTree)
    (right : WrittenToken ')')
  /-- A sum in parentheses. -/
  | group (left : GroupToken) (inner : SumTree) (right : WrittenToken ')')

end

/-! ## The tokens of a tree -/

mutual

/-- **The tokens of a sum**, from left to right. -/
def SumTree.tokens : SumTree → List Token
  | .of first more => first.tokens ++ more.tokens

/-- The tokens of the rest of a sum. -/
def SumTail.tokens : SumTail → List Token
  | .done => []
  | .next op operand more => op.token :: (operand.tokens ++ more.tokens)

/-- The tokens of a product. -/
def ProductTree.tokens : ProductTree → List Token
  | .of first more => first.tokens ++ more.tokens

/-- The tokens of the rest of a product. -/
def ProductTail.tokens : ProductTail → List Token
  | .done => []
  | .next op operand more => op.token :: (operand.tokens ++ more.tokens)

/-- The tokens of a signed operand. -/
def SignedTree.tokens : SignedTree → List Token
  | .neg minus operand => minus.val :: operand.tokens
  | .power p => p.tokens

/-- The tokens of a power. -/
def PowerTree.tokens : PowerTree → List Token
  | .base p => p.tokens
  | .raised p caret exponent => p.tokens ++ caret.token :: exponent.tokens

/-- The tokens of a primary. -/
def PrimaryTree.tokens : PrimaryTree → List Token
  | .number token => [token.val]
  | .name token => [token.val]
  | .apply f left argument right => f.token :: left.val :: (argument.tokens ++ [right.val])
  | .group left inner right => left.val :: (inner.tokens ++ [right.val])

end

/-! ## The value of a tree -/

namespace NumberToken

open Text

/-- The digits of a number as one natural number, the point left out. -/
def coefficient (token : NumberToken) : Nat :=
  (token.val.lexeme.filter isDigit).foldl Expr.addDigit 0

/-- How many digits of a number stand after its point. -/
def places (token : NumberToken) : Nat :=
  ((token.val.lexeme.dropWhile isDigit).drop 1).length

end NumberToken

section Value

variable {α : Type} [Arithmetic α]

/-- What a name stands for; a name that stands for nothing is a fault. -/
def NameToken.value (lookup : String → Option α) (token : NameToken) : Except EvalFault α :=
  match lookup (String.ofList token.val.lexeme) with
  | some x => .ok x
  | none => .error (.unbound (String.ofList token.val.lexeme))

/-- The value of an operator of a tree. -/
def OperatorToken.value {family : BinaryOperator → Prop} (op : OperatorToken family) (x y : α) :
    Except EvalFault α :=
  (op.operator.eval x y).mapError .arithmetic

mutual

/-- **The value of a sum**: its products are added up from left to right. -/
def SumTree.value (lookup : String → Option α) : SumTree → Except EvalFault α
  | .of first more => first.value lookup >>= more.value lookup

/-- The value of a sum, given that of the products before. -/
def SumTail.value (lookup : String → Option α) : SumTail → α → Except EvalFault α
  | .done, x => .ok x
  | .next op operand more, x => do
    let y ← operand.value lookup
    let z ← op.value x y
    more.value lookup z

/-- The value of a product: its operands are multiplied from left to right. -/
def ProductTree.value (lookup : String → Option α) : ProductTree → Except EvalFault α
  | .of first more => first.value lookup >>= more.value lookup

/-- The value of a product, given that of the operands before. -/
def ProductTail.value (lookup : String → Option α) : ProductTail → α → Except EvalFault α
  | .done, x => .ok x
  | .next op operand more, x => do
    let y ← operand.value lookup
    let z ← op.value x y
    more.value lookup z

/-- The value of a signed operand: the minus is taken of the whole operand behind it. -/
def SignedTree.value (lookup : String → Option α) : SignedTree → Except EvalFault α
  | .neg _ operand => do
    let x ← operand.value lookup
    return -x
  | .power p => p.value lookup

/-- The value of a power: the base, then the exponent, then the power of the two. -/
def PowerTree.value (lookup : String → Option α) : PowerTree → Except EvalFault α
  | .base p => p.value lookup
  | .raised p caret exponent => do
    let x ← p.value lookup
    let y ← exponent.value lookup
    caret.value x y

/-- The value of a primary. -/
def PrimaryTree.value (lookup : String → Option α) : PrimaryTree → Except EvalFault α
  | .number token => .ok (Arithmetic.ofDecimal token.coefficient token.places)
  | .name token => token.value lookup
  | .apply f _ argument _ => do
    let x ← argument.value lookup
    (f.function.eval x).mapError .arithmetic
  | .group _ inner _ => inner.value lookup

end

end Value

/-! ## The expression of a tree -/

mutual

/-- **The expression a sum stands for.** -/
def SumTree.expr : SumTree → Expr
  | .of first more => more.onto first.expr

/-- The expression of a sum, given that of the products before. -/
def SumTail.onto : SumTail → Expr → Expr
  | .done, left => left
  | .next op operand more, left => more.onto (.binary op.operator left operand.expr)

/-- The expression of a product. -/
def ProductTree.expr : ProductTree → Expr
  | .of first more => more.onto first.expr

/-- The expression of a product, given that of the operands before. -/
def ProductTail.onto : ProductTail → Expr → Expr
  | .done, left => left
  | .next op operand more, left => more.onto (.binary op.operator left operand.expr)

/-- The expression of a signed operand. -/
def SignedTree.expr : SignedTree → Expr
  | .neg _ operand => .neg operand.expr
  | .power p => p.expr

/-- The expression of a power. -/
def PowerTree.expr : PowerTree → Expr
  | .base p => p.expr
  | .raised p caret exponent => .binary caret.operator p.expr exponent.expr

/-- The expression of a primary. -/
def PrimaryTree.expr : PrimaryTree → Expr
  | .number token => Expr.ofDigits token.val.lexeme
  | .name token => .name (String.ofList token.val.lexeme)
  | .apply f _ argument _ => .apply f.function argument.expr
  | .group _ inner _ => inner.expr

end

section Evaluation

variable {α : Type} [Arithmetic α] (lookup : String → Option α)

theorem Expr.eval_binary (op : BinaryOperator) (left right : Expr) :
    (Expr.binary op left right).eval lookup
      = (left.eval lookup >>= fun x => right.eval lookup >>= fun y =>
          (op.eval x y).mapError .arithmetic) := by
  rw [Expr.eval]
  refine congrArg (left.eval lookup >>= ·) (funext fun x => ?_)
  refine congrArg (right.eval lookup >>= ·) (funext fun y => ?_)
  cases op.eval x y <;> rfl

mutual

/-- **Evaluating the expression of a sum computes the sum.** The induction goes along the tree; over
the tail of a sum or a product the expression built so far is arbitrary. -/
theorem SumTree.eval_expr (tree : SumTree) : tree.expr.eval lookup = tree.value lookup := by
  cases tree with
  | of first more =>
    rw [SumTree.expr, SumTree.value, SumTail.eval_onto more, ProductTree.eval_expr first]

theorem SumTail.eval_onto (tail : SumTail) (left : Expr) :
    (tail.onto left).eval lookup = left.eval lookup >>= tail.value lookup := by
  cases tail with
  | done =>
    rw [SumTail.onto]
    exact (bind_pure _).symm
  | next op operand more =>
    rw [SumTail.onto, SumTail.eval_onto more, Expr.eval_binary, ProductTree.eval_expr operand]
    simp only [bind_assoc]
    rfl

theorem ProductTree.eval_expr (tree : ProductTree) :
    tree.expr.eval lookup = tree.value lookup := by
  cases tree with
  | of first more =>
    rw [ProductTree.expr, ProductTree.value, ProductTail.eval_onto more, SignedTree.eval_expr first]

theorem ProductTail.eval_onto (tail : ProductTail) (left : Expr) :
    (tail.onto left).eval lookup = left.eval lookup >>= tail.value lookup := by
  cases tail with
  | done =>
    rw [ProductTail.onto]
    exact (bind_pure _).symm
  | next op operand more =>
    rw [ProductTail.onto, ProductTail.eval_onto more, Expr.eval_binary,
      SignedTree.eval_expr operand]
    simp only [bind_assoc]
    rfl

theorem SignedTree.eval_expr (tree : SignedTree) :
    tree.expr.eval lookup = tree.value lookup := by
  cases tree with
  | neg minus operand =>
    rw [SignedTree.expr, SignedTree.value, Expr.eval, SignedTree.eval_expr operand]
  | power p => rw [SignedTree.expr, SignedTree.value, PowerTree.eval_expr p]

theorem PowerTree.eval_expr (tree : PowerTree) : tree.expr.eval lookup = tree.value lookup := by
  cases tree with
  | base p => rw [PowerTree.expr, PowerTree.value, PrimaryTree.eval_expr p]
  | raised p caret exponent =>
    rw [PowerTree.expr, PowerTree.value, Expr.eval_binary, PrimaryTree.eval_expr p,
      SignedTree.eval_expr exponent]
    rfl

theorem PrimaryTree.eval_expr (tree : PrimaryTree) :
    tree.expr.eval lookup = tree.value lookup := by
  cases tree with
  | number token => rfl
  | name token => rfl
  | apply f left argument right =>
    rw [PrimaryTree.expr, PrimaryTree.value, Expr.eval, SumTree.eval_expr argument]
    refine congrArg (argument.value lookup >>= ·) (funext fun x => ?_)
    cases f.function.eval x <;> rfl
  | group left inner right => rw [PrimaryTree.expr, PrimaryTree.value, SumTree.eval_expr inner]

end

end Evaluation

end WhistledSpeech
