import Mathlib
import WhistledSpeech.Proofs.Formula.Grammar

/-!
# No tokens have two derivations

A derivation tree can be told from its tokens, and even from its tokens with something after them,
as long as what follows does not go on with an operator that the tree could have taken in.
`Stops least` says so of what follows: its first token is no operator of at least the precedence
`least`. A primary may be followed by anything, a signed operand by anything but a `^`, a product by
nothing that a product goes on with, and a sum by no operator at all.

`SumTree.tokens_injective` is the case in which nothing follows.
-/

namespace WhistledSpeech

namespace BinaryOperator

variable {op : BinaryOperator}

/-! ## The precedences of the families -/

theorem additive_iff : op.Additive ↔ op.precedence < 2 := by
  cases op <;> simp [Additive, precedence]

theorem multiplicative_iff : op.Multiplicative ↔ 2 ≤ op.precedence ∧ op.precedence < 3 := by
  cases op <;> simp [Multiplicative, precedence]

theorem exponential_iff : op.Exponential ↔ 3 ≤ op.precedence := by
  cases op <;> simp [Exponential, precedence]

theorem Additive.precedence_eq (h : op.Additive) : op.precedence = 1 := by
  obtain rfl | rfl := h <;> rfl

theorem Additive.rightPrecedence_eq (h : op.Additive) : op.rightPrecedence = 2 := by
  obtain rfl | rfl := h <;> rfl

theorem Multiplicative.precedence_eq (h : op.Multiplicative) : op.precedence = 2 := by
  obtain rfl | rfl := h <;> rfl

theorem Multiplicative.rightPrecedence_eq (h : op.Multiplicative) : op.rightPrecedence = 3 := by
  obtain rfl | rfl := h <;> rfl

theorem Exponential.precedence_eq (h : op.Exponential) : op.precedence = 4 := by
  cases h
  rfl

theorem Exponential.rightPrecedence_eq (h : op.Exponential) : op.rightPrecedence = 4 := by
  cases h
  rfl

end BinaryOperator

/-- An operator of a tree is the operator its token stands for. -/
theorem OperatorToken.ofToken?_token {family : BinaryOperator → Prop} (op : OperatorToken family) :
    BinaryOperator.ofToken? op.token = some op.operator :=
  BinaryOperator.ofToken?_eq_some_iff.mpr op.stands

/-- A closing parenthesis is no operator. -/
theorem WrittenToken.ofToken?_closing (right : WrittenToken ')') :
    BinaryOperator.ofToken? right.val = none := by
  cases h : BinaryOperator.ofToken? right.val with
  | none => rfl
  | some op =>
    have written := (BinaryOperator.ofToken?_eq_some_iff.mp h).2
    rw [right.property] at written
    cases op <;> exact absurd written (by decide)

/-! ## What may follow -/

/-- **The tokens do not go on with an operator of at least the precedence `least`.** -/
def Stops (least : Nat) (tokens : List Token) : Prop :=
  ∀ token ∈ tokens.head?, ∀ op, BinaryOperator.ofToken? token = some op → op.precedence < least

namespace Stops

variable {least : Nat} {rest : List Token}

theorem nil : Stops least [] := by
  intro token h
  exact absurd h (by simp)

theorem cons_iff {token : Token} :
    Stops least (token :: rest)
      ↔ ∀ op, BinaryOperator.ofToken? token = some op → op.precedence < least := by
  unfold Stops
  simp

theorem mono {least' : Nat} (h : Stops least rest) (le : least ≤ least') : Stops least' rest :=
  fun token mem op stands => lt_of_lt_of_le (h token mem op stands) le

/-- No operator has the precedence of the minus. -/
theorem three_of_four (h : Stops 4 rest) : Stops 3 rest := by
  intro token mem op stands
  have lt := h token mem op stands
  cases op <;> first | decide | exact absurd lt (by decide)

theorem closing (right : WrittenToken ')') : Stops least (right.val :: rest) := by
  rw [cons_iff, right.ofToken?_closing]
  intro op h
  exact absurd h (by simp)

theorem operator_iff {family : BinaryOperator → Prop} (op : OperatorToken family) :
    Stops least (op.token :: rest) ↔ op.operator.precedence < least := by
  rw [cons_iff, op.ofToken?_token]
  simp

/-- What follows a signed operand in a product does not raise it. -/
theorem productTail (more : ProductTail) (h : Stops 3 rest) : Stops 3 (more.tokens ++ rest) := by
  cases more with
  | done => rw [ProductTail.tokens]; exact h
  | next op operand more =>
    rw [ProductTail.tokens, List.cons_append, operator_iff, op.mem.precedence_eq]
    exact Nat.lt_succ_self 2

/-- What follows a product in a sum does not multiply it. -/
theorem sumTail (more : SumTail) (h : Stops 2 rest) : Stops 2 (more.tokens ++ rest) := by
  cases more with
  | done => rw [SumTail.tokens]; exact h
  | next op operand more =>
    rw [SumTail.tokens, List.cons_append, operator_iff, op.mem.precedence_eq]
    exact Nat.lt_succ_self 1

/-- Where the tokens stop, they do not begin with an operator that binds as tightly. -/
theorem false_of_eq_cons {family : BinaryOperator → Prop} {op : OperatorToken family}
    {tail : List Token} (h : Stops least rest) (eq : rest = op.token :: tail)
    (le : least ≤ op.operator.precedence) : False := by
  rw [eq, operator_iff] at h
  exact absurd h (Nat.not_lt.mpr le)

end Stops

/-! ## Telling trees apart -/

/-- The token a primary begins with. -/
def PrimaryTree.first : PrimaryTree → Token
  | .number token => token.val
  | .name token => token.val
  | .apply f _ _ _ => f.token
  | .group left _ _ => left.val

/-- What a primary is: the kind of its first token, and the function that token names. -/
def PrimaryTree.form : PrimaryTree → TokenKind × Option UnaryFunction
  | .number _ => (.number, none)
  | .name _ => (.name, none)
  | .apply f _ _ _ => (.name, some f.function)
  | .group _ _ _ => (.operator, none)

/-- The first token of a primary tells what it is. -/
theorem PrimaryTree.form_eq (p : PrimaryTree) :
    p.form = (p.first.kind,
      if p.first.kind = .name then UnaryFunction.ofName? p.first.lexeme else none) := by
  cases p with
  | number token => simp [form, first, token.property.1]
  | name token =>
    simp [form, first, token.property.1, UnaryFunction.ofName?_eq_none_iff.mpr token.property.2.2]
  | apply f left argument right =>
    simp [form, first, f.kind_eq, UnaryFunction.ofName?_eq_some_iff.mpr f.lexeme_eq]
  | group left inner right => simp [form, first, left.property.1]

theorem PrimaryTree.first_eq_of_tokens_append {p p' : PrimaryTree} {rest rest' : List Token}
    (h : p.tokens ++ rest = p'.tokens ++ rest') : p.first = p'.first := by
  cases p <;> cases p' <;> exact (List.cons.inj h).1

/-- No primary begins with a minus. -/
theorem PrimaryTree.tokens_ne_minus (p : PrimaryTree) (minus : WrittenToken '-')
    {rest tail : List Token} : p.tokens ++ rest ≠ minus.val :: tail := by
  intro h
  have written := minus.property
  cases p with
  | number token =>
    obtain ⟨eq, _⟩ := List.cons.inj h
    exact token.property.2 (eq ▸ written)
  | name token =>
    obtain ⟨eq, _⟩ := List.cons.inj h
    exact token.property.2.1 (eq ▸ written)
  | apply f left argument right =>
    obtain ⟨eq, _⟩ := List.cons.inj h
    rw [← eq, f.lexeme_eq] at written
    cases hf : f.function <;> rw [hf] at written <;> exact absurd written (by decide)
  | group left inner right =>
    obtain ⟨eq, _⟩ := List.cons.inj h
    rw [← eq, left.property.2] at written
    exact absurd written (by decide)

theorem PowerTree.tokens_ne_minus (p : PowerTree) (minus : WrittenToken '-')
    {rest tail : List Token} : p.tokens ++ rest ≠ minus.val :: tail := by
  cases p with
  | base p => exact p.tokens_ne_minus minus
  | raised p caret exponent =>
    rw [PowerTree.tokens, List.append_assoc]
    exact p.tokens_ne_minus minus

mutual

/-- **A sum can be told from its tokens**, with anything after them that does not go on with an
operator. The induction is on the first tree; at each level the operands are told apart one after
the other, since what stands behind an operand never begins with an operator that the operand could
have taken in. -/
theorem SumTree.eq_of_tokens_append (s s' : SumTree) {rest rest' : List Token}
    (stops : Stops 1 rest) (stops' : Stops 1 rest') (h : s.tokens ++ rest = s'.tokens ++ rest') :
    s = s' ∧ rest = rest' := by
  match s, s' with
  | .of first more, .of first' more' =>
    simp only [SumTree.tokens, List.append_assoc] at h
    obtain ⟨rfl, behind⟩ := ProductTree.eq_of_tokens_append first first'
      (Stops.sumTail more (stops.mono (Nat.le_succ 1)))
      (Stops.sumTail more' (stops'.mono (Nat.le_succ 1))) h
    obtain ⟨rfl, rfl⟩ := SumTail.eq_of_tokens_append more more' stops stops' behind
    exact ⟨rfl, rfl⟩
termination_by structural s

theorem SumTail.eq_of_tokens_append (t t' : SumTail) {rest rest' : List Token}
    (stops : Stops 1 rest) (stops' : Stops 1 rest') (h : t.tokens ++ rest = t'.tokens ++ rest') :
    t = t' ∧ rest = rest' := by
  match t, t' with
  | .done, .done => exact ⟨rfl, h⟩
  | .done, .next op operand more =>
    exact (stops.false_of_eq_cons h op.mem.precedence_eq.ge).elim
  | .next op operand more, .done =>
    exact (stops'.false_of_eq_cons h.symm op.mem.precedence_eq.ge).elim
  | .next op operand more, .next op' operand' more' =>
    simp only [SumTail.tokens, List.cons_append, List.append_assoc, List.cons.injEq] at h
    obtain ⟨same, h⟩ := h
    obtain rfl := OperatorToken.ext same
    obtain ⟨rfl, behind⟩ := ProductTree.eq_of_tokens_append operand operand'
      (Stops.sumTail more (stops.mono (Nat.le_succ 1)))
      (Stops.sumTail more' (stops'.mono (Nat.le_succ 1))) h
    obtain ⟨rfl, rfl⟩ := SumTail.eq_of_tokens_append more more' stops stops' behind
    exact ⟨rfl, rfl⟩
termination_by structural t

theorem ProductTree.eq_of_tokens_append (p p' : ProductTree) {rest rest' : List Token}
    (stops : Stops 2 rest) (stops' : Stops 2 rest') (h : p.tokens ++ rest = p'.tokens ++ rest') :
    p = p' ∧ rest = rest' := by
  match p, p' with
  | .of first more, .of first' more' =>
    simp only [ProductTree.tokens, List.append_assoc] at h
    obtain ⟨rfl, behind⟩ := SignedTree.eq_of_tokens_append first first'
      (Stops.productTail more (stops.mono (Nat.le_succ 2)))
      (Stops.productTail more' (stops'.mono (Nat.le_succ 2))) h
    obtain ⟨rfl, rfl⟩ := ProductTail.eq_of_tokens_append more more' stops stops' behind
    exact ⟨rfl, rfl⟩
termination_by structural p

theorem ProductTail.eq_of_tokens_append (t t' : ProductTail) {rest rest' : List Token}
    (stops : Stops 2 rest) (stops' : Stops 2 rest') (h : t.tokens ++ rest = t'.tokens ++ rest') :
    t = t' ∧ rest = rest' := by
  match t, t' with
  | .done, .done => exact ⟨rfl, h⟩
  | .done, .next op operand more =>
    exact (stops.false_of_eq_cons h op.mem.precedence_eq.ge).elim
  | .next op operand more, .done =>
    exact (stops'.false_of_eq_cons h.symm op.mem.precedence_eq.ge).elim
  | .next op operand more, .next op' operand' more' =>
    simp only [ProductTail.tokens, List.cons_append, List.append_assoc, List.cons.injEq] at h
    obtain ⟨same, h⟩ := h
    obtain rfl := OperatorToken.ext same
    obtain ⟨rfl, behind⟩ := SignedTree.eq_of_tokens_append operand operand'
      (Stops.productTail more (stops.mono (Nat.le_succ 2)))
      (Stops.productTail more' (stops'.mono (Nat.le_succ 2))) h
    obtain ⟨rfl, rfl⟩ := ProductTail.eq_of_tokens_append more more' stops stops' behind
    exact ⟨rfl, rfl⟩
termination_by structural t

theorem SignedTree.eq_of_tokens_append (u u' : SignedTree) {rest rest' : List Token}
    (stops : Stops 3 rest) (stops' : Stops 3 rest') (h : u.tokens ++ rest = u'.tokens ++ rest') :
    u = u' ∧ rest = rest' := by
  match u, u' with
  | .neg minus operand, .neg minus' operand' =>
    simp only [SignedTree.tokens, List.cons_append, List.cons.injEq] at h
    obtain ⟨same, h⟩ := h
    obtain rfl := Subtype.ext same
    obtain ⟨rfl, rfl⟩ := SignedTree.eq_of_tokens_append operand operand' stops stops' h
    exact ⟨rfl, rfl⟩
  | .neg minus operand, .power p => exact (p.tokens_ne_minus minus h.symm).elim
  | .power p, .neg minus operand => exact (p.tokens_ne_minus minus h).elim
  | .power p, .power p' =>
    obtain ⟨rfl, rfl⟩ := PowerTree.eq_of_tokens_append p p' stops stops' h
    exact ⟨rfl, rfl⟩
termination_by structural u

theorem PowerTree.eq_of_tokens_append (p p' : PowerTree) {rest rest' : List Token}
    (stops : Stops 3 rest) (stops' : Stops 3 rest') (h : p.tokens ++ rest = p'.tokens ++ rest') :
    p = p' ∧ rest = rest' := by
  match p, p' with
  | .base q, .base q' =>
    obtain ⟨rfl, rfl⟩ := PrimaryTree.eq_of_tokens_append q q' h
    exact ⟨rfl, rfl⟩
  | .base q, .raised q' caret exponent =>
    simp only [PowerTree.tokens, List.append_assoc] at h
    obtain ⟨_, behind⟩ := PrimaryTree.eq_of_tokens_append q q' h
    exact (stops.false_of_eq_cons behind (by rw [caret.mem.precedence_eq]; decide)).elim
  | .raised q caret exponent, .base q' =>
    simp only [PowerTree.tokens, List.append_assoc] at h
    obtain ⟨_, behind⟩ := PrimaryTree.eq_of_tokens_append q q' h
    exact (stops'.false_of_eq_cons behind.symm (by rw [caret.mem.precedence_eq]; decide)).elim
  | .raised q caret exponent, .raised q' caret' exponent' =>
    simp only [PowerTree.tokens, List.append_assoc] at h
    obtain ⟨rfl, behind⟩ := PrimaryTree.eq_of_tokens_append q q' h
    obtain ⟨same, ahead⟩ := List.cons.inj behind
    obtain rfl := OperatorToken.ext same
    obtain ⟨rfl, rfl⟩ := SignedTree.eq_of_tokens_append exponent exponent' stops stops' ahead
    exact ⟨rfl, rfl⟩
termination_by structural p

theorem PrimaryTree.eq_of_tokens_append (p p' : PrimaryTree) {rest rest' : List Token}
    (h : p.tokens ++ rest = p'.tokens ++ rest') : p = p' ∧ rest = rest' := by
  have first := PrimaryTree.first_eq_of_tokens_append h
  have form : p.form = p'.form := by rw [p.form_eq, p'.form_eq, first]
  match p, p', form with
  | .number token, .number token', _ =>
    obtain rfl := Subtype.ext first
    exact ⟨rfl, (List.cons.inj h).2⟩
  | .name token, .name token', _ =>
    obtain rfl := Subtype.ext first
    exact ⟨rfl, (List.cons.inj h).2⟩
  | .apply f left argument right, .apply f' left' argument' right', _ =>
    obtain rfl := FunctionToken.ext first
    simp only [PrimaryTree.tokens, List.cons_append, List.append_assoc, List.nil_append,
      List.cons.injEq] at h
    obtain ⟨_, same, h⟩ := h
    obtain rfl := Subtype.ext same
    obtain ⟨rfl, behind⟩ := SumTree.eq_of_tokens_append argument argument'
      (Stops.closing right) (Stops.closing right') h
    obtain ⟨same, ahead⟩ := List.cons.inj behind
    obtain rfl := Subtype.ext same
    exact ⟨rfl, ahead⟩
  | .group left inner right, .group left' inner' right', _ =>
    obtain rfl := Subtype.ext first
    simp only [PrimaryTree.tokens, List.cons_append, List.append_assoc, List.nil_append,
      List.cons.injEq] at h
    obtain ⟨_, h⟩ := h
    obtain ⟨rfl, behind⟩ := SumTree.eq_of_tokens_append inner inner'
      (Stops.closing right) (Stops.closing right') h
    obtain ⟨same, ahead⟩ := List.cons.inj behind
    obtain rfl := Subtype.ext same
    exact ⟨rfl, ahead⟩
termination_by structural p

end

/-- **No tokens have two derivations.** -/
theorem SumTree.tokens_injective : Function.Injective SumTree.tokens := by
  intro s s' h
  exact (SumTree.eq_of_tokens_append s s' Stops.nil Stops.nil (congrArg (· ++ []) h)).1

end WhistledSpeech
