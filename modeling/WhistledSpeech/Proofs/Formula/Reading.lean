import Mathlib
import WhistledSpeech.Proofs.Formula.Unambiguity
import WhistledSpeech.Proofs.Steps

/-!
# Reading a formula is deriving it

The reading of `Formula.Parse` keeps with each result that it left fewer tokens over. Here the
results are looked at without that: `readExpression`, `readOperators`, `readSigned` and
`readPrimary` are the steps of the reading as functions to an expression and the tokens after it,
and each has equations that say all it can do.
-/

namespace WhistledSpeech

namespace Expr

/-- What a step of the reading gives: an expression and the tokens after it, or a fault. -/
abbrev Read := Except SyntaxFault (Expr × List Token)

/-- What is read as an expression. -/
def readExpression (least : Nat) (tokens : List Token) : Read :=
  (expression least tokens).map Subtype.val

/-- What is read as operators with their right operands. -/
def readOperators (least : Nat) (left : Expr) (tokens : List Token) : Read :=
  (operators least left tokens).map Subtype.val

/-- What is read as a signed operand, or as the primary a power begins with. -/
def readSigned (tokens : List Token) : Read :=
  (signed tokens).map Subtype.val

/-- What is read as a primary. -/
def readPrimary (token : Token) (tokens : List Token) : Read :=
  (primary token tokens).map Subtype.val

/-- What is left when a parenthesis has been read. -/
def readParenthesis (c : Char) (tokens : List Token) : Except SyntaxFault (List Token) :=
  (parenthesis c tokens).map Subtype.val

/-- An expression is a signed operand and the operators after it. -/
theorem readExpression_eq (least : Nat) (tokens : List Token) :
    readExpression least tokens
      = readSigned tokens >>= fun r => readOperators least r.1 r.2 := by
  rw [readExpression, expression, readSigned]
  cases signed tokens with
  | error fault => rfl
  | ok r =>
    obtain ⟨⟨left, rest⟩, h⟩ := r
    show _ = readOperators least left rest
    dsimp only
    rw [readOperators]
    cases operators least left rest <;> rfl

theorem readOperators_of_stops {least : Nat} {left : Expr} {tokens : List Token}
    (stops : Stops least tokens) : readOperators least left tokens = .ok (left, tokens) := by
  cases tokens with
  | nil => rw [readOperators, operators]; rfl
  | cons token rest =>
    rw [Stops.cons_iff] at stops
    rw [readOperators, operators]
    cases h : BinaryOperator.ofToken? token with
    | none => rfl
    | some op =>
      simp only [if_pos (stops op h)]
      rfl

theorem readOperators_of_ofToken? {least : Nat} {left : Expr} {token : Token} {rest : List Token}
    {op : BinaryOperator} (stands : BinaryOperator.ofToken? token = some op)
    (le : least ≤ op.precedence) :
    readOperators least left (token :: rest)
      = readExpression op.rightPrecedence rest >>= fun r =>
          readOperators least (.binary op left r.1) r.2 := by
  rw [readOperators, operators]
  simp only [stands, if_neg (Nat.not_lt.mpr le)]
  rw [readExpression]
  cases expression op.rightPrecedence rest with
  | error fault => rfl
  | ok r =>
    obtain ⟨⟨right, rest'⟩, h⟩ := r
    show _ = readOperators least (.binary op left right) rest'
    dsimp only
    rw [readOperators]
    cases operators least (.binary op left right) rest' <;> rfl

theorem readSigned_nil : readSigned [] = .error .endOfFormula := by
  rw [readSigned, signed]
  rfl

theorem readSigned_minus {token : Token} {rest : List Token} (h : token.lexeme = ['-']) :
    readSigned (token :: rest) = readExpression 3 rest >>= fun r => .ok (.neg r.1, r.2) := by
  rw [readSigned, signed, if_pos h, readExpression]
  cases expression 3 rest <;> rfl

theorem readSigned_primary {token : Token} {rest : List Token} (h : token.lexeme ≠ ['-']) :
    readSigned (token :: rest) = readPrimary token rest := by
  rw [readSigned, signed, if_neg h, readPrimary]

theorem readPrimary_number {token : Token} {rest : List Token} (kind : token.kind = .number) :
    readPrimary token rest = .ok (ofDigits token.lexeme, rest) := by
  rw [readPrimary, primary]
  simp only [kind]
  rfl

theorem readPrimary_name {token : Token} {rest : List Token} (kind : token.kind = .name)
    (h : UnaryFunction.ofName? token.lexeme = none) :
    readPrimary token rest = .ok (.name (String.ofList token.lexeme), rest) := by
  rw [readPrimary, primary]
  simp only [kind, h]
  rfl

theorem readPrimary_function {token : Token} {rest : List Token} {f : UnaryFunction}
    (kind : token.kind = .name) (h : UnaryFunction.ofName? token.lexeme = some f) :
    readPrimary token rest
      = readParenthesis '(' rest >>= fun inside => readExpression 0 inside >>= fun r =>
          readParenthesis ')' r.2 >>= fun after => .ok (.apply f r.1, after) := by
  rw [readPrimary, primary]
  simp only [kind, h]
  rw [readParenthesis]
  cases parenthesis '(' rest with
  | error fault => rfl
  | ok inside =>
    obtain ⟨inside, _⟩ := inside
    show _ = readExpression 0 inside >>= _
    dsimp only
    rw [readExpression]
    cases expression 0 inside with
    | error fault => rfl
    | ok r =>
      obtain ⟨⟨argument, behind⟩, _⟩ := r
      show _ = readParenthesis ')' behind >>= _
      dsimp only
      rw [readParenthesis]
      cases parenthesis ')' behind <;> rfl

theorem readPrimary_group {token : Token} {rest : List Token} (kind : token.kind = .operator)
    (h : token.lexeme = ['(']) :
    readPrimary token rest
      = readExpression 0 rest >>= fun r =>
          readParenthesis ')' r.2 >>= fun after => .ok (r.1, after) := by
  rw [readPrimary, primary]
  simp only [kind, if_pos h]
  rw [readExpression]
  cases expression 0 rest with
  | error fault => rfl
  | ok r =>
    obtain ⟨⟨inner, behind⟩, _⟩ := r
    show _ = readParenthesis ')' behind >>= _
    dsimp only
    rw [readParenthesis]
    cases parenthesis ')' behind <;> rfl

theorem readPrimary_operator {token : Token} {rest : List Token} (kind : token.kind = .operator)
    (h : token.lexeme ≠ ['(']) : readPrimary token rest = .error (.unexpected token) := by
  rw [readPrimary, primary]
  simp only [kind, if_neg h]
  rfl

theorem readParenthesis_nil {c : Char} : readParenthesis c [] = .error .endOfFormula := rfl

theorem readParenthesis_cons {c : Char} {token : Token} {rest : List Token} :
    readParenthesis c (token :: rest)
      = if token.lexeme = [c] then .ok rest else .error (.expected c token) := by
  rw [readParenthesis, parenthesis]
  split_ifs <;> rfl

theorem length_lt_of_readExpression {least : Nat} {tokens rest : List Token} {e : Expr}
    (h : readExpression least tokens = .ok (e, rest)) : rest.length < tokens.length := by
  rw [readExpression] at h
  have short := property_of_map_val h
  exact short

theorem length_lt_of_readSigned {tokens rest : List Token} {e : Expr}
    (h : readSigned tokens = .ok (e, rest)) : rest.length < tokens.length := by
  rw [readSigned] at h
  have short := property_of_map_val h
  exact short

/-- **All the tokens are a formula** if they are one expression with nothing after it. -/
theorem ofTokens_cons (token : Token) (rest : List Token) :
    ofTokens (token :: rest)
      = readExpression 0 (token :: rest) >>= fun r =>
          match r.2 with
          | [] => .ok r.1
          | stray :: _ => .error (.unexpected stray) := by
  rw [ofTokens, readExpression]
  simp only [List.isEmpty_cons, Bool.false_eq_true, if_false]
  cases expression 0 (token :: rest) with
  | error fault => rfl
  | ok r =>
    obtain ⟨⟨e, behind⟩, h⟩ := r
    cases behind <;> rfl

end Expr

open WhistledSpeech.Expr

/-! ## Every derivation is read

Reading the tokens of an operand and what follows them comes to the same as going on with operators
after the operand has been read – whatever `least` is, as long as the operators of the operand's own
level are among those to be read. -/

/-- A parenthesis that is there is read. -/
theorem WrittenToken.readParenthesis {c : Char} (token : WrittenToken c) (rest : List Token) :
    readParenthesis c (token.val :: rest) = .ok rest := by
  rw [readParenthesis_cons, if_pos token.property]

/-- An expression read up to the parenthesis behind it is read with that parenthesis. -/
theorem readExpression_closed {inner : Expr} {tokens rest : List Token} (right : WrittenToken ')')
    (h : readExpression 0 tokens = .ok (inner, right.val :: rest)) (finish : Expr → Expr) :
    (readExpression 0 tokens >>= fun r =>
        readParenthesis ')' r.2 >>= fun after => .ok (finish r.1, after))
      = .ok (finish inner, rest) := by
  rw [h]
  show readParenthesis ')' (right.val :: rest) >>= _ = _
  rw [right.readParenthesis]
  rfl

mutual

/-- **A sum and what follows it are read as the sum.** One induction over all the trees. -/
theorem SumTree.readExpression_append (s : SumTree) {least : Nat} (le : least ≤ 1)
    {rest : List Token} (stops : Stops 2 rest) :
    readExpression least (s.tokens ++ rest) = readOperators least s.expr rest := by
  match s with
  | .of first more =>
    rw [SumTree.tokens, SumTree.expr, List.append_assoc,
      ProductTree.readExpression_append first (le.trans (Nat.le_succ 1))
        ((Stops.sumTail more stops).mono (Nat.le_succ 2)),
      SumTail.readOperators_append more le stops]
termination_by structural s

theorem SumTail.readOperators_append (t : SumTail) {least : Nat} (le : least ≤ 1) {left : Expr}
    {rest : List Token} (stops : Stops 2 rest) :
    readOperators least left (t.tokens ++ rest) = readOperators least (t.onto left) rest := by
  match t with
  | .done => rfl
  | .next op operand more =>
    have behind := Stops.sumTail more stops
    rw [SumTail.tokens, SumTail.onto, List.cons_append, List.append_assoc,
      readOperators_of_ofToken? op.ofToken?_token (le.trans op.mem.precedence_eq.ge),
      op.mem.rightPrecedence_eq,
      ProductTree.readExpression_append operand (Nat.le_refl 2) (behind.mono (Nat.le_succ 2)),
      readOperators_of_stops behind]
    exact SumTail.readOperators_append more le stops
termination_by structural t

theorem ProductTree.readExpression_append (p : ProductTree) {least : Nat} (le : least ≤ 2)
    {rest : List Token} (stops : Stops 3 rest) :
    readExpression least (p.tokens ++ rest) = readOperators least p.expr rest := by
  match p with
  | .of first more =>
    rw [ProductTree.tokens, ProductTree.expr, List.append_assoc,
      SignedTree.readExpression_append first (le.trans (by decide))
        (Stops.productTail more stops),
      ProductTail.readOperators_append more le stops]
termination_by structural p

theorem ProductTail.readOperators_append (t : ProductTail) {least : Nat} (le : least ≤ 2)
    {left : Expr} {rest : List Token} (stops : Stops 3 rest) :
    readOperators least left (t.tokens ++ rest) = readOperators least (t.onto left) rest := by
  match t with
  | .done => rfl
  | .next op operand more =>
    have behind := Stops.productTail more stops
    rw [ProductTail.tokens, ProductTail.onto, List.cons_append, List.append_assoc,
      readOperators_of_ofToken? op.ofToken?_token (le.trans op.mem.precedence_eq.ge),
      op.mem.rightPrecedence_eq,
      SignedTree.readExpression_append operand (by decide) behind,
      readOperators_of_stops behind]
    exact ProductTail.readOperators_append more le stops
termination_by structural t

theorem SignedTree.readExpression_append (u : SignedTree) {least : Nat} (le : least ≤ 4)
    {rest : List Token} (stops : Stops 3 rest) :
    readExpression least (u.tokens ++ rest) = readOperators least u.expr rest := by
  match u with
  | .neg minus operand =>
    rw [SignedTree.tokens, SignedTree.expr, List.cons_append, readExpression_eq,
      readSigned_minus minus.property,
      SignedTree.readExpression_append operand (by decide) stops, readOperators_of_stops stops]
    rfl
  | .power p => exact PowerTree.readExpression_append p le stops
termination_by structural u

theorem PowerTree.readExpression_append (p : PowerTree) {least : Nat} (le : least ≤ 4)
    {rest : List Token} (stops : Stops 3 rest) :
    readExpression least (p.tokens ++ rest) = readOperators least p.expr rest := by
  match p with
  | .base q =>
    rw [PowerTree.tokens, readExpression_eq, PrimaryTree.readSigned_append q]
    rfl
  | .raised q caret exponent =>
    rw [PowerTree.tokens, readExpression_eq, List.append_assoc, PrimaryTree.readSigned_append q]
    show readOperators least q.expr (caret.token :: (exponent.tokens ++ rest)) = _
    rw [readOperators_of_ofToken? caret.ofToken?_token (le.trans caret.mem.precedence_eq.ge),
      caret.mem.rightPrecedence_eq,
      SignedTree.readExpression_append exponent (Nat.le_refl 4) stops,
      readOperators_of_stops (stops.mono (Nat.le_succ 3))]
    rfl
termination_by structural p

theorem PrimaryTree.readSigned_append (p : PrimaryTree) {rest : List Token} :
    readSigned (p.tokens ++ rest) = .ok (p.expr, rest) := by
  match p with
  | .number token =>
    rw [PrimaryTree.tokens, List.cons_append, readSigned_primary token.property.2,
      readPrimary_number token.property.1]
    rfl
  | .name token =>
    rw [PrimaryTree.tokens, List.cons_append, readSigned_primary token.property.2.1,
      readPrimary_name token.property.1 (UnaryFunction.ofName?_eq_none_iff.mpr token.property.2.2)]
    rfl
  | .apply f left argument right =>
    have notMinus : f.token.lexeme ≠ ['-'] := by
      rw [f.lexeme_eq]; cases f.function <;> decide
    rw [PrimaryTree.tokens, List.cons_append, readSigned_primary notMinus,
      readPrimary_function f.kind_eq (UnaryFunction.ofName?_eq_some_iff.mpr f.lexeme_eq),
      List.cons_append, List.append_assoc, left.readParenthesis]
    have inside : readExpression 0 (argument.tokens ++ right.val :: rest)
        = .ok (argument.expr, right.val :: rest) := by
      rw [SumTree.readExpression_append argument (Nat.zero_le 1) (Stops.closing right),
        readOperators_of_stops (Stops.closing right)]
    exact readExpression_closed right inside (.apply f.function)
  | .group left inner right =>
    have notMinus : left.val.lexeme ≠ ['-'] := by rw [left.property.2]; decide
    rw [PrimaryTree.tokens, List.cons_append, readSigned_primary notMinus,
      readPrimary_group left.property.1 left.property.2, List.append_assoc]
    have inside : readExpression 0 (inner.tokens ++ right.val :: rest)
        = .ok (inner.expr, right.val :: rest) := by
      rw [SumTree.readExpression_append inner (Nat.zero_le 1) (Stops.closing right),
        readOperators_of_stops (Stops.closing right)]
    exact readExpression_closed right inside id
termination_by structural p

end

/-! ## Whatever is read is derived

The tokens an expression is read from are those of a derivation, and what is left over does not go
on with an operator that should have been read. The induction is on the number of tokens:
`Derives n` says it of fewer than `n` tokens, for each of the four precedences an operand is read
at. -/

/-- A parenthesis that has been read was there. -/
theorem exists_of_readParenthesis {c : Char} {tokens rest : List Token}
    (h : readParenthesis c tokens = .ok rest) :
    ∃ token : WrittenToken c, tokens = token.val :: rest := by
  cases tokens with
  | nil => exact absurd h (by simp [readParenthesis_nil])
  | cons token behind =>
    rw [readParenthesis_cons] at h
    split_ifs at h with written
    cases h
    exact ⟨⟨token, written⟩, rfl⟩

/-- Tokens that do not stop begin with an operator. -/
theorem exists_operator_of_not_stops {k : Nat} {tokens : List Token} (goesOn : ¬ Stops k tokens) :
    ∃ token behind op, tokens = token :: behind ∧ BinaryOperator.ofToken? token = some op
      ∧ k ≤ op.precedence := by
  cases tokens with
  | nil => exact absurd Stops.nil goesOn
  | cons token behind =>
    rw [Stops.cons_iff] at goesOn
    push Not at goesOn
    obtain ⟨op, stands, binds⟩ := goesOn
    exact ⟨token, behind, op, rfl, stands, binds⟩

/-- **Where the tokens go on with an operator** of at least the precedence `k`, that operator has
been read, then its right operand, then the operators after that. -/
theorem exists_of_not_stops {k least : Nat} (le : least ≤ k) {left e : Expr}
    {tokens rest : List Token} (goesOn : ¬ Stops k tokens)
    (h : readOperators least left tokens = .ok (e, rest)) :
    ∃ token behind op right mid, tokens = token :: behind
      ∧ BinaryOperator.ofToken? token = some op ∧ k ≤ op.precedence
      ∧ readExpression op.rightPrecedence behind = .ok (right, mid)
      ∧ readOperators least (.binary op left right) mid = .ok (e, rest) := by
  obtain ⟨token, behind, op, rfl, stands, binds⟩ := exists_operator_of_not_stops goesOn
  rw [readOperators_of_ofToken? stands (le.trans binds), bind_eq_ok_iff] at h
  obtain ⟨⟨right, mid⟩, hright, h⟩ := h
  exact ⟨token, behind, op, right, mid, rfl, stands, binds, hright, h⟩

/-- What is read from fewer than `n` tokens has a derivation, at each precedence. -/
structure Derives (n : Nat) : Prop where
  /-- With all operators it is a sum. -/
  sum : ∀ {tokens e rest}, tokens.length < n → readExpression 0 tokens = .ok (e, rest) →
    ∃ s : SumTree, tokens = s.tokens ++ rest ∧ e = s.expr
  /-- Without those of sums it is a product. -/
  product : ∀ {tokens e rest}, tokens.length < n → readExpression 2 tokens = .ok (e, rest) →
    ∃ p : ProductTree, tokens = p.tokens ++ rest ∧ e = p.expr ∧ Stops 2 rest
  /-- Without those of products it is a signed operand. -/
  signed : ∀ {least tokens e rest}, 3 ≤ least → least ≤ 4 → tokens.length < n →
    readExpression least tokens = .ok (e, rest) →
    ∃ u : SignedTree, tokens = u.tokens ++ rest ∧ e = u.expr ∧ Stops 3 rest

namespace Derives

variable {n : Nat}

/-- A primary that has been read is derived. -/
theorem primary (ih : Derives n) {token : Token} {behind rest : List Token} {e : Expr}
    (len : behind.length < n) (notMinus : token.lexeme ≠ ['-'])
    (h : readPrimary token behind = .ok (e, rest)) :
    ∃ p : PrimaryTree, token :: behind = p.tokens ++ rest ∧ e = p.expr := by
  cases kind : token.kind with
  | number =>
    rw [readPrimary_number kind] at h
    cases h
    exact ⟨.number ⟨token, kind, notMinus⟩, rfl, rfl⟩
  | name =>
    cases hf : UnaryFunction.ofName? token.lexeme with
    | none =>
      rw [readPrimary_name kind hf] at h
      cases h
      exact ⟨.name ⟨token, kind, notMinus, UnaryFunction.ofName?_eq_none_iff.mp hf⟩, rfl, rfl⟩
    | some f =>
      rw [readPrimary_function kind hf] at h
      obtain ⟨inside, hleft, h⟩ := bind_eq_ok_iff.mp h
      obtain ⟨⟨argument, mid⟩, harg, h⟩ := bind_eq_ok_iff.mp h
      obtain ⟨after, hright, h⟩ := bind_eq_ok_iff.mp h
      cases h
      obtain ⟨left, rfl⟩ := exists_of_readParenthesis hleft
      obtain ⟨right, rfl⟩ := exists_of_readParenthesis hright
      obtain ⟨s, rfl, rfl⟩ := ih.sum (Nat.lt_of_succ_lt len) harg
      have named := UnaryFunction.ofName?_eq_some_iff.mp hf
      refine ⟨.apply ⟨token, f, kind, named⟩ left s right, ?_, rfl⟩
      simp [PrimaryTree.tokens]
  | operator =>
    by_cases written : token.lexeme = ['(']
    · rw [readPrimary_group kind written] at h
      obtain ⟨⟨inner, mid⟩, hinner, h⟩ := bind_eq_ok_iff.mp h
      obtain ⟨after, hright, h⟩ := bind_eq_ok_iff.mp h
      cases h
      obtain ⟨right, rfl⟩ := exists_of_readParenthesis hright
      obtain ⟨s, rfl, rfl⟩ := ih.sum len hinner
      refine ⟨.group ⟨token, kind, written⟩ s right, ?_, rfl⟩
      simp [PrimaryTree.tokens]
    · rw [readPrimary_operator kind written] at h
      exact absurd h (by simp)

/-- A signed operand that has been read is one behind a minus, or a primary. -/
theorem exists_of_readSigned (ih : Derives n) {tokens mid : List Token} {left : Expr}
    (len : tokens.length ≤ n) (h : readSigned tokens = .ok (left, mid)) :
    (∃ u : SignedTree, tokens = u.tokens ++ mid ∧ left = u.expr ∧ Stops 3 mid)
      ∨ ∃ p : PrimaryTree, tokens = p.tokens ++ mid ∧ left = p.expr := by
  cases tokens with
  | nil => exact absurd h (by simp [readSigned_nil])
  | cons token behind =>
    by_cases written : token.lexeme = ['-']
    · rw [readSigned_minus written, bind_eq_ok_iff] at h
      obtain ⟨⟨operand, behind'⟩, hoperand, h⟩ := h
      cases h
      obtain ⟨u, rfl, rfl, stops⟩ := ih.signed (Nat.le_refl 3) (Nat.le_succ 3) len hoperand
      exact .inl ⟨.neg ⟨token, written⟩ u, rfl, rfl, stops⟩
    · rw [readSigned_primary written] at h
      exact .inr (ih.primary len written h)

/-- **An expression begins with a signed operand**: reading it comes to reading operators after one
that does not go on with a `^`. -/
theorem exists_signed (ih : Derives n) {least : Nat} (le : least ≤ 4) {tokens rest : List Token}
    {e : Expr} (len : tokens.length ≤ n) (h : readExpression least tokens = .ok (e, rest)) :
    ∃ (u : SignedTree) (mid : List Token), tokens = u.tokens ++ mid ∧ Stops 3 mid
      ∧ mid.length < tokens.length ∧ readOperators least u.expr mid = .ok (e, rest) := by
  rw [readExpression_eq, bind_eq_ok_iff] at h
  obtain ⟨⟨left, mid⟩, hleft, h⟩ := h
  have short := length_lt_of_readSigned hleft
  obtain ⟨u, htokens, rfl, stops⟩ | ⟨p, htokens, rfl⟩ := ih.exists_of_readSigned len hleft
  · exact ⟨u, mid, htokens, stops, short, h⟩
  · by_cases stops : Stops 4 mid
    · exact ⟨.power (.base p), mid, htokens, stops.three_of_four, short, h⟩
    · -- no operator has the precedence of the minus, so this one is a power's
      obtain ⟨caret, behind', op, right, mid', rfl, stands, binds, hright, h⟩ :=
        exists_of_not_stops le stops h
      have family := BinaryOperator.exponential_iff.mpr ((Nat.le_succ 3).trans binds)
      rw [family.rightPrecedence_eq] at hright
      have shorter := length_lt_of_readExpression hright
      rw [List.length_cons] at short
      obtain ⟨u, rfl, rfl, stops'⟩ :=
        ih.signed (Nat.le_succ 3) (Nat.le_refl 4) (by omega) hright
      have written := BinaryOperator.ofToken?_eq_some_iff.mp stands
      refine ⟨.power (.raised p ⟨caret, op, family, written⟩ u), mid', ?_, stops', by omega, h⟩
      rw [htokens, SignedTree.tokens, PowerTree.tokens, List.append_assoc, List.cons_append]

/-- **What a product goes on with** has been read before anything else. -/
theorem exists_productTail (ih : Derives n) {least : Nat} (le : least ≤ 2) {left e : Expr}
    {tokens rest : List Token} (len : tokens.length ≤ n) (stops : Stops 3 tokens)
    (h : readOperators least left tokens = .ok (e, rest)) :
    ∃ (more : ProductTail) (mid : List Token), tokens = more.tokens ++ mid ∧ Stops 2 mid
      ∧ mid.length ≤ tokens.length ∧ readOperators least (more.onto left) mid = .ok (e, rest) := by
  by_cases stops₂ : Stops 2 tokens
  · exact ⟨.done, tokens, rfl, stops₂, Nat.le_refl _, h⟩
  · obtain ⟨token, behind, op, right, mid, rfl, stands, binds, hright, h⟩ :=
      exists_of_not_stops le stops₂ h
    have family : op.Multiplicative :=
      BinaryOperator.multiplicative_iff.mpr ⟨binds, Stops.cons_iff.mp stops op stands⟩
    rw [family.rightPrecedence_eq] at hright
    have short := length_lt_of_readExpression hright
    rw [List.length_cons] at len
    obtain ⟨u, rfl, rfl, stops₃⟩ := ih.signed (Nat.le_refl 3) (Nat.le_succ 3) len hright
    obtain ⟨more, last, rfl, stops', shorter, h⟩ :=
      exists_productTail ih le (by omega) stops₃ h
    refine ⟨.next ⟨token, op, family, BinaryOperator.ofToken?_eq_some_iff.mp stands⟩ u more, last,
      ?_, stops', ?_, h⟩
    · rw [ProductTail.tokens, List.cons_append, List.append_assoc]
    · rw [List.length_cons]
      omega
termination_by tokens.length

/-- **What a sum goes on with** is all there is to read. -/
theorem exists_sumTail (ih : Derives n) {left e : Expr} {tokens rest : List Token}
    (len : tokens.length ≤ n) (stops : Stops 2 tokens)
    (h : readOperators 0 left tokens = .ok (e, rest)) :
    ∃ more : SumTail, tokens = more.tokens ++ rest ∧ e = more.onto left := by
  by_cases stops₀ : Stops 0 tokens
  · rw [readOperators_of_stops stops₀] at h
    cases h
    exact ⟨.done, rfl, rfl⟩
  · obtain ⟨token, behind, op, right, mid, rfl, stands, _, hright, h⟩ :=
      exists_of_not_stops (Nat.le_refl 0) stops₀ h
    have family := BinaryOperator.additive_iff.mpr (Stops.cons_iff.mp stops op stands)
    rw [family.rightPrecedence_eq] at hright
    have short := length_lt_of_readExpression hright
    rw [List.length_cons] at len
    obtain ⟨p, rfl, rfl, stops₂⟩ := ih.product len hright
    obtain ⟨more, rfl, rfl⟩ := exists_sumTail ih (by omega) stops₂ h
    have written := BinaryOperator.ofToken?_eq_some_iff.mp stands
    refine ⟨.next ⟨token, op, family, written⟩ p more, ?_, rfl⟩
    rw [SumTail.tokens, List.cons_append, List.append_assoc]
termination_by tokens.length

/-- **One more token**: the step of the induction. -/
theorem succ (ih : Derives n) : Derives (n + 1) where
  sum := by
    intro tokens e rest len h
    obtain ⟨u, mid, rfl, stops, short, h⟩ :=
      ih.exists_signed (Nat.zero_le 4) (Nat.le_of_lt_succ len) h
    obtain ⟨more, last, rfl, stops, shorter, h⟩ :=
      ih.exists_productTail (Nat.zero_le 2) (by omega) stops h
    obtain ⟨others, rfl, rfl⟩ := ih.exists_sumTail (by omega) stops h
    refine ⟨.of (.of u more) others, ?_, rfl⟩
    rw [SumTree.tokens, ProductTree.tokens, List.append_assoc, List.append_assoc]
  product := by
    intro tokens e rest len h
    obtain ⟨u, mid, rfl, stops, short, h⟩ :=
      ih.exists_signed (by decide) (Nat.le_of_lt_succ len) h
    obtain ⟨more, last, rfl, stops, _, h⟩ :=
      ih.exists_productTail (Nat.le_refl 2) (by omega) stops h
    rw [readOperators_of_stops stops] at h
    cases h
    refine ⟨.of u more, ?_, rfl, stops⟩
    rw [ProductTree.tokens, List.append_assoc]
  signed := by
    intro least tokens e rest le le' len h
    obtain ⟨u, mid, rfl, stops, _, h⟩ := ih.exists_signed le' (Nat.le_of_lt_succ len) h
    rw [readOperators_of_stops (stops.mono le)] at h
    cases h
    exact ⟨u, rfl, rfl, stops⟩

/-- **Whatever is read is derived**, however many tokens there are. -/
theorem all : ∀ n, Derives n
  | 0 => ⟨fun len => absurd len (Nat.not_lt_zero _), fun len => absurd len (Nat.not_lt_zero _),
      fun _ _ len => absurd len (Nat.not_lt_zero _)⟩
  | n + 1 => (all n).succ

end Derives

/-! ## Formulas -/

/-- **A list of tokens is a formula exactly if it has a derivation**, and then it is read as the
expression of that derivation. -/
theorem Expr.ofTokens_eq_ok_iff {tokens : List Token} {e : Expr} :
    ofTokens tokens = .ok e ↔ ∃ tree : SumTree, tree.tokens = tokens ∧ tree.expr = e := by
  constructor
  · intro h
    cases tokens with
    | nil => exact absurd h (by simp [ofTokens])
    | cons token rest =>
      rw [ofTokens_cons, bind_eq_ok_iff] at h
      obtain ⟨⟨e', behind⟩, read, h⟩ := h
      obtain ⟨tree, htokens, rfl⟩ := (Derives.all _).sum (Nat.lt_succ_self _) read
      cases behind with
      | nil =>
        cases h
        exact ⟨tree, by rw [htokens, List.append_nil], rfl⟩
      | cons stray _ => exact absurd h (by simp)
  · rintro ⟨tree, rfl, rfl⟩
    have read : readExpression 0 tree.tokens = .ok (tree.expr, []) := by
      have := tree.readExpression_append (Nat.zero_le 1) (Stops.nil : Stops 2 [])
      rwa [List.append_nil, readOperators_of_stops Stops.nil] at this
    cases htokens : tree.tokens with
    | nil =>
      rw [htokens] at read
      exact absurd read (by simp [readExpression_eq, readSigned_nil, bind, Except.bind])
    | cons token rest =>
      rw [ofTokens_cons, ← htokens, read]
      rfl

/-- **Reading is exact.** A list of tokens is read as a formula exactly if it has a derivation with
nothing left over. The derivation is then the only one, and what has been read computes it, whatever
the names stand for: the same value, or the same fault, which is the first from left to right. -/
theorem ofTokens_exact (tokens : List Token) :
    ((∃ e, Expr.ofTokens tokens = .ok e) ↔ ∃ tree : SumTree, tree.tokens = tokens)
      ∧ ∀ e, Expr.ofTokens tokens = .ok e →
          ∃ tree : SumTree, tree.tokens = tokens
            ∧ (∀ other : SumTree, other.tokens = tokens → other = tree)
            ∧ ∀ {α : Type} [Arithmetic α] (lookup : String → Option α),
                e.eval lookup = tree.value lookup := by
  refine ⟨⟨?_, ?_⟩, ?_⟩
  · rintro ⟨e, h⟩
    obtain ⟨tree, htokens, _⟩ := Expr.ofTokens_eq_ok_iff.mp h
    exact ⟨tree, htokens⟩
  · rintro ⟨tree, htokens⟩
    exact ⟨tree.expr, Expr.ofTokens_eq_ok_iff.mpr ⟨tree, htokens, rfl⟩⟩
  · intro e h
    obtain ⟨tree, rfl, rfl⟩ := Expr.ofTokens_eq_ok_iff.mp h
    exact ⟨tree, rfl, fun other same => SumTree.tokens_injective same,
      fun lookup => tree.eval_expr lookup⟩

/-- A minus in an exponent takes the power behind it, and a minus in front of a power takes the
power: `2 ^ - 3 ^ 2` is `2 ^ (- (3 ^ 2))`, and `- 2 ^ 2` is `- (2 ^ 2)`. -/
example : Expr.parse "2^-3^2" = .ok (.binary .pow (.number 2 0)
      (.neg (.binary .pow (.number 3 0) (.number 2 0))))
    ∧ Expr.parse "-2^2" = .ok (.neg (.binary .pow (.number 2 0) (.number 2 0))) := by
  constructor <;> cbv

end WhistledSpeech
