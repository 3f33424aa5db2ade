import Mathlib
import WhistledSpeech.Proofs.Formula.Lexing
import WhistledSpeech.Proofs.Formula.Reading

/-!
# Where reading breaks off

Reading goes through the tokens once and never looks beyond the token that it stops at. So what it says of
a fault it would say of all tokens that are the same up to there, and the tokens in front of the fault can
always be gone on with: an operand that is missing can be supplied, and a parenthesis that is open can be
closed. `Breaks` puts the two together, and `ofTokens_breaks` says that it holds wherever reading fails.

The induction is that of `Derives`, on the number of tokens and with a statement for each precedence an
operand is read at. What has been read in front of the fault is known from there to be derived, so that
reading it again leads to the same place.
-/

namespace WhistledSpeech

open WhistledSpeech.Expr

/-! ## Where a fault is met -/

namespace SyntaxFault

/-- The token a fault names, if it names one. -/
def token? : SyntaxFault → Option Token
  | unexpected token => some token
  | expected _ token => some token
  | _ => none

/-- **A fault is met behind some tokens**: at the token that comes next, if it names one, and else at their
end. -/
def Met (fault : SyntaxFault) (before tokens : List Token) : Prop :=
  match fault.token? with
  | some token => ∃ after, tokens = before ++ token :: after
  | none => fault = .endOfFormula ∧ tokens = before

variable {fault : SyntaxFault} {before tokens others front : List Token}

theorem met_iff_of_some {token : Token} (named : fault.token? = some token) :
    fault.Met before tokens ↔ ∃ after, tokens = before ++ token :: after := by
  rw [Met, named]

theorem met_iff_of_none (named : fault.token? = none) :
    fault.Met before tokens ↔ fault = .endOfFormula ∧ tokens = before := by
  rw [Met, named]

/-- Tokens in front do not count. -/
theorem met_append_iff :
    fault.Met (front ++ before) others ↔ ∃ behind, others = front ++ behind ∧ fault.Met before behind := by
  cases named : fault.token? with
  | some token =>
    simp only [met_iff_of_some named]
    constructor
    · rintro ⟨after, rfl⟩
      exact ⟨_, List.append_assoc _ _ _, after, rfl⟩
    · rintro ⟨_, rfl, after, rfl⟩
      exact ⟨after, (List.append_assoc _ _ _).symm⟩
  | none =>
    simp only [met_iff_of_none named]
    constructor
    · rintro ⟨rfl, rfl⟩
      exact ⟨before, rfl, rfl, rfl⟩
    · rintro ⟨_, rfl, rfl, rfl⟩
      exact ⟨rfl, rfl⟩

/-- All tokens among which a fault is met in the same place begin in the same way. -/
theorem Met.head?_eq (h : fault.Met before tokens) (h' : fault.Met before others) :
    others.head? = tokens.head? := by
  cases named : fault.token? with
  | some token =>
    obtain ⟨after, rfl⟩ := (met_iff_of_some named).mp h
    obtain ⟨after', rfl⟩ := (met_iff_of_some named).mp h'
    cases before <;> rfl
  | none => rw [((met_iff_of_none named).mp h).2, ((met_iff_of_none named).mp h').2]

end SyntaxFault

theorem Stops.of_head? {least : ℕ} {tokens others : List Token} (same : others.head? = tokens.head?)
    (stops : Stops least tokens) : Stops least others := by
  unfold Stops
  rwa [same]

section Breaks

variable {β γ : Type} {read : List Token → Except SyntaxFault β} {read' : List Token → Except SyntaxFault γ}
  {Whole Whole' : List Token → Prop} {tokens : List Token} {fault : SyntaxFault}

/-- **Reading breaks off** at a fault: the tokens in front of it can be gone on with to something whole, and
it is the same fault whatever else it is met in, at that place. -/
def Breaks (read : List Token → Except SyntaxFault β) (Whole : List Token → Prop) (tokens : List Token)
    (fault : SyntaxFault) : Prop :=
  ∃ before, fault.Met before tokens ∧ (∀ others, fault.Met before others → read others = .error fault)
    ∧ ∃ more, (∀ token ∈ more, token.IsProper) ∧ Whole (before ++ more)

/-- **What is read inside something longer** breaks off there too, if what is in front leads to the same
place and the longer thing can be closed. -/
theorem Breaks.inside (h : Breaks read Whole tokens fault) (front : List Token)
    (leads : ∀ others, others.head? = tokens.head? → read others = .error fault →
      read' (front ++ others) = .error fault)
    (closes : ∀ inner, Whole inner → ∃ closing, (∀ token ∈ closing, token.IsProper)
      ∧ Whole' (front ++ (inner ++ closing))) :
    Breaks read' Whole' (front ++ tokens) fault := by
  obtain ⟨before, met, same, more, proper, whole⟩ := h
  obtain ⟨closing, proper', whole'⟩ := closes _ whole
  refine ⟨front ++ before, SyntaxFault.met_append_iff.mpr ⟨tokens, rfl, met⟩, fun others met' => ?_,
    more ++ closing, List.forall_mem_append.mpr ⟨proper, proper'⟩, ?_⟩
  · obtain ⟨behind, rfl, metInside⟩ := SyntaxFault.met_append_iff.mp met'
    exact leads behind (met.head?_eq metInside) (same behind metInside)
  · rwa [List.append_assoc, ← List.append_assoc before]

/-- The same where nothing has to be closed. -/
theorem Breaks.behind (h : Breaks read Whole tokens fault) (front : List Token)
    (leads : ∀ others, others.head? = tokens.head? → read others = .error fault →
      read' (front ++ others) = .error fault)
    (whole : ∀ inner, Whole inner → Whole' (front ++ inner)) :
    Breaks read' Whole' (front ++ tokens) fault :=
  h.inside front leads fun inner h => ⟨[], by simp, (List.append_nil inner).symm ▸ whole inner h⟩

/-- The same of something that is not longer. -/
theorem Breaks.mono (h : Breaks read Whole tokens fault)
    (leads : ∀ others, others.head? = tokens.head? → read others = .error fault →
      read' others = .error fault)
    (whole : ∀ inner, Whole inner → Whole' inner) : Breaks read' Whole' tokens fault :=
  h.behind [] leads whole

end Breaks

/-! ## Tokens to go on with -/

namespace Token

/-- A number that can stand for an operand. -/
def zero : Token := ⟨.number, ['0'], 0⟩

/-- The parenthesis that opens. -/
def opening : Token := ⟨.operator, ['('], 0⟩

/-- The parenthesis that closes. -/
def closing : Token := ⟨.operator, [')'], 0⟩

theorem isProper_zero : zero.IsProper :=
  ⟨['0'], List.cons_ne_nil _ _, List.forall_mem_singleton.mpr (by decide), .inl rfl⟩

theorem isProper_closing : closing.IsProper := ⟨')', rfl, rfl⟩

end Token

/-! ## Whole operands -/

/-- The tokens of a sum. -/
def IsSum (tokens : List Token) : Prop := ∃ s : SumTree, s.tokens = tokens

/-- The tokens of a product. -/
def IsProduct (tokens : List Token) : Prop := ∃ p : ProductTree, p.tokens = tokens

/-- The tokens of the rest of a product. -/
def IsProductTail (tokens : List Token) : Prop := ∃ more : ProductTail, more.tokens = tokens

/-- The tokens of the rest of a sum. -/
def IsSumTail (tokens : List Token) : Prop := ∃ more : SumTail, more.tokens = tokens

/-- The tokens of a signed operand. -/
def IsSigned (tokens : List Token) : Prop := ∃ u : SignedTree, u.tokens = tokens

/-- The tokens of a primary. -/
def IsPrimary (tokens : List Token) : Prop := ∃ p : PrimaryTree, p.tokens = tokens

/-- The tokens of a sum in parentheses, the first of these left out. -/
def IsClosed (tokens : List Token) : Prop :=
  ∃ (s : SumTree) (right : WrittenToken ')'), s.tokens ++ [right.val] = tokens

theorem IsPrimary.isSigned {tokens : List Token} (h : IsPrimary tokens) : IsSigned tokens := by
  obtain ⟨p, rfl⟩ := h
  exact ⟨.power (.base p), rfl⟩

theorem IsSigned.isProduct {tokens : List Token} (h : IsSigned tokens) : IsProduct tokens := by
  obtain ⟨u, rfl⟩ := h
  exact ⟨.of u .done, by simp [ProductTree.tokens, ProductTail.tokens]⟩

theorem IsProduct.isSum {tokens : List Token} (h : IsProduct tokens) : IsSum tokens := by
  obtain ⟨p, rfl⟩ := h
  exact ⟨.of p .done, by simp [SumTree.tokens, SumTail.tokens]⟩

theorem isPrimary_zero : IsPrimary [Token.zero] := ⟨.number ⟨Token.zero, rfl, by decide⟩, rfl⟩

theorem isProper_closedZero : ∀ token ∈ [Token.zero, Token.closing], token.IsProper :=
  List.forall_mem_cons.mpr ⟨Token.isProper_zero, List.forall_mem_singleton.mpr Token.isProper_closing⟩

theorem isClosed_zero : IsClosed [Token.zero, Token.closing] := by
  obtain ⟨s, eq⟩ := isPrimary_zero.isSigned.isProduct.isSum
  exact ⟨s, ⟨Token.closing, rfl⟩, by rw [eq]; rfl⟩

/-! ## What has been read leads to the same place -/

/-- Operators that have been read do not go on behind the last. -/
theorem stops_of_readOperators {least : ℕ} {left e : Expr} {tokens rest : List Token}
    (h : readOperators least left tokens = .ok (e, rest)) : Stops least rest := by
  by_cases stops : Stops least tokens
  · rw [readOperators_of_stops stops] at h
    cases h
    exact stops
  · obtain ⟨token, behind, op, right, mid, rfl, _, _, hright, h⟩ := exists_of_not_stops le_rfl stops h
    have shorter := length_lt_of_readExpression hright
    exact stops_of_readOperators h
termination_by tokens.length
decreasing_by
  subst_vars
  exact Nat.lt_succ_of_lt shorter

/-- **A sum that has been read is read again**, whatever else follows, if that begins in the same way. -/
theorem exists_sum_of_readExpression {tokens rest : List Token} {e : Expr}
    (h : readExpression 0 tokens = .ok (e, rest)) :
    ∃ s : SumTree, tokens = s.tokens ++ rest
      ∧ ∀ others, others.head? = rest.head? → readExpression 0 (s.tokens ++ others) = .ok (e, others) := by
  obtain ⟨s, rfl, rfl⟩ := (Derives.all _).sum (Nat.lt_succ_self _) h
  rw [readExpression_eq] at h
  obtain ⟨_, _, operators⟩ := bind_eq_ok_iff.mp h
  have stops := stops_of_readOperators operators
  refine ⟨s, rfl, fun others same => ?_⟩
  have stops' := stops.of_head? same
  rw [s.readExpression_append (Nat.zero_le 1) (stops'.mono (Nat.zero_le 2)), readOperators_of_stops stops']

/-! ## Parentheses -/

theorem breaks_parenthesis {c : Char} (parenthesis : Token.isOperator c = true) {tokens : List Token}
    {fault : SyntaxFault} (failed : readParenthesis c tokens = .error fault) :
    Breaks (readParenthesis c) (· = [⟨.operator, [c], 0⟩]) tokens fault := by
  have proper : Token.IsProper ⟨.operator, [c], 0⟩ := ⟨c, rfl, parenthesis⟩
  have completes : ∃ more : List Token, (∀ token ∈ more, token.IsProper)
      ∧ [] ++ more = [⟨.operator, [c], 0⟩] := ⟨_, List.forall_mem_singleton.mpr proper, rfl⟩
  cases tokens with
  | nil =>
    rw [readParenthesis_nil] at failed
    cases failed
    exact ⟨[], ⟨rfl, rfl⟩, fun others met => met.2 ▸ readParenthesis_nil, completes⟩
  | cons token rest =>
    rw [readParenthesis_cons] at failed
    split_ifs at failed with written
    cases failed
    refine ⟨[], ⟨rest, rfl⟩, ?_, completes⟩
    rintro others ⟨after, rfl⟩
    rw [List.nil_append, readParenthesis_cons, if_neg written]

/-- Reads a sum and the parenthesis behind it. -/
def readClosed {β : Type} (finish : Expr → β) (tokens : List Token) : Except SyntaxFault (β × List Token) :=
  readExpression 0 tokens >>= fun r => readParenthesis ')' r.2 >>= fun after => .ok (finish r.1, after)

/-- What is read from fewer than `n` tokens may break off, at each precedence. -/
structure BreaksBelow (n : ℕ) : Prop where
  /-- With all operators it is a sum that breaks off. -/
  sum : ∀ {tokens fault}, tokens.length < n → readExpression 0 tokens = .error fault →
    Breaks (readExpression 0) IsSum tokens fault
  /-- Without those of sums it is a product. -/
  product : ∀ {tokens fault}, tokens.length < n → readExpression 2 tokens = .error fault →
    Breaks (readExpression 2) IsProduct tokens fault
  /-- Without those of products it is a signed operand. -/
  signed : ∀ {least tokens fault}, 3 ≤ least → least ≤ 4 → tokens.length < n →
    readExpression least tokens = .error fault → Breaks (readExpression least) IsSigned tokens fault

namespace BreaksBelow

variable {n : ℕ} {fault : SyntaxFault}

/-- A sum in parentheses breaks off inside, or where it should be closed. -/
theorem closed (ih : BreaksBelow n) {β : Type} {finish : Expr → β} {tokens : List Token}
    (len : tokens.length < n) (failed : readClosed finish tokens = .error fault) :
    Breaks (readClosed finish) IsClosed tokens fault := by
  obtain inner | ⟨⟨e, rest⟩, inner, shut⟩ := bind_eq_error_iff.mp failed
  · refine (ih.sum len inner).inside [] (fun others _ h => ?_) fun ts whole => ?_
    · exact bind_eq_error_iff.mpr (.inl h)
    · obtain ⟨s, rfl⟩ := whole
      exact ⟨[Token.closing], List.forall_mem_singleton.mpr Token.isProper_closing, s,
        ⟨Token.closing, rfl⟩, rfl⟩
  · obtain ⟨s, rfl, again⟩ := exists_sum_of_readExpression inner
    obtain parenthesis | ⟨_, _, done⟩ := bind_eq_error_iff.mp shut
    · refine (breaks_parenthesis rfl parenthesis).behind s.tokens (fun others same h => ?_)
        fun ts whole => ?_
      · exact bind_eq_error_iff.mpr (.inr ⟨_, again others same, bind_eq_error_iff.mpr (.inl h)⟩)
      · subst whole
        exact ⟨s, ⟨Token.closing, rfl⟩, rfl⟩
    · exact absurd done nofun

/-- A function breaks off at its opening parenthesis or behind that. -/
theorem function (ih : BreaksBelow n) {token : Token} {behind : List Token} {f : UnaryFunction}
    (len : behind.length < n) (notMinus : token.lexeme ≠ ['-']) (kind : token.kind = .name)
    (named : UnaryFunction.ofName? token.lexeme = some f)
    (failed : readSigned (token :: behind) = .error fault) :
    Breaks readSigned IsPrimary (token :: behind) fault := by
  have reads : ∀ others, readSigned (token :: others)
      = readParenthesis '(' others >>= readClosed (.apply f) := by
    intro others
    rw [readSigned_primary notMinus, readPrimary_function kind named]
    rfl
  have applies : ∀ (left : WrittenToken '(') ts, IsClosed ts → IsPrimary (token :: left.val :: ts) := by
    rintro left _ ⟨s, right, rfl⟩
    exact ⟨.apply ⟨token, f, kind, UnaryFunction.ofName?_eq_some_iff.mp named⟩ left s right, rfl⟩
  rw [reads] at failed
  obtain opened | ⟨inside, opened, shut⟩ := bind_eq_error_iff.mp failed
  · refine (breaks_parenthesis rfl opened).inside [token] (fun others _ h => ?_) fun ts whole => ?_
    · exact (reads others).trans (bind_eq_error_iff.mpr (.inl h))
    · subst whole
      exact ⟨[Token.zero, Token.closing], isProper_closedZero, applies ⟨Token.opening, rfl⟩ _ isClosed_zero⟩
  · obtain ⟨left, rfl⟩ := exists_of_readParenthesis opened
    refine (ih.closed (Nat.lt_of_succ_lt len) shut).behind [token, left.val]
      (fun others _ h => ?_) fun ts whole => ?_
    · exact (reads _).trans (bind_eq_error_iff.mpr (.inr ⟨others, left.readParenthesis others, h⟩))
    · exact applies left ts whole

/-- **A primary breaks off** at its first token or inside its parentheses. -/
theorem primary (ih : BreaksBelow n) {token : Token} {behind : List Token} (len : behind.length < n)
    (notMinus : token.lexeme ≠ ['-']) (failed : readSigned (token :: behind) = .error fault) :
    Breaks readSigned IsPrimary (token :: behind) fault := by
  have reads : ∀ others, readSigned (token :: others) = readPrimary token others := fun others =>
    readSigned_primary notMinus
  cases kind : token.kind with
  | number =>
    rw [reads, readPrimary_number kind] at failed
    exact absurd failed nofun
  | name =>
    cases named : UnaryFunction.ofName? token.lexeme with
    | none =>
      rw [reads, readPrimary_name kind named] at failed
      exact absurd failed nofun
    | some f => exact ih.function len notMinus kind named failed
  | operator =>
    by_cases written : token.lexeme = ['(']
    · have grouped : ∀ others, readSigned (token :: others) = readClosed id others := fun others =>
        (reads others).trans (readPrimary_group kind written)
      rw [grouped] at failed
      refine (ih.closed len failed).behind [token] (fun others _ h => ?_) fun ts whole => ?_
      · rw [List.singleton_append, grouped, h]
      · obtain ⟨s, right, rfl⟩ := whole
        exact ⟨.group ⟨token, kind, written⟩ s right, rfl⟩
    · rw [reads, readPrimary_operator kind written] at failed
      cases failed
      refine ⟨[], ⟨behind, rfl⟩, ?_, [Token.zero], List.forall_mem_singleton.mpr Token.isProper_zero,
        isPrimary_zero⟩
      rintro _ ⟨after, rfl⟩
      exact (reads after).trans (readPrimary_operator kind written)

/-- **A signed operand breaks off** where there is none, behind its minus, or as a primary. -/
theorem signedOperand (ih : BreaksBelow n) {tokens : List Token} (len : tokens.length ≤ n)
    (failed : readSigned tokens = .error fault) : Breaks readSigned IsSigned tokens fault := by
  cases tokens with
  | nil =>
    rw [readSigned_nil] at failed
    cases failed
    exact ⟨[], ⟨rfl, rfl⟩, fun others met => met.2 ▸ readSigned_nil, [Token.zero],
      List.forall_mem_singleton.mpr Token.isProper_zero, isPrimary_zero.isSigned⟩
  | cons token behind =>
    by_cases minus : token.lexeme = ['-']
    · rw [readSigned_minus minus] at failed
      obtain operand | ⟨_, _, done⟩ := bind_eq_error_iff.mp failed
      · refine (ih.signed le_rfl (Nat.le_succ 3) len operand).behind [token]
          (fun others _ h => ?_) fun ts whole => ?_
        · exact (readSigned_minus minus).trans (bind_eq_error_iff.mpr (.inl h))
        · obtain ⟨u, rfl⟩ := whole
          exact ⟨.neg ⟨token, minus⟩ u, rfl⟩
      · exact absurd done nofun
    · exact (ih.primary len minus failed).mono (fun _ _ h => h) fun _ => IsPrimary.isSigned

/-- **An expression breaks off in its first operand, or behind it**, where that does not go on with a
`^`. -/
theorem first (ih : BreaksBelow n) {least : ℕ} (le : least ≤ 4) {tokens : List Token}
    (len : tokens.length ≤ n) (failed : readExpression least tokens = .error fault) :
    Breaks (readExpression least) IsSigned tokens fault
      ∨ ∃ (u : SignedTree) (mid : List Token), tokens = u.tokens ++ mid ∧ Stops 3 mid
        ∧ mid.length < tokens.length ∧ readOperators least u.expr mid = .error fault := by
  rw [readExpression_eq] at failed
  obtain operand | ⟨⟨left, mid⟩, operand, failed⟩ := bind_eq_error_iff.mp failed
  · refine .inl ((ih.signedOperand len operand).mono (fun others _ h => ?_) fun _ whole => whole)
    exact (readExpression_eq _ _).trans (bind_eq_error_iff.mpr (.inl h))
  have short := length_lt_of_readSigned operand
  obtain ⟨u, rfl, rfl, stops⟩ | ⟨p, rfl, rfl⟩ := (Derives.all _).exists_of_readSigned le_rfl operand
  · exact .inr ⟨u, mid, rfl, stops, short, failed⟩
  by_cases stops : Stops 4 mid
  · exact .inr ⟨.power (.base p), mid, rfl, stops.three_of_four, short, failed⟩
  -- no operator has the precedence of the minus, so this one is a power's
  obtain ⟨caret, behind, op, rfl, stands, binds⟩ := exists_operator_of_not_stops stops
  have family := BinaryOperator.exponential_iff.mpr ((Nat.le_succ 3).trans binds)
  have written := BinaryOperator.ofToken?_eq_some_iff.mp stands
  rw [List.length_cons] at short
  have reads : ∀ others, readExpression least ((p.tokens ++ [caret]) ++ others)
      = readExpression 4 others >>= fun r => readOperators least (.binary op p.expr r.1) r.2 := by
    intro others
    rw [List.append_assoc, readExpression_eq, p.readSigned_append, ← family.rightPrecedence_eq]
    exact readOperators_of_ofToken? stands (le.trans binds)
  rw [readOperators_of_ofToken? stands (le.trans binds), family.rightPrecedence_eq] at failed
  obtain exponent | ⟨⟨right, mid⟩, exponent, failed⟩ := bind_eq_error_iff.mp failed
  · rw [List.append_cons]
    refine .inl ((ih.signed (Nat.le_succ 3) le_rfl (by omega) exponent).behind _ (fun others _ h => ?_)
      fun ts whole => ?_)
    · exact (reads others).trans (bind_eq_error_iff.mpr (.inl h))
    · obtain ⟨u, rfl⟩ := whole
      exact ⟨.power (.raised p ⟨caret, op, family, written⟩ u), List.append_cons p.tokens caret u.tokens⟩
  · have shorter := length_lt_of_readExpression exponent
    obtain ⟨u, rfl, rfl, stops'⟩ :=
      (Derives.all _).signed (Nat.le_succ 3) (Nat.le_refl 4) (Nat.lt_succ_self _) exponent
    refine .inr ⟨.power (.raised p ⟨caret, op, family, written⟩ u), mid, ?_, stops', by omega, failed⟩
    rw [SignedTree.tokens, PowerTree.tokens, List.append_assoc, List.cons_append]

/-- **What a product goes on with breaks off, or what comes behind it.** -/
theorem productTail (ih : BreaksBelow n) {least : ℕ} (le : least ≤ 2) {left : Expr} {tokens : List Token}
    (len : tokens.length ≤ n) (stops : Stops 3 tokens)
    (failed : readOperators least left tokens = .error fault) :
    Breaks (readOperators least left) IsProductTail tokens fault
      ∨ ∃ (more : ProductTail) (mid : List Token), tokens = more.tokens ++ mid ∧ Stops 2 mid
        ∧ mid.length ≤ tokens.length ∧ readOperators least (more.onto left) mid = .error fault := by
  by_cases stops₂ : Stops 2 tokens
  · exact .inr ⟨.done, tokens, rfl, stops₂, le_rfl, failed⟩
  obtain ⟨token, behind, op, rfl, stands, binds⟩ := exists_operator_of_not_stops stops₂
  have family : op.Multiplicative :=
    BinaryOperator.multiplicative_iff.mpr ⟨binds, Stops.cons_iff.mp stops op stands⟩
  have written := BinaryOperator.ofToken?_eq_some_iff.mp stands
  have reads : ∀ others, readOperators least left (token :: others)
      = readExpression 3 others >>= fun r => readOperators least (.binary op left r.1) r.2 := by
    intro others
    rw [← family.rightPrecedence_eq]
    exact readOperators_of_ofToken? stands (le.trans binds)
  rw [List.length_cons] at len
  rw [reads] at failed
  obtain operand | ⟨⟨right, mid⟩, operand, failed⟩ := bind_eq_error_iff.mp failed
  · refine .inl ((ih.signed le_rfl (Nat.le_succ 3) len operand).behind [token]
      (fun others _ h => ?_) fun ts whole => ?_)
    · exact (reads others).trans (bind_eq_error_iff.mpr (.inl h))
    · obtain ⟨u, rfl⟩ := whole
      exact ⟨.next ⟨token, op, family, written⟩ u .done, congrArg (token :: ·) (List.append_nil u.tokens)⟩
  · have shorter := length_lt_of_readExpression operand
    obtain ⟨u, rfl, rfl, stops₃⟩ :=
      (Derives.all _).signed le_rfl (Nat.le_succ 3) (Nat.lt_succ_self _) operand
    obtain inside | ⟨more, last, rfl, stops', shorter', failed⟩ :=
      productTail ih le (by omega) stops₃ failed
    · refine .inl (inside.behind (token :: u.tokens) (fun others same h => ?_) fun ts whole => ?_)
      · -- what begins as the rest did stops the operand in the same place
        have stops' := stops₃.of_head? same
        rw [List.cons_append, reads, u.readExpression_append (Nat.le_succ 3) stops',
          readOperators_of_stops stops']
        exact h
      · obtain ⟨more, rfl⟩ := whole
        exact ⟨.next ⟨token, op, family, written⟩ u more, rfl⟩
    · refine .inr ⟨.next ⟨token, op, family, written⟩ u more, last, ?_, stops', ?_, failed⟩
      · rw [ProductTail.tokens, List.cons_append, List.append_assoc]
      · rw [List.length_cons]
        omega
termination_by tokens.length

/-- **What a sum goes on with breaks off**: behind that there are no operators to read. -/
theorem sumTail (ih : BreaksBelow n) {left : Expr} {tokens : List Token} (len : tokens.length ≤ n)
    (stops : Stops 2 tokens) (failed : readOperators 0 left tokens = .error fault) :
    Breaks (readOperators 0 left) IsSumTail tokens fault := by
  by_cases stops₀ : Stops 0 tokens
  · rw [readOperators_of_stops stops₀] at failed
    exact absurd failed nofun
  obtain ⟨token, behind, op, rfl, stands, binds⟩ := exists_operator_of_not_stops stops₀
  have family := BinaryOperator.additive_iff.mpr (Stops.cons_iff.mp stops op stands)
  have written := BinaryOperator.ofToken?_eq_some_iff.mp stands
  have reads : ∀ others, readOperators 0 left (token :: others)
      = readExpression 2 others >>= fun r => readOperators 0 (.binary op left r.1) r.2 := by
    intro others
    rw [← family.rightPrecedence_eq]
    exact readOperators_of_ofToken? stands binds
  rw [List.length_cons] at len
  rw [reads] at failed
  obtain operand | ⟨⟨right, mid⟩, operand, failed⟩ := bind_eq_error_iff.mp failed
  · refine (ih.product len operand).behind [token] (fun others _ h => ?_) fun ts whole => ?_
    · exact (reads others).trans (bind_eq_error_iff.mpr (.inl h))
    · obtain ⟨p, rfl⟩ := whole
      exact ⟨.next ⟨token, op, family, written⟩ p .done, congrArg (token :: ·) (List.append_nil p.tokens)⟩
  · have shorter := length_lt_of_readExpression operand
    obtain ⟨p, rfl, rfl, stops₂⟩ := (Derives.all _).product (Nat.lt_succ_self _) operand
    refine (sumTail ih (by omega) stops₂ failed).behind (token :: p.tokens) (fun others same h => ?_)
      fun ts whole => ?_
    · have stops' := stops₂.of_head? same
      rw [List.cons_append, reads, p.readExpression_append le_rfl (stops'.mono (Nat.le_succ 2)),
        readOperators_of_stops stops']
      exact h
    · obtain ⟨more, rfl⟩ := whole
      exact ⟨.next ⟨token, op, family, written⟩ p more, rfl⟩
termination_by tokens.length

/-- **An expression breaks off in its first product, or behind it.** -/
theorem firstProduct (ih : BreaksBelow n) {least : ℕ} (le : least ≤ 2) {tokens : List Token}
    (len : tokens.length ≤ n) (failed : readExpression least tokens = .error fault) :
    Breaks (readExpression least) IsProduct tokens fault
      ∨ ∃ (p : ProductTree) (mid : List Token), tokens = p.tokens ++ mid ∧ Stops 2 mid
        ∧ mid.length ≤ n ∧ readOperators least p.expr mid = .error fault := by
  have le' : least ≤ 4 := le.trans (by decide)
  obtain first | ⟨u, mid, rfl, stops, short, failed⟩ := ih.first le' len failed
  · exact .inl (first.mono (fun _ _ h => h) fun _ => IsSigned.isProduct)
  obtain tail | ⟨more, last, rfl, stops', shorter, failed⟩ := ih.productTail le (by omega) stops failed
  · refine .inl (tail.behind u.tokens (fun others same h => ?_) fun ts whole => ?_)
    · rw [u.readExpression_append le' (stops.of_head? same), h]
    · obtain ⟨more, rfl⟩ := whole
      exact ⟨.of u more, rfl⟩
  · refine .inr ⟨.of u more, last, ?_, stops', by omega, failed⟩
    rw [ProductTree.tokens, List.append_assoc]

/-- **One more token**: the step of the induction. -/
theorem succ (ih : BreaksBelow n) : BreaksBelow (n + 1) where
  sum := by
    intro tokens fault len failed
    obtain product | ⟨p, mid, rfl, stops, short, failed⟩ :=
      ih.firstProduct (Nat.zero_le 2) (Nat.le_of_lt_succ len) failed
    · exact product.mono (fun _ _ h => h) fun _ => IsProduct.isSum
    · refine (ih.sumTail short stops failed).behind p.tokens (fun others same h => ?_) fun ts whole => ?_
      · have stops' := stops.of_head? same
        rw [p.readExpression_append (Nat.zero_le 2) (stops'.mono (Nat.le_succ 2)), h]
      · obtain ⟨more, rfl⟩ := whole
        exact ⟨.of p more, rfl⟩
  product := by
    intro tokens fault len failed
    obtain product | ⟨p, mid, rfl, stops, _, failed⟩ :=
      ih.firstProduct le_rfl (Nat.le_of_lt_succ len) failed
    · exact product
    · rw [readOperators_of_stops stops] at failed
      exact absurd failed nofun
  signed := by
    intro least tokens fault le le' len failed
    obtain first | ⟨u, mid, rfl, stops, _, failed⟩ := ih.first le' (Nat.le_of_lt_succ len) failed
    · exact first
    · rw [readOperators_of_stops (stops.mono le)] at failed
      exact absurd failed nofun

/-- **Whatever cannot be read breaks off**, however many tokens there are. -/
theorem all : ∀ n, BreaksBelow n
  | 0 => ⟨fun len => absurd len (Nat.not_lt_zero _), fun len => absurd len (Nat.not_lt_zero _),
      fun _ _ len => absurd len (Nat.not_lt_zero _)⟩
  | n + 1 => (all n).succ

end BreaksBelow

/-! ## Formulas -/

/-- What a formula is read as begins with an expression. -/
theorem ofTokens_of_ne_nil {tokens : List Token} (some : tokens ≠ []) :
    ofTokens tokens = readExpression 0 tokens >>= fun r =>
      match r.2 with
      | [] => .ok r.1
      | stray :: _ => .error (.unexpected stray) := by
  cases tokens with
  | nil => exact absurd rfl some
  | cons token rest => exact ofTokens_cons token rest

/-- **Where reading a formula fails, it breaks off.** -/
theorem ofTokens_breaks {tokens : List Token} {fault : SyntaxFault} (some : tokens ≠ [])
    (failed : ofTokens tokens = .error fault) : Breaks ofTokens IsSum tokens fault := by
  rw [ofTokens_of_ne_nil some] at failed
  obtain unread | ⟨⟨e, rest⟩, read, trailing⟩ := bind_eq_error_iff.mp failed
  · refine ((BreaksBelow.all _).sum (Nat.lt_succ_self _) unread).mono (fun others same h => ?_)
      fun _ whole => whole
    have some' : others ≠ [] := by
      rintro rfl
      exact some (List.head?_eq_none_iff.mp same.symm)
    exact (ofTokens_of_ne_nil some').trans (bind_eq_error_iff.mpr (.inl h))
  · cases rest with
    | nil => exact absurd trailing nofun
    | cons stray behind =>
      cases trailing
      obtain ⟨s, rfl, again⟩ := exists_sum_of_readExpression read
      refine ⟨s.tokens, ⟨behind, rfl⟩, ?_, [], by simp, s, (List.append_nil _).symm⟩
      rintro _ ⟨after, rfl⟩
      rw [ofTokens_of_ne_nil (by simp), again (stray :: after) rfl]
      rfl

end WhistledSpeech
