import Mathlib
import WhistledSpeech.Proofs.Formula.Breaking
import WhistledSpeech.Proofs.Formula.Lexing

/-!
# Faults are found as early as can be

A text that can be cut into tokens but not be read as a formula has a fault at one of them, or at their
end. The fault is at the earliest place at which anybody could see it: what is in front of the token it
names can be gone on with to a formula, and no formula begins with the tokens up to and including that one
(`Expr.parse_earliest`). At the end of the tokens the whole text can be gone on with.

Formulas that begin with given tokens need not have them in the same places, since there may be other
white space between them. So the reading has to be indifferent to the places of tokens
(`IsSum.of_content`), and a text goes on with white space in front of what completes it.
-/

namespace WhistledSpeech

/-! ## Where the tokens are does not matter -/

section Content

variable {token : Token}

theorem Token.content_eq_iff {other : Token} :
    token.content = other.content ↔ token.kind = other.kind ∧ token.lexeme = other.lexeme :=
  Prod.mk_inj

theorem OperatorToken.exists_of_content {family : BinaryOperator → Prop} (op : OperatorToken family)
    (same : token.content = op.token.content) : ∃ op' : OperatorToken family, op'.token = token := by
  obtain ⟨kind, lexeme⟩ := Token.content_eq_iff.mp same
  exact ⟨⟨token, op.operator, op.mem, kind.trans op.stands.1, lexeme.trans op.stands.2⟩, rfl⟩

theorem FunctionToken.exists_of_content (f : FunctionToken) (same : token.content = f.token.content) :
    ∃ f' : FunctionToken, f'.token = token := by
  obtain ⟨kind, lexeme⟩ := Token.content_eq_iff.mp same
  exact ⟨⟨token, f.function, kind.trans f.kind_eq, lexeme.trans f.lexeme_eq⟩, rfl⟩

mutual

/-- **Tokens with the contents of a sum are a sum.** One induction over all the trees. -/
theorem SumTree.exists_of_content (s : SumTree) {tokens : List Token}
    (same : tokens.map Token.content = s.tokens.map Token.content) :
    ∃ s' : SumTree, s'.tokens = tokens := by
  match s with
  | .of first more =>
    rw [SumTree.tokens, List.map_append] at same
    obtain ⟨_, _, rfl, near, far⟩ := List.map_eq_append_iff.mp same
    obtain ⟨first', rfl⟩ := ProductTree.exists_of_content first near
    obtain ⟨more', rfl⟩ := SumTail.exists_of_content more far
    exact ⟨.of first' more', rfl⟩
termination_by structural s

theorem SumTail.exists_of_content (t : SumTail) {tokens : List Token}
    (same : tokens.map Token.content = t.tokens.map Token.content) :
    ∃ t' : SumTail, t'.tokens = tokens := by
  match t with
  | .done => exact ⟨.done, (List.map_eq_nil_iff.mp same).symm⟩
  | .next op operand more =>
    rw [SumTail.tokens, List.map_cons, List.map_append] at same
    obtain ⟨_, _, rfl, sign, behind⟩ := List.map_eq_cons_iff.mp same
    obtain ⟨_, _, rfl, near, far⟩ := List.map_eq_append_iff.mp behind
    obtain ⟨op', rfl⟩ := op.exists_of_content sign
    obtain ⟨operand', rfl⟩ := ProductTree.exists_of_content operand near
    obtain ⟨more', rfl⟩ := SumTail.exists_of_content more far
    exact ⟨.next op' operand' more', rfl⟩
termination_by structural t

theorem ProductTree.exists_of_content (p : ProductTree) {tokens : List Token}
    (same : tokens.map Token.content = p.tokens.map Token.content) :
    ∃ p' : ProductTree, p'.tokens = tokens := by
  match p with
  | .of first more =>
    rw [ProductTree.tokens, List.map_append] at same
    obtain ⟨_, _, rfl, near, far⟩ := List.map_eq_append_iff.mp same
    obtain ⟨first', rfl⟩ := SignedTree.exists_of_content first near
    obtain ⟨more', rfl⟩ := ProductTail.exists_of_content more far
    exact ⟨.of first' more', rfl⟩
termination_by structural p

theorem ProductTail.exists_of_content (t : ProductTail) {tokens : List Token}
    (same : tokens.map Token.content = t.tokens.map Token.content) :
    ∃ t' : ProductTail, t'.tokens = tokens := by
  match t with
  | .done => exact ⟨.done, (List.map_eq_nil_iff.mp same).symm⟩
  | .next op operand more =>
    rw [ProductTail.tokens, List.map_cons, List.map_append] at same
    obtain ⟨_, _, rfl, sign, behind⟩ := List.map_eq_cons_iff.mp same
    obtain ⟨_, _, rfl, near, far⟩ := List.map_eq_append_iff.mp behind
    obtain ⟨op', rfl⟩ := op.exists_of_content sign
    obtain ⟨operand', rfl⟩ := SignedTree.exists_of_content operand near
    obtain ⟨more', rfl⟩ := ProductTail.exists_of_content more far
    exact ⟨.next op' operand' more', rfl⟩
termination_by structural t

theorem SignedTree.exists_of_content (u : SignedTree) {tokens : List Token}
    (same : tokens.map Token.content = u.tokens.map Token.content) :
    ∃ u' : SignedTree, u'.tokens = tokens := by
  match u with
  | .neg minus operand =>
    rw [SignedTree.tokens, List.map_cons] at same
    obtain ⟨token, _, rfl, sign, behind⟩ := List.map_eq_cons_iff.mp same
    obtain ⟨operand', rfl⟩ := SignedTree.exists_of_content operand behind
    exact ⟨.neg ⟨token, (Token.content_eq_iff.mp sign).2.trans minus.property⟩ operand', rfl⟩
  | .power p =>
    obtain ⟨p', rfl⟩ := PowerTree.exists_of_content p same
    exact ⟨.power p', rfl⟩
termination_by structural u

theorem PowerTree.exists_of_content (p : PowerTree) {tokens : List Token}
    (same : tokens.map Token.content = p.tokens.map Token.content) :
    ∃ p' : PowerTree, p'.tokens = tokens := by
  match p with
  | .base q =>
    obtain ⟨q', rfl⟩ := PrimaryTree.exists_of_content q same
    exact ⟨.base q', rfl⟩
  | .raised q caret exponent =>
    rw [PowerTree.tokens, List.map_append, List.map_cons] at same
    obtain ⟨_, _, rfl, near, behind⟩ := List.map_eq_append_iff.mp same
    obtain ⟨_, _, rfl, sign, far⟩ := List.map_eq_cons_iff.mp behind
    obtain ⟨q', rfl⟩ := PrimaryTree.exists_of_content q near
    obtain ⟨caret', rfl⟩ := caret.exists_of_content sign
    obtain ⟨exponent', rfl⟩ := SignedTree.exists_of_content exponent far
    exact ⟨.raised q' caret' exponent', rfl⟩
termination_by structural p

theorem PrimaryTree.exists_of_content (p : PrimaryTree) {tokens : List Token}
    (same : tokens.map Token.content = p.tokens.map Token.content) :
    ∃ p' : PrimaryTree, p'.tokens = tokens := by
  match p with
  | .number leaf =>
    obtain ⟨token, _, rfl, first, rest⟩ := List.map_eq_cons_iff.mp same
    obtain ⟨kind, lexeme⟩ := Token.content_eq_iff.mp first
    refine ⟨.number ⟨token, ?_⟩, congrArg (token :: ·) (List.map_eq_nil_iff.mp rest).symm⟩
    rw [kind, lexeme]
    exact leaf.property
  | .name leaf =>
    obtain ⟨token, _, rfl, first, rest⟩ := List.map_eq_cons_iff.mp same
    obtain ⟨kind, lexeme⟩ := Token.content_eq_iff.mp first
    refine ⟨.name ⟨token, ?_⟩, congrArg (token :: ·) (List.map_eq_nil_iff.mp rest).symm⟩
    rw [kind, lexeme]
    exact leaf.property
  | .apply f left argument right =>
    rw [PrimaryTree.tokens, List.map_cons, List.map_cons, List.map_append] at same
    obtain ⟨_, _, rfl, named, behind⟩ := List.map_eq_cons_iff.mp same
    obtain ⟨opening, _, rfl, opens, closed⟩ := List.map_eq_cons_iff.mp behind
    obtain ⟨_, _, rfl, inside, last⟩ := List.map_eq_append_iff.mp closed
    obtain ⟨closing, _, rfl, closes, rest⟩ := List.map_eq_cons_iff.mp last
    obtain rfl := List.map_eq_nil_iff.mp rest
    obtain ⟨f', rfl⟩ := f.exists_of_content named
    obtain ⟨argument', rfl⟩ := SumTree.exists_of_content argument inside
    exact ⟨.apply f' ⟨opening, (Token.content_eq_iff.mp opens).2.trans left.property⟩ argument'
      ⟨closing, (Token.content_eq_iff.mp closes).2.trans right.property⟩, rfl⟩
  | .group left inner right =>
    rw [PrimaryTree.tokens, List.map_cons, List.map_append] at same
    obtain ⟨opening, _, rfl, opens, closed⟩ := List.map_eq_cons_iff.mp same
    obtain ⟨_, _, rfl, inside, last⟩ := List.map_eq_append_iff.mp closed
    obtain ⟨closing, _, rfl, closes, rest⟩ := List.map_eq_cons_iff.mp last
    obtain rfl := List.map_eq_nil_iff.mp rest
    obtain ⟨kind, lexeme⟩ := Token.content_eq_iff.mp opens
    obtain ⟨inner', rfl⟩ := SumTree.exists_of_content inner inside
    exact ⟨.group ⟨opening, kind.trans left.property.1, lexeme.trans left.property.2⟩ inner'
      ⟨closing, (Token.content_eq_iff.mp closes).2.trans right.property⟩, rfl⟩
termination_by structural p

end

/-- **Where the tokens of a sum are does not matter.** -/
theorem IsSum.of_content {tokens others : List Token} (h : IsSum tokens)
    (same : others.map Token.content = tokens.map Token.content) : IsSum others := by
  obtain ⟨s, rfl⟩ := h
  exact s.exists_of_content same

end Content

namespace Expr

/-! ## Texts that are formulas, and how they begin -/

/-- **A text is a formula** if it can be read. -/
def IsFormula (text : String) : Prop := ∃ e, parse text = .ok e

/-- **A text begins with some tokens** if it can be cut, and the first tokens have those contents. -/
def BeginsWith (text : String) (tokens : List Token) : Prop :=
  ∃ all, Token.lex text.toList = .ok all ∧ tokens.map Token.content <+: all.map Token.content

theorem parse_of_lex {text : String} {tokens : List Token} (cut : Token.lex text.toList = .ok tokens) :
    parse text = ofTokens tokens := by
  rw [parse, cut]

/-- Tokens can be read exactly if they are a sum. -/
theorem exists_ofTokens_iff {tokens : List Token} : (∃ e, ofTokens tokens = .ok e) ↔ IsSum tokens := by
  simp only [ofTokens_eq_ok_iff]
  exact ⟨fun ⟨_, s, eq, _⟩ => ⟨s, eq⟩, fun ⟨s, eq⟩ => ⟨s.expr, s, eq, rfl⟩⟩

/-- **A text can be gone on with** if its tokens can be. -/
theorem exists_isFormula_append {front : List Char} {before more : List Token}
    (lexes : Token.Lexes 0 front before []) (proper : ∀ token ∈ more, token.IsProper)
    (whole : IsSum (before ++ more)) :
    ∃ behind, IsFormula (String.ofList front ++ behind)
      ∧ BeginsWith (String.ofList front ++ behind) before := by
  have blank : Token.IsLexeme none [' '] :=
    ⟨List.cons_ne_nil _ _, List.forall_mem_singleton.mpr (by decide)⟩
  obtain ⟨others, apart, same⟩ :=
    Token.exists_lexes_spaced (fun _ => blank) proper (0 + front.length + 1)
  obtain ⟨behind, cut⟩ : ∃ behind,
      Token.lex (String.ofList front ++ behind).toList = .ok (before ++ others) := by
    refine ⟨String.ofList (' ' :: Token.spaced (fun _ => [' ']) (more.map Token.lexeme)), ?_⟩
    rw [String.toList_append, String.toList_ofList, String.toList_ofList]
    exact Token.lexFrom_eq_ok_iff.mpr
      (lexes.append (by rintro _ ⟨⟩; rfl) (apart.cons_blank (rfl : Text.isBlank ' ' = true)))
  refine ⟨behind, ?_, _, cut, ?_⟩
  · rw [IsFormula, parse_of_lex cut]
    refine exists_ofTokens_iff.mpr (whole.of_content ?_)
    rw [List.map_append, List.map_append, same]
  · rw [List.map_append]
    exact List.prefix_append _ _

/-- **No formula begins with tokens that cannot be gone on with.** -/
theorem not_isFormula {tokens : List Token} {formula : String} (begins : BeginsWith formula tokens)
    (never : ∀ more, ¬ IsSum (tokens ++ more)) : ¬ IsFormula formula := by
  rintro ⟨e, read⟩
  obtain ⟨all, cut, first⟩ := begins
  obtain ⟨_, split⟩ := first
  obtain ⟨front, behind, rfl, same, _⟩ := List.map_eq_append_iff.mp split.symm
  rw [parse_of_lex cut] at read
  refine never behind ((exists_ofTokens_iff.mp ⟨e, read⟩).of_content ?_)
  rw [List.map_append, List.map_append, same]

/-! ## The earliest fault -/

/-- **Faults are found as early as can be.** A text with tokens that is no formula has its fault at one of
them or at their end. If it is at their end, the text can be gone on with to a formula that begins with
these tokens. If it is at a token, the text in front of that one can be gone on with in the same way, and no
formula at all begins with the tokens up to and including it. -/
theorem parse_earliest {text : String} {tokens : List Token} {fault : SyntaxFault}
    (cut : Token.lex text.toList = .ok tokens) (nonempty : tokens ≠ [])
    (failed : parse text = .error fault) :
    (fault = .endOfFormula ∨ ∃ token, fault.token? = some token)
    ∧ (fault = .endOfFormula → ∃ more, IsFormula (text ++ more) ∧ BeginsWith (text ++ more) tokens)
    ∧ ∀ token, fault.token? = some token →
        token ∈ tokens
        ∧ ∀ before after, tokens = before ++ token :: after →
            (∃ more, IsFormula (String.ofList (text.toList.take token.position) ++ more)
              ∧ BeginsWith (String.ofList (text.toList.take token.position) ++ more) before)
            ∧ ∀ formula, BeginsWith formula (before ++ [token]) → ¬ IsFormula formula := by
  have lexes : Token.Lexes 0 text.toList tokens [] := Token.lexFrom_eq_ok_iff.mp cut
  rw [parse_of_lex cut] at failed
  obtain ⟨before, met, same, more, proper, whole⟩ := ofTokens_breaks nonempty failed
  cases named : fault.token? with
  | none =>
    obtain ⟨rfl, rfl⟩ := (SyntaxFault.met_iff_of_none named).mp met
    refine ⟨.inl rfl, fun _ => ?_, nofun⟩
    have goesOn := exists_isFormula_append lexes proper whole
    rwa [String.ofList_toList] at goesOn
  | some token =>
    obtain ⟨after, rfl⟩ := (SyntaxFault.met_iff_of_some named).mp met
    refine ⟨.inr ⟨token, rfl⟩, ?_, ?_⟩
    · rintro rfl
      exact absurd named nofun
    rintro _ ⟨⟩
    refine ⟨by simp, fun before' after' split => ?_⟩
    -- no token is there twice, so there is one way only to split them at this one
    have once := (List.nodup_cons.mp (List.nodup_middle.mp lexes.nodup)).1
    obtain ⟨rfl, _, rfl⟩ := (List.append_cons_inj_of_notMem (mt (List.mem_append_left _) once)
      (mt (List.mem_append_right _) once)).mp split
    obtain ⟨front, _, eq, there, _, _, lexes⟩ := lexes.stands_behind
    rw [Nat.zero_add] at there
    refine ⟨?_, fun formula begins => not_isFormula begins fun others whole' => ?_⟩
    · rw [eq, there, List.take_left]
      exact exists_isFormula_append lexes proper whole
    · rw [List.append_assoc] at whole'
      obtain ⟨e, read⟩ := exists_ofTokens_iff.mpr whole'
      exact absurd ((same _ ((SyntaxFault.met_iff_of_some named).mpr ⟨others, rfl⟩)).symm.trans read) nofun

/-- In `2*)` it is the parenthesis: `2*` can be gone on with, and nothing begins with all three. -/
theorem parse_earliest_strayParenthesis :
    (∃ more, IsFormula ("2*" ++ more)
      ∧ BeginsWith ("2*" ++ more) [⟨.number, ['2'], 0⟩, ⟨.operator, ['*'], 1⟩])
    ∧ ∀ formula, BeginsWith formula [⟨.number, ['2'], 0⟩, ⟨.operator, ['*'], 1⟩, ⟨.operator, [')'], 2⟩] →
        ¬ IsFormula formula := by
  have cut : Token.lex "2*)".toList
      = .ok [⟨.number, ['2'], 0⟩, ⟨.operator, ['*'], 1⟩, ⟨.operator, [')'], 2⟩] := by cbv
  have failed : parse "2*)" = .error (.unexpected ⟨.operator, [')'], 2⟩) := by cbv
  obtain ⟨_, _, atToken⟩ := parse_earliest cut (List.cons_ne_nil _ _) failed
  exact (atToken _ rfl).2 _ [] rfl

end Expr

end WhistledSpeech
