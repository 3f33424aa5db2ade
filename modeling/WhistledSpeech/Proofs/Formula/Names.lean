import Mathlib
import WhistledSpeech.Proofs.Formula.Curves
import WhistledSpeech.Proofs.Formula.Lexing
import WhistledSpeech.Proofs.Formula.Reading

/-!
# The names of a formula

Before a formula is evaluated its names are asked for: a constant is resolved when all the names of its
formula are constants, and a formula is refused as a curve when one of its names is neither the angle nor
a constant. The names are those that stand in the text, each as often as it stands there, and the names of
functions are none of them (`Formula.names_of_parse`).

They are what the evaluation depends on (`Scope.names_exact`). If all of them stand for something only an
operation can have no value, and if one stands for nothing there is no value at all, since an evaluation
goes on to every name unless it has failed before. So neither question lets a formula pass that lacks a
name, or stops one that lacks none.
-/

namespace WhistledSpeech

/-! ## The names in a text -/

namespace Token

/-- **The name a token stands for**, if it is a name and not that of a function. -/
def freeName? (token : Token) : Option String :=
  if token.kind = .name ∧ UnaryFunction.ofName? token.lexeme = none then
    some (String.ofList token.lexeme)
  else none

variable {token : Token}

theorem freeName?_of_kind (other : token.kind ≠ .name) : token.freeName? = none :=
  if_neg fun name => other name.1

/-- A single character that begins no name is not one. -/
theorem IsProper.freeName?_of_lexeme (proper : token.IsProper) {c : Char} (written : token.lexeme = [c])
    (other : isNameStart c = false) : token.freeName? = none := by
  refine freeName?_of_kind fun name => ?_
  unfold IsProper at proper
  rw [name, written] at proper
  obtain ⟨d, tail, same, start, _⟩ := proper
  cases same
  exact Bool.false_ne_true (other.symm.trans start)

end Token

open Token

theorem OperatorToken.freeName?_eq_none {family : BinaryOperator → Prop} (op : OperatorToken family) :
    op.token.freeName? = none :=
  freeName?_of_kind (by rw [op.stands.1]; exact nofun)

theorem NumberToken.freeName?_eq_none (token : NumberToken) : token.val.freeName? = none :=
  freeName?_of_kind (by rw [token.property.1]; exact nofun)

theorem FunctionToken.freeName?_eq_none (f : FunctionToken) : f.token.freeName? = none :=
  if_neg fun name => absurd (UnaryFunction.ofName?_eq_some_iff.mpr f.lexeme_eq) (by simp [name.2])

theorem NameToken.freeName?_eq_some (token : NameToken) :
    token.val.freeName? = some (String.ofList token.val.lexeme) :=
  if_pos ⟨token.property.1, UnaryFunction.ofName?_eq_none_iff.mpr token.property.2.2⟩

mutual

/-- **The names of the expression of a sum are those its tokens stand for**, from left to right. One
induction over all the trees; the tail of a sum or a product adds its names to those of what is in front
of it. -/
theorem SumTree.names_expr (s : SumTree) (proper : ∀ token ∈ s.tokens, token.IsProper) :
    s.expr.names = s.tokens.filterMap freeName? := by
  match s with
  | .of first more =>
    rw [SumTree.tokens] at proper ⊢
    obtain ⟨front, behind⟩ := List.forall_mem_append.mp proper
    rw [SumTree.expr, SumTail.names_onto more behind, ProductTree.names_expr first front,
      List.filterMap_append]
termination_by structural s

theorem SumTail.names_onto (t : SumTail) (proper : ∀ token ∈ t.tokens, token.IsProper) (left : Expr) :
    (t.onto left).names = left.names ++ t.tokens.filterMap freeName? := by
  match t with
  | .done => rw [SumTail.onto, SumTail.tokens, List.filterMap_nil, List.append_nil]
  | .next op operand more =>
    rw [SumTail.tokens] at proper ⊢
    obtain ⟨front, behind⟩ := List.forall_mem_append.mp (List.forall_mem_cons.mp proper).2
    rw [SumTail.onto, SumTail.names_onto more behind, Expr.names, ProductTree.names_expr operand front,
      List.filterMap_cons_none op.freeName?_eq_none, List.filterMap_append, List.append_assoc]
termination_by structural t

theorem ProductTree.names_expr (p : ProductTree) (proper : ∀ token ∈ p.tokens, token.IsProper) :
    p.expr.names = p.tokens.filterMap freeName? := by
  match p with
  | .of first more =>
    rw [ProductTree.tokens] at proper ⊢
    obtain ⟨front, behind⟩ := List.forall_mem_append.mp proper
    rw [ProductTree.expr, ProductTail.names_onto more behind, SignedTree.names_expr first front,
      List.filterMap_append]
termination_by structural p

theorem ProductTail.names_onto (t : ProductTail) (proper : ∀ token ∈ t.tokens, token.IsProper)
    (left : Expr) : (t.onto left).names = left.names ++ t.tokens.filterMap freeName? := by
  match t with
  | .done => rw [ProductTail.onto, ProductTail.tokens, List.filterMap_nil, List.append_nil]
  | .next op operand more =>
    rw [ProductTail.tokens] at proper ⊢
    obtain ⟨front, behind⟩ := List.forall_mem_append.mp (List.forall_mem_cons.mp proper).2
    rw [ProductTail.onto, ProductTail.names_onto more behind, Expr.names,
      SignedTree.names_expr operand front, List.filterMap_cons_none op.freeName?_eq_none,
      List.filterMap_append, List.append_assoc]
termination_by structural t

theorem SignedTree.names_expr (u : SignedTree) (proper : ∀ token ∈ u.tokens, token.IsProper) :
    u.expr.names = u.tokens.filterMap freeName? := by
  match u with
  | .neg minus operand =>
    rw [SignedTree.tokens] at proper ⊢
    obtain ⟨sign, behind⟩ := List.forall_mem_cons.mp proper
    rw [SignedTree.expr, Expr.names, SignedTree.names_expr operand behind,
      List.filterMap_cons_none (sign.freeName?_of_lexeme minus.property (by decide))]
  | .power p =>
    rw [SignedTree.tokens] at proper ⊢
    rw [SignedTree.expr, PowerTree.names_expr p proper]
termination_by structural u

theorem PowerTree.names_expr (p : PowerTree) (proper : ∀ token ∈ p.tokens, token.IsProper) :
    p.expr.names = p.tokens.filterMap freeName? := by
  match p with
  | .base q =>
    rw [PowerTree.tokens] at proper ⊢
    rw [PowerTree.expr, PrimaryTree.names_expr q proper]
  | .raised q caret exponent =>
    rw [PowerTree.tokens] at proper ⊢
    obtain ⟨front, behind⟩ := List.forall_mem_append.mp proper
    rw [PowerTree.expr, Expr.names, PrimaryTree.names_expr q front,
      SignedTree.names_expr exponent (List.forall_mem_cons.mp behind).2, List.filterMap_append,
      List.filterMap_cons_none caret.freeName?_eq_none]
termination_by structural p

theorem PrimaryTree.names_expr (p : PrimaryTree) (proper : ∀ token ∈ p.tokens, token.IsProper) :
    p.expr.names = p.tokens.filterMap freeName? := by
  match p with
  | .number token =>
    rw [PrimaryTree.tokens, List.filterMap_cons_none token.freeName?_eq_none]
    rfl
  | .name token =>
    rw [PrimaryTree.tokens, List.filterMap_cons_some token.freeName?_eq_some]
    rfl
  | .apply f left argument right =>
    rw [PrimaryTree.tokens] at proper ⊢
    obtain ⟨opens, inside⟩ := List.forall_mem_cons.mp (List.forall_mem_cons.mp proper).2
    obtain ⟨inside, closes⟩ := List.forall_mem_append.mp inside
    have closes := List.forall_mem_singleton.mp closes
    rw [PrimaryTree.expr, Expr.names, SumTree.names_expr argument inside,
      List.filterMap_cons_none f.freeName?_eq_none,
      List.filterMap_cons_none (opens.freeName?_of_lexeme left.property (by decide)),
      List.filterMap_append,
      List.filterMap_cons_none (closes.freeName?_of_lexeme right.property (by decide)),
      List.filterMap_nil, List.append_nil]
  | .group left inner right =>
    rw [PrimaryTree.tokens] at proper ⊢
    obtain ⟨opens, inside⟩ := List.forall_mem_cons.mp proper
    obtain ⟨inside, closes⟩ := List.forall_mem_append.mp inside
    have closes := List.forall_mem_singleton.mp closes
    rw [PrimaryTree.expr, SumTree.names_expr inner inside,
      List.filterMap_cons_none (opens.freeName?_of_lexeme left.property.2 (by decide)),
      List.filterMap_append,
      List.filterMap_cons_none (closes.freeName?_of_lexeme right.property (by decide)),
      List.filterMap_nil, List.append_nil]
termination_by structural p

end

/-- **The names of a formula are the names in its text**, in their order, but for those of functions. -/
theorem Formula.names_of_parse {text : String} {formula : Formula}
    (parsed : parse text = .ok formula) :
    ∃ tokens, Token.lex text.toList = .ok tokens ∧ formula.names = tokens.filterMap freeName? := by
  unfold parse Expr.parse at parsed
  cases cut : Token.lex text.toList with
  | error fault =>
    rw [cut] at parsed
    exact absurd parsed nofun
  | ok tokens =>
    rw [cut] at parsed
    cases read : Expr.ofTokens tokens with
    | error fault =>
      dsimp only at parsed
      rw [read] at parsed
      exact absurd parsed nofun
    | ok tree =>
      dsimp only at parsed
      rw [read] at parsed
      cases parsed
      obtain ⟨s, rfl, rfl⟩ := Expr.ofTokens_eq_ok_iff.mp read
      refine ⟨_, rfl, s.names_expr fun token mem => ?_⟩
      obtain ⟨_, _, _, _, proper, _⟩ := (lexFrom_eq_ok_iff.mp cut).stands mem
      exact proper

/-! ## Evaluating a text -/

/-- **An operation of the formula of a text has no value.** -/
def Fault.IsArithmetic (text : String) (fault : Fault) : Prop :=
  ∃ cause, fault = .undefinedFormula text cause

namespace Scope

variable {α : Type} {scope : Scope α} {bindings : String → Option α} {text n : String}
  {formula : Formula} {fault : Fault}

theorem contains_eq_false_iff : scope.contains n = false ↔ scope.get? n = none := by
  rw [contains, Option.isSome_eq_false_iff, Option.isNone_iff_eq_none]

/-- A name stands for nothing if it is neither a constant nor bound. -/
theorem lookup_eq_none_iff :
    scope.lookup bindings n = none ↔ scope.contains n = false ∧ bindings n = none := by
  rw [contains_eq_false_iff]
  unfold lookup
  cases scope.get? n with
  | none => exact (and_iff_right rfl).symm
  | some x => exact iff_of_false nofun fun none => absurd none.1 nofun

variable [Arithmetic α]

theorem evalText_of_parse (parsed : Formula.parse text = .ok formula) :
    scope.evalText text bindings = scope.eval formula bindings := by
  rw [evalText, parsed]

/-- **Why a text that is a formula has no value**: one of its names is neither a constant nor bound, or an
operation has none. -/
theorem evalText_eq_error (parsed : Formula.parse text = .ok formula)
    (failed : scope.evalText text bindings = .error fault) :
    (∃ n ∈ formula.names, scope.contains n = false ∧ bindings n = none
        ∧ fault = .unknownConstant n text)
      ∨ fault.IsArithmetic text := by
  rw [evalText_of_parse parsed] at failed
  obtain ⟨n, mem, missing, rfl⟩ | arithmetic := Formula.eval_eq_error failed
  · obtain ⟨unknown, unbound⟩ := lookup_eq_none_iff.mp missing
    exact .inl ⟨n, mem, unknown, unbound, by rw [Formula.text_of_parse parsed]⟩
  · rw [Formula.text_of_parse parsed] at arithmetic
    exact .inr arithmetic

/-- With every name a constant or bound, only an operation can have no value. -/
theorem isArithmetic_of_bound (parsed : Formula.parse text = .ok formula)
    (bound : ∀ n ∈ formula.names, scope.contains n = true ∨ (bindings n).isSome = true)
    (failed : scope.evalText text bindings = .error fault) : fault.IsArithmetic text := by
  obtain ⟨n, mem, unknown, missing, _⟩ | arithmetic := evalText_eq_error parsed failed
  · have known := bound n mem
    rw [unknown, missing] at known
    exact absurd known (by simp)
  · exact arithmetic

/-- With a name that is neither there is no value. -/
theorem exists_error_of_missing (parsed : Formula.parse text = .ok formula) (mem : n ∈ formula.names)
    (unknown : scope.contains n = false) (missing : bindings n = none) :
    ∃ fault, scope.evalText text bindings = .error fault := by
  rw [evalText_of_parse parsed]
  exact Formula.exists_error_of_unbound mem (lookup_eq_none_iff.mpr ⟨unknown, missing⟩)

/-- **What is asked before a formula is a curve**: it is one, and then only an operation can have no value
at an angle, or it is refused for the names that are neither constants nor the angle, and then it has
no value at any angle. -/
theorem compile_cases (parsed : Formula.parse text = .ok formula) :
    (scope.compile text = .ok formula ∧ ∀ x fault, scope.curveAt formula x = .error fault →
        fault.IsArithmetic text)
      ∨ ∃ stray, scope.compile text = .error (.strayNames text stray) ∧ stray ≠ []
        ∧ (∀ n, n ∈ stray ↔ n ∈ formula.names ∧ n ≠ "t" ∧ scope.contains n = false)
        ∧ ∀ x, ∃ fault, scope.evalText text (angle x) = .error fault := by
  have compiles : scope.compile text = scope.asCurve formula := by
    rw [compile, parsed]
  rw [compiles, ← Formula.text_of_parse parsed]
  obtain ⟨_, isCurve⟩ | ⟨some, refused⟩ := asCurve_cases scope formula
  · refine .inl ⟨isCurve, fun x fault failed => ?_⟩
    obtain ⟨n, _, missing, _⟩ | arithmetic := Formula.eval_eq_error failed
    · exact absurd (lookup_eq_none_iff.mp missing).2 nofun
    · exact arithmetic
  · refine .inr ⟨_, refused, some, fun n => ?_, fun x => ?_⟩
    · rw [mem_strayNames, contains_eq_false_iff]
    · rw [Formula.text_of_parse parsed]
      exact exists_error_of_compile (compiles.trans refused) x

/-- **The names of a formula are exactly what its evaluation needs.** They are the names in its text but
for those of functions. Its value, or its fault, depends on what these stand for and on nothing else. If
each is a constant or bound then only an operation can be without a value; if one is neither there is no
value. So of the formulas over constants that are said to be ready none lacks a constant, and none that
is said to wait has a value; and a formula is refused as a curve only if it has no value at any angle. -/
theorem names_exact {α : Type} [Arithmetic α] {text : String} {formula : Formula}
    (parsed : Formula.parse text = .ok formula) (scope : Scope α) :
    (∃ tokens, Token.lex text.toList = .ok tokens ∧ formula.names = tokens.filterMap freeName?)
      ∧ (∀ bindings (scope' : Scope α) bindings',
          (∀ n ∈ formula.names, scope.lookup bindings n = scope'.lookup bindings' n) →
            scope.evalText text bindings = scope'.evalText text bindings')
      ∧ (∀ bindings,
          (∀ n ∈ formula.names, scope.contains n = true ∨ (bindings n).isSome = true) →
            ∀ fault, scope.evalText text bindings = .error fault → fault.IsArithmetic text)
      ∧ (∀ bindings, (∃ n ∈ formula.names, scope.contains n = false ∧ bindings n = none) →
          ∃ fault, scope.evalText text bindings = .error fault)
      ∧ (∀ name, scope.isReady (name, formula) = true →
          ∀ fault, scope.evalText text unbound = .error fault → fault.IsArithmetic text)
      ∧ (∀ name, scope.isReady (name, formula) = false →
          ∃ fault, scope.evalText text unbound = .error fault)
      ∧ ((scope.compile text = .ok formula ∧ ∀ x fault, scope.curveAt formula x = .error fault →
            fault.IsArithmetic text)
          ∨ ∃ stray, scope.compile text = .error (.strayNames text stray) ∧ stray ≠ []
            ∧ (∀ n, n ∈ stray ↔ n ∈ formula.names ∧ n ≠ "t" ∧ scope.contains n = false)
            ∧ ∀ x, ∃ fault, scope.evalText text (angle x) = .error fault) := by
  refine ⟨Formula.names_of_parse parsed, fun bindings scope' bindings' same => ?_,
    fun bindings bound fault => isArithmetic_of_bound parsed bound, fun bindings lacks => ?_,
    fun name ready fault => ?_, fun name waits => ?_, compile_cases parsed⟩
  · rw [evalText_of_parse parsed, evalText_of_parse parsed]
    exact Formula.eval_congr same
  · obtain ⟨n, mem, unknown, missing⟩ := lacks
    exact exists_error_of_missing parsed mem unknown missing
  · exact isArithmetic_of_bound parsed fun n mem => .inl (isReady_iff.mp ready n mem)
  · obtain ⟨n, mem, unknown⟩ := List.all_eq_false.mp waits
    exact exists_error_of_missing parsed mem (Bool.eq_false_iff.mpr unknown) rfl

/-- The logarithm of a name over a constant: without the name it has no value, and with it only an operation
can have none. -/
theorem names_exact_logarithm :
    ∃ formula, Formula.parse "log(x)/e" = .ok formula
      ∧ (∃ fault, (builtIn : Scope Float).evalText "log(x)/e" unbound = .error fault)
      ∧ (∀ x fault, (builtIn : Scope Float).evalText "log(x)/e"
            (fun name => if name = "x" then some x else none) = .error fault →
          fault.IsArithmetic "log(x)/e") := by
  have parsed : Formula.parse "log(x)/e"
      = .ok ⟨"log(x)/e", .binary .div (.apply .log (.name "x")) (.name "e")⟩ := by cbv
  obtain ⟨_, _, bound, missing, _⟩ := names_exact parsed (builtIn : Scope Float)
  refine ⟨_, parsed, missing unbound ⟨"x", List.mem_cons_self, rfl, rfl⟩, fun x => ?_⟩
  refine bound _ fun n mem => ?_
  obtain rfl | mem := List.mem_cons.mp mem
  · exact .inr rfl
  · cases List.mem_singleton.mp mem
    exact .inl rfl

end Scope

end WhistledSpeech
