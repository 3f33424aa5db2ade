import WhistledSpeech.Formula.Expr
import WhistledSpeech.Formula.Token

/-!
# From tokens to an expression

A sum is read from products, a product from signed powers, a power from primaries; all binary levels
go through one function, `expression`, that takes the least precedence an operator may have to be
read at its level. Each step gives back the tokens it left over together with the fact that there are
fewer of them, so the reading ends whatever the tokens are.

Of several faults in a formula the first in the order of the tokens is reported, and characters that
are no lexeme come before all of them.
-/

namespace WhistledSpeech

namespace BinaryOperator

/-- The operator a token stands for, if it is one. -/
def ofToken? (token : Token) : Option BinaryOperator :=
  if token.kind ≠ .operator then none
  else if token.lexeme = ['+'] then some add
  else if token.lexeme = ['-'] then some sub
  else if token.lexeme = ['*'] then some mul
  else if token.lexeme = ['/'] then some div
  else if token.lexeme = ['^'] then some pow
  else none

end BinaryOperator

namespace Expr

open Text

/-- Adds a digit to a number read from left to right. -/
def addDigit (n : Nat) (c : Char) : Nat :=
  10 * n + (digitValue? c).getD 0

/-- The number a lexeme of digits with at most one point stands for. -/
def ofDigits (lexeme : List Char) : Expr :=
  let places := ((lexeme.dropWhile isDigit).drop 1).length
  number ((lexeme.filter isDigit).foldl addDigit 0) places

/-- What a reading step gives: an expression and the tokens after it, fewer than there were. -/
abbrev Reading (tokens : List Token) := { r : Expr × List Token // r.2.length < tokens.length }

/-- Reads a parenthesis. -/
def parenthesis (c : Char) :
    (tokens : List Token) → Except SyntaxFault { rest : List Token // rest.length < tokens.length }
  | [] => .error .endOfFormula
  | token :: rest =>
    if token.lexeme = [c] then .ok ⟨rest, Nat.lt_succ_self _⟩
    else .error (.expected c token)

mutual

/-- **Reads an expression** whose binary operators outside parentheses have at least the precedence
`least`. -/
def expression (least : Nat) (tokens : List Token) : Except SyntaxFault (Reading tokens) :=
  match signed tokens with
  | .error fault => .error fault
  | .ok ⟨(left, rest), h⟩ =>
    have : rest.length < tokens.length := h
    match operators least left rest with
    | .error fault => .error fault
    | .ok ⟨r, h'⟩ => .ok ⟨r, Nat.lt_of_le_of_lt h' h⟩
termination_by 3 * tokens.length + 2

/-- Reads operators of at least the precedence `least`, each with its right operand, onto an
expression already read. -/
def operators (least : Nat) (left : Expr) (tokens : List Token) :
    Except SyntaxFault { r : Expr × List Token // r.2.length ≤ tokens.length } :=
  match tokens with
  | [] => .ok ⟨(left, []), Nat.le_refl _⟩
  | token :: rest =>
    match BinaryOperator.ofToken? token with
    | none => .ok ⟨(left, token :: rest), Nat.le_refl _⟩
    | some op =>
      if op.precedence < least then .ok ⟨(left, token :: rest), Nat.le_refl _⟩
      else
        match expression op.rightPrecedence rest with
        | .error fault => .error fault
        | .ok ⟨(right, rest'), h⟩ =>
          have : rest'.length < rest.length := h
          match operators least (binary op left right) rest' with
          | .error fault => .error fault
          | .ok ⟨r, h'⟩ => .ok ⟨r, by simp only [List.length_cons]; omega⟩
termination_by 3 * tokens.length

/-- Reads a primary, or a minus and the powers it applies to. -/
def signed (tokens : List Token) : Except SyntaxFault (Reading tokens) :=
  match tokens with
  | [] => .error .endOfFormula
  | token :: rest =>
    if token.lexeme = ['-'] then
      match expression 3 rest with
      | .error fault => .error fault
      | .ok ⟨(operand, rest'), h⟩ => .ok ⟨(neg operand, rest'), Nat.lt_succ_of_lt h⟩
    else primary token rest
termination_by 3 * tokens.length + 1

/-- Reads a number, a name, a function with its argument, or an expression in parentheses. -/
def primary (token : Token) (rest : List Token) : Except SyntaxFault (Reading (token :: rest)) :=
  match token.kind with
  | .number => .ok ⟨(ofDigits token.lexeme, rest), Nat.lt_succ_self _⟩
  | .name =>
    match UnaryFunction.ofName? token.lexeme with
    | none => .ok ⟨(name (String.ofList token.lexeme), rest), Nat.lt_succ_self _⟩
    | some f =>
      match parenthesis '(' rest with
      | .error fault => .error fault
      | .ok ⟨rest₁, h₁⟩ =>
        match expression 0 rest₁ with
        | .error fault => .error fault
        | .ok ⟨(argument, rest₂), h₂⟩ =>
          have : rest₂.length < rest₁.length := h₂
          match parenthesis ')' rest₂ with
          | .error fault => .error fault
          | .ok ⟨rest₃, h₃⟩ =>
            .ok ⟨(apply f argument, rest₃), by simp only [List.length_cons]; omega⟩
  | .operator =>
    if token.lexeme = ['('] then
      match expression 0 rest with
      | .error fault => .error fault
      | .ok ⟨(inner, rest₁), h₁⟩ =>
        have : rest₁.length < rest.length := h₁
        match parenthesis ')' rest₁ with
        | .error fault => .error fault
        | .ok ⟨rest₂, h₂⟩ =>
          .ok ⟨(inner, rest₂), by simp only [List.length_cons]; omega⟩
    else .error (.unexpected token)
termination_by 3 * rest.length + 3

end

/-- **Reads all the tokens** as one expression. -/
def ofTokens (tokens : List Token) : Except SyntaxFault Expr :=
  if tokens.isEmpty then .error .empty
  else
    match expression 0 tokens with
    | .error fault => .error fault
    | .ok ⟨(e, []), _⟩ => .ok e
    | .ok ⟨(_, token :: _), _⟩ => .error (.unexpected token)

/-- **Reads a text** as an expression. -/
def parse (text : String) : Except SyntaxFault Expr :=
  match Token.lex text.toList with
  | .error fault => .error fault
  | .ok tokens => ofTokens tokens

end Expr

end WhistledSpeech
