import WhistledSpeech.Text.CharacterClass

/-!
# Tokens of a formula

A formula is cut into names, numbers and operators; white space between them is dropped. At each
place the lexeme is the longest one of the kind its first character announces, and the kinds exclude
one another, so `front?` decides by that character alone.

`front?_append` says that a lexeme and what follows it are the text they were cut from, and
`front?_ne_nil` that a lexeme is never empty; with these two the cutting ends.
-/

namespace WhistledSpeech

/-- The kinds of tokens. -/
inductive TokenKind where
  /-- A name of a constant, a linking value or a function. -/
  | name
  /-- A decimal number without sign or exponent. -/
  | number
  /-- An operator or a parenthesis. -/
  | operator
  deriving Repr, DecidableEq

/-- **A token**: its kind, its characters and the number of characters before it. -/
structure Token where
  /-- What it is. -/
  kind : TokenKind
  /-- Its characters. -/
  lexeme : List Char
  /-- Where it starts. -/
  position : Nat
  deriving Repr, DecidableEq

/-- **Why a text is not a formula.** -/
inductive SyntaxFault where
  /-- No lexeme starts at this position. -/
  | unrecognized (position : Nat)
  /-- There is no token at all. -/
  | empty
  /-- The tokens end where more is needed. -/
  | endOfFormula
  /-- A token stands where it cannot stand. -/
  | unexpected (token : Token)
  /-- A token stands where a parenthesis is needed. -/
  | expected (parenthesis : Char) (token : Token)
  deriving Repr, DecidableEq

namespace Token

open Text

/-- The characters of operators and parentheses. -/
def isOperator (c : Char) : Bool :=
  c == '+' || c == '*' || c == '^' || c == '/' || c == '(' || c == ')' || c == '-'

/-- Whether a name can start with the character. -/
def isNameStart (c : Char) : Bool :=
  isAsciiLetter c || c == '_'

/-- What follows the whole part of a number: a point and the digits after it, if there is a point. -/
def fraction : List Char → List Char × List Char
  | '.' :: rest => ('.' :: rest.takeWhile isDigit, rest.dropWhile isDigit)
  | rest => ([], rest)

/-- **The lexeme at the front of a text**, with what follows it. The kind of white space is `none`;
there is no answer where no lexeme starts. -/
def front? : List Char → Option (Option TokenKind × List Char × List Char)
  | [] => none
  | c :: rest =>
    if isNameStart c then
      some (some .name, c :: rest.takeWhile isWord, rest.dropWhile isWord)
    else if isDigit c then
      some (some .number, c :: (rest.takeWhile isDigit ++ (fraction (rest.dropWhile isDigit)).1),
        (fraction (rest.dropWhile isDigit)).2)
    else if isOperator c then some (some .operator, [c], rest)
    else if isBlank c then
      some (none, c :: rest.takeWhile isBlank, rest.dropWhile isBlank)
    else none

theorem fraction_append (s : List Char) : (fraction s).1 ++ (fraction s).2 = s := by
  unfold fraction
  split <;> simp [List.takeWhile_append_dropWhile]

/-- **Nothing is lost**: the lexeme and what follows it are the text. -/
theorem front?_append {s lexeme rest : List Char} {kind : Option TokenKind}
    (h : front? s = some (kind, lexeme, rest)) : lexeme ++ rest = s := by
  unfold front? at h
  split at h
  · simp at h
  · rename_i c tail
    split at h
    · cases h; simp [List.takeWhile_append_dropWhile]
    · split at h
      · cases h
        rw [List.cons_append, List.append_assoc, fraction_append, List.takeWhile_append_dropWhile]
      · split at h
        · cases h; simp
        · split at h
          · cases h; simp [List.takeWhile_append_dropWhile]
          · simp at h

/-- A lexeme has at least one character. -/
theorem front?_ne_nil {s lexeme rest : List Char} {kind : Option TokenKind}
    (h : front? s = some (kind, lexeme, rest)) : lexeme ≠ [] := by
  unfold front? at h
  split at h
  · simp at h
  · repeat' split at h
    all_goals first | (cases h; simp) | simp at h

/-- What follows a lexeme is shorter than the text. -/
theorem length_lt_of_front? {s lexeme rest : List Char} {kind : Option TokenKind}
    (h : front? s = some (kind, lexeme, rest)) : rest.length < s.length := by
  have hlen := congrArg List.length (front?_append h)
  have hpos := List.length_pos_iff.2 (front?_ne_nil h)
  simp at hlen
  omega

/-- Puts a token in front, unless the lexeme is white space. -/
def consToken (kind : Option TokenKind) (lexeme : List Char) (position : Nat)
    (tokens : List Token) : List Token :=
  match kind with
  | some k => ⟨k, lexeme, position⟩ :: tokens
  | none => tokens

/-- The tokens of a text whose first character has the given position. -/
def lexFrom (position : Nat) (s : List Char) : Except SyntaxFault (List Token) :=
  match h : front? s with
  | some (kind, lexeme, rest) =>
    have := length_lt_of_front? h
    match lexFrom (position + lexeme.length) rest with
    | .ok tokens => .ok (consToken kind lexeme position tokens)
    | .error fault => .error fault
  | none => if s.isEmpty then .ok [] else .error (.unrecognized position)
termination_by s.length

/-- **The tokens of a formula**, or the first position where no lexeme starts. -/
def lex (s : List Char) : Except SyntaxFault (List Token) :=
  lexFrom 0 s

end Token

end WhistledSpeech
