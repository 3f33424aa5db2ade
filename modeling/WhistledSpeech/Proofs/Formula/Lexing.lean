import Mathlib
import WhistledSpeech.Proofs.Formula.Lexemes

/-!
# Cutting a text into tokens

A text is cut lexeme by lexeme. `Token.Lexes` follows the cutting to any place: it relates a text to the
tokens cut so far and to what is still to be cut. Cutting has a result where nothing is left
(`lexFrom_eq_ok_iff`), and it has none where something is left at whose front there is no lexeme
(`exists_lexes_of_error`).

Everything else is said of the relation. What has been cut up to some place would also be cut if the text
ended there (`Lexes.front`), so in front of a fault there is a text without one, and in front of a token
there are the tokens before it. And white space behind a text leaves its tokens as they are
(`Lexes.append`). A name could go on where another one follows it, but not where there is white space
between the two, so the tokens of a text stay the same when they are moved apart (`exists_lexes_spaced`).
-/

namespace WhistledSpeech

namespace Token

open Text

/-- **What a token is**, wherever it stands: its kind and its characters. -/
def content (token : Token) : TokenKind × List Char := (token.kind, token.lexeme)

/-- Whether a token is a lexeme of its kind. -/
def IsProper (token : Token) : Prop := IsLexeme (some token.kind) token.lexeme

/-- **Cutting a text** whose first character has some position: the tokens up to some place, and what is
left of the text from there. -/
inductive Lexes : ℕ → List Char → List Token → List Char → Prop where
  /-- Nothing has been cut off. -/
  | here {position : ℕ} {s : List Char} : Lexes position s [] s
  /-- White space has been cut off, and gives no token. -/
  | blank {position : ℕ} {lexeme rest left : List Char} {tokens : List Token}
      (front : front? (lexeme ++ rest) = some (none, lexeme, rest))
      (behind : Lexes (position + lexeme.length) rest tokens left) :
      Lexes position (lexeme ++ rest) tokens left
  /-- A token has been cut off. -/
  | token {position : ℕ} {kind : TokenKind} {lexeme rest left : List Char} {tokens : List Token}
      (front : front? (lexeme ++ rest) = some (some kind, lexeme, rest))
      (behind : Lexes (position + lexeme.length) rest tokens left) :
      Lexes position (lexeme ++ rest) (⟨kind, lexeme, position⟩ :: tokens) left

variable {position : ℕ} {kind : Option TokenKind} {s lexeme rest left : List Char} {tokens : List Token}

/-! ## The cutting of a whole text -/

theorem lexFrom_of_front? (front : front? s = some (kind, lexeme, rest)) :
    lexFrom position s
      = (lexFrom (position + lexeme.length) rest).map (consToken kind lexeme position) := by
  rw [lexFrom]
  split
  · next found =>
    cases found.symm.trans front
    cases lexFrom (position + lexeme.length) rest <;> rfl
  · next none => exact absurd (none.symm.trans front) (by simp)

theorem lexFrom_of_none (none : front? s = none) :
    lexFrom position s = if s.isEmpty then .ok [] else .error (.unrecognized position) := by
  rw [lexFrom]
  split
  · next found => exact absurd (found.symm.trans none) (by simp)
  · rfl

/-- One lexeme more in front. -/
theorem Lexes.cons (front : front? s = some (kind, lexeme, rest))
    (behind : Lexes (position + lexeme.length) rest tokens left) :
    Lexes position s (consToken kind lexeme position tokens) left := by
  obtain rfl := front?_append front
  cases kind with
  | none => exact .blank front behind
  | some kind => exact .token front behind

/-- **What cutting comes to**: the tokens of the whole text, or those in front of a place at which there is
no lexeme. -/
theorem lexFrom_cases (position : ℕ) (s : List Char) :
    (∃ tokens, lexFrom position s = .ok tokens ∧ Lexes position s tokens [])
      ∨ ∃ front behind tokens, s = front ++ behind ∧ behind ≠ [] ∧ front? behind = none
        ∧ lexFrom position s = .error (.unrecognized (position + front.length))
        ∧ Lexes position s tokens behind := by
  cases found : front? s with
  | none =>
    rw [lexFrom_of_none found]
    cases s with
    | nil => exact .inl ⟨[], rfl, .here⟩
    | cons c s => exact .inr ⟨[], c :: s, [], rfl, List.cons_ne_nil c s, found, rfl, .here⟩
  | some lexed =>
    obtain ⟨kind, lexeme, rest⟩ := lexed
    have shorter := length_lt_of_front? found
    rw [lexFrom_of_front? found]
    obtain ⟨tokens, cut, behind⟩ | ⟨front, behind, tokens, rfl, left, stuck, failed, before⟩ :=
      lexFrom_cases (position + lexeme.length) rest
    · rw [cut]
      exact .inl ⟨_, rfl, .cons found behind⟩
    · rw [failed]
      refine .inr ⟨lexeme ++ front, behind, _, ?_, left, stuck, ?_, .cons found before⟩
      · rw [List.append_assoc, front?_append found]
      · rw [List.length_append, ← Nat.add_assoc]
        rfl
termination_by s.length

/-- **Cutting has a result** where it comes to the end of the text. -/
theorem lexFrom_eq_ok_iff : lexFrom position s = .ok tokens ↔ Lexes position s tokens [] := by
  constructor
  · intro h
    obtain ⟨_, cut, lexes⟩ | ⟨_, _, _, _, _, _, failed, _⟩ := lexFrom_cases position s
    · cases cut.symm.trans h
      exact lexes
    · exact absurd (failed.symm.trans h) nofun
  · intro h
    generalize last : ([] : List Char) = left at h
    induction h with
    | here => exact last ▸ lexFrom_of_none rfl
    | blank front _ ih => rw [lexFrom_of_front? front, ih last]; rfl
    | token front _ ih => rw [lexFrom_of_front? front, ih last]; rfl

/-! ## Texts that end sooner, or go on -/

/-- A lexeme that ends also ends where less of the text follows it. -/
theorem front?_of_append {less more : List Char}
    (front : front? (lexeme ++ (less ++ more)) = some (kind, lexeme, less ++ more)) :
    front? (lexeme ++ less) = some (kind, lexeme, less) := by
  obtain ⟨_, isLexeme, ends⟩ := front?_eq_some_iff.mp front
  refine front?_of_isLexeme isLexeme fun c mem => ends c ?_
  exact List.mem_head?_append_of_mem_head? mem

/-- **In front of a place** there are the same tokens if the text ends there. -/
theorem Lexes.front (h : Lexes position s tokens left) :
    ∃ front, s = front ++ left ∧ Lexes position front tokens [] := by
  induction h with
  | here => exact ⟨[], rfl, .here⟩
  | @blank _ lexeme _ _ _ front _ ih =>
    obtain ⟨before, rfl, lexes⟩ := ih
    exact ⟨lexeme ++ before, (List.append_assoc _ _ _).symm, .blank (front?_of_append front) lexes⟩
  | @token _ _ lexeme _ _ _ front _ ih =>
    obtain ⟨before, rfl, lexes⟩ := ih
    exact ⟨lexeme ++ before, (List.append_assoc _ _ _).symm, .token (front?_of_append front) lexes⟩

/-- **Where cutting breaks off**, there is no lexeme, and what is in front can be cut. -/
theorem exists_lexes_of_error {fault : SyntaxFault} (failed : lexFrom position s = .error fault) :
    ∃ front behind, s = front ++ behind ∧ behind ≠ [] ∧ front? behind = none
      ∧ fault = .unrecognized (position + front.length)
      ∧ ∃ tokens, lexFrom position front = .ok tokens := by
  obtain ⟨_, cut, _⟩ | ⟨front, behind, tokens, rfl, left, stuck, fails, lexes⟩ := lexFrom_cases position s
  · exact absurd (cut.symm.trans failed) nofun
  · cases fails.symm.trans failed
    obtain ⟨front', same, lexes⟩ := lexes.front
    obtain rfl := List.append_cancel_right same
    exact ⟨front, behind, rfl, left, stuck, rfl, tokens, lexFrom_eq_ok_iff.mpr lexes⟩

/-- A lexeme that is a token ends in front of white space. -/
theorem ends_of_isBlank {kind : TokenKind} (blank : ∀ c ∈ rest.head?, isBlank c = true) :
    Ends (some kind) lexeme rest := by
  intro c mem extended
  exact Bool.false_ne_true ((extended.not_isBlank c (by simp)).symm.trans (blank c mem))

/-- A blank in front of a text only moves its tokens. -/
theorem Lexes.cons_blank {c : Char} (blank : isBlank c = true) (h : Lexes (position + 1) s tokens []) :
    Lexes position (c :: s) tokens [] := by
  have alone : IsLexeme none [c] := ⟨List.cons_ne_nil c [], List.forall_mem_singleton.mpr blank⟩
  cases h with
  | here => exact .blank (front?_of_isLexeme alone (nofun : Ends none [c] [])) .here
  | @blank _ lexeme rest _ _ front behind =>
    -- what is blank already is one lexeme with it
    obtain ⟨_, blanks, ends⟩ := front?_eq_some_iff.mp front
    have longer : IsLexeme none (c :: lexeme) :=
      ⟨List.cons_ne_nil c _, List.forall_mem_cons.mpr ⟨blank, blanks.2⟩⟩
    have ends' : Ends none (c :: lexeme) rest := fun d mem =>
      (extends_blank_iff longer).not.mpr ((extends_blank_iff blanks).not.mp (ends d mem))
    show Lexes position ((c :: lexeme) ++ rest) _ []
    refine .blank (front?_of_isLexeme longer ends') ?_
    rwa [List.length_cons, Nat.add_comm lexeme.length, ← Nat.add_assoc]
  | @token _ kind lexeme rest _ _ front behind =>
    obtain ⟨_, isLexeme, _⟩ := front?_eq_some_iff.mp front
    show Lexes position ([c] ++ (lexeme ++ rest)) _ []
    refine .blank (front?_of_isLexeme alone fun d mem => ?_) (.token front behind)
    have mem : d ∈ (lexeme ++ rest).head? := mem
    rw [List.head?_append_of_ne_nil _ isLexeme.ne_nil] at mem
    rw [extends_blank_iff alone, isLexeme.not_isBlank d (List.mem_of_mem_head? mem)]
    exact Bool.false_ne_true

/-- White space in front of a text only moves its tokens. -/
theorem Lexes.append_blanks {gap : List Char} (blanks : ∀ c ∈ gap, isBlank c = true)
    (h : Lexes (position + gap.length) s tokens []) : Lexes position (gap ++ s) tokens [] := by
  induction gap generalizing position with
  | nil => exact h
  | cons c gap ih =>
    obtain ⟨blank, blanks⟩ := List.forall_mem_cons.mp blanks
    rw [List.length_cons, Nat.add_comm gap.length, ← Nat.add_assoc] at h
    exact (ih blanks h).cons_blank blank

/-- **White space behind a text leaves its tokens as they are**, whatever follows. -/
theorem Lexes.append {front behind : List Char} {before after : List Token}
    (blank : ∀ c ∈ behind.head?, isBlank c = true) (h : Lexes position front before [])
    (h' : Lexes (position + front.length) behind after []) :
    Lexes position (front ++ behind) (before ++ after) [] := by
  generalize last : ([] : List Char) = left at h
  induction h with
  | here => exact last ▸ h'
  | @blank _ lexeme rest _ _ front _ ih =>
    subst last
    obtain ⟨_, blanks, _⟩ := front?_eq_some_iff.mp front
    rw [List.length_append, ← Nat.add_assoc] at h'
    rw [List.append_assoc]
    exact (ih h' rfl).append_blanks blanks.2
  | @token _ kind lexeme rest _ _ front _ ih =>
    subst last
    obtain ⟨_, isLexeme, ends⟩ := front?_eq_some_iff.mp front
    rw [List.length_append, ← Nat.add_assoc] at h'
    rw [List.append_assoc]
    refine .token (front?_of_isLexeme isLexeme ?_) (ih h' rfl)
    -- what follows the lexeme is what followed it before, or the white space
    cases rest with
    | nil => exact ends_of_isBlank blank
    | cons c rest => exact ends

/-! ## Tokens moved apart -/

/-- **Lexemes with gaps between them**; the gap is given by how many lexemes are behind it. -/
def spaced (gap : ℕ → List Char) : List (List Char) → List Char
  | [] => []
  | [lexeme] => lexeme
  | lexeme :: lexemes => lexeme ++ (gap lexemes.length ++ spaced gap lexemes)

/-- A token by itself is cut as that token. -/
theorem IsProper.lexes {token : Token} (proper : token.IsProper) :
    Lexes position token.lexeme [⟨token.kind, token.lexeme, position⟩] [] := by
  have front : front? (token.lexeme ++ []) = some (some token.kind, token.lexeme, []) :=
    front?_of_isLexeme proper nofun
  have lexes : Lexes position (token.lexeme ++ []) [⟨token.kind, token.lexeme, position⟩] [] :=
    .token front .here
  rwa [List.append_nil] at lexes

/-- **Tokens stay the same with white space between them**, as much as one likes. -/
theorem exists_lexes_spaced {gap : ℕ → List Char} (blanks : ∀ n, IsLexeme none (gap n))
    (proper : ∀ token ∈ tokens, token.IsProper) (position : ℕ) :
    ∃ others, Lexes position (spaced gap (tokens.map Token.lexeme)) others []
      ∧ others.map content = tokens.map content := by
  induction tokens generalizing position with
  | nil => exact ⟨[], .here, rfl⟩
  | cons token rest ih =>
    obtain ⟨first, proper⟩ := List.forall_mem_cons.mp proper
    cases rest with
    | nil => exact ⟨_, first.lexes, rfl⟩
    | cons next rest =>
      obtain ⟨others, behind, same⟩ :=
        ih proper (position + token.lexeme.length + (gap (rest.length + 1)).length)
      refine ⟨⟨token.kind, token.lexeme, position⟩ :: others, ?_, congrArg (token.content :: ·) same⟩
      show Lexes position (token.lexeme ++ (gap _ ++ spaced gap ((next :: rest).map Token.lexeme))) _ []
      rw [List.length_map, List.length_cons]
      refine first.lexes.append (fun c mem => ?_) (behind.append_blanks (blanks _).2)
      rw [List.head?_append_of_ne_nil _ (blanks _).ne_nil] at mem
      exact (blanks _).2 c (List.mem_of_mem_head? mem)

/-! ## Where the tokens are -/

/-- **Each token stands where it says**: it is a lexeme of its kind and ends there, and the text in front of
it has the tokens before it. -/
theorem Lexes.stands_behind {token : Token} {before after : List Token}
    (h : Lexes position s (before ++ token :: after) left) :
    ∃ front behind, s = front ++ (token.lexeme ++ behind) ∧ token.position = position + front.length
      ∧ token.IsProper ∧ Ends (some token.kind) token.lexeme behind ∧ Lexes position front before [] := by
  generalize all : before ++ token :: after = tokens at h
  induction h generalizing before with
  | here => exact absurd all (by simp)
  | @blank _ lexeme _ _ _ front _ ih =>
    obtain ⟨inner, behind, rfl, there, proper, ends, lexes⟩ := ih all
    refine ⟨lexeme ++ inner, behind, (List.append_assoc _ _ _).symm, ?_, proper, ends,
      .blank (front?_of_append front) lexes⟩
    rw [there, List.length_append, Nat.add_assoc]
  | @token _ _ lexeme rest _ _ front _ ih =>
    cases before with
    | nil =>
      obtain ⟨rfl, _⟩ := List.cons_eq_cons.mp all
      obtain ⟨_, proper, ends⟩ := front?_eq_some_iff.mp front
      exact ⟨[], rest, rfl, rfl, proper, ends, .here⟩
    | cons first before =>
      obtain ⟨rfl, others⟩ := List.cons_eq_cons.mp all
      obtain ⟨inner, behind, rfl, there, proper, ends, lexes⟩ := ih others
      refine ⟨lexeme ++ inner, behind, (List.append_assoc _ _ _).symm, ?_, proper, ends,
        .token (front?_of_append front) lexes⟩
      rw [there, List.length_append, Nat.add_assoc]

theorem Lexes.stands (h : Lexes position s tokens left) {token : Token} (mem : token ∈ tokens) :
    ∃ front behind, s = front ++ (token.lexeme ++ behind) ∧ token.position = position + front.length
      ∧ token.IsProper ∧ Ends (some token.kind) token.lexeme behind := by
  obtain ⟨before, after, rfl⟩ := List.append_of_mem mem
  obtain ⟨front, behind, same, there, proper, ends, _⟩ := h.stands_behind
  exact ⟨front, behind, same, there, proper, ends⟩

/-- **They follow one another.** -/
theorem Lexes.pairwise (h : Lexes position s tokens left) :
    tokens.Pairwise fun a b => a.position + a.lexeme.length ≤ b.position := by
  induction h with
  | here => exact .nil
  | blank _ _ ih => exact ih
  | token _ behind ih =>
    refine .cons (fun token mem => ?_) ih
    obtain ⟨_, _, _, there, _⟩ := behind.stands mem
    exact there ▸ Nat.le_add_right _ _

/-- No token stands in two places. -/
theorem Lexes.nodup (h : Lexes position s tokens left) : tokens.Nodup := by
  refine h.pairwise.imp_of_mem fun {a b} _ mem le => ?_
  rintro rfl
  obtain ⟨_, _, _, _, proper, _⟩ := h.stands mem
  have some := List.length_pos_of_ne_nil proper.ne_nil
  omega

/-- Whether a token covers a place. -/
def Covers (token : Token) (place : ℕ) : Prop :=
  token.position ≤ place ∧ place < token.position + token.lexeme.length

/-- **What no token covers is white space.** -/
theorem Lexes.isBlank_of_not_covers (h : Lexes position s tokens []) {i : ℕ} {c : Char}
    (there : s[i]? = some c) (outside : ∀ token ∈ tokens, ¬ token.Covers (position + i)) :
    isBlank c = true := by
  generalize last : ([] : List Char) = left at h
  induction h generalizing i with
  | here => exact absurd (last ▸ there) nofun
  | @blank position lexeme rest _ _ front _ ih =>
    obtain ⟨_, blanks, _⟩ := front?_eq_some_iff.mp front
    obtain inside | beyond := Nat.lt_or_ge i lexeme.length
    · rw [List.getElem?_append_left inside] at there
      exact blanks.2 c (List.mem_of_getElem? there)
    · rw [List.getElem?_append_right beyond] at there
      refine ih there (fun token mem covers => outside token mem ?_) last
      rwa [Nat.add_assoc, Nat.add_sub_cancel' beyond] at covers
  | @token position _ lexeme rest _ _ _ _ ih =>
    obtain ⟨first, outside⟩ := List.forall_mem_cons.mp outside
    obtain inside | beyond := Nat.lt_or_ge i lexeme.length
    · exact absurd ⟨Nat.le_add_right _ _, Nat.add_lt_add_left inside _⟩ first
    · rw [List.getElem?_append_right beyond] at there
      refine ih there (fun token mem covers => outside token mem ?_) last
      rwa [Nat.add_assoc, Nat.add_sub_cancel' beyond] at covers

/-! ## Texts -/

/-- **Cutting is exact.** If it has a result, each token stands in the text where it says, is what the rule
of its kind allows and could not take in the next character; they follow one another, what they leave out
is white space, and with any white space between them they are the same tokens. If it has none, it breaks
off in front of the first place where no rule has a lexeme, and what is in front of that has a result. -/
theorem lex_exact (s : List Char) :
    (∀ tokens, lex s = .ok tokens →
      (∀ token ∈ tokens, ∃ front behind, s = front ++ (token.lexeme ++ behind)
          ∧ token.position = front.length ∧ IsLexeme (some token.kind) token.lexeme
          ∧ ∀ c ∈ behind.head?, ¬ IsLexeme (some token.kind) (token.lexeme ++ [c]))
      ∧ (tokens.Pairwise fun a b => a.position + a.lexeme.length ≤ b.position)
      ∧ (∀ i c, s[i]? = some c → (∀ token ∈ tokens, ¬ token.Covers i) → isBlank c = true)
      ∧ ∀ gap : ℕ → List Char, (∀ n, IsLexeme none (gap n)) →
          ∃ others, lex (spaced gap (tokens.map Token.lexeme)) = .ok others
            ∧ others.map content = tokens.map content)
    ∧ ∀ fault, lex s = .error fault →
        ∃ front behind, s = front ++ behind ∧ behind ≠ [] ∧ fault = .unrecognized front.length
          ∧ (∃ tokens, lex front = .ok tokens)
          ∧ ∀ kind lexeme, lexeme <+: behind → ¬ IsLexeme kind lexeme := by
  constructor
  · intro tokens cut
    have lexes : Lexes 0 s tokens [] := lexFrom_eq_ok_iff.mp cut
    refine ⟨fun token mem => ?_, lexes.pairwise, fun i c there outside => ?_, fun gap blanks => ?_⟩
    · obtain ⟨front, behind, eq, there, proper, ends⟩ := lexes.stands mem
      exact ⟨front, behind, eq, there.trans (Nat.zero_add _), proper, ends⟩
    · refine lexes.isBlank_of_not_covers there fun token mem => ?_
      rw [Nat.zero_add]
      exact outside token mem
    · have proper : ∀ token ∈ tokens, token.IsProper := fun token mem => by
        obtain ⟨_, _, _, _, proper, _⟩ := lexes.stands mem
        exact proper
      obtain ⟨others, lexes', same⟩ := exists_lexes_spaced blanks proper 0
      exact ⟨others, lexFrom_eq_ok_iff.mpr lexes', same⟩
  · intro fault failed
    obtain ⟨front, behind, eq, left, stuck, rfl, cut⟩ := exists_lexes_of_error failed
    exact ⟨front, behind, eq, left, by rw [Nat.zero_add], cut, front?_eq_none_iff.mp stuck⟩

/-- A number ends where a name begins, and `5.` is a number. -/
example : lex "3.5a 5.".toList
      = .ok [⟨.number, "3.5".toList, 0⟩, ⟨.name, ['a'], 3⟩, ⟨.number, "5.".toList, 5⟩]
    ∧ lex "a $".toList = .error (.unrecognized 2) := by
  constructor <;> cbv

end Token

end WhistledSpeech
