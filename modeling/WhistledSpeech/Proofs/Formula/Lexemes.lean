import Mathlib
import WhistledSpeech.Formula.Token

/-!
# The lexical rules of formulas

A name is an ASCII letter or a low line with word characters behind it, a number is digits with at most one
point behind the first of them, an operator is a single character, and white space is one or more blanks
(`Token.IsLexeme`). The rules say nothing of where in a text a lexeme is looked for, how far it goes or
which rule is tried first.

`Token.front?` decides all of that by the first character. It comes to this: the lexeme at the front of a
text is the one that the following character does not extend (`front?_eq_some_iff`), and where there is
none, no rule has any at that place (`front?_eq_none_iff`). That the order of the rules does not matter is
because no character can begin lexemes of two kinds, and for white space this has to be looked up in the
tables of digits and word characters (`excludes_of_isBlank`).
-/

namespace WhistledSpeech

open Text

/-! ## Runs of characters -/

section Runs

variable {p : Char → Bool} {body rest : List Char}

/-- A run ends where the next character does not belong to it. -/
theorem takeWhile_append_of_stops (inside : ∀ c ∈ body, p c = true)
    (stops : ∀ c ∈ rest.head?, p c = false) :
    (body ++ rest).takeWhile p = body := by
  rw [List.takeWhile_append_of_pos inside]
  cases rest with
  | nil => rw [List.takeWhile_nil, List.append_nil]
  | cons c rest => rw [List.takeWhile_cons_of_neg (by simp [stops c rfl]), List.append_nil]

theorem dropWhile_append_of_stops (inside : ∀ c ∈ body, p c = true)
    (stops : ∀ c ∈ rest.head?, p c = false) :
    (body ++ rest).dropWhile p = rest := by
  rw [List.dropWhile_append_of_pos inside]
  cases rest with
  | nil => rfl
  | cons c rest => rw [List.dropWhile_cons_of_neg (by simp [stops c rfl])]

/-- What is left behind a run does not begin with a character of it. -/
theorem eq_false_of_mem_head?_dropWhile {c : Char} (mem : c ∈ (rest.dropWhile p).head?) : p c = false := by
  have stops := List.head?_dropWhile_not p rest
  rwa [Option.mem_def.mp mem] at stops

/-- A run goes on with one more character of it. -/
theorem forall_mem_concat {c : Char} (inside : ∀ d ∈ body, p d = true) (next : p c = true) :
    ∀ d ∈ body ++ [c], p d = true :=
  List.forall_mem_append.mpr ⟨inside, List.forall_mem_singleton.mpr next⟩

end Runs

/-! ## Which characters exclude one another -/

namespace Token

/-- The code points of white space. -/
def blankCodes : List Nat :=
  [0x09, 0x0A, 0x0B, 0x0C, 0x0D, 0x1C, 0x1D, 0x1E, 0x1F, 0x20, 0x85, 0xA0, 0x1680, 0x2000, 0x2001, 0x2002,
    0x2003, 0x2004, 0x2005, 0x2006, 0x2007, 0x2008, 0x2009, 0x200A, 0x2028, 0x2029, 0x202F, 0x205F, 0x3000]

theorem toNat_mem_blankCodes {c : Char} (blank : isBlank c = true) : c.toNat ∈ blankCodes := by
  unfold isBlank at blank
  dsimp only at blank
  simp only [blankCodes, List.mem_cons, List.not_mem_nil]
  split at blank <;>
    · simp only [Bool.or_eq_true, Bool.and_eq_true, beq_iff_eq, decide_eq_true_eq] at blank
      omega

/-- **White space is nothing else**: no name, number or operator begins with it or goes on with it. -/
theorem excludes_of_isBlank {c : Char} (blank : isBlank c = true) :
    isNameStart c = false ∧ isWord c = false ∧ isDigit c = false ∧ c ≠ '.' ∧ isOperator c = false := by
  have all : ∀ n ∈ blankCodes, isNameStart (Char.ofNat n) = false ∧ isWord (Char.ofNat n) = false
      ∧ isDigit (Char.ofNat n) = false ∧ Char.ofNat n ≠ '.' ∧ isOperator (Char.ofNat n) = false := by
    decide +kernel
  have here := all c.toNat (toNat_mem_blankCodes blank)
  rwa [Char.ofNat_toNat] at here

/-- What begins a name is a letter or a low line. -/
theorem isDigit_of_isNameStart {c : Char} (start : isNameStart c = true) : isDigit c = false := by
  have ascii : c.toNat < 128 := by
    unfold isNameStart isAsciiLetter at start
    simp only [Bool.or_eq_true, Bool.and_eq_true, decide_eq_true_eq, beq_iff_eq, Char.le_def,
      UInt32.le_iff_toNat_le] at start
    obtain (⟨_, high⟩ | ⟨_, high⟩) | rfl := start
    · exact high.trans_lt (by decide)
    · exact high.trans_lt (by decide)
    · decide
  have all : ∀ n < 128, isNameStart (Char.ofNat n) = true → isDigit (Char.ofNat n) = false := by
    decide +kernel
  have here := all c.toNat ascii
  rw [Char.ofNat_toNat] at here
  exact here start

/-- What is an operator begins neither a name nor a number. -/
theorem excludes_of_isOperator {c : Char} (operator : isOperator c = true) :
    isNameStart c = false ∧ isDigit c = false := by
  unfold isOperator at operator
  simp only [Bool.or_eq_true, beq_iff_eq] at operator
  obtain (((((rfl | rfl) | rfl) | rfl) | rfl) | rfl) | rfl := operator <;> decide +kernel

/-! ## The rules -/

/-- **What a lexeme of a kind is**, white space being of none. -/
def IsLexeme : Option TokenKind → List Char → Prop
  | some .name, s => ∃ c tail, s = c :: tail ∧ isNameStart c = true ∧ ∀ d ∈ tail, isWord d = true
  | some .number, s => ∃ whole, whole ≠ [] ∧ (∀ d ∈ whole, isDigit d = true)
      ∧ (s = whole ∨ ∃ decimals, (∀ d ∈ decimals, isDigit d = true) ∧ s = whole ++ '.' :: decimals)
  | some .operator, s => ∃ c, s = [c] ∧ isOperator c = true
  | none, s => s ≠ [] ∧ ∀ c ∈ s, isBlank c = true

variable {kind : Option TokenKind} {s lexeme rest : List Char} {c : Char}

theorem IsLexeme.ne_nil (h : IsLexeme kind lexeme) : lexeme ≠ [] := by
  match kind, h with
  | some .name, ⟨c, tail, eq, _⟩ => exact eq ▸ List.cons_ne_nil c tail
  | some .number, ⟨whole, nonempty, _, eq⟩ =>
    obtain rfl | ⟨decimals, _, rfl⟩ := eq
    · exact nonempty
    · exact List.append_ne_nil_of_left_ne_nil nonempty _
  | some .operator, ⟨c, eq, _⟩ => exact eq ▸ List.cons_ne_nil c []
  | none, h => exact h.1

/-- **No token holds white space.** -/
theorem IsLexeme.not_isBlank {kind : TokenKind} (h : IsLexeme (some kind) lexeme) :
    ∀ c ∈ lexeme, isBlank c = false := by
  intro c mem
  by_contra blank
  obtain ⟨start, word, digit, point, operator⟩ := excludes_of_isBlank (Bool.not_eq_false _ ▸ blank)
  match kind with
  | .name =>
    obtain ⟨d, tail, rfl, hstart, hword⟩ := h
    obtain rfl | mem := List.mem_cons.mp mem
    · exact Bool.false_ne_true (start.symm.trans hstart)
    · exact Bool.false_ne_true (word.symm.trans (hword c mem))
  | .number =>
    obtain ⟨whole, _, hwhole, rfl | ⟨decimals, hdecimals, rfl⟩⟩ := h
    · exact Bool.false_ne_true (digit.symm.trans (hwhole c mem))
    · obtain mem | mem := List.mem_append.mp mem
      · exact Bool.false_ne_true (digit.symm.trans (hwhole c mem))
      obtain rfl | mem := List.mem_cons.mp mem
      · exact point rfl
      · exact Bool.false_ne_true (digit.symm.trans (hdecimals c mem))
  | .operator =>
    obtain ⟨d, rfl, hoperator⟩ := h
    obtain rfl := List.mem_singleton.mp mem
    exact Bool.false_ne_true (operator.symm.trans hoperator)

/-! ## What extends a lexeme -/

/-- A name goes on with a word character. -/
theorem extends_name_iff (h : IsLexeme (some .name) lexeme) :
    IsLexeme (some .name) (lexeme ++ [c]) ↔ isWord c = true := by
  obtain ⟨start, tail, rfl, hstart, htail⟩ := h
  constructor
  · rintro ⟨start', tail', eq, _, htail'⟩
    obtain ⟨_, rfl⟩ := List.cons.inj eq
    exact htail' c (by simp)
  · intro word
    exact ⟨start, tail ++ [c], rfl, hstart, forall_mem_concat htail word⟩

theorem isDigit_point : isDigit '.' = false := by
  decide +kernel

/-- Digits end where the point comes next. -/
theorem isDigit_of_mem_head?_point : ∀ d ∈ ('.' :: rest).head?, isDigit d = false := by
  intro d mem
  obtain rfl := Option.some.inj mem
  exact isDigit_point

/-- The point of a number is where its first digits end. -/
theorem append_point_inj {whole whole' decimals decimals' : List Char}
    (digits : ∀ d ∈ whole, isDigit d = true) (digits' : ∀ d ∈ whole', isDigit d = true)
    (eq : whole ++ '.' :: decimals = whole' ++ '.' :: decimals') : decimals = decimals' := by
  have behind := congrArg (List.dropWhile isDigit) eq
  rw [dropWhile_append_of_stops digits isDigit_of_mem_head?_point,
    dropWhile_append_of_stops digits' isDigit_of_mem_head?_point] at behind
  exact (List.cons.inj behind).2

/-- Digits go on with a digit or with the point. -/
theorem extends_whole_iff (nonempty : lexeme ≠ []) (digits : ∀ d ∈ lexeme, isDigit d = true) :
    IsLexeme (some .number) (lexeme ++ [c]) ↔ isDigit c = true ∨ c = '.' := by
  constructor
  · rintro ⟨whole, _, hwhole, rfl | ⟨decimals, hdecimals, eq⟩⟩
    · exact .inl (hwhole c (by simp))
    · have last : (lexeme ++ [c]).getLast? = ('.' :: decimals).getLast? := by
        rw [eq, List.getLast?_append_of_ne_nil _ (List.cons_ne_nil _ _)]
      rw [List.getLast?_concat] at last
      obtain same | mem := List.mem_cons.mp (List.mem_of_getLast? last.symm)
      · exact .inr same
      · exact .inl (hdecimals c mem)
  · rintro (digit | rfl)
    · exact ⟨lexeme ++ [c], by simp, forall_mem_concat digits digit, .inl rfl⟩
    · exact ⟨lexeme, nonempty, digits, .inr ⟨[], by simp, rfl⟩⟩

/-- Behind the point only a digit follows. -/
theorem extends_decimals_iff {whole decimals : List Char} (nonempty : whole ≠ [])
    (digits : ∀ d ∈ whole, isDigit d = true) (digits' : ∀ d ∈ decimals, isDigit d = true) :
    IsLexeme (some .number) (whole ++ '.' :: decimals ++ [c]) ↔ isDigit c = true := by
  rw [List.append_assoc, List.cons_append]
  constructor
  · rintro ⟨whole', _, hwhole, rfl | ⟨decimals', hdecimals, eq⟩⟩
    · exact absurd (hwhole '.' (by simp)) (by rw [isDigit_point]; exact Bool.false_ne_true)
    · have behind := append_point_inj digits hwhole eq
      exact hdecimals c (behind ▸ by simp)
  · intro digit
    exact ⟨whole, nonempty, digits, .inr ⟨decimals ++ [c], forall_mem_concat digits' digit, rfl⟩⟩

/-- An operator goes on with nothing. -/
theorem not_extends_operator (nonempty : lexeme ≠ []) : ¬ IsLexeme (some .operator) (lexeme ++ [c]) := by
  rintro ⟨d, eq, _⟩
  have length := congrArg List.length eq
  rw [List.length_append] at length
  exact nonempty (List.length_eq_zero_iff.mp (Nat.succ.inj length))

/-- White space goes on with white space. -/
theorem extends_blank_iff (h : IsLexeme none lexeme) :
    IsLexeme none (lexeme ++ [c]) ↔ isBlank c = true := by
  constructor
  · rintro ⟨_, all⟩
    exact all c (by simp)
  · intro blank
    exact ⟨by simp, forall_mem_concat h.2 blank⟩

/-! ## The lexeme at the front -/

/-- **A lexeme ends** where what follows does not extend it. -/
def Ends (kind : Option TokenKind) (lexeme rest : List Char) : Prop :=
  ∀ c ∈ rest.head?, ¬ IsLexeme kind (lexeme ++ [c])

theorem fraction_of_ne_point (other : ∀ c ∈ rest.head?, c ≠ '.') : fraction rest = ([], rest) := by
  unfold fraction
  split
  · exact absurd rfl (other '.' rfl)
  · rfl

/-- **A lexeme that ends is the one at the front.** -/
theorem front?_of_isLexeme (h : IsLexeme kind lexeme) (ends : Ends kind lexeme rest) :
    front? (lexeme ++ rest) = some (kind, lexeme, rest) := by
  match kind with
  | some .name =>
    have stops : ∀ c ∈ rest.head?, isWord c = false := fun c mem =>
      Bool.eq_false_iff.mpr (mt (extends_name_iff h).mpr (ends c mem))
    obtain ⟨c, tail, rfl, start, words⟩ := h
    rw [List.cons_append, front?, if_pos start, takeWhile_append_of_stops words stops,
      dropWhile_append_of_stops words stops]
  | some .number =>
    obtain ⟨whole, nonempty, digits, written⟩ := h
    obtain ⟨c, tail, rfl⟩ := List.exists_cons_of_ne_nil nonempty
    have digit : isDigit c = true := digits c List.mem_cons_self
    have digits' : ∀ d ∈ tail, isDigit d = true := fun d mem => digits d (List.mem_cons_of_mem c mem)
    have start : ¬ isNameStart c = true := fun start =>
      absurd digit (Bool.eq_false_iff.mp (isDigit_of_isNameStart start))
    obtain rfl | ⟨decimals, digits'', rfl⟩ := written
    · have stops : ∀ d ∈ rest.head?, isDigit d = false ∧ d ≠ '.' := fun d mem =>
        (not_or.mp (mt (extends_whole_iff nonempty digits).mpr (ends d mem))).imp_left Bool.eq_false_iff.mpr
      rw [List.cons_append, front?, if_neg start, if_pos digit,
        takeWhile_append_of_stops digits' fun d mem => (stops d mem).1,
        dropWhile_append_of_stops digits' fun d mem => (stops d mem).1,
        fraction_of_ne_point fun d mem => (stops d mem).2, List.append_nil]
    · have stops : ∀ d ∈ rest.head?, isDigit d = false := fun d mem =>
        Bool.eq_false_iff.mpr (mt (extends_decimals_iff nonempty digits digits'').mpr (ends d mem))
      rw [List.cons_append, List.cons_append, List.append_assoc, List.cons_append, front?, if_neg start,
        if_pos digit, takeWhile_append_of_stops digits' isDigit_of_mem_head?_point,
        dropWhile_append_of_stops digits' isDigit_of_mem_head?_point, fraction,
        takeWhile_append_of_stops digits'' stops, dropWhile_append_of_stops digits'' stops]
  | some .operator =>
    obtain ⟨c, rfl, operator⟩ := h
    obtain ⟨start, digit⟩ := excludes_of_isOperator operator
    rw [List.cons_append, front?, start, digit, operator]
    rfl
  | none =>
    have stops : ∀ c ∈ rest.head?, isBlank c = false := fun c mem =>
      Bool.eq_false_iff.mpr (mt (extends_blank_iff h).mpr (ends c mem))
    obtain ⟨c, tail, rfl⟩ := List.exists_cons_of_ne_nil h.1
    have blank : isBlank c = true := h.2 c List.mem_cons_self
    have blanks : ∀ d ∈ tail, isBlank d = true := fun d mem => h.2 d (List.mem_cons_of_mem c mem)
    obtain ⟨start, _, digit, _, operator⟩ := excludes_of_isBlank blank
    rw [List.cons_append, front?, start, digit, operator, blank, takeWhile_append_of_stops blanks stops,
      dropWhile_append_of_stops blanks stops]
    rfl

/-- **What is at the front is a lexeme that ends.** -/
theorem isLexeme_of_front? (h : front? s = some (kind, lexeme, rest)) :
    IsLexeme kind lexeme ∧ Ends kind lexeme rest := by
  cases s with
  | nil => exact absurd h nofun
  | cons c tail =>
    rw [front?] at h
    split at h
    · next start =>
      cases h
      have name : IsLexeme (some .name) (c :: tail.takeWhile isWord) :=
        ⟨c, _, rfl, start, fun d mem => List.mem_takeWhile_imp mem⟩
      refine ⟨name, fun d mem => (extends_name_iff name).not.mpr ?_⟩
      exact Bool.eq_false_iff.mp (eq_false_of_mem_head?_dropWhile mem)
    split at h
    · next digit =>
      cases h
      have digits : ∀ d ∈ c :: tail.takeWhile isDigit, isDigit d = true :=
        List.forall_mem_cons.mpr ⟨digit, fun d mem => List.mem_takeWhile_imp mem⟩
      have nonempty : c :: tail.takeWhile isDigit ≠ [] := List.cons_ne_nil c _
      have behind : ∀ d ∈ (tail.dropWhile isDigit).head?, isDigit d = false := fun d mem =>
        eq_false_of_mem_head?_dropWhile mem
      unfold fraction
      split
      · next decimals _ =>
        have digits' : ∀ d ∈ decimals.takeWhile isDigit, isDigit d = true := fun d mem =>
          List.mem_takeWhile_imp mem
        refine ⟨⟨_, nonempty, digits, .inr ⟨_, digits', rfl⟩⟩, fun d mem => ?_⟩
        exact (extends_decimals_iff nonempty digits digits').not.mpr
          (Bool.eq_false_iff.mp (eq_false_of_mem_head?_dropWhile mem))
      · next other =>
        rw [List.append_nil]
        refine ⟨⟨_, nonempty, digits, .inl rfl⟩, fun d mem => ?_⟩
        refine (extends_whole_iff nonempty digits).not.mpr
          (not_or.mpr ⟨Bool.eq_false_iff.mp (behind d mem), ?_⟩)
        rintro rfl
        exact other _ (List.eq_cons_of_mem_head? mem)
    split at h
    · next operator =>
      cases h
      exact ⟨⟨c, rfl, operator⟩, fun d _ => not_extends_operator (List.cons_ne_nil c [])⟩
    split at h
    · next blank =>
      cases h
      have blanks : IsLexeme none (c :: tail.takeWhile isBlank) :=
        ⟨List.cons_ne_nil c _, List.forall_mem_cons.mpr ⟨blank, fun d mem => List.mem_takeWhile_imp mem⟩⟩
      refine ⟨blanks, fun d mem => (extends_blank_iff blanks).not.mpr ?_⟩
      exact Bool.eq_false_iff.mp (eq_false_of_mem_head?_dropWhile mem)
    · exact absurd h nofun

/-- **The lexeme at the front** is the one that what follows does not extend. -/
theorem front?_eq_some_iff :
    front? s = some (kind, lexeme, rest)
      ↔ lexeme ++ rest = s ∧ IsLexeme kind lexeme ∧ Ends kind lexeme rest := by
  constructor
  · exact fun h => ⟨front?_append h, isLexeme_of_front? h⟩
  · rintro ⟨rfl, h, ends⟩
    exact front?_of_isLexeme h ends

/-- The first character decides whether there is a lexeme. -/
theorem front?_cons_eq_none_iff {tail : List Char} :
    front? (c :: tail) = none
      ↔ isNameStart c = false ∧ isDigit c = false ∧ isOperator c = false ∧ isBlank c = false := by
  rw [front?]
  split_ifs <;> simp_all

/-- Where a rule has a lexeme there is one at the front, whether it ends there or not. -/
theorem front?_append_ne_none (h : IsLexeme kind lexeme) : front? (lexeme ++ rest) ≠ none := by
  match kind with
  | some .name =>
    obtain ⟨c, tail, rfl, start, _⟩ := h
    exact fun none => Bool.false_ne_true ((front?_cons_eq_none_iff.mp none).1.symm.trans start)
  | some .number =>
    obtain ⟨whole, nonempty, digits, written⟩ := h
    obtain ⟨c, tail, rfl⟩ := List.exists_cons_of_ne_nil nonempty
    have digit : isDigit c = true := digits c List.mem_cons_self
    obtain rfl | ⟨decimals, _, rfl⟩ := written <;>
      exact fun none => Bool.false_ne_true ((front?_cons_eq_none_iff.mp none).2.1.symm.trans digit)
  | some .operator =>
    obtain ⟨c, rfl, operator⟩ := h
    exact fun none => Bool.false_ne_true ((front?_cons_eq_none_iff.mp none).2.2.1.symm.trans operator)
  | none =>
    obtain ⟨c, tail, rfl⟩ := List.exists_cons_of_ne_nil h.1
    have blank : isBlank c = true := h.2 c List.mem_cons_self
    exact fun none => Bool.false_ne_true ((front?_cons_eq_none_iff.mp none).2.2.2.symm.trans blank)

/-- **There is no lexeme at the front** exactly if no rule has one there. -/
theorem front?_eq_none_iff : front? s = none ↔ ∀ kind lexeme, lexeme <+: s → ¬ IsLexeme kind lexeme := by
  constructor
  · rintro none kind lexeme ⟨rest, rfl⟩ h
    exact front?_append_ne_none h none
  · intro h
    cases front : front? s with
    | none => rfl
    | some found =>
      obtain ⟨kind, lexeme, rest⟩ := found
      obtain ⟨rfl, lexeme', _⟩ := front?_eq_some_iff.mp front
      exact absurd lexeme' (h kind lexeme (List.prefix_append lexeme rest))

end Token

end WhistledSpeech
