import Mathlib
import WhistledSpeech.Proofs.Lexicon.Graphemes

/-!
# Where text is cut

A candidate grows over a text character by character, first until it is a grapheme and then as long as
it stays one. Which piece that cuts off is a matter of the prefixes of the text alone: it ends the first
run of prefixes that are graphemes (`IsPiece`). The prefixes of a grapheme need not be graphemes, so this
is neither the shortest nor the longest grapheme that the text begins with.

A text is cut piece by piece, each from where the one before it ended (`IsCut`), either to its end or to
a place where no prefix of what is left is a grapheme (`IsStuck`). `cut_exact` says that this is what
cutting does, and that it is all there is to do: there is one way to cut a text.
-/

namespace WhistledSpeech.Graphemes

/-! ## First runs -/

/-- **The first run** of positive numbers up to a limit that have a property: from the first that has it
up to the last before one that has not. -/
structure IsFirstRun (has : ℕ → Prop) (limit first last : ℕ) : Prop where
  /-- Zero is not looked at. -/
  pos : 0 < first
  /-- There is a run. -/
  le : first ≤ last
  /-- It does not go beyond the limit. -/
  le_limit : last ≤ limit
  /-- Before it there is none. -/
  before : ∀ n, 0 < n → n < first → ¬ has n
  /-- It has no gaps. -/
  within : ∀ n, first ≤ n → n ≤ last → has n
  /-- It ends where it has to. -/
  ends : last < limit → ¬ has (last + 1)

namespace IsFirstRun

variable {has : ℕ → Prop} {limit first last first' last' : ℕ}

/-- One run starts no later than another. -/
theorem first_le (h : IsFirstRun has limit first last) (h' : IsFirstRun has limit first' last') :
    first ≤ first' := by
  by_contra later
  exact h.before first' h'.pos (by omega) (h'.within first' le_rfl h'.le)

/-- Of two that start together one ends no later than the other. -/
theorem last_le (h : IsFirstRun has limit first last) (h' : IsFirstRun has limit first last') :
    last ≤ last' := by
  by_contra longer
  have := h.le_limit
  have := h'.le
  exact h'.ends (by omega) (h.within (last' + 1) (by omega) (by omega))

/-- **There is one first run.** -/
theorem unique (h : IsFirstRun has limit first last) (h' : IsFirstRun has limit first' last') :
    last = last' := by
  cases (h.first_le h').antisymm (h'.first_le h)
  exact (h.last_le h').antisymm (h'.last_le h)

/-- A run further on, where the first number has not got the property. -/
theorem succ (h : IsFirstRun (fun n => has (n + 1)) limit first last) (not : ¬ has 1) :
    IsFirstRun has (limit + 1) (first + 1) (last + 1) where
  pos := first.succ_pos
  le := Nat.succ_le_succ h.le
  le_limit := Nat.succ_le_succ h.le_limit
  before := by
    intro n pos lt
    obtain _ | _ | n := n
    · exact absurd pos (Nat.lt_irrefl 0)
    · exact not
    · exact h.before (n + 1) n.succ_pos (by omega)
  within := by
    intro n le le'
    obtain _ | n := n
    · exact absurd le (by omega)
    · exact h.within n (by omega) (by omega)
  ends lt := h.ends (by omega)

end IsFirstRun

/-! ## One piece -/

section Piece

variable {known : List Char → Bool}

/-- Adding a character of the text to the candidate leaves the prefixes as they are. -/
theorem append_take_succ (candidate : List Char) (c : Char) (text : List Char) (n : ℕ) :
    candidate ++ (c :: text).take (n + 1) = (candidate ++ [c]) ++ text.take n := by
  rw [List.take_succ_cons, List.append_assoc, List.singleton_append]

/-- **A grapheme grows** by as many characters as keep it one. -/
theorem exists_extend {grapheme : List Char} (h : known grapheme = true) (text : List Char) :
    ∃ n, extend known grapheme text = (grapheme ++ text.take n, text.drop n) ∧ n ≤ text.length
      ∧ (∀ j ≤ n, known (grapheme ++ text.take j) = true)
      ∧ (n < text.length → ¬ known (grapheme ++ text.take (n + 1)) = true) := by
  induction text generalizing grapheme with
  | nil =>
    refine ⟨0, by rw [extend, List.take_nil, List.append_nil, List.drop_nil], le_rfl, ?_, ?_⟩
    · intro j _
      rwa [List.take_nil, List.append_nil]
    · exact fun lt => absurd lt (Nat.lt_irrefl 0)
  | cons c text ih =>
    rw [extend]
    by_cases longer : known (grapheme ++ [c]) = true
    · obtain ⟨n, grown, le, all, ends⟩ := ih longer
      refine ⟨n + 1, ?_, Nat.succ_le_succ le, fun j le => ?_, fun lt => ?_⟩
      · rw [if_pos longer, grown, append_take_succ, List.drop_succ_cons]
      · obtain _ | j := j
        · rwa [List.take_zero, List.append_nil]
        · rw [append_take_succ]
          exact all j (Nat.le_of_succ_le_succ le)
      · rw [append_take_succ]
        exact ends (Nat.lt_of_succ_lt_succ lt)
    · refine ⟨0, ?_, Nat.zero_le _, fun j le => ?_, fun _ => ?_⟩
      · rw [if_neg longer, List.take_zero, List.append_nil, List.drop_zero]
      · rw [Nat.le_zero.mp le, List.take_zero, List.append_nil]
        exact h
      · rwa [append_take_succ, List.take_zero, List.append_nil]

/-- **What a candidate grows into** ends the first run of graphemes among its continuations. -/
theorem isFirstRun_of_grow? {candidate text piece rest : List Char}
    (h : grow? known candidate text = some (piece, rest)) :
    ∃ first last, IsFirstRun (fun n => known (candidate ++ text.take n) = true) text.length first last
      ∧ piece = candidate ++ text.take last ∧ rest = text.drop last := by
  induction text generalizing candidate with
  | nil => exact absurd h nofun
  | cons c text ih =>
    have single : candidate ++ (c :: text).take 1 = candidate ++ [c] := rfl
    rw [grow?] at h
    by_cases reached : known (candidate ++ [c]) = true
    · rw [if_pos reached, Option.some.injEq] at h
      obtain ⟨n, grown, le, all, ends⟩ := exists_extend reached text
      obtain ⟨rfl, rfl⟩ := Prod.mk.inj (h.symm.trans grown)
      refine ⟨1, n + 1, ⟨one_pos, by omega, Nat.succ_le_succ le, by omega, ?_, ?_⟩, ?_, rfl⟩
      · intro j pos le
        obtain _ | j := j
        · exact absurd pos (by omega)
        · rw [append_take_succ]
          exact all j (Nat.le_of_succ_le_succ le)
      · intro lt
        rw [append_take_succ]
        exact ends (Nat.lt_of_succ_lt_succ lt)
      · rw [append_take_succ]
    · rw [if_neg reached] at h
      obtain ⟨first, last, run, rfl, rfl⟩ := ih h
      refine ⟨first + 1, last + 1, .succ ?_ (by rwa [single]), by rw [append_take_succ], rfl⟩
      simpa only [append_take_succ] using run

/-- A candidate that grows into nothing has no grapheme among its continuations. -/
theorem forall_of_grow?_eq_none {candidate text : List Char} (h : grow? known candidate text = none) :
    ∀ n, 0 < n → n ≤ text.length → ¬ known (candidate ++ text.take n) = true := by
  induction text generalizing candidate with
  | nil => exact fun n pos le => absurd pos (by rw [Nat.le_zero.mp le]; exact Nat.lt_irrefl 0)
  | cons c text ih =>
    rw [grow?] at h
    by_cases reached : known (candidate ++ [c]) = true
    · rw [if_pos reached] at h
      exact absurd h (Option.some_ne_none _)
    · rw [if_neg reached] at h
      intro n pos le
      obtain _ | _ | n := n
      · exact absurd pos (Nat.lt_irrefl 0)
      · exact reached
      · rw [append_take_succ]
        exact ih h (n + 1) n.succ_pos (Nat.le_of_succ_le_succ le)

end Piece

/-- **The piece at the front of a text**: a prefix of it that ends the first run of prefixes that are
graphemes. The empty prefix is not looked at, be it a grapheme or not. -/
def IsPiece (graphemes : List String) (text piece : List Char) : Prop :=
  piece <+: text ∧ ∃ first,
    IsFirstRun (fun n => String.ofList (text.take n) ∈ graphemes) text.length first piece.length

/-- **No piece at the front of a text** that has not ended: no prefix of it is a grapheme. -/
def IsStuck (graphemes : List String) (text : List Char) : Prop :=
  text ≠ [] ∧ ∀ n, 0 < n → n ≤ text.length → String.ofList (text.take n) ∉ graphemes

variable {graphemes : List String} {text piece piece' rest : List Char}

/-- **There is one piece** at the front of a text. -/
theorem IsPiece.unique (h : IsPiece graphemes text piece) (h' : IsPiece graphemes text piece') :
    piece = piece' := by
  obtain ⟨front, _, run⟩ := h
  obtain ⟨front', _, run'⟩ := h'
  rw [List.prefix_iff_eq_take.mp front, List.prefix_iff_eq_take.mp front', run.unique run']

/-- A piece is a grapheme. -/
theorem IsPiece.mem (h : IsPiece graphemes text piece) : String.ofList piece ∈ graphemes := by
  obtain ⟨front, _, run⟩ := h
  rw [List.prefix_iff_eq_take.mp front]
  exact run.within _ run.le le_rfl

theorem IsPiece.ne_nil (h : IsPiece graphemes text piece) : piece ≠ [] := by
  obtain ⟨_, _, run⟩ := h
  exact List.ne_nil_of_length_pos (run.pos.trans_le run.le)

/-- Where there is a piece, nothing is stuck. -/
theorem IsPiece.not_isStuck (h : IsPiece graphemes text piece) : ¬ IsStuck graphemes text := by
  obtain ⟨_, first, run⟩ := h
  rintro ⟨_, none⟩
  exact none first run.pos (run.le.trans run.le_limit) (run.within first le_rfl run.le)

/-- Of a prefix that is not empty it is asked whether it is a grapheme. -/
theorem among_take_iff {n : ℕ} (pos : 0 < n) (le : n ≤ text.length) :
    among graphemes (text.take n) = true ↔ String.ofList (text.take n) ∈ graphemes := by
  have some : (text.take n).isEmpty = false := by
    rw [List.isEmpty_eq_false_iff, Ne, List.take_eq_nil_iff]
    rintro (rfl | rfl)
    · exact absurd pos (Nat.lt_irrefl 0)
    · exact absurd (pos.trans_le le) (Nat.lt_irrefl 0)
  rw [among, some, Bool.not_false, Bool.true_and, List.contains_iff_mem]

/-- **What is cut off a text is the piece at its front.** -/
theorem isPiece_of_grow? (h : grow? (among graphemes) [] text = some (piece, rest)) :
    IsPiece graphemes text piece ∧ text = piece ++ rest := by
  obtain ⟨first, last, run, rfl, rfl⟩ := isFirstRun_of_grow? h
  simp only [List.nil_append] at run ⊢
  have length : (text.take last).length = last := List.length_take_of_le run.le_limit
  refine ⟨⟨List.take_prefix last text, first, ?_⟩, (List.take_append_drop last text).symm⟩
  rw [length]
  have := run.le
  have := run.le_limit
  have := run.pos
  refine ⟨run.pos, run.le, run.le_limit, fun n pos lt => ?_, fun n le le' => ?_, fun lt => ?_⟩
  · rw [← among_take_iff pos (by omega)]
    exact run.before n pos lt
  · rw [← among_take_iff (by omega) (by omega)]
    exact run.within n le le'
  · rw [← among_take_iff last.succ_pos lt]
    exact run.ends lt

/-- Where nothing is cut off, the text has ended or is stuck. -/
theorem isStuck_of_grow? (h : grow? (among graphemes) [] text = none) (some : text ≠ []) :
    IsStuck graphemes text := by
  refine ⟨some, fun n pos le => ?_⟩
  rw [← among_take_iff pos le]
  exact forall_of_grow?_eq_none h n pos le

/-! ## Piece by piece -/

/-- **A text cut so far**: the pieces cut off it, each at the front of what the ones before it left, and
what is left behind them. -/
inductive IsCut (graphemes : List String) : List Char → List String → List Char → Prop where
  /-- Nothing is cut off yet. -/
  | start (text : List Char) : IsCut graphemes text [] text
  /-- A piece is cut off, and others behind it. -/
  | piece {piece text : List Char} {pieces : List String} {left : List Char}
      (front : IsPiece graphemes (piece ++ text) piece) (behind : IsCut graphemes text pieces left) :
      IsCut graphemes (piece ++ text) (String.ofList piece :: pieces) left

namespace IsCut

variable {pieces pieces' : List String} {left left' : List Char}

/-- **Nothing is lost and nothing is read twice.** -/
theorem join_append (h : IsCut graphemes text pieces left) :
    String.join pieces ++ String.ofList left = String.ofList text := by
  induction h with
  | start text => rw [String.join_nil, String.empty_append]
  | piece _ _ ih => rw [String.join_cons, String.append_assoc, ih, String.ofList_append]

/-- Every piece is a grapheme, and none is empty. -/
theorem of_mem (h : IsCut graphemes text pieces left) :
    ∀ token ∈ pieces, token ≠ "" ∧ token ∈ graphemes := by
  induction h with
  | start text => exact fun token mem => absurd mem List.not_mem_nil
  | piece front _ ih =>
    intro token mem
    obtain rfl | mem := List.mem_cons.mp mem
    · exact ⟨mt String.ofList_eq_empty_iff.mp front.ne_nil, front.mem⟩
    · exact ih token mem

/-- **There is one way to cut a text** to where it has ended or is stuck. -/
theorem unique (h : IsCut graphemes text pieces left) (h' : IsCut graphemes text pieces' left')
    (done : left = [] ∨ IsStuck graphemes left) (done' : left' = [] ∨ IsStuck graphemes left') :
    pieces = pieces' ∧ left = left' := by
  -- where one has a piece, the other cannot have stopped
  have goes : ∀ {piece text : List Char}, IsPiece graphemes (piece ++ text) piece →
      ¬ (piece ++ text = [] ∨ IsStuck graphemes (piece ++ text)) := by
    rintro piece text front (ended | stuck)
    · exact front.ne_nil (List.append_eq_nil_iff.mp ended).1
    · exact front.not_isStuck stuck
  induction h generalizing pieces' left' with
  | start text =>
    cases h' with
    | start => exact ⟨rfl, rfl⟩
    | piece front _ => exact absurd done (goes front)
  | @piece piece text pieces left front behind ih =>
    generalize whole : piece ++ text = all at h' front
    cases h' with
    | start =>
      subst whole
      exact absurd done' (goes front)
    | piece front' behind' =>
      cases front.unique front'
      cases List.append_cancel_left whole
      obtain ⟨rfl, rfl⟩ := ih behind' done done'
      exact ⟨rfl, rfl⟩

end IsCut

/-- **Cutting goes on as long as there is a piece.** -/
theorem exists_isCut_cut (graphemes : List String) (text : List Char) :
    ∃ left, IsCut graphemes text (cut (among graphemes) text).items left
      ∧ (left = [] ∧ (cut (among graphemes) text).fault = none
        ∨ IsStuck graphemes left
          ∧ (cut (among graphemes) text).fault = some (.unrecognizedText (String.ofList left))) := by
  cases grown : grow? (among graphemes) [] text with
  | some found =>
    obtain ⟨piece, rest⟩ := found
    have := length_lt_of_grow? grown
    obtain ⟨left, behind, stops⟩ := exists_isCut_cut graphemes rest
    obtain ⟨front, rfl⟩ := isPiece_of_grow? grown
    rw [cut_of_grow? grown]
    exact ⟨left, .piece front behind, stops⟩
  | none =>
    rw [cut_of_grow?_eq_none grown]
    cases text with
    | nil => exact ⟨[], .start [], .inl ⟨rfl, rfl⟩⟩
    | cons c text => exact ⟨c :: text, .start _, .inr ⟨isStuck_of_grow? grown (List.cons_ne_nil c text), rfl⟩⟩
termination_by text.length

/-- **What a text is cut into.** Each token is the one piece there is at its place, so that none is empty
and all are graphemes, and the tokens with what is left behind them are the text. Either nothing is left,
or what is left is stuck and is reported as a whole; and that is so exactly if the text can be cut, piece
by piece, to a place where it is stuck. -/
theorem cut_exact (graphemes : List String) (text : String) :
    ∃ tokens fault left, cut (among graphemes) text.toList = ⟨tokens, fault⟩
      ∧ IsCut graphemes text.toList tokens left
      ∧ (∀ token ∈ tokens, token ≠ "" ∧ token ∈ graphemes)
      ∧ String.join tokens ++ String.ofList left = text
      ∧ (left = [] ∧ fault = none
        ∨ IsStuck graphemes left ∧ fault = some (.unrecognizedText (String.ofList left)))
      ∧ (fault ≠ none ↔
          ∃ pieces rest, IsCut graphemes text.toList pieces rest ∧ IsStuck graphemes rest)
      ∧ ∀ rest piece piece', IsPiece graphemes rest piece → IsPiece graphemes rest piece' →
          piece = piece' := by
  obtain ⟨left, isCut, stops⟩ := exists_isCut_cut graphemes text.toList
  have whole := isCut.join_append
  rw [String.ofList_toList] at whole
  refine ⟨_, _, left, rfl, isCut, isCut.of_mem, whole, stops, ⟨fun fails => ?_, ?_⟩,
    fun rest piece piece' h h' => h.unique h'⟩
  · obtain ⟨_, runs⟩ | ⟨stuck, _⟩ := stops
    · exact absurd runs fails
    · exact ⟨_, left, isCut, stuck⟩
  · rintro ⟨pieces, rest, isCut', stuck⟩ runs
    obtain ⟨_, rfl⟩ := isCut'.unique isCut (.inr stuck) (stops.imp And.left And.left)
    obtain ⟨rfl, _⟩ | ⟨_, fails⟩ := stops
    · exact stuck.1 rfl
    · rw [runs] at fails
      exact absurd fails nofun

/-- A longer grapheme is not reached over a prefix that is none: behind the second piece the text is
stuck, though with the piece it would begin with a grapheme. -/
example : cut (among ["a", "abc"]) "aabcab".toList = ⟨["a", "a"], some (.unrecognizedText "bcab")⟩ := by
  cbv

end WhistledSpeech.Graphemes
