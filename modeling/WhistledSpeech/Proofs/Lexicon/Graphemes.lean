import Mathlib
import WhistledSpeech.Lexicon.Graphemes

/-!
# What text is cut into

Every piece that a text is cut into is a grapheme, and where the text cannot be cut to its end the
fault is that of a stretch that never becomes one.
-/

namespace WhistledSpeech.Graphemes

variable {known : List Char → Bool}

/-- A grapheme that grows stays one. -/
theorem known_extend {grapheme : List Char} (h : known grapheme = true) (text : List Char) :
    known (extend known grapheme text).1 = true := by
  induction text generalizing grapheme with
  | nil => exact h
  | cons c text ih =>
    rw [extend]
    by_cases longer : known (grapheme ++ [c]) = true
    · rw [if_pos longer]
      exact ih longer
    · rw [if_neg longer]
      exact h

/-- What a candidate grows into is a grapheme. -/
theorem known_of_grow? {candidate text grapheme rest : List Char}
    (h : grow? known candidate text = some (grapheme, rest)) : known grapheme = true := by
  induction text generalizing candidate with
  | nil => exact absurd h (by simp [grow?])
  | cons c text ih =>
    rw [grow?] at h
    by_cases reached : known (candidate ++ [c]) = true
    · rw [if_pos reached, Option.some.injEq] at h
      have grown := known_extend reached text
      rw [h] at grown
      exact grown
    · rw [if_neg reached] at h
      exact ih h

/-- A text that a candidate grows into a grapheme of is cut there. -/
theorem cut_of_grow? {text grapheme rest : List Char}
    (h : grow? known [] text = some (grapheme, rest)) :
    cut known text = Feed.cons (String.ofList grapheme) (cut known rest) := by
  rw [cut]
  split
  · rename_i found
    cases h.symm.trans found
    rfl
  · rename_i none
    exact absurd (h.symm.trans none) (by simp)

/-- A text that no candidate grows into a grapheme of is not cut, and is a fault unless it is
empty. -/
theorem cut_of_grow?_eq_none {text : List Char} (h : grow? known [] text = none) :
    cut known text
      = if text.isEmpty then Feed.ofList []
        else Feed.broken (.unrecognizedText (String.ofList text)) := by
  rw [cut]
  split
  · rename_i found
    exact absurd (h.symm.trans found) (by simp)
  · rfl

/-- **Every piece is a grapheme.** -/
theorem known_of_mem_cut (text : List Char) :
    ∀ token ∈ (cut known text).items, ∃ grapheme, known grapheme = true
      ∧ token = String.ofList grapheme := by
  intro token mem
  cases grown : grow? known [] text with
  | none =>
    rw [cut_of_grow?_eq_none grown] at mem
    by_cases empty : text.isEmpty = true
    · rw [if_pos empty] at mem
      exact absurd mem List.not_mem_nil
    · rw [if_neg empty] at mem
      exact absurd mem List.not_mem_nil
  | some piece =>
    obtain ⟨grapheme, rest⟩ := piece
    rw [cut_of_grow? grown] at mem
    obtain rfl | mem := List.mem_cons.mp mem
    · exact ⟨grapheme, known_of_grow? grown, rfl⟩
    · have := length_lt_of_grow? grown
      exact known_of_mem_cut rest token mem
termination_by text.length

/-- Every piece is among the graphemes. -/
theorem mem_of_mem_cut {graphemes : List String} {text : List Char} {token : String}
    (mem : token ∈ (cut (among graphemes) text).items) : token ∈ graphemes := by
  obtain ⟨grapheme, h, rfl⟩ := known_of_mem_cut text token mem
  unfold among at h
  exact List.contains_iff_mem.mp (Bool.and_eq_true_iff.mp h).2

/-- A text that is not cut to its end breaks off at a stretch of it that is no grapheme. -/
theorem fault_cut (text : List Char) {fault : Fault} (h : (cut known text).fault = some fault) :
    ∃ fragment, fault = .unrecognizedText fragment := by
  cases grown : grow? known [] text with
  | none =>
    rw [cut_of_grow?_eq_none grown] at h
    by_cases empty : text.isEmpty = true
    · rw [if_pos empty] at h
      exact absurd h (by simp [Feed.ofList])
    · rw [if_neg empty] at h
      cases h
      exact ⟨_, rfl⟩
  | some piece =>
    obtain ⟨grapheme, rest⟩ := piece
    rw [cut_of_grow? grown] at h
    have := length_lt_of_grow? grown
    exact fault_cut rest h
termination_by text.length

end WhistledSpeech.Graphemes
