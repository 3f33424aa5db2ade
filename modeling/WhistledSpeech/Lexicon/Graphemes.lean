import WhistledSpeech.Feed

/-!
# Cutting text into graphemes

Text is cut from left to right and each piece is as long as it can be reached: from where the last
piece ended a candidate grows character by character until it is a grapheme, and then goes on growing
as long as it stays one. There is no going back, so with `a` and `abc` known the text `ab` fails after
`a`.
-/

namespace WhistledSpeech.Graphemes

/-- Grows a grapheme while it stays one: the grapheme reached and what follows it. -/
def extend (known : List Char → Bool) (grapheme : List Char) : List Char → List Char × List Char
  | [] => (grapheme, [])
  | c :: rest =>
    if known (grapheme ++ [c]) then extend known (grapheme ++ [c]) rest else (grapheme, c :: rest)

/-- **Grows a candidate** until it is a grapheme and then as long as it stays one. -/
def grow? (known : List Char → Bool) (candidate : List Char) :
    List Char → Option (List Char × List Char)
  | [] => none
  | c :: rest =>
    if known (candidate ++ [c]) then some (extend known (candidate ++ [c]) rest)
    else grow? known (candidate ++ [c]) rest

theorem length_extend_le (known : List Char → Bool) (grapheme rest : List Char) :
    (extend known grapheme rest).2.length ≤ rest.length := by
  induction rest generalizing grapheme with
  | nil => simp [extend]
  | cons c rest ih =>
    unfold extend
    split
    · have := ih (grapheme ++ [c]); simp; omega
    · simp

/-- What follows a piece is shorter than the text. -/
theorem length_lt_of_grow? {known : List Char → Bool} {candidate text grapheme rest : List Char}
    (h : grow? known candidate text = some (grapheme, rest)) : rest.length < text.length := by
  induction text generalizing candidate with
  | nil => simp [grow?] at h
  | cons c text ih =>
    unfold grow? at h
    split at h
    · have := length_extend_le known (candidate ++ [c]) text
      simp only [Option.some.injEq] at h
      rw [h] at this
      simp at this ⊢; omega
    · have := ih h; simp; omega

/-- **The graphemes of a text.** Where no candidate ever becomes a grapheme the feed breaks off, with
all that is left of the text. -/
def cut (known : List Char → Bool) (text : List Char) : Feed String :=
  match h : grow? known [] text with
  | some (grapheme, rest) =>
    have := length_lt_of_grow? h
    Feed.cons (String.ofList grapheme) (cut known rest)
  | none =>
    if text.isEmpty then Feed.ofList [] else Feed.broken (.unrecognizedText (String.ofList text))
termination_by text.length

/-- Whether a text is among some graphemes. The empty text is no grapheme. -/
def among (graphemes : List String) (candidate : List Char) : Bool :=
  !candidate.isEmpty && graphemes.contains (String.ofList candidate)

end WhistledSpeech.Graphemes
