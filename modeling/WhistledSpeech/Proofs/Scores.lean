import Mathlib
import WhistledSpeech.Authored.Score
import WhistledSpeech.Proofs.Lexicon.Segments

/-!
# The score of a text

What a speaker pronounces can be written down as a score, with the constants of the model beside it.
The score reads back: raw segments that an author wrote are accepted as they are, and the constants give
the scope they gave the speaker. So the sound of the score is the sound of the text, in every voice and
at every rate, and where one fails the other fails with it (`tone_score`).
-/

namespace WhistledSpeech

open Authored

/-- **What is pronounced, written down**: raw segments, with the constants of a model if it has any. -/
def Authored.Score.transcript (raws : List Document) (model : Entries) : Document :=
  .object (("segments", .list raws) :: entry id "constants" (Document.find? "constants" model))

namespace Authored.Model

variable {entries : Entries} {model : Model}

/-- Respelling one key leaves the others. -/
theorem find?_respell {first second key : String} (other : first ≠ key) (entries : Entries) :
    Document.find? key (respell first second entries) = Document.find? key entries := by
  unfold respell
  split
  · rw [Document.find?, if_neg other]
  · rfl

/-- The constants of a model are read from its entries. -/
theorem constants_of_ofEntries? (read : ofEntries? entries = some model) :
    withDefault (table? Quantity.ofDocument?) "constants" [] entries = some model.constants := by
  unfold ofEntries? at read
  simp only [Option.bind_eq_bind, Option.bind_eq_some_iff] at read
  obtain ⟨_, _, _, _, _, _, _, _, constants, read, _, _, made⟩ := read
  cases made
  unfold withDefault at read ⊢
  rw [find?_respell (by decide), find?_respell (by decide)] at read
  exact read

end Authored.Model

namespace Authored.Score

/-- Segments read back as those of a score, if there are any. -/
theorem segments?_ofList {segments : List Authored.Segment} (any : segments ≠ []) :
    segments? (ofList Authored.Segment.toDocument segments) = some segments := by
  unfold segments?
  rw [list?_ofList Authored.Segment.ofDocument?_toDocument]
  cases segments with
  | nil => exact absurd rfl any
  | cons first rest => rfl

/-- **A transcript is a score** of the same raw segments and the same constants. -/
theorem ofDocument_transcript {raws : List Document} {entries : Entries}
    {constants : List (String × Quantity)} (authored : ∀ raw ∈ raws, IsAuthored raw) (any : raws ≠ [])
    (read : withDefault (table? Quantity.ofDocument?) "constants" [] entries = some constants) :
    ∃ score, ofDocument (transcript raws entries) = .ok score
      ∧ score.rawSegments = raws ∧ score.constants = constants := by
  obtain ⟨segments, rfl⟩ := exists_segments authored
  refine ⟨⟨segments, constants⟩, ?_, rfl, rfl⟩
  generalize fields : ("segments", .list (segments.map Authored.Segment.toDocument))
    :: entry id "constants" (Document.find? "constants" entries) = given
  have segmentsRead : required segments? "segments" given = some segments := by
    rw [← fields]
    exact segments?_ofList fun none => any (congrArg _ none)
  have constantsRead : withDefault (table? Quantity.ofDocument?) "constants" [] given
      = some constants := by
    have same : Document.find? "constants" given = Document.find? "constants" entries := by
      simp [← fields, Document.find?]
    unfold withDefault at read ⊢
    rw [same]
    exact read
  unfold ofDocument transcript ofDocument?
  rw [fields]
  dsimp only
  rw [segmentsRead, constantsRead]
  rfl

end Authored.Score

namespace Speaker

/-- The scope of a speaker is that of the constants of its model. -/
theorem scope_of_compile {model : Model} {speaker : Speaker}
    (compiled : compile model.toEntries = .ok speaker) :
    Scope.ofDocument (ofTable Quantity.toDocument model.constants) = .ok speaker.scope := by
  rw [compile] at compiled
  obtain ⟨boundary, _, compiled⟩ := bind_eq_ok_iff.mp compiled
  obtain ⟨lexicon, _, compiled⟩ := bind_eq_ok_iff.mp compiled
  obtain ⟨scope, resolved, compiled⟩ := bind_eq_ok_iff.mp compiled
  cases compiled
  have constants : Document.find? "constants" model.toEntries
      = some (ofTable Quantity.toDocument model.constants) := by
    simp [Model.toEntries, Document.find?]
  dsimp only at resolved
  rw [constants] at resolved
  exact resolved

/-- A speaker of a document is compiled from the model that the document describes. -/
theorem exists_of_ofDocument {written : Document} {speaker : Speaker}
    (made : ofDocument written = .ok speaker) :
    ∃ entries model, written = .object entries ∧ Model.ofEntries? entries = some model
      ∧ compile model.toEntries = .ok speaker := by
  unfold ofDocument at made
  split at made
  · next model read =>
    cases written with
    | object entries => exact ⟨entries, model, rfl, read, made⟩
    | null | bool _ | int _ | float _ | text _ | list _ => exact absurd read nofun
  · exact absurd made nofun

/-- **A text and its score sound alike.** What a speaker pronounces, if that is anything at all, can be
written down beside the constants of its document and read as a score. The score has the scope of the
speaker, and its sound is that of the text in every voice and at every rate: the same samples, or the
same fault. -/
theorem tone_score {written : Document} {speaker : Speaker} {text : String} {raws : List Document}
    (made : ofDocument written = .ok speaker)
    (pronounced : speaker.pronounce text = .ofList raws) (any : raws ≠ []) :
    ∃ entries score, written = .object entries
      ∧ Score.ofDocument (Score.transcript raws entries) = .ok score
      ∧ score.rawSegments = raws
      ∧ ∀ voice? rate, score.tone voice? rate = (speaker.tone voice? text rate).map Prod.fst := by
  obtain ⟨entries, model, rfl, read, compiled⟩ := exists_of_ofDocument made
  -- raw segments that an author may write are read back as they are
  have authored : ∀ raw ∈ raws, IsAuthored raw := by
    have all := isAuthored_of_mem_pronounce compiled text
    rw [pronounced] at all
    exact all
  obtain ⟨score, accepted, same, constants⟩ := Score.ofDocument_transcript authored any
    (Model.constants_of_ofEntries? read)
  refine ⟨entries, score, rfl, accepted, same, fun voice? rate => ?_⟩
  have utterance : score.utterance voice? = .ok ⟨speaker.scope, voice?, .ofList raws⟩ := by
    unfold Score.utterance Score.constantsDocument
    rw [constants, scope_of_compile compiled, same]
    rfl
  unfold Score.tone tone
  rw [utterance, pronounced]
  rfl

/-- **A document with one grapheme**, whose level is a constant. -/
def oneGrapheme : Document :=
  .object [("constants", .object [("k", .float 2)]),
    ("graphemes", .object [("a", .object [("elsewhere", .list [
      .object [("run", .text "k"), ("f", .object [("type", .text "constant"), ("y", .text "k")])]])])])]

/-- Its grapheme, pronounced: the keys of the segment are in their order. -/
def oneGraphemeSegment : Document :=
  .object [("f", .object [("type", .text "constant"), ("y", .text "k")]), ("run", .text "k")]

/-- The lexicon of that document. -/
def oneGraphemeLexicon : Lexicon := ⟨[], [], [("a", ⟨some [oneGraphemeSegment], []⟩)]⟩

/-- The speaker of that document. -/
theorem ofDocument_oneGrapheme :
    ofDocument oneGrapheme = .ok ⟨none, oneGraphemeLexicon, Scope.builtIn.set "k" 2⟩ := by
  have model : Model.ofDocument? oneGrapheme = some ⟨none, [], [], [], [("k", .number 2)],
      [("a", ⟨some (.items [.segment
        ⟨some (.constant (some (.formula "k"))), none, some (.formula "k")⟩]), []⟩)]⟩ := rfl
  have lexicon : Lexicon.compile (Model.mk none [] [] [] [("k", .number 2)]
      [("a", ⟨some (.items [.segment
        ⟨some (.constant (some (.formula "k"))), none, some (.formula "k")⟩]), []⟩)]).toEntries
      = .ok oneGraphemeLexicon := by cbv
  have scope : Scope.ofDocument (.object [("k", .float 2)]) = .ok (Scope.builtIn.set "k" 2) := by
    show Scope.ofDefinitions [("k", .value 2)] = _
    unfold Scope.ofDefinitions
    rw [Scope.resolve]
    rfl
  unfold ofDocument
  rw [model]
  dsimp only
  unfold compile
  rw [lexicon]
  show Scope.ofDocument (.object [("k", .float 2)]) >>= _ = _
  rw [scope]
  rfl

/-- A word of two graphemes and its score sound alike. -/
theorem tone_score_oneGrapheme :
    ∃ speaker, ofDocument oneGrapheme = .ok speaker
      ∧ speaker.pronounce "aa" = .ofList [oneGraphemeSegment, oneGraphemeSegment]
      ∧ ∃ entries score, oneGrapheme = .object entries
        ∧ Score.ofDocument (Score.transcript [oneGraphemeSegment, oneGraphemeSegment] entries)
          = .ok score
        ∧ score.rawSegments = [oneGraphemeSegment, oneGraphemeSegment]
        ∧ ∀ voice? rate, score.tone voice? rate = (speaker.tone voice? "aa" rate).map Prod.fst := by
  have pronounced : ∀ scope, (Speaker.mk none oneGraphemeLexicon scope).pronounce "aa"
      = .ofList [oneGraphemeSegment, oneGraphemeSegment] := by
    intro scope
    cbv
  exact ⟨_, ofDocument_oneGrapheme, pronounced _,
    tone_score ofDocument_oneGrapheme (pronounced _) (List.cons_ne_nil _ _)⟩

end Speaker

end WhistledSpeech
