import Mathlib
import WhistledSpeech.Speaker
import WhistledSpeech.Proofs.Feed
import WhistledSpeech.Proofs.Lexicon.Compilation
import WhistledSpeech.Proofs.Lexicon.Graphemes

/-!
# Pronouncing a text, word by word and grapheme by grapheme

A speaker goes through the graphemes of a word with a window of three and makes segments as it goes.
What comes out is said here without the window: the `i`-th grapheme is pronounced between the one
before it and the one after it, an edge of the word counting as the empty text
(`GraphemeContext.nth`), and the segments of a word are a concatenation of these pronunciations, as
those of a text are one of its words (`Feed.IsConcat`). Where the word breaks off after some
graphemes the last of them is not pronounced: the grapheme after it is not known.

The graphemes of a compiled lexicon are those its model declares, so every grapheme that a word is
cut into is found in it. That a grapheme is not in the model is no fault of any text.
-/

namespace WhistledSpeech

namespace GraphemeContext

/-- **A grapheme of a word with its neighbours**, given what stands before the first. The empty text
stands after the last. -/
def nth (ante : String) (graphemes : List String) (i : Nat) : GraphemeContext :=
  ⟨(ante :: graphemes).getD i "", graphemes.getD i "", graphemes.getD (i + 1) ""⟩

/-- **How many graphemes of a word are pronounced**: all, or all but the last if the word breaks
off. -/
def count (graphemes : List String) : Option Fault → Nat
  | none => graphemes.length
  | some _ => graphemes.length - 1

theorem count_le (graphemes : List String) (fault : Option Fault) :
    count graphemes fault ≤ graphemes.length := by
  cases fault with
  | none => exact Nat.le_refl _
  | some _ => exact Nat.sub_le _ _

/-- **The window goes over every grapheme once**, with its neighbours. -/
theorem ofGraphemes_eq (ante : String) (graphemes : List String) (fault : Option Fault) :
    ofGraphemes ante graphemes fault
      = ⟨(List.range (count graphemes fault)).map (nth ante graphemes), fault⟩ := by
  induction graphemes generalizing ante with
  | nil => cases fault <;> rfl
  | cons current graphemes ih =>
    cases graphemes with
    | nil => cases fault <;> rfl
    | cons post rest =>
      have longer : count (current :: post :: rest) fault = count (post :: rest) fault + 1 := by
        cases fault <;> rfl
      -- what the window has moved on to is what stands one place further
      rw [ofGraphemes, ih, longer, List.range_succ_eq_map, List.map_cons, List.map_map]
      rfl

end GraphemeContext

namespace Lexicon

/-- **The segments of one grapheme of a word**, between its neighbours. -/
def voiced (lexicon : Lexicon) (graphemes : List String) (i : Nat) : Feed Document :=
  let context := GraphemeContext.nth "" graphemes i
  Feed.ofExcept (lexicon.pronunciation context.ante context.current context.post)

/-- **A word is spelled grapheme by grapheme.** -/
theorem isConcat_spell (lexicon : Lexicon) (word : String) :
    Feed.IsConcat
      ((List.range (GraphemeContext.count (lexicon.cut word).items (lexicon.cut word).fault)).map
        (lexicon.voiced (lexicon.cut word).items))
      (lexicon.cut word).fault (lexicon.spell word) := by
  have window := Feed.isConcat_expand
    (fun context : GraphemeContext =>
      Feed.ofExcept (lexicon.pronunciation context.ante context.current context.post))
    (GraphemeContext.ofGraphemes "" (lexicon.cut word).items (lexicon.cut word).fault)
  unfold spell
  dsimp only
  rw [GraphemeContext.ofGraphemes_eq] at window ⊢
  dsimp only at window
  rw [List.map_map] at window
  exact window

/-- A grapheme that is there has a pronunciation, or none between its neighbours. -/
theorem pronunciation_eq_error {lexicon : Lexicon} {current ante post : String} {fault : Fault}
    (mem : current ∈ lexicon.graphemeNames)
    (failed : lexicon.pronunciation ante current post = .error fault) :
    fault = .unknownContext current ante post := by
  obtain ⟨entry, found⟩ := Document.exists_find?_of_mem mem
  rw [pronunciation_of_find? found] at failed
  split at failed
  · cases failed
    rfl
  · exact absurd failed nofun

/-- **The faults of a word**: it is not cut to its end, or one of its graphemes has no pronunciation
where it is. No grapheme is reported as missing, as each is one of the lexicon. -/
theorem fault_pronounceWord (lexicon : Lexicon) {word : String} {fault : Fault}
    (broken : (lexicon.pronounceWord word).fault = some fault) :
    (∃ fragment, fault = .unrecognizedText fragment)
      ∨ ∃ grapheme ante post, fault = .unknownContext grapheme ante post := by
  unfold pronounceWord at broken
  cases own : Document.find? word lexicon.words with
  | some segments =>
    rw [own] at broken
    exact absurd broken nofun
  | none =>
    rw [own] at broken
    obtain uncut | ⟨part, mem, hpart⟩ := (isConcat_spell lexicon word).fault_eq_some broken
    · exact .inl (Graphemes.fault_cut _ uncut)
    · -- the piece was cut out by the names the lexicon is asked for
      obtain ⟨i, hi, rfl⟩ := List.mem_map.mp mem
      have short : i < (lexicon.cut word).items.length :=
        Nat.lt_of_lt_of_le (List.mem_range.mp hi) (GraphemeContext.count_le _ _)
      have current : (GraphemeContext.nth "" (lexicon.cut word).items i).current
          ∈ lexicon.graphemeNames := by
        show (lexicon.cut word).items.getD i "" ∈ lexicon.graphemeNames
        rw [List.getD_eq_getElem _ _ short]
        exact Graphemes.mem_of_mem_cut (List.getElem_mem short)
      exact .inr ⟨_, _, _, pronunciation_eq_error current (Feed.fault_ofExcept.mp hpart)⟩

/-- A compiled lexicon cuts words into the graphemes its model declares. -/
theorem cut_of_compile {model : List (String × Document)} {lexicon : Lexicon}
    (h : compile model = .ok lexicon) (word : String) :
    lexicon.cut word
      = Graphemes.cut (Graphemes.among ((declared model).map Prod.fst)) word.toList := by
  unfold cut graphemeNames
  rw [graphemes_map_fst h]

end Lexicon

/-- A text is cut into words to its end, unless a separator captures what is no stretch of it. -/
theorem WordBoundary.fault_words {boundary : Option WordBoundary} {text : String} {fault : Fault}
    (h : (words boundary text).fault = some fault) : fault = .reversedCapture := by
  cases boundary with
  | none => exact absurd h (by simp [words, Feed.ofList])
  | some boundary =>
    unfold words at h
    cases pieces : boundary.split? text with
    | some pieces' => exact absurd h (by simp [pieces, Feed.ofList])
    | none =>
      dsimp only at h
      rw [pieces] at h
      cases h
      rfl

namespace Speaker

/-- The lexicon of a compiled model is compiled from it. -/
theorem lexicon_of_compile {model : List (String × Document)} {speaker : Speaker}
    (h : compile model = .ok speaker) : Lexicon.compile model = .ok speaker.lexicon := by
  rw [compile] at h
  obtain ⟨boundary, _, h⟩ := bind_eq_ok_iff.mp h
  obtain ⟨lexicon, hlexicon, h⟩ := bind_eq_ok_iff.mp h
  obtain ⟨scope, _, h⟩ := bind_eq_ok_iff.mp h
  cases h
  exact hlexicon

/-- **What a text is pronounced as, and what is there before a fault.** The segments of a text are a
concatenation of those of its words. A word with a pronunciation of its own has that. Any other is
cut into graphemes of the model, and its segments are a concatenation of the pronunciations of
these, each between the one before and the one after; where it cannot be cut to its end the last
grapheme found is not pronounced. No text is at fault for a grapheme that is not in the model. -/
theorem pronounce_exact {model : List (String × Document)} {speaker : Speaker}
    (compiled : compile model = .ok speaker) (text : String) :
    Feed.IsConcat
        ((WordBoundary.words speaker.boundary text).items.map speaker.lexicon.pronounceWord)
        (WordBoundary.words speaker.boundary text).fault (speaker.pronounce text)
      ∧ (∀ word segments, Document.find? word speaker.lexicon.words = some segments →
          speaker.lexicon.pronounceWord word = Feed.ofList segments)
      ∧ (∀ word, Document.find? word speaker.lexicon.words = none →
          ∀ graphemes fault, Graphemes.cut (Graphemes.among ((Lexicon.declared model).map Prod.fst))
              word.toList = ⟨graphemes, fault⟩ →
            Feed.IsConcat
              ((List.range (GraphemeContext.count graphemes fault)).map
                (speaker.lexicon.voiced graphemes))
              fault (speaker.lexicon.pronounceWord word))
      ∧ ∀ grapheme, (speaker.pronounce text).fault ≠ some (.unknownGrapheme grapheme) := by
  have words := Feed.isConcat_expand speaker.lexicon.pronounceWord
    (WordBoundary.words speaker.boundary text)
  refine ⟨words, ?_, ?_, ?_⟩
  · intro word segments found
    unfold Lexicon.pronounceWord
    rw [found]
  · intro word found graphemes fault hcut
    rw [← Lexicon.cut_of_compile (lexicon_of_compile compiled)] at hcut
    have spelled := speaker.lexicon.isConcat_spell word
    rw [hcut] at spelled
    unfold Lexicon.pronounceWord
    rw [found]
    exact spelled
  · intro grapheme broken
    obtain boundary | ⟨part, mem, hpart⟩ := words.fault_eq_some broken
    · exact absurd (WordBoundary.fault_words boundary) (by simp)
    · obtain ⟨word, _, rfl⟩ := List.mem_map.mp mem
      obtain ⟨_, is⟩ | ⟨_, _, _, is⟩ := speaker.lexicon.fault_pronounceWord hpart
      · exact absurd is nofun
      · exact absurd is nofun

/-- **A model with two graphemes**: one with a pronunciation everywhere, the other with one after
the first at the edge of a word. -/
def twoGraphemes : List (String × Document) :=
  [("graphemes", .object [("a", .object [("elsewhere", .list [.int 1])]),
    ("b", .object [("contexts", .list [
      .object [("con", .list [.text "a", .text ""]), ("pron", .list [.int 2])]])])])]

/-- The lexicon of that model. -/
def twoGraphemesLexicon : Lexicon :=
  ⟨[], [], [("a", ⟨some [.int 1], []⟩),
    ("b", ⟨none, [(.grapheme "a", [(.grapheme "", [.int 2])])]⟩)]⟩

/-- The second grapheme has no pronunciation between two others, and that is met before the end of
what can be cut. -/
theorem pronounce_exact_twoGraphemes :
    ∃ speaker, compile twoGraphemes = .ok speaker ∧ speaker.lexicon = twoGraphemesLexicon
      ∧ Feed.IsConcat [⟨[.int 1], none⟩, ⟨[], some (.unknownContext "b" "a" "a")⟩]
          (some (.unrecognizedText "x")) (speaker.lexicon.pronounceWord "abax")
      ∧ Feed.IsConcat [⟨[.int 1], none⟩, ⟨[.int 2], none⟩] none
          (speaker.lexicon.pronounceWord "ab") := by
  have lexicon : Lexicon.compile twoGraphemes = .ok twoGraphemesLexicon := by cbv
  have scope : Scope.ofDocument .null = .ok Scope.builtIn := by
    unfold Scope.ofDocument
    show Scope.ofDefinitions [] = _
    unfold Scope.ofDefinitions
    rw [Scope.resolve]
    rfl
  have compiled : compile twoGraphemes = .ok ⟨none, twoGraphemesLexicon, Scope.builtIn⟩ := by
    unfold compile
    rw [lexicon]
    show Scope.ofDocument .null >>= _ = _
    rw [scope]
    rfl
  refine ⟨_, compiled, rfl, ?_, ?_⟩
  · exact (pronounce_exact compiled "abax").2.2.1 "abax" rfl ["a", "b", "a"] _ (by cbv)
  · exact (pronounce_exact compiled "ab").2.2.1 "ab" rfl ["a", "b"] _ (by cbv)

end Speaker

end WhistledSpeech
