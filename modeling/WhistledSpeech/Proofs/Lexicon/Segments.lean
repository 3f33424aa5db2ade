import Mathlib
import WhistledSpeech.Proofs.Lexicon.Compilation
import WhistledSpeech.Proofs.Lexicon.References
import WhistledSpeech.Proofs.Pronouncing

/-!
# Where segments come from

Compiling and pronouncing move raw segments around and make none: what a speaker of an authored model
pronounces are segments that the author wrote (`isAuthored_of_mem_pronounce`). So they can be read as
authored segments again, which is not said of raw segments in general.
-/

namespace WhistledSpeech

open Authored

/-- **A raw segment as an author may write it**, every key in its place. -/
def IsAuthored (raw : Document) : Prop := raw ∈ Set.range Authored.Segment.toDocument

/-- Authored raw segments are the documents of authored segments. -/
theorem exists_segments {raws : List Document} (authored : ∀ raw ∈ raws, IsAuthored raw) :
    ∃ segments : List Authored.Segment, segments.map Authored.Segment.toDocument = raws :=
  (Set.range_list_map Authored.Segment.toDocument).ge authored

/-! ## Expanding -/

/-- What an author lists in a pronunciation is a name or a segment. -/
theorem Authored.Pronunciation.isAuthored_of_mem_items {pronunciation : Authored.Pronunciation}
    {item : Document} (mem : item ∈ pronunciation.toWritten.items) (kept : ∀ n, item ≠ .text n) :
    IsAuthored item := by
  cases pronunciation with
  | name n => exact absurd (List.mem_singleton.mp mem) (kept n)
  | items listed =>
    obtain ⟨written, _, rfl⟩ := List.mem_map.mp mem
    cases written with
    | name n => exact absurd rfl (kept n)
    | segment s => exact ⟨s, rfl⟩

/-- What a name is defined as is an authored pronunciation. -/
theorem Authored.Model.exists_of_find?_definitions {model : Model} {n : String}
    {written : WrittenPronunciation} (found : Document.find? n model.definitions = some written) :
    ∃ pronunciation : Authored.Pronunciation, pronunciation.toWritten = written := by
  obtain ⟨row, _, same⟩ := List.mem_map.mp (Document.mem_of_find? found)
  exact ⟨row.2, congrArg Prod.snd same⟩

/-- **Expanding keeps what is listed and what is listed under names.** -/
theorem isAuthored_of_expansion {model : Model} {items segments : List Document}
    (expansion : model.definitions.Expansion items segments)
    (authored : ∀ item ∈ items, (∀ n, item ≠ .text n) → IsAuthored item) :
    ∀ raw ∈ segments, IsAuthored raw := by
  induction expansion with
  | nil => exact fun raw mem => absurd mem List.not_mem_nil
  | segment kept behind ih =>
    intro raw mem
    obtain rfl | mem := List.mem_cons.mp mem
    · exact authored raw List.mem_cons_self kept
    · exact ih (fun item later => authored item (List.mem_cons_of_mem _ later)) raw mem
  | named found within behind ihWithin ihBehind =>
    intro raw mem
    obtain ⟨pronunciation, rfl⟩ := Model.exists_of_find?_definitions found
    obtain mem | mem := List.mem_append.mp mem
    · exact ihWithin (fun item here => pronunciation.isAuthored_of_mem_items here) raw mem
    · exact ihBehind (fun item later => authored item (List.mem_cons_of_mem _ later)) raw mem

/-- The segments of an authored pronunciation. -/
theorem isAuthored_of_expand {model : Model} {pronunciation : Authored.Pronunciation}
    {segments : RawSegments}
    (expanded : pronunciation.ref.expand model.definitions.toNamed = .ok segments) :
    ∀ raw ∈ segments, IsAuthored raw := by
  have expands := WrittenPronunciations.expand_expands model.definitions pronunciation.toWritten
  rw [pronunciation.toDocument_toWritten] at expands
  have same : PronunciationRef.expand model.definitions.toNamed
      (PronunciationRef.ofDocument pronunciation.toDocument) = .ok segments := expanded
  rw [same] at expands
  exact isAuthored_of_expansion expands.1 fun item mem => pronunciation.isAuthored_of_mem_items mem

/-! ## Compiling -/

namespace Lexicon

variable {model : Model} {lexicon : Lexicon}

theorem isAuthored_of_compileWords {words : List (String × Authored.Pronunciation)}
    {compiled : List (String × RawSegments)}
    (h : compileWords model.definitions.toNamed (words.map fun e => (e.1, e.2.ref)) = .ok compiled) :
    ∀ entry ∈ compiled, ∀ raw ∈ entry.2, IsAuthored raw := by
  induction words generalizing compiled with
  | nil =>
    cases h
    exact fun entry mem => absurd mem List.not_mem_nil
  | cons word rest ih =>
    rw [List.map_cons, compileWords] at h
    obtain ⟨segments, first, h⟩ := bind_eq_ok_iff.mp h
    obtain ⟨others, later, h⟩ := bind_eq_ok_iff.mp h
    cases h
    intro entry mem
    obtain rfl | mem := List.mem_cons.mp mem
    · exact isAuthored_of_expand (relate_eq_ok_iff.mp first)
    · exact ih later entry mem

/-- What an authored grapheme has between two neighbours. -/
theorem isAuthored_of_compileGrapheme {classes : ClassTable} {name : String}
    {grapheme : Authored.Grapheme} {entry : GraphemeEntry}
    (h : compileGrapheme model.definitions.toNamed classes name grapheme.source = .ok entry)
    {ante post : String} {segments : RawSegments}
    (there : (ContextTable.between? entry.contexts ante post).or entry.elsewhere = some segments) :
    ∀ raw ∈ segments, IsAuthored raw := by
  obtain ⟨helsewhere, hrules, _⟩ := compileGrapheme_eq_ok h
  obtain ⟨rule, last⟩ | silent :=
    ContextRule.exists_isLast_or classes ante post grapheme.source.rules.items
  · obtain ⟨before, after, rules, _, _⟩ := id last
    obtain ⟨decided, resolves, between⟩ := compileRules_last hrules last
    rw [between] at there
    cases there
    -- the rule that decides is an authored one
    have mem : rule ∈ grapheme.contexts.map Authored.ContextRule.rule := by
      have all : grapheme.contexts.map Authored.ContextRule.rule = before ++ rule :: after := rules
      rw [all]
      exact List.mem_append_right before List.mem_cons_self
    obtain ⟨written, _, rfl⟩ := List.mem_map.mp mem
    unfold ContextRule.Resolves Authored.ContextRule.rule at resolves
    cases pronunciation : written.pronunciation with
    | none =>
      rw [pronunciation] at resolves
      cases resolves
      exact fun raw mem => absurd mem List.not_mem_nil
    | some given =>
      rw [pronunciation] at resolves
      exact isAuthored_of_expand resolves
  · rw [compileRules_none hrules silent] at there
    obtain ⟨_, without⟩ | ⟨ref, expanded, given, expand, compiled⟩ := compileElsewhere_eq_ok helsewhere
    · rw [without] at there
      exact absurd there nofun
    · rw [compiled] at there
      cases there
      obtain ⟨pronunciation, _, rfl⟩ := Option.map_eq_some_iff.mp given
      exact isAuthored_of_expand expand

/-- The graphemes of a model are compiled one for one. -/
theorem exists_of_mem_compileGraphemes {classes : ClassTable}
    {graphemes : List (String × Authored.Grapheme)} {compiled : List (String × GraphemeEntry)}
    (h : compileGraphemes model.definitions.toNamed classes
      (graphemes.map fun e => (e.1, e.2.source)) = .ok compiled) :
    ∀ entry ∈ compiled, ∃ grapheme : Authored.Grapheme,
      compileGrapheme model.definitions.toNamed classes entry.1 grapheme.source = .ok entry.2 := by
  induction graphemes generalizing compiled with
  | nil =>
    cases h
    exact fun entry mem => absurd mem List.not_mem_nil
  | cons first rest ih =>
    rw [List.map_cons, compileGraphemes] at h
    obtain ⟨made, hmade, h⟩ := bind_eq_ok_iff.mp h
    obtain ⟨others, later, h⟩ := bind_eq_ok_iff.mp h
    cases h
    intro entry mem
    obtain rfl | mem := List.mem_cons.mp mem
    · exact ⟨first.2, hmade⟩
    · exact ih later entry mem

/-- **A lexicon has the segments of its model**, in words and in graphemes. -/
theorem isAuthored_of_compile (h : compile model.toEntries = .ok lexicon) :
    (∀ entry ∈ lexicon.words, ∀ raw ∈ entry.2, IsAuthored raw)
      ∧ ∀ ante grapheme post segments, lexicon.pronunciation ante grapheme post = .ok segments →
        ∀ raw ∈ segments, IsAuthored raw := by
  rw [compile_toEntries] at h
  obtain ⟨classes, _, h⟩ := bind_eq_ok_iff.mp h
  obtain ⟨words, hwords, h⟩ := bind_eq_ok_iff.mp h
  obtain ⟨graphemes, hgraphemes, h⟩ := bind_eq_ok_iff.mp h
  cases h
  refine ⟨isAuthored_of_compileWords hwords, fun ante grapheme post segments said => ?_⟩
  cases found : Document.find? grapheme graphemes with
  | none =>
    rw [pronunciation_eq, found] at said
    exact absurd said nofun
  | some entry =>
    obtain ⟨source, compiled⟩ := exists_of_mem_compileGraphemes hgraphemes _ (Document.mem_of_find? found)
    rw [pronunciation_of_find? found] at said
    split at said
    · exact absurd said nofun
    · next there =>
      cases said
      exact isAuthored_of_compileGrapheme compiled there

end Lexicon

/-! ## Pronouncing -/

/-- **A speaker pronounces what its author wrote.** -/
theorem isAuthored_of_mem_pronounce {model : Model} {speaker : Speaker}
    (compiled : Speaker.compile model.toEntries = .ok speaker) (text : String) :
    ∀ raw ∈ (speaker.pronounce text).items, IsAuthored raw := by
  obtain ⟨ofWords, ofGraphemes⟩ := Lexicon.isAuthored_of_compile (Speaker.lexicon_of_compile compiled)
  intro raw mem
  obtain ⟨part, listed, mem⟩ := (Feed.isConcat_expand _ _).exists_of_mem mem
  obtain ⟨word, _, rfl⟩ := List.mem_map.mp listed
  unfold Lexicon.pronounceWord at mem
  cases found : Document.find? word speaker.lexicon.words with
  | some segments =>
    rw [found] at mem
    exact ofWords _ (Document.mem_of_find? found) raw mem
  | none =>
    rw [found] at mem
    obtain ⟨part, listed, mem⟩ := (speaker.lexicon.isConcat_spell word).exists_of_mem mem
    obtain ⟨i, _, rfl⟩ := List.mem_map.mp listed
    obtain ⟨segments, said, mem⟩ := Feed.exists_of_mem_ofExcept mem
    exact ofGraphemes _ _ _ _ said raw mem

end WhistledSpeech
