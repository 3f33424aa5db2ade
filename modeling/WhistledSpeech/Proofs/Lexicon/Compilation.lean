import Mathlib
import WhistledSpeech.Proofs.Entries
import WhistledSpeech.Proofs.Feed
import WhistledSpeech.Proofs.Lexicon.Contexts

/-!
# What a compiled lexicon holds

A model that compiles has given a compiled entry for every grapheme that it declares, in its order,
and no others (`compile_eq_ok`). What the entry says between two neighbours is what the rules of the
grapheme say: the last rule that holds, else the pronunciation for everywhere else
(`pronunciation_of_compile`).
-/

namespace WhistledSpeech.Lexicon

/-! ## Parts of a model -/

/-- A part of a model, which may be left out. -/
def part (model : List (String × Document)) (key : String) : Document :=
  (Document.find? key model).getD .null

/-- The named pronunciations of a model. -/
def definitions (model : List (String × Document)) : Pronunciations :=
  Pronunciations.ofModel (part model "namedPronunciations")

/-- **The graphemes a model declares**, with what it gives for each. -/
def declared (model : List (String × Document)) : List (String × Document) :=
  match (part model "graphemes").optionalEntries with
  | .ok entries => entries
  | .error _ => []

/-! ## Compiling one by one -/

variable {named : Pronunciations} {classes : ClassTable}

/-- What a compiled grapheme is made of. -/
theorem compileGrapheme_eq_ok {grapheme : String} {source : GraphemeSource} {entry : GraphemeEntry}
    (h : compileGrapheme named classes grapheme source = .ok entry) :
    compileElsewhere named grapheme source.elsewhere = .ok entry.elsewhere
      ∧ compileRules named classes grapheme [] source.rules.items = .ok entry.contexts
      ∧ source.rules.fault = none := by
  rw [compileGrapheme] at h
  obtain ⟨elsewhere, helsewhere, h⟩ := bind_eq_ok_iff.mp h
  obtain ⟨contexts, hcontexts, h⟩ := bind_eq_ok_iff.mp h
  cases complete : source.rules.fault with
  | some fault =>
    rw [complete] at h
    exact absurd h (by simp)
  | none =>
    rw [complete] at h
    cases h
    exact ⟨helsewhere, hcontexts, rfl⟩

/-- **Graphemes are compiled one for one.** -/
theorem oneForOne_compileGraphemes {sources : List (String × GraphemeSource)}
    {compiled : List (String × GraphemeEntry)}
    (h : compileGraphemes named classes sources = .ok compiled) :
    Document.OneForOne (fun grapheme source entry =>
      compileGrapheme named classes grapheme source = .ok entry) sources compiled := by
  induction sources generalizing compiled with
  | nil =>
    cases h
    exact .nil
  | cons given rest ih =>
    rw [compileGraphemes] at h
    obtain ⟨entry, hentry, h⟩ := bind_eq_ok_iff.mp h
    obtain ⟨others, hothers, h⟩ := bind_eq_ok_iff.mp h
    cases h
    exact .cons ⟨rfl, hentry⟩ (ih hothers)

/-- The graphemes of an object are read one for one. -/
theorem oneForOne_ofEntries {entries : List (String × Document)}
    (h : (GraphemeSource.ofEntries entries).fault = none) :
    Document.OneForOne (fun _ given source => GraphemeSource.ofDocument given = .ok source)
      entries (GraphemeSource.ofEntries entries).items := by
  refine (Feed.forall₂_of_mapExcept h).imp ?_
  intro given source made
  cases read : GraphemeSource.ofDocument given.2 with
  | error fault =>
    rw [read] at made
    exact absurd made (by simp [Except.map])
  | ok s =>
    rw [read] at made
    cases made
    exact ⟨rfl, read⟩

/-- **What a compiled lexicon is made of**: the resolved classes of its model, and an entry for each
grapheme that the model declares. -/
theorem compile_eq_ok {model : List (String × Document)} {lexicon : Lexicon}
    (h : compile model = .ok lexicon) :
    (∃ written, ClassMap.ofDocument (part model "classes") = .ok written
        ∧ ClassMap.resolve written = .ok lexicon.classes)
      ∧ Document.OneForOne (fun grapheme given entry => ∃ source,
          GraphemeSource.ofDocument given = .ok source
          ∧ compileGrapheme (definitions model) lexicon.classes grapheme source = .ok entry)
        (declared model) lexicon.graphemes := by
  rw [compile] at h
  obtain ⟨written, hwritten, h⟩ := bind_eq_ok_iff.mp h
  obtain ⟨classes, hclasses, h⟩ := bind_eq_ok_iff.mp h
  obtain ⟨words, hwords, h⟩ := bind_eq_ok_iff.mp h
  obtain ⟨table, htable, h⟩ := bind_eq_ok_iff.mp h
  obtain ⟨entries, hentries, h⟩ := bind_eq_ok_iff.mp h
  obtain ⟨compiled, hcompiled, h⟩ := bind_eq_ok_iff.mp h
  have given : declared model = entries := by
    unfold declared part
    rw [hentries]
  cases complete : (GraphemeSource.ofEntries entries).fault with
  | some fault =>
    rw [complete] at h
    exact absurd h (by simp)
  | none =>
    rw [complete] at h
    cases h
    refine ⟨⟨written, hwritten, hclasses⟩, ?_⟩
    rw [given]
    exact (oneForOne_ofEntries complete).trans (oneForOne_compileGraphemes hcompiled)

/-- The graphemes of a compiled lexicon are those its model declares. -/
theorem graphemes_map_fst {model : List (String × Document)} {lexicon : Lexicon}
    (h : compile model = .ok lexicon) :
    lexicon.graphemes.map Prod.fst = (declared model).map Prod.fst :=
  (compile_eq_ok h).2.keys

/-! ## Looking up -/

/-- What a grapheme that is there has between two neighbours: what its table has, or else its
pronunciation for everywhere else. -/
theorem pronunciation_of_find? {lexicon : Lexicon} {grapheme : String} {entry : GraphemeEntry}
    (found : Document.find? grapheme lexicon.graphemes = some entry) (ante post : String) :
    lexicon.pronunciation ante grapheme post
      = match (ContextTable.between? entry.contexts ante post).or entry.elsewhere with
        | none => .error (.unknownContext grapheme ante post)
        | some segments => .ok segments := by
  rw [pronunciation_eq, found]
  dsimp only
  unfold GraphemeEntry.lookup ContextTable.between?
  cases (MemberTable.get? (.grapheme ante) entry.contexts).bind
    (MemberTable.get? (.grapheme post)) <;> rfl

/-- The pronunciation for everywhere else is compiled to its segments. -/
theorem compileElsewhere_eq_ok {grapheme : String} {elsewhere : Option PronunciationRef}
    {compiled : Option RawSegments} (h : compileElsewhere named grapheme elsewhere = .ok compiled) :
    (elsewhere = none ∧ compiled = none)
      ∨ ∃ ref segments, elsewhere = some ref ∧ ref.expand named = .ok segments
        ∧ compiled = some segments := by
  cases elsewhere with
  | none =>
    cases h
    exact .inl ⟨rfl, rfl⟩
  | some ref =>
    rw [compileElsewhere] at h
    cases result : relate (.elsewherePronunciation grapheme) (ref.expand named) with
    | error fault =>
      rw [result] at h
      exact absurd h (by simp [Except.map])
    | ok segments =>
      rw [result] at h
      cases h
      exact .inr ⟨ref, segments, rfl, relate_eq_ok_iff.mp result, rfl⟩

/-- **The last rule that holds decides.** Between two neighbours a grapheme of a model that compiles
has the pronunciation of the last of its rules that holds there, by the resolved classes, and none
at all if that rule is silent. Where no rule holds it has its pronunciation for everywhere else.
Only where no rule holds and there is no such pronunciation it has none, and that is the fault. -/
theorem pronunciation_of_compile {model : List (String × Document)} {lexicon : Lexicon}
    (compiled : compile model = .ok lexicon) {grapheme : String} {given : Document}
    (present : Document.find? grapheme (declared model) = some given) :
    ∃ written source,
      ClassMap.ofDocument (part model "classes") = .ok written
      ∧ ClassMap.resolve written = .ok lexicon.classes
      ∧ GraphemeSource.ofDocument given = .ok source
      ∧ source.rules.fault = none
      ∧ ∀ ante post,
        (∀ rule, ContextRule.IsLast lexicon.classes ante post source.rules.items rule →
          ∃ segments, rule.Resolves (definitions model) segments
            ∧ lexicon.pronunciation ante grapheme post = .ok segments)
        ∧ ((∀ rule ∈ source.rules.items, ¬ rule.Holds lexicon.classes ante post) →
            ∀ ref, source.elsewhere = some ref →
              ∃ segments, ref.expand (definitions model) = .ok segments
                ∧ lexicon.pronunciation ante grapheme post = .ok segments)
        ∧ ∀ fault, lexicon.pronunciation ante grapheme post = .error fault
            ↔ fault = .unknownContext grapheme ante post
              ∧ (∀ rule ∈ source.rules.items, ¬ rule.Holds lexicon.classes ante post)
              ∧ source.elsewhere = none := by
  obtain ⟨⟨written, hwritten, hclasses⟩, entries⟩ := compile_eq_ok compiled
  obtain ⟨entry, found, source, hsource, hentry⟩ := entries.find? present
  obtain ⟨helsewhere, hrules, complete⟩ := compileGrapheme_eq_ok hentry
  refine ⟨written, source, hwritten, hclasses, hsource, complete, ?_⟩
  intro ante post
  have last : ∀ rule, ContextRule.IsLast lexicon.classes ante post source.rules.items rule →
      ∃ segments, rule.Resolves (definitions model) segments
        ∧ lexicon.pronunciation ante grapheme post = .ok segments := by
    intro rule isLast
    obtain ⟨segments, resolves, there⟩ := compileRules_last hrules isLast
    refine ⟨segments, resolves, ?_⟩
    rw [pronunciation_of_find? found, there]
    rfl
  have silent : (∀ rule ∈ source.rules.items, ¬ rule.Holds lexicon.classes ante post) →
      lexicon.pronunciation ante grapheme post
        = match entry.elsewhere with
          | none => .error (.unknownContext grapheme ante post)
          | some segments => .ok segments := by
    intro none
    rw [pronunciation_of_find? found, compileRules_none hrules none]
    rfl
  refine ⟨last, ?_, ?_⟩
  · intro none ref href
    obtain ⟨left, _⟩ | ⟨ref', segments, href', expand, hcompiled⟩ :=
      compileElsewhere_eq_ok helsewhere
    · exact absurd (left.symm.trans href) (by simp)
    · cases href.symm.trans href'
      refine ⟨segments, expand, ?_⟩
      rw [silent none, hcompiled]
  · intro fault
    constructor
    · intro h
      obtain ⟨rule, isLast⟩ | none :=
        ContextRule.exists_isLast_or lexicon.classes ante post source.rules.items
      · obtain ⟨segments, _, result⟩ := last rule isLast
        exact absurd (result.symm.trans h) (by simp)
      · rw [silent none] at h
        obtain ⟨left, hcompiled⟩ | ⟨ref, segments, _, _, hcompiled⟩ :=
          compileElsewhere_eq_ok helsewhere
        · rw [hcompiled] at h
          cases h
          exact ⟨rfl, none, left⟩
        · rw [hcompiled] at h
          exact absurd h (by simp)
    · rintro ⟨rfl, none, left⟩
      obtain ⟨_, hcompiled⟩ | ⟨ref, _, href, _, _⟩ := compileElsewhere_eq_ok helsewhere
      · rw [silent none, hcompiled]
      · exact absurd (left.symm.trans href) (by simp)

/-- **A grapheme among vowels**: it has a pronunciation between two of them, is silent after the
first of them, and has no pronunciation anywhere else. -/
def vowels : List (String × Document) :=
  [("classes", .object [("V", .list [.text "a", .text "e"])]),
    ("graphemes", .object [("n", .object [("contexts", .list [
      .object [("con", .list [.text "V", .text "V"]), ("pron", .list [.int 1])],
      .object [("con", .list [.text "a", .text "V"])]])])])]

/-- The later rule decides where both hold, and no rule holds at the edge of a word. -/
theorem pronunciation_of_compile_vowels :
    ∃ lexicon, compile vowels = .ok lexicon
      ∧ lexicon.pronunciation "e" "n" "a" = .ok [.int 1]
      ∧ lexicon.pronunciation "a" "n" "a" = .ok []
      ∧ lexicon.pronunciation "a" "n" "" = .error (.unknownContext "n" "a" "") := by
  obtain ⟨lexicon, compiled, classes⟩ : ∃ lexicon : Lexicon, compile vowels = .ok lexicon
      ∧ lexicon.classes = [("V", [.grapheme "a", .grapheme "e"])] := ⟨_, by cbv, rfl⟩
  have present : Document.find? "n" (declared vowels) = some _ := rfl
  obtain ⟨_, source, _, _, hsource, _, h⟩ := pronunciation_of_compile compiled present
  cases hsource
  rw [classes] at h
  have vowel : ∀ neighbour, RuleSide.Holds [("V", [.grapheme "a", .grapheme "e"])]
      (.member (.grapheme "V")) neighbour ↔ neighbour = "a" ∨ neighbour = "e" := by
    intro neighbour
    rw [RuleSide.holds_iff rfl]
    show ClassMember.grapheme neighbour ∈ [.grapheme "a", .grapheme "e"] ↔ _
    simp
  have first : ∀ neighbour, RuleSide.Holds [("V", [.grapheme "a", .grapheme "e"])]
      (.member (.grapheme "a")) neighbour ↔ neighbour = "a" := by
    intro neighbour
    rw [RuleSide.holds_iff rfl]
    show ClassMember.grapheme neighbour ∈ [.grapheme "a"] ↔ _
    simp
  refine ⟨lexicon, compiled, ?_, ?_, ?_⟩
  · obtain ⟨segments, resolves, result⟩ := (h "e" "a").1 _ ⟨[], _, rfl,
      ⟨(vowel "e").mpr (.inr rfl), (vowel "a").mpr (.inl rfl)⟩, by
        intro later mem
        cases List.mem_singleton.mp mem
        exact fun holds => absurd ((first "e").mp holds.1) (by decide)⟩
    have expand : (PronunciationRef.items (Feed.ofList [.segment (.int 1)])).expand
        (Pronunciations.ofEntries []) = .ok [.int 1] := by cbv
    cases expand.symm.trans resolves
    exact result
  · obtain ⟨segments, resolves, result⟩ := (h "a" "a").1 _ ⟨[_], [], rfl,
      ⟨(first "a").mpr rfl, (vowel "a").mpr (.inl rfl)⟩, fun later mem =>
        absurd mem List.not_mem_nil⟩
    cases resolves
    exact result
  · refine ((h "a" "").2.2 _).mpr ⟨rfl, ?_, rfl⟩
    intro rule mem holds
    have edge : RuleSide.Holds [("V", [.grapheme "a", .grapheme "e"])]
        (.member (.grapheme "V")) "" := by
      obtain rfl | mem := List.mem_cons.mp mem
      · exact holds.2
      · cases List.mem_singleton.mp mem
        exact holds.2
    exact absurd ((vowel "").mp edge) (by decide)

end WhistledSpeech.Lexicon
