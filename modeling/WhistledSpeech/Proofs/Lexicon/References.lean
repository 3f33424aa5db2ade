import Mathlib
import WhistledSpeech.Authored.Model
import WhistledSpeech.Proofs.Feed
import WhistledSpeech.Proofs.Lexicon.CycleFaults
import WhistledSpeech.Proofs.Lexicon.Pronunciations

/-!
# The references of an authored model

A model refers to classes from classes, and to named pronunciations from the pronunciations of words, of
graphemes and of context rules. `Model.references` has them all in the order of the model, `Reference.Resolves`
says of each by itself whether it comes to an end, and `Reference.Reports` which fault it has if it does
not. A named pronunciation that nothing refers to is not among them.

Compiling goes through the references in this order and stops at the first that does not resolve
(`compile_exact`).
-/

namespace WhistledSpeech.Authored

open Relation

/-! ## Pronunciations of a model -/

namespace Pronunciation

/-- The pronunciation as it is written. -/
def toWritten : Pronunciation → WrittenPronunciation
  | name n => .byName n
  | items listed => .listed (listed.map PronunciationItem.toDocument)

theorem toDocument_toWritten (pronunciation : Pronunciation) :
    pronunciation.toWritten.toDocument = pronunciation.toDocument := by
  cases pronunciation with
  | name n => rfl
  | items listed => rfl

/-- The pronunciation as it is expanded. -/
def ref (pronunciation : Pronunciation) : PronunciationRef :=
  PronunciationRef.ofDocument pronunciation.toDocument

/-- **A pronunciation expands** if nothing is wrong with any mention of a name in its expansion. -/
def IsSound (named : WrittenPronunciations) (pronunciation : Pronunciation) : Prop :=
  ∀ place chain n, named.Mentions pronunciation.toWritten.items place chain n →
    named.IsSound chain n

/-- **The first mention in the expansion that something is wrong with**, by its chain and its name. -/
def IsFirst (named : WrittenPronunciations) (pronunciation : Pronunciation) (chain : List String)
    (n : String) : Prop :=
  ∃ place, named.Mentions pronunciation.toWritten.items place chain n ∧ ¬ named.IsSound chain n
    ∧ ∀ earlier < place, ∀ chain' n', named.Mentions pronunciation.toWritten.items earlier chain' n' →
      named.IsSound chain' n'

end Pronunciation

/-- **Where a model has a pronunciation.** -/
inductive Place where
  /-- For a word. -/
  | word (w : String)
  /-- For a grapheme where no rule holds. -/
  | elsewhere (grapheme : String)
  /-- For a grapheme between the members of two classes. -/
  | rule (grapheme ante post : String)

namespace Place

/-- The fault of a place whose pronunciation needs a name that is not defined. -/
def missing (ref : Option String) (name : String) : Place → Fault
  | word w => .wordPronunciation ref w name
  | elsewhere grapheme => .elsewherePronunciation grapheme name
  | rule grapheme ante post => .rulePronunciation ref grapheme ante post name

/-- The names by which an author knows a place. -/
def names : Place → List String
  | word w => [w]
  | elsewhere grapheme => [grapheme, "elsewhere"]
  | rule grapheme ante post => [grapheme, ante, post]

end Place

/-- **What a model refers from.** -/
inductive Reference where
  /-- A class, to the classes it lists. -/
  | ofClass (name : String)
  /-- A pronunciation, to the names it mentions. -/
  | ofPronunciation (place : Place) (pronunciation : Pronunciation)

/-- The reference of a pronunciation that may be left out. -/
def Place.references (place : Place) : Option Pronunciation → List Reference
  | none => []
  | some pronunciation => [.ofPronunciation place pronunciation]

/-- The references of a grapheme: its general pronunciation, then its rules. -/
def Grapheme.references (name : String) (grapheme : Grapheme) : List Reference :=
  (Place.elsewhere name).references grapheme.elsewhere
    ++ grapheme.contexts.flatMap fun rule =>
      (Place.rule name rule.ante rule.post).references rule.pronunciation

namespace Model

/-- The classes as they are written. -/
def writtenClasses (model : Model) : WrittenClasses := model.classes

/-- The named pronunciations as they are written. -/
def definitions (model : Model) : WrittenPronunciations :=
  model.named.map fun e => (e.1, e.2.toWritten)

/-- **The references of a model**: those of its classes, of its words and of its graphemes, each in the
order of the model. -/
def references (model : Model) : List Reference :=
  model.classes.map (fun e => .ofClass e.1)
    ++ (model.words.map (fun e => .ofPronunciation (.word e.1) e.2)
      ++ model.graphemes.flatMap fun e => e.2.references e.1)

end Model

namespace Reference

/-- **A reference resolves**: a class leads into no cycle, a pronunciation expands. -/
def Resolves (model : Model) : Reference → Prop
  | ofClass name => model.writtenClasses.AcyclicBelow name
  | ofPronunciation _ pronunciation => pronunciation.IsSound model.definitions

/-- **The fault of a reference** that does not resolve. -/
inductive Reports (model : Model) : Reference → Fault → Prop where
  /-- A class leads into a cycle. -/
  | cycle {name : String} {fault : Fault} (finds : model.writtenClasses.FindsCycle name fault) :
      Reports model (.ofClass name) fault
  /-- The first name at fault has been entered and not been left. -/
  | circular {place : Place} {pronunciation : Pronunciation} {chain : List String} {n : String}
      (first : pronunciation.IsFirst model.definitions chain n) (entered : n ∈ chain) :
      Reports model (.ofPronunciation place pronunciation)
        (.circularPronunciation (Chain.cycle chain n))
  /-- The first name at fault is not defined. -/
  | missing {place : Place} {pronunciation : Pronunciation} {chain : List String} {n : String}
      (first : pronunciation.IsFirst model.definitions chain n) (new : n ∉ chain)
      (undefined : n ∉ model.named.map Prod.fst) :
      Reports model (.ofPronunciation place pronunciation)
        (place.missing pronunciation.ref.name? n)

end Reference

/-! ## Compiling, reference by reference -/

section Compiling

variable {model : Model}

/-- A model compiles what some references resolve to, or stops at the first that does not. -/
abbrev Compiles {α : Type} (model : Model) (references : List Reference) (result : Except Fault α) :
    Prop :=
  Meets (Reference.Resolves model) (Reference.Reports model) references result

theorem definitions_map_fst (model : Model) :
    model.definitions.map Prod.fst = model.named.map Prod.fst := by
  unfold Model.definitions
  rw [List.map_map]
  rfl

/-- **A pronunciation in its place.** -/
theorem compiles_expand (model : Model) (place : Place) (pronunciation : Pronunciation) :
    Compiles model [.ofPronunciation place pronunciation]
      (Lexicon.relate (fun n => place.missing pronunciation.ref.name? n)
        (pronunciation.ref.expand model.definitions.toNamed)) := by
  have expands : WrittenPronunciations.Expands model.definitions [] pronunciation.toWritten.items
      (pronunciation.ref.expand model.definitions.toNamed) := by
    have written := WrittenPronunciations.expand_expands model.definitions pronunciation.toWritten
    rw [pronunciation.toDocument_toWritten] at written
    exact written
  cases result : pronunciation.ref.expand model.definitions.toNamed with
  | ok segments =>
    rw [result] at expands
    refine Meets.singleton (fun _ _ => expands.2) fun fault failed => absurd failed nofun
  | error fault =>
    rw [result] at expands
    obtain ⟨place', chain, n, mention, problem, sound⟩ := expands
    have first : pronunciation.IsFirst model.definitions chain n :=
      ⟨place', mention, problem.not_isSound, sound⟩
    have not : ¬ pronunciation.IsSound model.definitions :=
      fun all => problem.not_isSound (all place' chain n mention)
    cases problem with
    | circular entered =>
      refine Meets.singleton (fun _ result => absurd result nofun) fun fault failed => ?_
      cases failed
      exact ⟨not, .circular first entered⟩
    | missing new undefined =>
      refine Meets.singleton (fun _ result => absurd result nofun) fun fault failed => ?_
      cases failed
      rw [definitions_map_fst] at undefined
      exact ⟨not, .missing first new undefined⟩

theorem compiles_words (model : Model) (words : List (String × Pronunciation)) :
    Compiles model (words.map fun e => .ofPronunciation (.word e.1) e.2)
      (Lexicon.compileWords model.definitions.toNamed (words.map fun e => (e.1, e.2.ref))) := by
  induction words with
  | nil => exact .nil []
  | cons word rest ih =>
    rw [List.map_cons, List.map_cons, Lexicon.compileWords, ← List.singleton_append]
    refine (compiles_expand model (.word word.1) word.2).bind fun segments _ => ?_
    rw [← List.append_nil (rest.map _)]
    exact ih.bind fun others _ => .nil _

/-- The rule as it is compiled. -/
def ContextRule.rule (rule : ContextRule) : WhistledSpeech.ContextRule :=
  ⟨.member (.grapheme rule.ante), .member (.grapheme rule.post),
    rule.pronunciation.map Pronunciation.ref⟩

theorem compiles_rule (model : Model) (grapheme : String) (rule : ContextRule) :
    Compiles model ((Place.rule grapheme rule.ante rule.post).references rule.pronunciation)
      (Lexicon.compileRule model.definitions.toNamed grapheme rule.rule) := by
  unfold Lexicon.compileRule ContextRule.rule
  cases rule.pronunciation with
  | none => exact .nil []
  | some pronunciation => exact compiles_expand model (.rule grapheme rule.ante rule.post) pronunciation

theorem compiles_rules (model : Model) (classes : ClassTable) (grapheme : String)
    (table : ContextTable) (rules : List ContextRule) :
    Compiles model
      (rules.flatMap fun rule => (Place.rule grapheme rule.ante rule.post).references
        rule.pronunciation)
      (Lexicon.compileRules model.definitions.toNamed classes grapheme table
        (rules.map ContextRule.rule)) := by
  induction rules generalizing table with
  | nil => exact .nil table
  | cons rule rest ih =>
    rw [List.flatMap_cons, List.map_cons, Lexicon.compileRules]
    refine (compiles_rule model grapheme rule).bind fun segments _ => ?_
    -- the sides of an authored rule are texts, so both have members
    show Compiles model _ (if (classes.members (.grapheme rule.ante)).isEmpty then _ else _)
    by_cases empty : (classes.members (.grapheme rule.ante)).isEmpty = true
    · rw [if_pos empty]
      exact ih _
    · rw [if_neg empty]
      exact ih _

/-- The grapheme as it is compiled. -/
def Grapheme.source (grapheme : Grapheme) : GraphemeSource :=
  ⟨grapheme.elsewhere.map Pronunciation.ref, .ofList (grapheme.contexts.map ContextRule.rule)⟩

theorem compiles_elsewhere (model : Model) (name : String) (elsewhere : Option Pronunciation) :
    Compiles model ((Place.elsewhere name).references elsewhere)
      (Lexicon.compileElsewhere model.definitions.toNamed name
        (elsewhere.map Pronunciation.ref)) := by
  cases elsewhere with
  | none => exact .nil none
  | some pronunciation => exact (compiles_expand model (.elsewhere name) pronunciation).map some

theorem compiles_grapheme (model : Model) (classes : ClassTable) (name : String)
    (grapheme : Grapheme) :
    Compiles model (grapheme.references name)
      (Lexicon.compileGrapheme model.definitions.toNamed classes name grapheme.source) := by
  unfold Lexicon.compileGrapheme Grapheme.references
  refine (compiles_elsewhere model name grapheme.elsewhere).bind fun elsewhere _ => ?_
  rw [← List.append_nil (grapheme.contexts.flatMap _)]
  exact (compiles_rules model classes name [] grapheme.contexts).bind fun contexts _ => .nil _

theorem compiles_graphemes (model : Model) (classes : ClassTable)
    (graphemes : List (String × Grapheme)) :
    Compiles model (graphemes.flatMap fun e => e.2.references e.1)
      (Lexicon.compileGraphemes model.definitions.toNamed classes
        (graphemes.map fun e => (e.1, e.2.source))) := by
  induction graphemes with
  | nil => exact .nil []
  | cons grapheme rest ih =>
    rw [List.flatMap_cons, List.map_cons, Lexicon.compileGraphemes]
    refine (compiles_grapheme model classes grapheme.1 grapheme.2).bind fun entry _ => ?_
    rw [← List.append_nil (rest.flatMap _)]
    exact ih.bind fun others _ => .nil _

theorem compiles_classes (model : Model) :
    Compiles model (model.classes.map fun e => .ofClass e.1)
      (ClassMap.resolve model.writtenClasses.toMap) := by
  have classes : Compiles model ((model.writtenClasses.map Prod.fst).map Reference.ofClass)
      (ClassMap.resolve model.writtenClasses.toMap) :=
    (WrittenClasses.resolve_meets model.writtenClasses).image Reference.ofClass
      (fun name => Iff.rfl) fun name fault finds => Reference.Reports.cycle finds
  rw [List.map_map] at classes
  exact classes

end Compiling

/-! ## Reading the parts of a model -/

/-- A text as a member of a class is a grapheme. -/
theorem ofDocuments_text (names : List String) :
    ClassMember.ofDocuments (names.map .text) = .ofList (WrittenClasses.graphemes names) := by
  induction names with
  | nil => rfl
  | cons name rest ih =>
    rw [List.map_cons, ClassMember.ofDocuments, ih]
    rfl

theorem ofDocument_classes (model : Model) :
    ClassMap.ofDocument (ofTable (ofList .text) model.classes) = .ok model.writtenClasses.toMap := by
  have listed : ∀ names, ClassMap.listed (ofList .text names)
      = .ofList (WrittenClasses.graphemes names) := ofDocuments_text
  unfold Model.writtenClasses WrittenClasses.toMap ClassMap.ofDocument ofTable
  cases model.classes with
  | nil => rfl
  | cons first rest =>
    rw [if_neg (by simp [Document.isEmptyValue])]
    dsimp only
    rw [List.map_map]
    simp only [Function.comp_def, listed]

theorem ofModel_named (model : Model) :
    Pronunciations.ofModel (ofTable Pronunciation.toDocument model.named)
      = model.definitions.toNamed := by
  unfold Model.definitions WrittenPronunciations.toNamed Pronunciations.ofModel ofTable
  rw [List.map_map]
  simp only [Function.comp_def, Pronunciation.toDocument_toWritten]
  cases model.named with
  | nil => rfl
  | cons first rest => rw [if_neg (by simp [Document.isEmptyValue])]

theorem optionalEntries_ofTable {α : Type} (write : α → Document) (table : List (String × α)) :
    (ofTable write table).optionalEntries = .ok (table.map fun row => (row.1, write row.2)) := by
  unfold ofTable
  cases table with
  | nil => rfl
  | cons row rest => rfl

theorem ofDocument_rule (rule : ContextRule) :
    WhistledSpeech.ContextRule.ofDocument rule.toDocument = .ok rule.rule := by
  obtain ⟨ante, post, pronunciation⟩ := rule
  cases pronunciation with
  | none => rfl
  | some pronunciation =>
    cases pronunciation with
    | name n => rfl
    | items listed => rfl

theorem ofDocument_grapheme (grapheme : Grapheme) :
    GraphemeSource.ofDocument grapheme.toDocument = .ok grapheme.source := by
  obtain ⟨elsewhere, contexts⟩ := grapheme
  have rules : WhistledSpeech.ContextRule.ofDocuments (contexts.map ContextRule.toDocument)
      = .ofList (contexts.map ContextRule.rule) :=
    Feed.mapExcept_map _ _ ofDocument_rule contexts
  -- no rules count as left out, and a pronunciation is never written as nothing
  have given : GraphemeSource.ofDocument (Grapheme.mk elsewhere contexts).toDocument
      = .ok ⟨elsewhere.map Pronunciation.ref,
        WhistledSpeech.ContextRule.ofDocuments (contexts.map ContextRule.toDocument)⟩ := by
    obtain - | first := elsewhere
    · cases contexts <;> rfl
    · cases first <;> cases contexts <;> rfl
  rw [given, rules]
  rfl

/-- **What compiling an authored model comes down to.** -/
theorem compile_toEntries (model : Model) :
    Lexicon.compile model.toEntries = do
      let classes ← ClassMap.resolve model.writtenClasses.toMap
      let words ← Lexicon.compileWords model.definitions.toNamed
        (model.words.map fun e => (e.1, e.2.ref))
      let graphemes ← Lexicon.compileGraphemes model.definitions.toNamed classes
        (model.graphemes.map fun e => (e.1, e.2.source))
      return ⟨classes, words, graphemes⟩ := by
  have sources : GraphemeSource.ofEntries
      (model.graphemes.map fun row => (row.1, Grapheme.toDocument row.2))
      = .ofList (model.graphemes.map fun e => (e.1, e.2.source)) := by
    refine Feed.mapExcept_map _ _ (fun row => ?_) model.graphemes
    rw [ofDocument_grapheme]
    rfl
  have part : ∀ key, "wordBoundary" ≠ key →
      Document.find? key model.toEntries = Document.find? key
        [("words", ofTable Pronunciation.toDocument model.words),
          ("namedPronunciations", ofTable Pronunciation.toDocument model.named),
          ("classes", ofTable (ofList .text) model.classes),
          ("constants", ofTable Quantity.toDocument model.constants),
          ("graphemes", ofTable Grapheme.toDocument model.graphemes)] :=
    fun key other => find?_entry_of_ne _ other _ _
  have classes : (Document.find? "classes" model.toEntries).getD .null
      = ofTable (ofList .text) model.classes := by
    rw [part _ (by decide)]
    rfl
  have named : (Document.find? "namedPronunciations" model.toEntries).getD .null
      = ofTable Pronunciation.toDocument model.named := by
    rw [part _ (by decide)]
    rfl
  have words : (Document.find? "words" model.toEntries).getD .null
      = ofTable Pronunciation.toDocument model.words := by
    rw [part _ (by decide)]
    rfl
  have graphemes : (Document.find? "graphemes" model.toEntries).getD .null
      = ofTable Grapheme.toDocument model.graphemes := by
    rw [part _ (by decide)]
    rfl
  unfold Lexicon.compile
  dsimp only
  rw [classes, named, words, graphemes, ofDocument_classes, ofModel_named, optionalEntries_ofTable,
    optionalEntries_ofTable]
  dsimp only [bind, Except.bind]
  rw [sources, List.map_map]
  rfl

theorem compiles_toEntries (model : Model) :
    Compiles model model.references (Lexicon.compile model.toEntries) := by
  rw [compile_toEntries]
  refine (compiles_classes model).bind fun classes _ => ?_
  refine (compiles_words model model.words).bind fun words _ => ?_
  rw [← List.append_nil (model.graphemes.flatMap _)]
  exact (compiles_graphemes model classes model.graphemes).bind fun graphemes _ => .nil _

/-! ## Messages -/

/-- **A fault has a message that names something.** -/
def Names (fault : Fault) (names : List String) : Prop :=
  ∃ text, fault.message = some text ∧ ∀ name ∈ names, name.toList <:+: text.toList

/-- A message put together from pieces names each of them. -/
theorem names_of_pieces {fault : Fault} {text : String} {names : List String} (pieces : List String)
    (given : fault.message = some text) (parts : text.toList = (pieces.map String.toList).flatten)
    (all : ∀ name ∈ names, name ∈ pieces) : Names fault names := by
  refine ⟨text, given, fun name mem => ?_⟩
  rw [parts]
  exact List.infix_of_mem_flatten (List.mem_map_of_mem (all name mem))

/-- **A missing name is reported with the place that needs it.** -/
theorem names_missing (place : Place) (ref : Option String) (n : String) :
    Names (place.missing ref n) (n :: place.names) := by
  cases place with
  | word w =>
    refine names_of_pieces ["Could not find named pronunciation ", Fault.describe ref,
      " for word \"", w, "\"; missing name \"", n, "\""] rfl ?_ ?_
    · simp [toString]
    · simp [Place.names]
  | elsewhere grapheme =>
    refine names_of_pieces ["Could not find named pronunciation \"", n, "\" for grapheme \"",
      grapheme, "\" in '", "elsewhere", "' context"] rfl ?_ ?_
    · simp [toString]
    · simp [Place.names]
  | rule grapheme ante post =>
    by_cases same : ref = some n
    · refine names_of_pieces ["Could not find named pronunciation \"", n, "\" for grapheme \"",
        grapheme, "\" in context \"", ante, "\"_\"", post, "\""] (if_pos same) ?_ ?_
      · simp [toString]
      · simp [Place.names]
    · refine names_of_pieces ["Could not resolve named pronunciation ", Fault.describe ref,
        " for grapheme \"", grapheme, "\" in context \"", ante, "\"_\"", post,
        "\"; could not find name \"", n, "\""] (if_neg same) ?_ ?_
      · simp [toString]
      · simp [Place.names]

/-! ## Compiling a model -/

section Models

variable {model : Model}

/-- The references of pronunciations are those of words, graphemes and rules. -/
theorem resolves_iff (model : Model) :
    (∀ reference ∈ model.references, reference.Resolves model)
      ↔ ¬ model.writtenClasses.Cyclic
        ∧ (∀ word p, (word, p) ∈ model.words → p.IsSound model.definitions)
        ∧ ∀ name grapheme, (name, grapheme) ∈ model.graphemes →
          (∀ p, grapheme.elsewhere = some p → p.IsSound model.definitions)
          ∧ ∀ rule ∈ grapheme.contexts, ∀ p, rule.pronunciation = some p →
            p.IsSound model.definitions := by
  have optional : ∀ (place : Place) (given : Option Pronunciation),
      (∀ reference ∈ place.references given, reference.Resolves model)
        ↔ ∀ p, given = some p → p.IsSound model.definitions := by
    intro place given
    cases given with
    | none => simp [Place.references]
    | some p => simp [Place.references, Reference.Resolves]
  have classes : (∀ reference ∈ model.classes.map (fun e => Reference.ofClass e.1),
      reference.Resolves model) ↔ ¬ model.writtenClasses.Cyclic := by
    rw [WrittenClasses.not_cyclic_iff, List.forall_mem_map, List.forall_mem_map]
    rfl
  unfold Model.references
  rw [List.forall_mem_append, List.forall_mem_append, classes, List.forall_mem_map,
    List.forall_mem_flatMap]
  refine and_congr_right' (and_congr ?_ ?_)
  · exact ⟨fun all word p mem => all (word, p) mem, fun all e mem => all e.1 e.2 mem⟩
  · refine ⟨fun all name grapheme mem => ?_, fun all e mem => ?_⟩
    · have front := all (name, grapheme) mem
      unfold Grapheme.references at front
      rw [List.forall_mem_append, optional, List.forall_mem_flatMap] at front
      exact ⟨front.1, fun rule mem => (optional _ _).mp (front.2 rule mem)⟩
    · unfold Grapheme.references
      rw [List.forall_mem_append, optional, List.forall_mem_flatMap]
      exact ⟨(all e.1 e.2 mem).1, fun rule mem' => (optional _ _).mpr ((all e.1 e.2 mem).2 rule mem')⟩

/-- Which definitions decide whether a pronunciation expands. -/
theorem Pronunciation.isSound_congr {p : Pronunciation} {others : List (String × Pronunciation)}
    (same : ∀ place chain n, model.definitions.Mentions p.toWritten.items place chain n →
      Document.find? n others = Document.find? n model.named) :
    p.IsSound { model with named := others }.definitions ↔ p.IsSound model.definitions := by
  have found : ∀ place chain n, model.definitions.Mentions p.toWritten.items place chain n →
      Document.find? n { model with named := others }.definitions
        = Document.find? n model.definitions := by
    intro place chain n mention
    unfold Model.definitions
    rw [Document.find?_map (fun _ => Pronunciation.toWritten),
      Document.find?_map (fun _ => Pronunciation.toWritten), same place chain n mention]
  constructor
  · intro sound place chain n mention
    exact (WrittenPronunciations.isSound_congr (found place chain n mention)).mp
      (sound place chain n (mention.congr found))
  · intro sound place chain n mention
    have mention' := mention.of_congr found
    exact (WrittenPronunciations.isSound_congr (found place chain n mention')).mpr
      (sound place chain n mention')

/-- The fault of a reference says where it is from, so a missing name is never reported bare. -/
theorem Reference.Reports.ne_unresolved {reference : Reference} {fault : Fault}
    (h : reference.Reports model fault) (n : String) : fault ≠ .unresolvedPronunciation n := by
  cases h with
  | cycle finds =>
    obtain ⟨path, rfl, _⟩ := finds
    exact nofun
  | circular _ _ => exact nofun
  | @missing place _ _ _ _ _ _ =>
    cases place with
    | word _ => exact nofun
    | elsewhere _ => exact nofun
    | rule _ _ _ => exact nofun

/-- **A model compiles exactly if every reference in it resolves**: its classes are not cyclic, and the
pronunciations of words, of graphemes and of all context rules expand. Named pronunciations that none of
these mentions may be defined in any way, or not at all. Otherwise the fault is that of the first
reference that does not resolve, in the order of classes, words, and for each grapheme its general
pronunciation before its rules. A name that is missing is reported with the place that needs it. -/
theorem compile_exact (model : Model) :
    ((∃ lexicon, Lexicon.compile model.toEntries = .ok lexicon)
      ↔ ¬ model.writtenClasses.Cyclic
        ∧ (∀ word p, (word, p) ∈ model.words → p.IsSound model.definitions)
        ∧ ∀ name grapheme, (name, grapheme) ∈ model.graphemes →
          (∀ p, grapheme.elsewhere = some p → p.IsSound model.definitions)
          ∧ ∀ rule ∈ grapheme.contexts, ∀ p, rule.pronunciation = some p →
            p.IsSound model.definitions)
    ∧ (∀ others : List (String × Pronunciation),
        (∀ place p, .ofPronunciation place p ∈ model.references → ∀ spot chain n,
          model.definitions.Mentions p.toWritten.items spot chain n →
          Document.find? n others = Document.find? n model.named) →
        ((∃ lexicon, Lexicon.compile { model with named := others }.toEntries = .ok lexicon)
          ↔ ∃ lexicon, Lexicon.compile model.toEntries = .ok lexicon))
    ∧ ∀ fault, Lexicon.compile model.toEntries = .error fault →
      (∃ before reference after, model.references = before ++ reference :: after
        ∧ (∀ earlier ∈ before, earlier.Resolves model)
        ∧ ¬ reference.Resolves model ∧ reference.Reports model fault
        ∧ ∀ place p n, reference = .ofPronunciation place p →
          fault = place.missing p.ref.name? n → Names fault (n :: place.names))
      ∧ ∀ n, fault ≠ .unresolvedPronunciation n := by
  have succeeds : ∀ model : Model, (∃ lexicon, Lexicon.compile model.toEntries = .ok lexicon)
      ↔ ∀ reference ∈ model.references, reference.Resolves model :=
    fun model => (compiles_toEntries model).exists_ok_iff
  refine ⟨(succeeds model).trans (resolves_iff model), fun others same => ?_, fun fault failed => ?_⟩
  · rw [succeeds, succeeds]
    refine forall₂_congr fun reference mem => ?_
    cases reference with
    | ofClass name => exact Iff.rfl
    | ofPronunciation place p => exact p.isSound_congr (same place p mem)
  · have stops := compiles_toEntries model
    rw [failed] at stops
    obtain ⟨before, reference, after, parts, all, not, reports⟩ := stops
    refine ⟨⟨before, reference, after, parts, all, not, reports, ?_⟩, reports.ne_unresolved⟩
    rintro place p n rfl rfl
    exact names_missing place p.ref.name? n

/-- A word that needs a name through another is at fault. A definition in a circle is not, as nothing
refers to it. -/
example : Lexicon.compile (Model.toEntries ⟨none, [("ta", .name "t")],
      [("h", .name "h"), ("t", .items [.name "k"])], [], [], []⟩)
    = .error (.wordPronunciation (some "t") "ta" "k") := by
  cbv

end Models

end WhistledSpeech.Authored
