import Mathlib
import WhistledSpeech.Proofs.Authored.Pruning
import WhistledSpeech.Proofs.Document.Keys

/-!
# The normal form of a model

A document that describes a model is read into a model and written out again, and what is written is what
a speaker is compiled from. That is its normal form (`Model.normal?`), and taking it is a projection
(`Model.normal?_projection`): a null is nowhere in it, it is a document of the same model and so its own
normal form, and a document has it with its nulls or without them. Each key has to stand once in the objects
of the document for that, as it does in whatever is read from a text (`hasKeysOnce_of_read`).

The last is not so of a document in second spellings. What is null under the first spelling of a key hides
what stands under the second, and leaving it out brings that back.
-/

namespace WhistledSpeech.Authored

open Document

variable {α : Type}

/-! ## What is written holds no null -/

theorem isNullFree_text (s : String) : (Document.text s).IsNullFree := nofun

/-- A field that may be left out is not null where it is written. -/
theorem isNullFree_entry {write : α → Document} (each : ∀ x, (write x).IsNullFree) (key : String)
    (value : Option α) : ∀ field ∈ entry write key value, field.2.IsNullFree := by
  intro field mem
  cases value with
  | none => exact absurd mem List.not_mem_nil
  | some x =>
    rw [entry, List.mem_singleton] at mem
    subst mem
    exact each x

theorem isNullFree_ofList {write : α → Document} (each : ∀ x, (write x).IsNullFree) (items : List α) :
    (ofList write items).IsNullFree := by
  refine isNullFree_list fun item mem => ?_
  obtain ⟨x, -, rfl⟩ := List.mem_map.mp mem
  exact each x

theorem isNullFree_ofTable {write : α → Document} (each : ∀ x, (write x).IsNullFree)
    (table : List (String × α)) : (ofTable write table).IsNullFree := by
  refine isNullFree_object fun field mem => ?_
  obtain ⟨row, -, rfl⟩ := List.mem_map.mp mem
  exact each row.2

theorem Quantity.isNullFree_toDocument (quantity : Quantity) : quantity.toDocument.IsNullFree := by
  cases quantity <;> nofun

theorem ContourCurve.isNullFree_toDocument (curve : ContourCurve) : curve.toDocument.IsNullFree := by
  cases curve <;> nofun

theorem Component.isNullFree_toDocument (component : Component) : component.toDocument.IsNullFree := by
  have quantity := isNullFree_entry Quantity.isNullFree_toDocument
  cases component with
  | transition curve start finish startClip endClip =>
    refine isNullFree_object ?_
    simp only [List.forall_mem_append, List.forall_mem_singleton]
    exact ⟨⟨⟨⟨⟨isNullFree_text _, isNullFree_entry isNullFree_text _ _⟩, quantity _ _⟩, quantity _ _⟩,
      quantity _ _⟩, quantity _ _⟩
  | contour curve level excursion clip =>
    refine isNullFree_object ?_
    simp only [List.forall_mem_append, List.forall_mem_singleton]
    exact ⟨⟨⟨⟨isNullFree_text _, isNullFree_entry ContourCurve.isNullFree_toDocument _ _⟩, quantity _ _⟩,
      excursion.isNullFree_toDocument⟩, quantity _ _⟩
  | constant level =>
    refine isNullFree_object ?_
    simp only [List.forall_mem_append, List.forall_mem_singleton]
    exact ⟨isNullFree_text _, quantity _ _⟩

theorem Segment.isNullFree_toDocument (segment : Segment) : segment.toDocument.IsNullFree := by
  have component := isNullFree_entry Component.isNullFree_toDocument
  refine isNullFree_object ?_
  simp only [List.forall_mem_append]
  exact ⟨⟨component _ _, component _ _⟩, isNullFree_entry Quantity.isNullFree_toDocument _ _⟩

theorem PronunciationItem.isNullFree_toDocument (item : PronunciationItem) :
    item.toDocument.IsNullFree := by
  cases item with
  | name n => exact isNullFree_text n
  | segment s => exact s.isNullFree_toDocument

theorem Pronunciation.isNullFree_toDocument (pronunciation : Pronunciation) :
    pronunciation.toDocument.IsNullFree := by
  cases pronunciation with
  | name n => exact isNullFree_text n
  | items listed => exact isNullFree_ofList PronunciationItem.isNullFree_toDocument listed

theorem ContextRule.isNullFree_toDocument (rule : ContextRule) : rule.toDocument.IsNullFree := by
  refine isNullFree_object ?_
  rw [List.forall_mem_cons]
  refine ⟨isNullFree_ofList isNullFree_text [rule.ante, rule.post], ?_⟩
  exact isNullFree_entry Pronunciation.isNullFree_toDocument _ _

theorem Grapheme.isNullFree_toDocument (grapheme : Grapheme) : grapheme.toDocument.IsNullFree := by
  refine isNullFree_object ?_
  rw [List.forall_mem_append, List.forall_mem_singleton]
  exact ⟨isNullFree_entry Pronunciation.isNullFree_toDocument _ _,
    isNullFree_ofList ContextRule.isNullFree_toDocument _⟩

/-- **A null is nowhere in the document of a model.** -/
theorem Model.isNullFree_toDocument (model : Model) : model.toDocument.IsNullFree := by
  have pronunciations := isNullFree_ofTable Pronunciation.isNullFree_toDocument
  refine isNullFree_object ?_
  simp only [toEntries, List.forall_mem_append, List.forall_mem_cons]
  exact ⟨isNullFree_entry isNullFree_text _ _, pronunciations _, pronunciations _,
    isNullFree_ofTable (isNullFree_ofList isNullFree_text) _,
    isNullFree_ofTable Quantity.isNullFree_toDocument _,
    isNullFree_ofTable Grapheme.isNullFree_toDocument _, nofun⟩

/-! ## What is written reads back -/

/-- **A table reads back**, if its values do. -/
theorem table?_ofTable {read : Document → Option α} {write : α → Document}
    (back : ∀ x, read (write x) = some x) (table : List (String × α)) :
    table? read (ofTable write table) = some table := by
  show (table.map fun row => (row.1, write row.2)).mapM (fun field => (read field.2).map (field.1, ·))
    = some table
  induction table with
  | nil => rfl
  | cons row rest ih =>
    rw [List.map_cons, List.mapM_cons, back, ih]
    rfl

@[simp] theorem PronunciationItem.ofDocument?_toDocument (item : PronunciationItem) :
    ofDocument? item.toDocument = some item := by
  cases item with
  | name n => rfl
  | segment s =>
    show (Segment.ofDocument? s.toDocument).map segment = some (segment s)
    rw [Segment.ofDocument?_toDocument, Option.map_some]

@[simp] theorem Pronunciation.ofDocument?_toDocument (pronunciation : Pronunciation) :
    ofDocument? pronunciation.toDocument = some pronunciation := by
  cases pronunciation with
  | name n => rfl
  | items listed =>
    show (list? PronunciationItem.ofDocument? (ofList PronunciationItem.toDocument listed)).map items
      = some (items listed)
    rw [list?_ofList PronunciationItem.ofDocument?_toDocument, Option.map_some]

/-- A pronunciation that may be left out reads back. -/
theorem Pronunciation.optional_of_find? {key : String} {entries : Entries} {value : Option Pronunciation}
    (found : Document.find? key entries = value.map toDocument) :
    optional ofDocument? key entries = some value := by
  refine Authored.optional_of_find? ofDocument?_toDocument (fun x null => ?_) found
  exact x.isNullFree_toDocument (null ▸ .self _)

/-- **A field that is always written reads back.** -/
theorem withDefault_of_find? {read : Document → Option α} {key : String} {entries : Entries}
    {value : Document} {x : α} (found : Document.find? key entries = some value)
    (back : read value = some x) (fallback : α) : withDefault read key fallback entries = some x := by
  unfold withDefault
  rw [found]
  exact back

/-- What the document of a rule holds. -/
theorem ContextRule.toDocument_holds (rule : ContextRule) :
    ∃ entries, rule.toDocument = .object entries
      ∧ Document.find? "con" entries = some (.list [.text rule.ante, .text rule.post])
      ∧ Document.find? "pron" entries = rule.pronunciation.map Pronunciation.toDocument := by
  refine ⟨_, rfl, ?_⟩
  simp [Document.find?]

@[simp] theorem ContextRule.ofDocument?_toDocument (rule : ContextRule) :
    ofDocument? rule.toDocument = some rule := by
  obtain ⟨entries, written, con, pronunciation⟩ := rule.toDocument_holds
  have classes : required classes? "con" entries = some (rule.ante, rule.post) := by
    rw [required, con]
    rfl
  simp only [written, ofDocument?, ofObject?, classes, Pronunciation.optional_of_find? pronunciation]
  rfl

/-- What the document of a grapheme holds. -/
theorem Grapheme.toDocument_holds (grapheme : Grapheme) :
    ∃ entries, grapheme.toDocument = .object entries
      ∧ Document.find? "elsewhere" entries = grapheme.elsewhere.map Pronunciation.toDocument
      ∧ Document.find? "contexts" entries = some (ofList ContextRule.toDocument grapheme.contexts) := by
  refine ⟨_, rfl, ?_⟩
  simp [Document.find?]

@[simp] theorem Grapheme.ofDocument?_toDocument (grapheme : Grapheme) :
    ofDocument? grapheme.toDocument = some grapheme := by
  obtain ⟨entries, written, elsewhere, contexts⟩ := grapheme.toDocument_holds
  have contexts := withDefault_of_find? contexts (list?_ofList ContextRule.ofDocument?_toDocument _) []
  simp only [written, ofDocument?, ofObject?, Pronunciation.optional_of_find? elsewhere, contexts]
  rfl

namespace Model

/-- What the entries of a model hold: every key in its first spelling, and no second spelling. -/
theorem toEntries_holds (model : Model) :
    Document.find? "word_boundary" model.toEntries = none
      ∧ Document.find? "named_pronunciations" model.toEntries = none
      ∧ Document.find? "wordBoundary" model.toEntries = model.wordBoundary.map .text
      ∧ Document.find? "words" model.toEntries = some (ofTable Pronunciation.toDocument model.words)
      ∧ Document.find? "namedPronunciations" model.toEntries
        = some (ofTable Pronunciation.toDocument model.named)
      ∧ Document.find? "classes" model.toEntries = some (ofTable (ofList .text) model.classes)
      ∧ Document.find? "constants" model.toEntries = some (ofTable Quantity.toDocument model.constants)
      ∧ Document.find? "graphemes" model.toEntries
        = some (ofTable Grapheme.toDocument model.graphemes) := by
  simp [toEntries, Document.find?]

/-- **A model reads back.** -/
@[simp] theorem ofDocument?_toDocument (model : Model) : ofDocument? model.toDocument = some model := by
  obtain ⟨boundary, namedAlias, wordBoundary, words, named, classes, constants, graphemes⟩ :=
    model.toEntries_holds
  have pronunciations := table?_ofTable Pronunciation.ofDocument?_toDocument
  have texts : ∀ listed : List String, list? text? (ofList .text listed) = some listed :=
    list?_ofList fun _ => rfl
  have classes := withDefault_of_find? classes (table?_ofTable texts _) []
  have constants := withDefault_of_find? constants (table?_ofTable Quantity.ofDocument?_toDocument _) []
  have graphemes : required (table? Grapheme.ofDocument?) "graphemes" model.toEntries
      = some model.graphemes := by
    rw [required, graphemes, Option.bind_some, table?_ofTable Grapheme.ofDocument?_toDocument]
  show ofEntries? model.toEntries = some model
  simp only [ofEntries?, respell_of_none boundary, respell_of_none namedAlias,
    optional_text?_of_find? wordBoundary, withDefault_of_find? words (pronunciations _) [],
    withDefault_of_find? named (pronunciations _) [], classes, constants, graphemes]
  rfl

/-! ## The normal form -/

/-- **The normal form of a document**, which has to be that of a model: the model written out again. -/
def normal? (written : Document) : Option Document := (ofDocument? written).map toDocument

/-- **Taking the normal form is a projection.** No null is in it at any depth; it is accepted again, as the
same model, and is its own normal form; and a document in the first spellings has it also without its fields
that are null, whichever of them are left out by their names. -/
theorem normal?_projection {written normal : Document} (once : written.HasKeysOnce)
    (spelled : IsFirstSpelled written) (isNormal : normal? written = some normal) :
    normal.IsNullFree ∧ ofDocument? normal = ofDocument? written ∧ normal? normal = some normal
      ∧ ∀ fields, normal? (written.prune fields) = some normal := by
  obtain ⟨model, isRead, rfl⟩ := Option.map_eq_some_iff.mp isNormal
  refine ⟨model.isNullFree_toDocument, ?_, ?_, fun fields => ?_⟩
  · rw [ofDocument?_toDocument, isRead]
  · rw [normal?, ofDocument?_toDocument, Option.map_some]
  · rw [normal?, ofDocument?_prune once spelled isRead, Option.map_some]

/-- A model in which much is left out, and some of it as a null. -/
def sparse : Document :=
  .object [("wordBoundary", .null), ("graphemes", .object [
    ("a", .object [("elsewhere", .null),
      ("contexts", .list [.object [("con", .list [.text "", .text "vowels"]), ("pron", .null)]])]),
    ("i", .object [("elsewhere", .list [.text "glide", .object [
      ("f", .object [("type", .text "transition"), ("curve", .null), ("ey", .text "high")]),
      ("a", .null)]])])])]

theorem normal?_projection_sparse :
    ∃ normal, sparse.HasKeysOnce ∧ IsFirstSpelled sparse ∧ normal? sparse = some normal
      ∧ normal.IsNullFree ∧ ofDocument? normal = ofDocument? sparse ∧ normal? normal = some normal
      ∧ ∀ fields, normal? (sparse.prune fields) = some normal := by
  have once : sparse.HasKeysOnce := by simp [sparse]
  have spelled : IsFirstSpelled sparse := by
    intro entries same
    cases same
    exact ⟨rfl, rfl⟩
  exact ⟨_, once, spelled, rfl, normal?_projection once spelled rfl⟩

/-- A first spelling that is null hides the second; left out, it does not. -/
example :
    let hidden := .object [("wordBoundary", .null), ("word_boundary", .text "-"), ("graphemes", .object [])]
    (Model.ofDocument? hidden).map Model.wordBoundary = some none
      ∧ (Model.ofDocument? (hidden.prune ["wordBoundary"])).map Model.wordBoundary = some (some "-") :=
  ⟨rfl, rfl⟩

end Model

end WhistledSpeech.Authored
