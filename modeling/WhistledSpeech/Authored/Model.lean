import WhistledSpeech.Authored.Segment
import WhistledSpeech.Speaker

/-!
# Authored models

A model as an author may write it: its graphemes, which have to be there, and what they draw on – words,
named pronunciations, classes, constants and the boundary between words, all of which may be left out.
Two of the keys have a second spelling, which counts only where the first is missing.

A model that can be read this way is written out again with every key in its first spelling and
everything left out missing, and that is what a speaker is compiled from.
-/

namespace WhistledSpeech.Authored

/-- An item of an authored pronunciation. -/
inductive PronunciationItem where
  /-- The pronunciation of that name, in place. -/
  | name (n : String)
  /-- A segment. -/
  | segment (s : Segment)

namespace PronunciationItem

/-- The item of a value. -/
def ofDocument? : Document → Option PronunciationItem
  | .text n => some (name n)
  | value => (Segment.ofDocument? value).map segment

/-- The item as a document. -/
def toDocument : PronunciationItem → Document
  | name n => .text n
  | segment s => s.toDocument

end PronunciationItem

/-- **An authored pronunciation.** -/
inductive Pronunciation where
  /-- The pronunciation of that name. -/
  | name (n : String)
  /-- Items in order. -/
  | items (listed : List PronunciationItem)

namespace Pronunciation

/-- The pronunciation of a value. -/
def ofDocument? : Document → Option Pronunciation
  | .text n => some (name n)
  | value => (list? PronunciationItem.ofDocument? value).map items

/-- The pronunciation as a document. -/
def toDocument : Pronunciation → Document
  | name n => .text n
  | items listed => ofList PronunciationItem.toDocument listed

end Pronunciation

/-- **An authored context rule.** -/
structure ContextRule where
  /-- The class of the preceding grapheme. -/
  ante : String
  /-- The class of the following grapheme. -/
  post : String
  /-- The pronunciation between the two. -/
  pronunciation : Option Pronunciation

namespace ContextRule

/-- The two classes of a rule. -/
def classes? : Document → Option (String × String)
  | .list [.text ante, .text post] => some (ante, post)
  | _ => none

/-- The rule of a value. -/
def ofDocument? : Document → Option ContextRule := ofObject? fun entries => do
  let classes ← required classes? "con" entries
  let pronunciation ← optional Pronunciation.ofDocument? "pron" entries
  return ⟨classes.1, classes.2, pronunciation⟩

/-- The rule as a document. -/
def toDocument (rule : ContextRule) : Document :=
  .object <| ("con", .list [.text rule.ante, .text rule.post]) ::
    entry Pronunciation.toDocument "pron" rule.pronunciation

end ContextRule

/-- **An authored grapheme.** -/
structure Grapheme where
  /-- The pronunciation where no rule holds. -/
  elsewhere : Option Pronunciation
  /-- The rules, in order. -/
  contexts : List ContextRule

namespace Grapheme

/-- The grapheme of a value. -/
def ofDocument? : Document → Option Grapheme := ofObject? fun entries => do
  let elsewhere ← optional Pronunciation.ofDocument? "elsewhere" entries
  let contexts ← withDefault (list? ContextRule.ofDocument?) "contexts" [] entries
  return ⟨elsewhere, contexts⟩

/-- The grapheme as a document. -/
def toDocument (grapheme : Grapheme) : Document :=
  .object <| entry Pronunciation.toDocument "elsewhere" grapheme.elsewhere ++
    [("contexts", ofList ContextRule.toDocument grapheme.contexts)]

end Grapheme

/-- **An authored model.** -/
structure Model where
  /-- The pattern that separates words. -/
  wordBoundary : Option String
  /-- Words with a pronunciation of their own. -/
  words : List (String × Pronunciation)
  /-- Pronunciations to refer to. -/
  named : List (String × Pronunciation)
  /-- Classes of graphemes. -/
  classes : List (String × List String)
  /-- Constants of formulas. -/
  constants : List (String × Quantity)
  /-- The graphemes. -/
  graphemes : List (String × Grapheme)

namespace Model

/-- The entries with a key in its first spelling: the second spelling counts where the first is
missing. -/
def respell (first second : String) (entries : Entries) : Entries :=
  match Document.find? first entries, Document.find? second entries with
  | none, some value => (first, value) :: entries
  | _, _ => entries

/-- The model that entries describe. -/
def ofEntries? (entries : Entries) : Option Model := do
  let entries := respell "wordBoundary" "word_boundary" entries
  let entries := respell "namedPronunciations" "named_pronunciations" entries
  let pronunciations := table? Pronunciation.ofDocument?
  let wordBoundary ← optional text? "wordBoundary" entries
  let words ← withDefault pronunciations "words" [] entries
  let named ← withDefault pronunciations "namedPronunciations" [] entries
  let classes ← withDefault (table? (list? text?)) "classes" [] entries
  let constants ← withDefault (table? Quantity.ofDocument?) "constants" [] entries
  let graphemes ← required (table? Grapheme.ofDocument?) "graphemes" entries
  return ⟨wordBoundary, words, named, classes, constants, graphemes⟩

/-- **The model of a value.** -/
def ofDocument? : Document → Option Model := ofObject? ofEntries?

/-- **The model as entries.** -/
def toEntries (model : Model) : Entries :=
  entry .text "wordBoundary" model.wordBoundary ++
    [("words", ofTable Pronunciation.toDocument model.words),
      ("namedPronunciations", ofTable Pronunciation.toDocument model.named),
      ("classes", ofTable (ofList .text) model.classes),
      ("constants", ofTable Quantity.toDocument model.constants),
      ("graphemes", ofTable Grapheme.toDocument model.graphemes)]

/-- The model as a document. -/
def toDocument (model : Model) : Document := .object model.toEntries

end Model

end WhistledSpeech.Authored

namespace WhistledSpeech.Speaker

/-- **The speaker of a document**, which has to be a model. -/
def ofDocument (value : Document) : Except Fault Speaker :=
  match Authored.Model.ofDocument? value with
  | some model => compile model.toEntries
  | none => .error .invalidDocument

end WhistledSpeech.Speaker
