import WhistledSpeech.Lexicon.Classes
import WhistledSpeech.Text.Part

/-!
# Pronunciations

A pronunciation is a sequence of raw segments. Where a model gives one it may write the segments down,
or name a pronunciation defined elsewhere, or mix the two in a list; what it names may name others in
turn. Expanding follows the names until only segments are left, every mention anew, in order. A name
that is not defined and a name that leads back to itself are faults; of several the first in the order
of the expansion is reported.

Where the definitions should be, a model may hold something else. That is a fault as soon as a name is
looked up there, unless it is a text, in which every name is missing that is no part of it.
-/

namespace WhistledSpeech

/-- An item of a pronunciation. -/
inductive PronunciationItem where
  /-- The pronunciation of that name, in place. -/
  | name (n : String)
  /-- A raw segment. -/
  | segment (raw : Document)

/-- **A reference to a pronunciation.** -/
inductive PronunciationRef where
  /-- The pronunciation of that name. -/
  | name (n : String)
  /-- Items in order. What cannot be gone through has none and breaks off. -/
  | items (listed : Feed PronunciationItem)

/-- **What becomes of a name that no entry defines.** -/
inductive UndefinedName where
  /-- It is missing. -/
  | missing
  /-- It is missing if it is no part of a text, and cannot be looked up otherwise. -/
  | missingFrom (text : String)
  /-- It cannot be looked up. -/
  | unusable
  deriving Repr, DecidableEq

/-- **The named pronunciations of a model.** -/
structure Pronunciations where
  /-- The definitions, in order. -/
  entries : List (String × PronunciationRef)
  /-- What becomes of other names. -/
  undefined : UndefinedName

namespace UndefinedName

/-- The fault of a name that no entry defines. -/
def fault (name : String) : UndefinedName → Fault
  | missing => .unresolvedPronunciation name
  | missingFrom text =>
    if Text.occursIn name.toList text.toList then .wrongType else .unresolvedPronunciation name
  | unusable => .wrongType

end UndefinedName

namespace PronunciationRef

/-- The name a reference refers to, if it is a name. -/
def name? : PronunciationRef → Option String
  | name n => some n
  | items _ => none

/-- Ends what has been expanded, if the list it came from breaks off. -/
def close (listed : Feed PronunciationItem) (expanded : Except Fault (List Document)) :
    Except Fault (List Document) :=
  match expanded, listed.fault with
  | .ok _, some fault => .error fault
  | _, _ => expanded

mutual

/-- **Expands a name** that is reached along a chain of names. -/
def expandName (named : Pronunciations) (chain : List String) (n : String) :
    Except Fault (List Document) :=
  if new : chain.contains n then .error (.circularPronunciation (Chain.cycle chain n))
  else
    match found : Document.find? n named.entries with
    | none => .error (named.undefined.fault n)
    | some (.name other) =>
      have := Chain.unvisited_lt found (by simpa using new)
      expandName named (chain ++ [n]) other
    | some (.items listed) =>
      have := Chain.unvisited_lt found (by simpa using new)
      close listed (expandItems named (chain ++ [n]) listed.items)
termination_by (Chain.unvisited named.entries chain, 0)

/-- Expands items one after the other. -/
def expandItems (named : Pronunciations) (chain : List String) :
    List PronunciationItem → Except Fault (List Document)
  | [] => .ok []
  | .segment raw :: rest =>
    match expandItems named chain rest with
    | .error fault => .error fault
    | .ok segments => .ok (raw :: segments)
  | .name n :: rest =>
    match expandName named chain n with
    | .error fault => .error fault
    | .ok front =>
      match expandItems named chain rest with
      | .error fault => .error fault
      | .ok segments => .ok (front ++ segments)
termination_by listed => (Chain.unvisited named.entries chain, listed.length + 1)

end

/-- **The raw segments of a reference.** -/
def expand (named : Pronunciations) : PronunciationRef → Except Fault (List Document)
  | name n => expandName named [] n
  | items listed => close listed (expandItems named [] listed.items)

/-- An item of a document: a text is a name, anything else is kept as a segment. -/
def item : Document → PronunciationItem
  | .text n => .name n
  | raw => .segment raw

/-- **The reference a value of a document gives.** -/
def ofDocument : Document → PronunciationRef
  | .text n => name n
  | value =>
    match value.members? with
    | some members => items (Feed.ofList (members.map item))
    | none => items (Feed.broken .wrongType)

end PronunciationRef

namespace Pronunciations

/-- Definitions that leave no name open. -/
def ofEntries (entries : List (String × PronunciationRef)) : Pronunciations := ⟨entries, .missing⟩

/-- The named pronunciations a value of a document gives. -/
def ofDocument : Document → Pronunciations
  | .object entries =>
    ofEntries (entries.map fun entry => (entry.1, PronunciationRef.ofDocument entry.2))
  | .text s => ⟨[], .missingFrom s⟩
  | _ => ⟨[], .unusable⟩

/-- The named pronunciations of a model, which may have none. -/
def ofModel (value : Document) : Pronunciations :=
  if value.isEmptyValue then ofEntries [] else ofDocument value

end Pronunciations

end WhistledSpeech
