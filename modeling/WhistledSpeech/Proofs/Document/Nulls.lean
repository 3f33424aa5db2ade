import Mathlib
import WhistledSpeech.Document
import WhistledSpeech.Proofs.Entries

/-!
# Values that are nothing

An author may leave a field out or write that it is nothing. `Document.prune` takes fields that are nothing
out of every object of a document, by their names; lists stay as long as they are, and so does an object
with a field of another name. What is found under a key is what was found there before
(`find?_pruneEntries_of_ne_null`), unless that was nothing – and then it is nothing still, or there is no
such key (`find?_pruneEntries_of_null`). The last needs that each key stands once, as a second entry of the
key would come to light.
-/

namespace WhistledSpeech.Document

/-! ## What is in a document -/

/-- **One document is in another**, at any depth. -/
inductive Contains : Document → Document → Prop where
  /-- A document is in itself. -/
  | self (d : Document) : Contains d d
  /-- What is in an item is in the list. -/
  | item {items : List Document} {item part : Document} (mem : item ∈ items)
      (h : Contains item part) : Contains (.list items) part
  /-- What is in the value of an entry is in the object. -/
  | value {entries : List (String × Document)} {entry : String × Document} {part : Document}
      (mem : entry ∈ entries) (h : Contains entry.2 part) : Contains (.object entries) part

/-- **Nothing is nowhere in a document.** -/
def IsNullFree (d : Document) : Prop := ¬ d.Contains .null

/-- **Each key stands once** in every object of a document. -/
def HasKeysOnce (d : Document) : Prop :=
  ∀ entries, d.Contains (.object entries) → (entries.map Prod.fst).Nodup

variable {items : List Document} {entries : List (String × Document)}

theorem isNullFree_list (each : ∀ item ∈ items, item.IsNullFree) : (list items).IsNullFree := by
  intro has
  cases has with
  | item mem within => exact each _ mem within

theorem isNullFree_object (each : ∀ entry ∈ entries, entry.2.IsNullFree) :
    (object entries).IsNullFree := by
  intro has
  cases has with
  | value mem within => exact each _ mem within

theorem HasKeysOnce.item (once : (list items).HasKeysOnce) {item : Document} (mem : item ∈ items) :
    item.HasKeysOnce :=
  fun entries within => once entries (.item mem within)

theorem HasKeysOnce.nodup (once : (object entries).HasKeysOnce) : (entries.map Prod.fst).Nodup :=
  once entries (.self _)

theorem HasKeysOnce.value (once : (object entries).HasKeysOnce) {entry : String × Document}
    (mem : entry ∈ entries) : entry.2.HasKeysOnce :=
  fun others within => once others (.value mem within)

/-! ## Leaving fields out -/

mutual
/-- **A document without the fields of some names that are nothing**, wherever they are. -/
def prune (fields : List String) : Document → Document
  | .list items => .list (pruneItems fields items)
  | .object entries => .object (pruneEntries fields entries)
  | value => value

/-- The items of a list without such fields. -/
def pruneItems (fields : List String) : List Document → List Document
  | [] => []
  | item :: rest => prune fields item :: pruneItems fields rest

/-- The entries of an object without such fields. -/
def pruneEntries (fields : List String) : List (String × Document) → List (String × Document)
  | [] => []
  | (key, .null) :: rest =>
    if key ∈ fields then pruneEntries fields rest else (key, .null) :: pruneEntries fields rest
  | (key, value) :: rest => (key, prune fields value) :: pruneEntries fields rest
end

variable {fields : List String} {key : String} {value : Document}

theorem pruneEntries_cons (some : value ≠ .null) (rest : List (String × Document)) :
    pruneEntries fields ((key, value) :: rest)
      = (key, prune fields value) :: pruneEntries fields rest := by
  cases value with
  | null => exact absurd rfl some
  | bool _ | int _ | float _ | text _ | list _ | object _ => rfl

theorem pruneEntries_cons_null (rest : List (String × Document)) :
    pruneEntries fields ((key, .null) :: rest)
      = if key ∈ fields then pruneEntries fields rest else (key, .null) :: pruneEntries fields rest := by
  rw [pruneEntries]

/-- An entry under one key makes no difference to another. -/
theorem find?_pruneEntries_cons_of_ne {k : String} (other : k ≠ key) (v : Document)
    (rest : List (String × Document)) :
    find? key (pruneEntries fields ((k, v) :: rest)) = find? key (pruneEntries fields rest) := by
  by_cases null : v = .null
  · subst null
    rw [pruneEntries_cons_null]
    split
    · rfl
    · rw [find?, if_neg other]
  · rw [pruneEntries_cons null, find?, if_neg other]

/-- What is not there is not there afterwards. -/
theorem find?_pruneEntries_of_none (none : find? key entries = none) :
    find? key (pruneEntries fields entries) = .none := by
  induction entries with
  | nil => rfl
  | cons entry rest ih =>
    have other : entry.1 ≠ key := fun same => find?_eq_none_iff.mp none (same ▸ List.mem_cons_self)
    rw [find?, if_neg other] at none
    rw [find?_pruneEntries_cons_of_ne other, ih none]

/-- **What is something is there afterwards**, without such fields in it. -/
theorem find?_pruneEntries_of_ne_null (found : find? key entries = some value) (some : value ≠ .null) :
    find? key (pruneEntries fields entries) = .some (prune fields value) := by
  induction entries with
  | nil => exact absurd found nofun
  | cons entry rest ih =>
    obtain ⟨k, v⟩ := entry
    rw [find?] at found
    by_cases same : k = key
    · rw [if_pos same] at found
      cases found
      rw [pruneEntries_cons some, find?, if_pos same]
    · rw [if_neg same] at found
      rw [find?_pruneEntries_cons_of_ne same, ih found]

/-- **What is nothing stays nothing or is left out.** -/
theorem find?_pruneEntries_of_null (nodup : (entries.map Prod.fst).Nodup)
    (found : find? key entries = some .null) :
    find? key (pruneEntries fields entries) = none
      ∨ find? key (pruneEntries fields entries) = some .null := by
  induction entries with
  | nil => exact absurd found nofun
  | cons entry rest ih =>
    obtain ⟨k, v⟩ := entry
    rw [List.map_cons, List.nodup_cons] at nodup
    rw [find?] at found
    by_cases same : k = key
    · subst same
      rw [if_pos rfl] at found
      cases found
      rw [pruneEntries_cons_null]
      split
      · exact .inl (find?_pruneEntries_of_none (find?_eq_none_iff.mpr nodup.1))
      · exact .inr (if_pos rfl)
    · rw [if_neg same] at found
      rw [find?_pruneEntries_cons_of_ne same]
      exact ih nodup.2 found

end WhistledSpeech.Document
