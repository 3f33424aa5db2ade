import Mathlib
import WhistledSpeech.Document.Reader
import WhistledSpeech.Proofs.Document.Nulls
import WhistledSpeech.Proofs.Faults

/-!
# Each key stands once

An author may name a key of an object twice. What is read then has the key once: setting an entry replaces
the value of a key that is there already. So in a document that was read from a text, whatever the text
is, each key stands once in every object (`hasKeysOnce_of_read`).
-/

namespace WhistledSpeech.Document

variable {α : Type}

/-! ## Setting entries -/

/-- An entry after setting one is what was set or was there. -/
theorem mem_setEntry {key : String} {value : α} {entries : List (String × α)} {entry : String × α}
    (mem : entry ∈ setEntry key value entries) : entry = (key, value) ∨ entry ∈ entries := by
  induction entries with
  | nil => exact .inl (List.mem_singleton.mp mem)
  | cons first rest ih =>
    obtain ⟨k, v⟩ := first
    rw [setEntry] at mem
    split at mem
    · next same =>
      subst same
      exact (List.mem_cons.mp mem).imp_right (List.mem_cons_of_mem _)
    · obtain rfl | mem := List.mem_cons.mp mem
      · exact .inr List.mem_cons_self
      · exact (ih mem).imp_right (List.mem_cons_of_mem _)

/-- Setting an entry to the value it has changes nothing. -/
theorem setEntry_of_find? {key : String} {value : α} {entries : List (String × α)}
    (found : find? key entries = some value) : setEntry key value entries = entries := by
  induction entries with
  | nil => exact absurd found nofun
  | cons entry rest ih =>
    obtain ⟨k, v⟩ := entry
    rw [find?] at found
    rw [setEntry]
    by_cases same : k = key
    · rw [if_pos same] at found ⊢
      cases found
      rfl
    · rw [if_neg same] at found ⊢
      rw [ih found]

/-- The keys after setting an entry. -/
theorem mem_keys_setEntry {key other : String} {value : α} {entries : List (String × α)} :
    other ∈ (setEntry key value entries).map Prod.fst ↔ other ∈ entries.map Prod.fst ∨ other = key := by
  rw [← not_iff_not, not_or, ← find?_eq_none_iff, ← find?_eq_none_iff]
  by_cases same : other = key
  · subst same
    rw [find?_setEntry_self]
    exact iff_of_false nofun fun none => none.2 rfl
  · rw [find?_setEntry_of_ne same]
    exact (and_iff_left same).symm

/-- Setting an entry makes no key stand twice. -/
theorem nodup_setEntry (key : String) (value : α) {entries : List (String × α)}
    (nodup : (entries.map Prod.fst).Nodup) : ((setEntry key value entries).map Prod.fst).Nodup := by
  induction entries with
  | nil => exact List.nodup_singleton key
  | cons entry rest ih =>
    obtain ⟨k, v⟩ := entry
    rw [List.map_cons, List.nodup_cons] at nodup
    rw [setEntry]
    split
    · rw [List.map_cons, List.nodup_cons]
      exact nodup
    · next other =>
      rw [List.map_cons, List.nodup_cons]
      refine ⟨fun again => ?_, ih nodup.2⟩
      obtain ⟨entry, mem, same⟩ := List.mem_map.mp again
      obtain rfl | there := mem_setEntry mem
      · exact other same.symm
      · exact nodup.1 (List.mem_map.mpr ⟨entry, there, same⟩)

/-- **Entries set one after the other**: each key stands once, with a value it was set to. -/
theorem nodup_entriesOf (pairs : List (String × α)) :
    ((entriesOf pairs).map Prod.fst).Nodup ∧ ∀ entry ∈ entriesOf pairs, entry ∈ pairs := by
  -- along the pairs set so far, over the entries they have made
  suffices run : ∀ (pairs made : List (String × α)), (made.map Prod.fst).Nodup →
      ((pairs.foldl (fun entries pair => setEntry pair.1 pair.2 entries) made).map Prod.fst).Nodup
        ∧ ∀ entry ∈ pairs.foldl (fun entries pair => setEntry pair.1 pair.2 entries) made,
          entry ∈ made ∨ entry ∈ pairs by
    obtain ⟨nodup, mem⟩ := run pairs [] List.nodup_nil
    exact ⟨nodup, fun entry there => (mem entry there).resolve_left List.not_mem_nil⟩
  intro pairs
  induction pairs with
  | nil => exact fun made nodup => ⟨nodup, fun entry mem => .inl mem⟩
  | cons pair rest ih =>
    intro made nodup
    obtain ⟨nodup', mem⟩ := ih _ (nodup_setEntry pair.1 pair.2 nodup)
    refine ⟨nodup', fun entry there => ?_⟩
    obtain set | behind := mem entry there
    · exact (mem_setEntry set).elim (fun same => .inr (same ▸ List.mem_cons_self)) .inl
    · exact .inr (List.mem_cons_of_mem _ behind)

/-! ## Documents in which each key stands once -/

@[simp] theorem hasKeysOnce_null : null.HasKeysOnce := nofun

@[simp] theorem hasKeysOnce_int (n : Int) : (int n).HasKeysOnce := nofun

@[simp] theorem hasKeysOnce_float (x : Float) : (float x).HasKeysOnce := nofun

@[simp] theorem hasKeysOnce_text (s : String) : (text s).HasKeysOnce := nofun

@[simp] theorem hasKeysOnce_list {items : List Document} :
    (list items).HasKeysOnce ↔ ∀ item ∈ items, item.HasKeysOnce := by
  refine ⟨fun once item mem => once.item mem, fun each entries within => ?_⟩
  cases within with
  | item mem within => exact each _ mem entries within

@[simp] theorem hasKeysOnce_object {entries : List (String × Document)} :
    (object entries).HasKeysOnce
      ↔ (entries.map Prod.fst).Nodup ∧ ∀ entry ∈ entries, entry.2.HasKeysOnce := by
  refine ⟨fun once => ⟨once.nodup, fun entry mem => once.value mem⟩, fun ⟨nodup, each⟩ => ?_⟩
  intro others within
  cases within with
  | self => exact nodup
  | value mem within => exact each _ mem others within

/-! ## Reading -/

/-- A reading of a document in which each key stands once. -/
abbrev ReadsKeysOnce (reading : Reading (Document × List Char)) : Prop :=
  ComesTo (fun read => read.1.HasKeysOnce) (fun _ => True) reading

/-- What has to be there is there, or the reading fails. -/
theorem orMalformed_bind {β : Type} {made : β → Prop} {x? : Option α} {next : α → Reading β}
    (h : ∀ x, ComesTo made (fun _ => True) (next x)) :
    ComesTo made (fun _ => True) (orMalformed x? >>= next) := by
  cases x? with
  | none => trivial
  | some x => exact h x

theorem readsKeysOnce_readUnsigned (negative : Bool) (s : List Char) :
    ReadsKeysOnce (readUnsigned negative s) := by
  refine orMalformed_bind fun whole => ?_
  -- the whole part, the fraction and the exponent, and then what the last two are
  split
  split
  split
  split
  · split
    · trivial
    · exact hasKeysOnce_int _
  · exact hasKeysOnce_float _

theorem readsKeysOnce_readNumber (s : List Char) : ReadsKeysOnce (readNumber s) := by
  unfold readNumber
  split
  · split
    · exact hasKeysOnce_float _
    · exact readsKeysOnce_readUnsigned _ _
  · exact readsKeysOnce_readUnsigned _ _

theorem readsKeysOnce_readAtom (s : List Char) : ReadsKeysOnce (readAtom s) := by
  unfold readAtom
  split
  · next found isWord =>
    obtain ⟨word, mem, isRead⟩ := List.exists_of_findSome?_eq_some isWord
    obtain ⟨rest, -, rfl⟩ := Option.map_eq_some_iff.mp isRead
    have each : ∀ word ∈ words, word.2.HasKeysOnce := by
      simp only [words, List.forall_mem_cons]
      exact ⟨nofun, nofun, nofun, hasKeysOnce_float _, hasKeysOnce_float _, nofun⟩
    exact each word mem
  · exact readsKeysOnce_readNumber s

/-- **One round of reading**, with so much fuel: what is read of a value, of the items of a list and of the
entries of an object. -/
structure RoundReadsKeysOnce (fuel : Nat) : Prop where
  /-- A value. -/
  value : ∀ s, ReadsKeysOnce (readValue fuel s)
  /-- Items. -/
  items : ∀ s, ComesTo (fun read => ∀ item ∈ read.1, item.HasKeysOnce) (fun _ => True)
    (readItems fuel s)
  /-- Entries, whose keys may stand twice as yet. -/
  pairs : ∀ s, ComesTo (fun read => ∀ pair ∈ read.1, pair.2.HasKeysOnce) (fun _ => True)
    (readPairs fuel s)

theorem roundReadsKeysOnce_zero : RoundReadsKeysOnce 0 := by
  constructor <;> exact fun _ => trivial

namespace RoundReadsKeysOnce

variable {fuel : Nat}

theorem value_succ (round : RoundReadsKeysOnce fuel) (s : List Char) :
    ReadsKeysOnce (readValue (fuel + 1) s) := by
  unfold readValue
  split
  · exact orMalformed_bind fun read => hasKeysOnce_text _
  · split
    · exact hasKeysOnce_list.mpr nofun
    · exact (round.items _).bind fun read each => hasKeysOnce_list.mpr each
  · split
    · exact hasKeysOnce_object.mpr ⟨List.nodup_nil, nofun⟩
    · refine (round.pairs _).bind fun read each => ?_
      obtain ⟨nodup, mem⟩ := nodup_entriesOf read.1
      exact hasKeysOnce_object.mpr ⟨nodup, fun entry there => each entry (mem entry there)⟩
  · exact readsKeysOnce_readAtom s

theorem items_succ (round : RoundReadsKeysOnce fuel) (s : List Char) :
    ComesTo (fun read => ∀ item ∈ read.1, item.HasKeysOnce) (fun _ => True)
      (readItems (fuel + 1) s) := by
  unfold readItems
  refine (round.value s).bind fun first once => ?_
  dsimp only
  split
  · refine (round.items _).bind fun others each => ?_
    exact List.forall_mem_cons.mpr ⟨once, each⟩
  · exact List.forall_mem_singleton.mpr once
  · trivial

theorem pairs_succ (round : RoundReadsKeysOnce fuel) (s : List Char) :
    ComesTo (fun read => ∀ pair ∈ read.1, pair.2.HasKeysOnce) (fun _ => True)
      (readPairs (fuel + 1) s) := by
  unfold readPairs
  split
  · refine orMalformed_bind fun key => ?_
    dsimp only
    split
    · refine (round.value _).bind fun value once => ?_
      split
      · refine (round.pairs _).bind fun others each => ?_
        exact List.forall_mem_cons.mpr ⟨once, each⟩
      · exact List.forall_mem_singleton.mpr once
      · trivial
    · trivial
  · trivial

end RoundReadsKeysOnce

theorem roundReadsKeysOnce (fuel : Nat) : RoundReadsKeysOnce fuel := by
  induction fuel with
  | zero => exact roundReadsKeysOnce_zero
  | succ fuel round => exact ⟨round.value_succ, round.items_succ, round.pairs_succ⟩

/-- **What is read from a text has each key once.** -/
theorem hasKeysOnce_of_read {text : String} {d : Document} (isRead : read text = .ok d) :
    d.HasKeysOnce := by
  obtain ⟨⟨value, rest⟩, found, isRead⟩ := bind_eq_ok_iff.mp isRead
  have once := ((roundReadsKeysOnce _).value _).result found
  dsimp only at isRead
  split at isRead
  · cases isRead
    exact once
  · exact absurd isRead nofun

end WhistledSpeech.Document
