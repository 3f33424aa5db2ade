import Mathlib
import WhistledSpeech.Document

/-!
# Looking up entries

`Document.find?` gives the value of the first entry under a key. It sees through a change of the
values, and where each key stands once it does not see the order of the entries.
-/

namespace WhistledSpeech.Document

variable {α β : Type}

/-- Changing values changes what is found. -/
theorem find?_map (f : String → α → β) (key : String) (entries : List (String × α)) :
    find? key (entries.map fun e => (e.1, f e.1 e.2)) = (find? key entries).map (f key) := by
  induction entries with
  | nil => rfl
  | cons entry rest ih =>
    obtain ⟨k, v⟩ := entry
    rw [List.map_cons, find?, find?]
    by_cases h : k = key
    · subst h
      rw [if_pos rfl, if_pos rfl]
      rfl
    · rw [if_neg h, if_neg h, ih]

/-- What is found is an entry. -/
theorem mem_of_find? {key : String} {value : α} {entries : List (String × α)}
    (h : find? key entries = some value) : (key, value) ∈ entries := by
  induction entries with
  | nil => exact absurd h (by simp [find?])
  | cons entry rest ih =>
    obtain ⟨k, v⟩ := entry
    rw [find?] at h
    by_cases hk : k = key
    · rw [if_pos hk] at h
      cases h
      exact hk ▸ List.mem_cons_self
    · rw [if_neg hk] at h
      exact List.mem_cons_of_mem _ (ih h)

/-- Under a key of some entry something is found. -/
theorem exists_find?_of_mem {key : String} {entries : List (String × α)}
    (h : key ∈ entries.map Prod.fst) : ∃ value, find? key entries = some value := by
  induction entries with
  | nil => exact absurd h (by simp)
  | cons entry rest ih =>
    obtain ⟨k, v⟩ := entry
    rw [find?]
    by_cases hk : k = key
    · exact ⟨v, if_pos hk⟩
    · rw [if_neg hk]
      obtain rfl | hrest := List.mem_cons.mp h
      · exact absurd rfl hk
      · exact ih hrest

theorem find?_eq_none_iff {key : String} {entries : List (String × α)} :
    find? key entries = none ↔ key ∉ entries.map Prod.fst := by
  constructor
  · intro h mem
    obtain ⟨value, found⟩ := exists_find?_of_mem mem
    rw [h] at found
    exact absurd found (by simp)
  · intro h
    cases found : find? key entries with
    | none => rfl
    | some value => exact absurd (List.mem_map_of_mem (mem_of_find? found)) h

/-- Where each key stands once, an entry is what is found under its key. -/
theorem find?_of_mem {key : String} {value : α} {entries : List (String × α)}
    (nodup : (entries.map Prod.fst).Nodup) (h : (key, value) ∈ entries) :
    find? key entries = some value := by
  induction entries with
  | nil => exact absurd h (by simp)
  | cons entry rest ih =>
    obtain ⟨k, v⟩ := entry
    rw [List.map_cons, List.nodup_cons] at nodup
    rw [find?]
    obtain same | hrest := List.mem_cons.mp h
    · cases same
      exact if_pos rfl
    · have ne : k ≠ key := by
        rintro rfl
        exact nodup.1 (List.mem_map.mpr ⟨_, hrest, rfl⟩)
      rw [if_neg ne]
      exact ih nodup.2 hrest

/-- **Where each key stands once, the order of the entries does not matter.** -/
theorem find?_perm {entries others : List (String × α)} (perm : entries.Perm others)
    (nodup : (entries.map Prod.fst).Nodup) (key : String) :
    find? key others = find? key entries := by
  have nodup' : (others.map Prod.fst).Nodup := (perm.map Prod.fst).nodup_iff.mp nodup
  cases found : find? key entries with
  | none =>
    rw [find?_eq_none_iff] at found ⊢
    exact fun mem => found ((perm.map Prod.fst).mem_iff.mpr mem)
  | some value => exact find?_of_mem nodup' (perm.mem_iff.mp (mem_of_find? found))

/-- **Entries made one for one** from others: under the same keys in the same order, each related to
the one it is made from. -/
def OneForOne (R : String → α → β → Prop) (entries : List (String × α))
    (made : List (String × β)) : Prop :=
  List.Forall₂ (fun e e' => e.1 = e'.1 ∧ R e.1 e.2 e'.2) entries made

namespace OneForOne

variable {R : String → α → β → Prop} {entries : List (String × α)} {made : List (String × β)}

/-- The keys stay. -/
theorem keys (h : OneForOne R entries made) : made.map Prod.fst = entries.map Prod.fst := by
  induction h with
  | nil => rfl
  | cons front _ ih => rw [List.map_cons, List.map_cons, ih, front.1]

/-- **What is found is made from what is found.** -/
theorem find? (h : OneForOne R entries made) {key : String} {a : α}
    (found : Document.find? key entries = some a) :
    ∃ b, Document.find? key made = some b ∧ R key a b := by
  induction h with
  | nil => exact absurd found (by simp [Document.find?])
  | @cons entry entry' rest rest' front _ ih =>
    obtain ⟨k, v⟩ := entry
    obtain ⟨k', v'⟩ := entry'
    obtain ⟨rfl, hR⟩ := front
    rw [Document.find?] at found ⊢
    by_cases same : k = key
    · rw [if_pos same] at found ⊢
      cases found
      exact ⟨v', rfl, same ▸ hR⟩
    · rw [if_neg same] at found ⊢
      exact ih found

/-- **What is made is made from an entry.** -/
theorem exists_of_mem (h : OneForOne R entries made) {key : String} {b : β} (mem : (key, b) ∈ made) :
    ∃ a, (key, a) ∈ entries ∧ R key a b := by
  induction h with
  | nil => exact absurd mem List.not_mem_nil
  | @cons entry entry' _ _ front _ ih =>
    obtain same | mem := List.mem_cons.mp mem
    · cases same
      obtain ⟨rfl, hR⟩ := front
      exact ⟨entry.2, List.mem_cons_self, hR⟩
    · obtain ⟨a, mem, hR⟩ := ih mem
      exact ⟨a, List.mem_cons_of_mem _ mem, hR⟩

/-- What is made from what is made one for one is made one for one. -/
theorem trans {γ : Type} {S : String → β → γ → Prop} {last : List (String × γ)}
    (h : OneForOne R entries made) (h' : OneForOne S made last) :
    OneForOne (fun key a c => ∃ b, R key a b ∧ S key b c) entries last := by
  induction h generalizing last with
  | nil =>
    cases h'
    exact .nil
  | cons front _ ih =>
    cases h' with
    | cons front' behind =>
      exact .cons ⟨front.1.trans front'.1, _, front.2, front.1 ▸ front'.2⟩ (ih behind)

end OneForOne

/-- Entries are determined by their keys where each key admits one value. -/
theorem eq_of_keys {P : String → α → Prop} (unique : ∀ {key a b}, P key a → P key b → a = b)
    {entries others : List (String × α)} (keys : entries.map Prod.fst = others.map Prod.fst)
    (h : ∀ key value, (key, value) ∈ entries → P key value)
    (h' : ∀ key value, (key, value) ∈ others → P key value) : entries = others := by
  induction entries generalizing others with
  | nil => exact (List.map_eq_nil_iff.mp keys.symm).symm
  | cons entry rest ih =>
    cases others with
    | nil => exact absurd keys (by simp)
    | cons other others =>
      obtain ⟨k, a⟩ := entry
      obtain ⟨k', b⟩ := other
      obtain ⟨rfl, keys'⟩ := List.cons_eq_cons.mp keys
      have same : a = b := unique (h k a List.mem_cons_self) (h' k b List.mem_cons_self)
      have behind : rest = others := ih keys'
        (fun key value mem => h key value (List.mem_cons_of_mem _ mem))
        (fun key value mem => h' key value (List.mem_cons_of_mem _ mem))
      rw [same, behind]

end WhistledSpeech.Document
