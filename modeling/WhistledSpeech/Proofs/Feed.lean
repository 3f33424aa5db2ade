import Mathlib
import WhistledSpeech.Feed

/-!
# Feeds, part by part

A feed made item by item from a list has one item for each, if it runs to its end. A feed that
replaces every item by a feed of its own is the concatenation of these up to the first that breaks
off: what comes before that one is there in full, what it has made itself is there too, and nothing
else is. `IsConcat` says so about the parts as a whole, with no order of evaluation.
-/

namespace WhistledSpeech.Feed

variable {α β : Type}

/-- **A feed made item by item** has one for each item, if it runs to its end. -/
theorem forall₂_of_mapExcept {f : α → Except Fault β} {items : List α}
    (h : ((ofList items).mapExcept f).fault = none) :
    List.Forall₂ (fun item made => f item = .ok made) items ((ofList items).mapExcept f).items := by
  induction items with
  | nil => exact .nil
  | cons item items ih =>
    cases made : f item with
    | error fault =>
      have step : (ofList (item :: items)).mapExcept f = broken fault := by
        simp [mapExcept, ofList, made]
      rw [step] at h
      exact absurd h (by simp [broken])
    | ok b =>
      have step : (ofList (item :: items)).mapExcept f = cons b ((ofList items).mapExcept f) := by
        simp [mapExcept, ofList, made]
      rw [step] at h ⊢
      exact .cons made (ih h)

/-- Where every item has one made of it, so has the whole. -/
theorem mapExcept_map {γ : Type} {f : α → Except Fault β} (write : γ → α) (made : γ → β)
    (each : ∀ item, f (write item) = .ok (made item)) (items : List γ) :
    (ofList (items.map write)).mapExcept f = ofList (items.map made) := by
  induction items with
  | nil => rfl
  | cons item items ih =>
    have step : (ofList ((item :: items).map write)).mapExcept f
        = cons (made item) ((ofList (items.map write)).mapExcept f) := by
      simp [mapExcept, ofList, each]
    rw [step, ih]
    rfl

/-- Where every item has something of a kind made of it, the feed breaks off as before. -/
theorem mapExcept_of_each {f : α → Except Fault β} {made : β → Prop} {source : Feed α}
    (each : ∀ item ∈ source.items, ∃ b, f item = .ok b ∧ made b) :
    (∀ b ∈ (source.mapExcept f).items, made b) ∧ (source.mapExcept f).fault = source.fault := by
  obtain ⟨items, fault⟩ := source
  induction items with
  | nil => exact ⟨fun b mem => absurd mem List.not_mem_nil, rfl⟩
  | cons item items ih =>
    obtain ⟨b, here, holds⟩ := each item List.mem_cons_self
    have step : (⟨item :: items, fault⟩ : Feed α).mapExcept f
        = cons b ((⟨items, fault⟩ : Feed α).mapExcept f) := by
      simp [mapExcept, here]
    obtain ⟨all, same⟩ := ih fun item mem => each item (List.mem_cons_of_mem _ mem)
    rw [step]
    refine ⟨fun other mem => ?_, same⟩
    obtain rfl | mem := List.mem_cons.mp mem
    · exact holds
    · exact all other mem

/-- Where every item is replaced by itself, the feed stays as it is. -/
theorem mapExcept_eq_self {f : α → Except Fault α} {source : Feed α}
    (each : ∀ item ∈ source.items, f item = .ok item) : source.mapExcept f = source := by
  obtain ⟨items, fault⟩ := source
  induction items with
  | nil => rfl
  | cons item items ih =>
    have step : (⟨item :: items, fault⟩ : Feed α).mapExcept f
        = cons item ((⟨items, fault⟩ : Feed α).mapExcept f) := by
      simp [mapExcept, each item List.mem_cons_self]
    rw [step, ih fun other mem => each other (List.mem_cons_of_mem _ mem)]
    rfl

/-- A feed of a result breaks off if there is none. -/
theorem fault_ofExcept {result : Except Fault (List α)} {fault : Fault} :
    (ofExcept result).fault = some fault ↔ result = .error fault := by
  cases result with
  | error other =>
    show some other = some fault ↔ Except.error other = Except.error fault
    rw [Option.some.injEq, Except.error.injEq]
  | ok items => simp [ofExcept, ofList]

/-- The items of a feed of a result are those of the result. -/
theorem exists_of_mem_ofExcept {result : Except Fault (List α)} {item : α}
    (mem : item ∈ (ofExcept result).items) : ∃ items, result = .ok items ∧ item ∈ items := by
  cases result with
  | error fault => exact absurd mem List.not_mem_nil
  | ok items => exact ⟨items, rfl, mem⟩

/-! ## Concatenations -/

/-- **A concatenation of parts** that are followed by a fault or by nothing. Either all parts run to
their ends, and then it has their items in order and breaks off as they are followed; or some part
is the first that breaks off, and it ends with that part. -/
def IsConcat (parts : List (Feed α)) (last : Option Fault) (whole : Feed α) : Prop :=
  ((∀ part ∈ parts, part.fault = none)
      ∧ whole.items = (parts.map Feed.items).flatten ∧ whole.fault = last)
    ∨ ∃ before part after fault, parts = before ++ part :: after
      ∧ (∀ earlier ∈ before, earlier.fault = none) ∧ part.fault = some fault
      ∧ whole.items = (before.map Feed.items).flatten ++ part.items ∧ whole.fault = some fault

/-- No parts leave what they are followed by. -/
theorem IsConcat.nil (last : Option Fault) : IsConcat [] last (⟨[], last⟩ : Feed α) :=
  .inl ⟨fun _ mem => absurd mem List.not_mem_nil, rfl, rfl⟩

/-- **A part in front** comes first, and if it breaks off nothing follows it. -/
theorem IsConcat.cons {parts : List (Feed α)} {last : Option Fault} {whole : Feed α}
    (h : IsConcat parts last whole) (part : Feed α) :
    IsConcat (part :: parts) last (append part whole) := by
  cases broken : part.fault with
  | some fault =>
    have same : append part whole = part := by rw [append, broken]
    rw [same]
    refine .inr ⟨[], part, parts, fault, rfl, ?_, broken, rfl, broken⟩
    exact fun _ mem => absurd mem List.not_mem_nil
  | none =>
    have same : append part whole = ⟨part.items ++ whole.items, whole.fault⟩ := by
      rw [append, broken]
    have more : ∀ {others : List (Feed α)}, (∀ other ∈ others, other.fault = none) →
        ∀ other ∈ part :: others, other.fault = none := by
      intro others all other mem
      obtain rfl | mem := List.mem_cons.mp mem
      · exact broken
      · exact all other mem
    rw [same]
    obtain ⟨all, items, hfault⟩ | ⟨before, first, after, fault, rfl, all, hfirst, items, hfault⟩ :=
      h
    · refine .inl ⟨more all, ?_, hfault⟩
      rw [List.map_cons, List.flatten_cons, ← items]
    · refine .inr ⟨part :: before, first, after, fault, rfl, more all, hfirst, ?_, hfault⟩
      rw [List.map_cons, List.flatten_cons, List.append_assoc, ← items]

/-- **Replacing every item by a feed of its own** concatenates these. -/
theorem isConcat_expand (f : α → Feed β) (source : Feed α) :
    IsConcat (source.items.map f) source.fault (source.expand f) := by
  obtain ⟨items, last⟩ := source
  induction items with
  | nil => exact .nil last
  | cons item items ih => exact ih.cons (f item)

/-- A concatenation breaks off as one of its parts does, or as they are followed. -/
theorem IsConcat.fault_eq_some {parts : List (Feed α)} {last : Option Fault} {whole : Feed α}
    (h : IsConcat parts last whole) {fault : Fault} (broken : whole.fault = some fault) :
    last = some fault ∨ ∃ part ∈ parts, part.fault = some fault := by
  obtain ⟨_, _, hfault⟩ | ⟨before, part, after, fault', rfl, _, hpart, _, hfault⟩ := h
  · exact .inl (hfault.symm.trans broken)
  · rw [← hfault, broken] at hpart
    exact .inr ⟨part, List.mem_append_right before List.mem_cons_self, hpart⟩

/-- What is in a concatenation is in one of its parts. -/
theorem IsConcat.exists_of_mem {parts : List (Feed α)} {last : Option Fault} {whole : Feed α}
    (h : IsConcat parts last whole) {item : α} (mem : item ∈ whole.items) :
    ∃ part ∈ parts, item ∈ part.items := by
  have within : ∀ {listed : List (Feed α)}, item ∈ (listed.map Feed.items).flatten →
      ∃ part ∈ listed, item ∈ part.items := by
    intro listed there
    obtain ⟨items, here, inside⟩ := List.mem_flatten.mp there
    obtain ⟨part, isPart, rfl⟩ := List.mem_map.mp here
    exact ⟨part, isPart, inside⟩
  obtain ⟨_, items, _⟩ | ⟨before, part, after, _, rfl, _, _, items, _⟩ := h
  · rw [items] at mem
    exact within mem
  · rw [items] at mem
    obtain mem | mem := List.mem_append.mp mem
    · obtain ⟨earlier, listed, here⟩ := within mem
      exact ⟨earlier, List.mem_append_left _ listed, here⟩
    · exact ⟨part, List.mem_append_right before List.mem_cons_self, mem⟩

end WhistledSpeech.Feed
