import Mathlib
import WhistledSpeech.Authored.Model
import WhistledSpeech.Proofs.Document.Nulls

/-!
# Reading a model without its nulls

How an author leaves a field out makes no difference. A reader of a field that may be nothing passes a null
over, and no reader of anything else accepts one; so where a document is accepted, its nulls can be left
out. That is kept by all the ways in which readers are put together (`IsRobust`, `Keeps`), and what is left
to show of a single reader is which fields it asks for.

Two keys of a model have a second spelling, and there it does make a difference: a first spelling that is
null hides the second, and left out it does not. So a model reads the same without its nulls where it is
written in the first spellings (`Model.ofDocument?_prune`).
-/

namespace WhistledSpeech.Authored

open Document

variable {α β : Type} {fields : List String}

/-! ## Reading what is pruned -/

/-- **A reader that does not mind**: it reads no null, and what it reads it also reads without fields that
are null. -/
structure IsRobust (fields : List String) (read : Document → Option α) : Prop where
  /-- No null is read. -/
  null : read .null = none
  /-- What is read stays. -/
  prune : ∀ {d : Document} {x : α}, d.HasKeysOnce → read d = some x → read (d.prune fields) = some x

/-- **A reader of entries that does not mind.** -/
structure Keeps (fields : List String) (read : Entries → Option α) : Prop where
  /-- What is read stays. -/
  prune : ∀ {entries : Entries} {x : α}, (object entries).HasKeysOnce → read entries = some x →
    read (pruneEntries fields entries) = some x

namespace IsRobust

variable {read : Document → Option α} {x : α}

theorem ne_null (h : IsRobust fields read) {d : Document} (isRead : read d = some x) : d ≠ .null := by
  rintro rfl
  exact absurd (h.null.symm.trans isRead) nofun

/-- **A field that is read** is found and read afterwards. -/
theorem find? (h : IsRobust fields read) {entries : Entries} (once : (object entries).HasKeysOnce)
    {key : String} {value : Document} (found : Document.find? key entries = some value)
    (isRead : read value = some x) :
    Document.find? key (pruneEntries fields entries) = some (value.prune fields)
      ∧ read (value.prune fields) = some x :=
  ⟨find?_pruneEntries_of_ne_null found (h.ne_null isRead), h.prune (once.value (mem_of_find? found)) isRead⟩

/-- A reader of values that stay as they are. -/
theorem of_prune_eq (null : read .null = none)
    (same : ∀ d x, read d = some x → d.prune fields = d) : IsRobust fields read where
  null := null
  prune := by
    intro d x _ isRead
    rw [same d x isRead, isRead]

/-- A reader of values that hold no others. -/
theorem of_plain (null : read .null = none) (noList : ∀ items, read (.list items) = none)
    (noObject : ∀ entries, read (.object entries) = none) : IsRobust fields read :=
  .of_prune_eq null fun d x isRead => by
    cases d with
    | null | bool _ | int _ | float _ | text _ => rfl
    | list items => exact absurd ((noList items).symm.trans isRead) nofun
    | object entries => exact absurd ((noObject entries).symm.trans isRead) nofun

/-- A reader that leaves to another what is no text. -/
theorem elseText (h : IsRobust fields read) {f : α → β} {either : Document → Option β}
    (same : ∀ d, (∀ n, d ≠ .text n) → either d = (read d).map f) : IsRobust fields either where
  null := by rw [same .null nofun, h.null, Option.map_none]
  prune := by
    intro d y once isRead
    have keeps : (∀ n, d ≠ .text n) → (∀ n, d.prune fields ≠ .text n) →
        either (d.prune fields) = some y := by
      intro before after
      rw [same d before] at isRead
      obtain ⟨x, found, rfl⟩ := Option.map_eq_some_iff.mp isRead
      rw [same _ after, h.prune once found, Option.map_some]
    cases d with
    | text n => exact isRead
    | null | bool _ | int _ | float _ | list _ | object _ => exact keeps nofun nofun

/-- **Items.** -/
theorem list? (h : IsRobust fields read) : IsRobust fields (list? read) where
  null := rfl
  prune := by
    intro d listed once isRead
    cases d with
    | list items =>
      change items.mapM read = some listed at isRead
      show (pruneItems fields items).mapM read = some listed
      replace once := fun item (mem : item ∈ items) => once.item mem
      induction items generalizing listed with
      | nil => exact isRead
      | cons item rest ih =>
        rw [List.mapM_cons] at isRead
        obtain ⟨first, one, isRead⟩ := Option.bind_eq_some_iff.mp isRead
        obtain ⟨others, behind, isRead⟩ := Option.bind_eq_some_iff.mp isRead
        rw [pruneItems, List.mapM_cons, h.prune (once item List.mem_cons_self) one,
          ih behind fun other mem => once other (List.mem_cons_of_mem _ mem)]
        exact isRead
    | null | bool _ | int _ | float _ | text _ | object _ => exact absurd isRead nofun

/-- **A table.** Its values are none of them null. -/
theorem table? (h : IsRobust fields read) : IsRobust fields (table? read) where
  null := rfl
  prune := by
    intro d rows once isRead
    cases d with
    | object entries =>
      change entries.mapM (fun entry => (read entry.2).map (entry.1, ·)) = some rows at isRead
      show (pruneEntries fields entries).mapM (fun entry => (read entry.2).map (entry.1, ·)) = some rows
      replace once := fun entry (mem : entry ∈ entries) => once.value mem
      induction entries generalizing rows with
      | nil => exact isRead
      | cons entry rest ih =>
        obtain ⟨key, value⟩ := entry
        rw [List.mapM_cons] at isRead
        obtain ⟨row, one, isRead⟩ := Option.bind_eq_some_iff.mp isRead
        obtain ⟨others, behind, isRead⟩ := Option.bind_eq_some_iff.mp isRead
        obtain ⟨x, here, rfl⟩ := Option.map_eq_some_iff.mp one
        have front := h.prune (once (key, value) List.mem_cons_self) here
        rw [pruneEntries_cons (h.ne_null here), List.mapM_cons, front,
          ih behind fun other mem => once other (List.mem_cons_of_mem _ mem)]
        exact isRead
    | null | bool _ | int _ | float _ | text _ | list _ => exact absurd isRead nofun

/-- **An object**, by a reader of its entries. -/
theorem ofObject? {read : Entries → Option α} (h : Keeps fields read) :
    IsRobust fields (ofObject? read) where
  null := rfl
  prune := by
    intro d x once isRead
    cases d with
    | object entries => exact h.prune once isRead
    | null | bool _ | int _ | float _ | text _ | list _ => exact absurd isRead nofun

end IsRobust

namespace Keeps

/-- Reading nothing. -/
theorem pure (x : α) : Keeps fields (fun _ => some x) where
  prune _ isRead := isRead

/-- **One field after the other.** -/
theorem bind {first : Entries → Option α} {second : α → Entries → Option β} (h : Keeps fields first)
    (h' : ∀ x, Keeps fields (second x)) :
    Keeps fields fun entries => first entries >>= (second · entries) where
  prune := by
    intro entries y once isRead
    obtain ⟨x, one, two⟩ := Option.bind_eq_some_iff.mp isRead
    exact Option.bind_eq_some_iff.mpr ⟨x, h.prune once one, (h' x).prune once two⟩

variable {read : Document → Option α}

/-- A field that has to be there. -/
theorem required (h : IsRobust fields read) (key : String) : Keeps fields (required read key) where
  prune := by
    intro entries x once isRead
    obtain ⟨value, found, isRead⟩ := Option.bind_eq_some_iff.mp isRead
    exact Option.bind_eq_some_iff.mpr ⟨_, h.find? once found isRead⟩

/-- A field that has a value without being there. -/
theorem withDefault (h : IsRobust fields read) (key : String) (fallback : α) :
    Keeps fields (withDefault read key fallback) where
  prune := by
    intro entries x once isRead
    unfold Authored.withDefault at isRead ⊢
    cases found : find? key entries with
    | none =>
      rw [found] at isRead
      rw [find?_pruneEntries_of_none found]
      exact isRead
    | some value =>
      rw [found] at isRead
      obtain ⟨found', isRead'⟩ := h.find? once found isRead
      rw [found']
      exact isRead'

theorem optional_of_ne_null {entries : Entries} {key : String} {value : Document}
    (found : find? key entries = some value) (some : value ≠ .null) :
    optional read key entries = (read value).map .some := by
  unfold Authored.optional
  rw [found]
  cases value with
  | null => exact absurd rfl some
  | bool _ | int _ | float _ | text _ | list _ | object _ => rfl

theorem optional_of_null {entries : Entries} {key : String}
    (nothing : find? key entries = none ∨ find? key entries = some .null) :
    optional read key entries = some none := by
  unfold Authored.optional
  obtain nothing | nothing := nothing <;> rw [nothing]

/-- **A field that may be left out.** If it is null, it may be left out indeed. -/
theorem optional (h : IsRobust fields read) (key : String) : Keeps fields (optional read key) where
  prune := by
    intro entries x? once isRead
    cases found : find? key entries with
    | none =>
      rw [optional_of_null (.inl found)] at isRead
      rw [optional_of_null (.inl (find?_pruneEntries_of_none found)), isRead]
    | some value =>
      by_cases null : value = .null
      · subst null
        rw [optional_of_null (.inr found)] at isRead
        rw [optional_of_null (find?_pruneEntries_of_null once.nodup found), isRead]
      · rw [optional_of_ne_null found null] at isRead
        obtain ⟨x, there, rfl⟩ := Option.map_eq_some_iff.mp isRead
        have after := h.prune (once.value (mem_of_find? found)) there
        rw [optional_of_ne_null (find?_pruneEntries_of_ne_null found null) (h.ne_null after), after,
          Option.map_some]

end Keeps

/-! ## The readers of a model -/

theorem isRobust_text? : IsRobust fields text? :=
  .of_plain rfl (fun _ => rfl) fun _ => rfl

theorem isRobust_quantity : IsRobust fields Quantity.ofDocument? :=
  .of_plain rfl (fun _ => rfl) fun _ => rfl

theorem isRobust_contourCurve : IsRobust fields ContourCurve.ofDocument? :=
  .of_plain rfl (fun _ => rfl) fun _ => rfl

theorem isRobust_classes : IsRobust fields ContextRule.classes? :=
  .of_prune_eq rfl fun d x isRead => by
    unfold ContextRule.classes? at isRead
    split at isRead
    · rfl
    · exact absurd isRead nofun

/-- The kind of a component is a text, and it stays. -/
theorem find?_type {entries : Entries} {kind : String} (found : find? "type" entries = some (.text kind)) :
    find? "type" (pruneEntries fields entries) = some (.text kind) :=
  find?_pruneEntries_of_ne_null found nofun

theorem keeps_component : Keeps fields Component.ofEntries? where
  prune := by
    intro entries x once isRead
    have quantity : ∀ key, Keeps fields (optional Quantity.ofDocument? key) := .optional isRobust_quantity
    unfold Component.ofEntries? at isRead ⊢
    split at isRead
    · next kind =>
      rw [find?_type kind]
      exact (Keeps.bind (.optional isRobust_text? "curve") fun _ => .bind (quantity "sy") fun _ =>
        .bind (quantity "ey") fun _ => .bind (quantity "sclip") fun _ =>
        .bind (quantity "eclip") fun _ => .pure _).prune once isRead
    · next kind =>
      rw [find?_type kind]
      exact (Keeps.bind (.optional isRobust_contourCurve "curve") fun _ =>
        .bind (quantity "y") fun _ => .bind (.required isRobust_quantity "a") fun _ =>
        .bind (quantity "clip") fun _ => .pure _).prune once isRead
    · next kind =>
      rw [find?_type kind]
      exact (Keeps.bind (quantity "y") fun _ => .pure _).prune once isRead
    · exact absurd isRead nofun

theorem isRobust_component : IsRobust fields Component.ofDocument? := .ofObject? keeps_component

theorem isRobust_segment : IsRobust fields Segment.ofDocument? :=
  .ofObject? <| .bind (.optional isRobust_component "f") fun _ =>
    .bind (.optional isRobust_component "a") fun _ =>
    .bind (.optional isRobust_quantity "run") fun _ => .pure _

theorem isRobust_pronunciationItem : IsRobust fields PronunciationItem.ofDocument? :=
  isRobust_segment.elseText fun d notText => by
    cases d with
    | text n => exact absurd rfl (notText n)
    | null | bool _ | int _ | float _ | list _ | object _ => rfl

theorem isRobust_pronunciation : IsRobust fields Pronunciation.ofDocument? :=
  isRobust_pronunciationItem.list?.elseText fun d notText => by
    cases d with
    | text n => exact absurd rfl (notText n)
    | null | bool _ | int _ | float _ | list _ | object _ => rfl

theorem isRobust_contextRule : IsRobust fields ContextRule.ofDocument? :=
  .ofObject? <| .bind (.required isRobust_classes "con") fun _ =>
    .bind (.optional isRobust_pronunciation "pron") fun _ => .pure _

theorem isRobust_grapheme : IsRobust fields Grapheme.ofDocument? :=
  .ofObject? <| .bind (.optional isRobust_pronunciation "elsewhere") fun _ =>
    .bind (.withDefault isRobust_contextRule.list? "contexts" []) fun _ => .pure _

namespace Model

/-- **A document in the first spellings**: a key that has a second spelling is not written in it. -/
def IsFirstSpelled (written : Document) : Prop :=
  ∀ entries, written = .object entries →
    find? "word_boundary" entries = none ∧ find? "named_pronunciations" entries = none

theorem respell_of_none {first second : String} {entries : Entries}
    (none : find? second entries = none) : respell first second entries = entries := by
  unfold respell
  split
  · next found => exact absurd (none.symm.trans found) nofun
  · rfl

/-- **A model in the first spellings reads the same without its nulls.** -/
theorem ofDocument?_prune {written : Document} {model : Model} (once : written.HasKeysOnce)
    (spelled : IsFirstSpelled written) (isRead : ofDocument? written = some model) :
    ofDocument? (written.prune fields) = some model := by
  cases written with
  | object entries =>
    obtain ⟨boundary, named⟩ := spelled entries rfl
    change ofEntries? entries = some model at isRead
    show ofEntries? (pruneEntries fields entries) = some model
    unfold ofEntries? at isRead ⊢
    simp only [respell_of_none boundary, respell_of_none named] at isRead
    simp only [respell_of_none (find?_pruneEntries_of_none boundary),
      respell_of_none (find?_pruneEntries_of_none named)]
    have pronunciations : ∀ key,
        Keeps fields (withDefault (table? Pronunciation.ofDocument?) key []) :=
      fun key => .withDefault isRobust_pronunciation.table? key []
    exact (Keeps.bind (.optional isRobust_text? "wordBoundary") fun _ =>
      .bind (pronunciations "words") fun _ => .bind (pronunciations "namedPronunciations") fun _ =>
      .bind (.withDefault isRobust_text?.list?.table? "classes" []) fun _ =>
      .bind (.withDefault isRobust_quantity.table? "constants" []) fun _ =>
      .bind (.required isRobust_grapheme.table? "graphemes") fun _ => .pure _).prune once isRead
  | null | bool _ | int _ | float _ | text _ | list _ => exact absurd isRead nofun

end Model

end WhistledSpeech.Authored
