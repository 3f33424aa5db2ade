import Mathlib

/-!
# Steps that can fail

Reading, compiling and resolving go through steps each of which gives a result or a fault, and a
chain of steps has a result exactly if every step has one. Where the steps go through things in order,
`Meets` says which of them the fault is about.
-/

namespace WhistledSpeech

variable {ε α β : Type}

/-- What a result is known to satisfy holds of it when the knowledge is dropped. -/
theorem property_of_map_val {p : α → Prop} {step : Except ε (Subtype p)} {a : α}
    (h : step.map Subtype.val = .ok a) : p a := by
  cases step with
  | error fault => exact absurd h (by simp [Except.map])
  | ok r =>
    cases h
    exact r.property

/-- **Two steps have a result** exactly if the first has one and the second has one from there. -/
theorem bind_eq_ok_iff {first : Except ε α} {second : α → Except ε β} {b : β} :
    first >>= second = .ok b ↔ ∃ a, first = .ok a ∧ second a = .ok b := by
  constructor
  · intro h
    cases first with
    | error fault => exact absurd h (by simp [bind, Except.bind])
    | ok a => exact ⟨a, rfl, h⟩
  · rintro ⟨a, rfl, h⟩
    exact h

/-- **Two steps have a fault** exactly if the first has it, or the second has it from where the first
leads. -/
theorem bind_eq_error_iff {first : Except ε α} {second : α → Except ε β} {fault : ε} :
    first >>= second = .error fault
      ↔ first = .error fault ∨ ∃ a, first = .ok a ∧ second a = .error fault := by
  cases first with
  | error other => exact ⟨fun h => .inl (by cases h; rfl), fun h => h.elim (by rintro ⟨⟩; rfl) nofun⟩
  | ok a => exact ⟨fun h => .inr ⟨a, rfl, h⟩, fun h => h.elim nofun (by rintro ⟨_, ⟨⟩, h⟩; exact h)⟩

/-- **What going through a list comes to**: a result for each of its elements, or the fault of one. -/
theorem forall₂_of_mapM (step : α → Except ε β) (list : List α) :
    (∃ results, list.mapM step = .ok results
        ∧ List.Forall₂ (fun a b => step a = .ok b) list results)
      ∨ ∃ fault, list.mapM step = .error fault ∧ ∃ a ∈ list, step a = .error fault := by
  induction list with
  | nil => exact .inl ⟨[], rfl, .nil⟩
  | cons a rest ih =>
    rw [List.mapM_cons]
    cases first : step a with
    | error fault => exact .inr ⟨fault, rfl, a, List.mem_cons_self, first⟩
    | ok b =>
      obtain ⟨results, others, each⟩ | ⟨fault, others, a', mem, failed⟩ := ih
      · rw [others]
        exact .inl ⟨b :: results, rfl, .cons first each⟩
      · rw [others]
        exact .inr ⟨fault, rfl, a', List.mem_cons_of_mem _ mem, failed⟩

/-! ## Going through things in order -/

section Meets

variable {ι : Type} {fine : ι → Prop} {reports : ι → ε → Prop} {things things' : List ι}

/-- **What going through things in order comes to**, some of which may not be fine: a result if all of
them are, and else what the first reports that is not. -/
def Meets (fine : ι → Prop) (reports : ι → ε → Prop) (things : List ι) : Except ε α → Prop
  | .ok _ => ∀ thing ∈ things, fine thing
  | .error fault => ∃ before thing after, things = before ++ thing :: after
      ∧ (∀ earlier ∈ before, fine earlier) ∧ ¬ fine thing ∧ reports thing fault

/-- Nothing to go through. -/
theorem Meets.nil (a : α) : Meets fine reports [] (.ok a : Except ε α) :=
  fun _ mem => absurd mem List.not_mem_nil

/-- A single thing that is fine, or is not. -/
theorem Meets.singleton {thing : ι} {step : Except ε α} (ok : ∀ a, step = .ok a → fine thing)
    (error : ∀ fault, step = .error fault → ¬ fine thing ∧ reports thing fault) :
    Meets fine reports [thing] step := by
  cases step with
  | ok a =>
    intro other mem
    cases List.mem_singleton.mp mem
    exact ok a rfl
  | error fault =>
    exact ⟨[], thing, [], rfl, fun _ mem => absurd mem List.not_mem_nil, error fault rfl⟩

/-- **One after the other**: what the second comes to counts only if the first has a result. -/
theorem Meets.bind {first : Except ε α} {second : α → Except ε β}
    (h : Meets fine reports things first)
    (h' : ∀ a, first = .ok a → Meets fine reports things' (second a)) :
    Meets fine reports (things ++ things') (first >>= second) := by
  cases first with
  | error fault =>
    obtain ⟨before, thing, after, rfl, all, not, said⟩ := h
    refine ⟨before, thing, after ++ things', ?_, all, not, said⟩
    rw [List.append_assoc, List.cons_append]
  | ok a =>
    have behind := h' a rfl
    change Meets fine reports (things ++ things') (second a)
    cases result : second a with
    | ok b =>
      rw [result] at behind
      exact fun thing mem => (List.mem_append.mp mem).elim (h thing) (behind thing)
    | error fault =>
      rw [result] at behind
      obtain ⟨before, thing, after, rfl, all, not, said⟩ := behind
      refine ⟨things ++ before, thing, after, ?_, ?_, not, said⟩
      · rw [List.append_assoc]
      · exact fun earlier mem => (List.mem_append.mp mem).elim (h earlier) (all earlier)

/-- Changing the result changes nothing else. -/
theorem Meets.map {step : Except ε α} (h : Meets fine reports things step) (f : α → β) :
    Meets fine reports things (step.map f) := by
  cases step with
  | ok a => exact h
  | error fault => exact h

/-- The same of the things under other names. -/
theorem Meets.image {κ : Type} {fine' : κ → Prop} {reports' : κ → ε → Prop} {step : Except ε α}
    (h : Meets fine reports things step) (f : ι → κ) (same : ∀ thing, fine' (f thing) ↔ fine thing)
    (said : ∀ thing fault, reports thing fault → reports' (f thing) fault) :
    Meets fine' reports' (things.map f) step := by
  have moved : ∀ {others : List ι}, (∀ thing ∈ others, fine thing) →
      ∀ thing ∈ others.map f, fine' thing := by
    intro others all thing mem
    obtain ⟨other, there, rfl⟩ := List.mem_map.mp mem
    exact (same other).mpr (all other there)
  cases step with
  | ok a => exact moved h
  | error fault =>
    obtain ⟨before, thing, after, rfl, all, not, reported⟩ := h
    refine ⟨before.map f, f thing, after.map f, ?_, moved all, mt (same thing).mp not,
      said thing fault reported⟩
    rw [List.map_append, List.map_cons]

/-- **There is a result exactly if all is fine.** -/
theorem Meets.exists_ok_iff {step : Except ε α} (h : Meets fine reports things step) :
    (∃ a, step = .ok a) ↔ ∀ thing ∈ things, fine thing := by
  cases step with
  | ok a => exact ⟨fun _ => h, fun _ => ⟨a, rfl⟩⟩
  | error fault =>
    obtain ⟨before, thing, after, rfl, _, not, _⟩ := h
    refine ⟨fun has => absurd has nofun, fun all => ?_⟩
    exact absurd (all thing (List.mem_append_right _ List.mem_cons_self)) not

end Meets

end WhistledSpeech
