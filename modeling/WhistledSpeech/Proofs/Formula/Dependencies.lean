import Mathlib
import WhistledSpeech.Formula.Scope

/-!
# What formulas wait for

A formula to be resolved waits for the names in it that no value is given for. Following these names
from formula to formula one comes to an end, or to a name that no formula defines, or one goes round
in a circle. In the last two cases the formula is *stuck* (`Stuck`), and waiting does not help it.

The opposite is said the other way round, from the ends: a formula all of whose names are given is
*grounded*, and so is one that waits for nothing but grounded ones (`Grounded`). What is grounded is
not stuck (`Grounded.not_stuck`). And where some formulas each wait for another of them, or for a name
that no formula defines, all of them are stuck, since there are only finitely many
(`stuck_of_blocked`). Resolving in rounds meets both: what it has resolved is grounded, and what it
cannot go on with is such a set of formulas.
-/

namespace WhistledSpeech.Scope.Pending

/-- **A formula waits for a name**: the name is in it, and no value is given for the name. -/
def WaitsFor (given : String → Prop) (pending : Pending) (a b : String) : Prop :=
  ∃ f, (a, f) ∈ pending ∧ b ∈ f.names ∧ ¬ given b

/-- **A formula is stuck** if what it waits for, directly or through other formulas, is a name that no
formula defines or one that waits for itself. -/
def Stuck (given : String → Prop) (pending : Pending) (name : String) : Prop :=
  name ∈ pending.map Prod.fst
    ∧ ∃ other, Relation.ReflTransGen (WaitsFor given pending) name other
      ∧ (other ∉ pending.map Prod.fst
        ∨ Relation.TransGen (WaitsFor given pending) other other)

/-- **A formula is grounded** if it waits for grounded formulas only. -/
inductive Grounded (given : String → Prop) (pending : Pending) : String → Prop where
  /-- Every name in the formula is given or grounded. -/
  | intro {name : String} {f : Formula} (mem : (name, f) ∈ pending)
      (names : ∀ b ∈ f.names, ¬ given b → Grounded given pending b) : Grounded given pending name

variable {given : String → Prop} {pending : Pending} {name : String}

theorem Grounded.mem (h : Grounded given pending name) : name ∈ pending.map Prod.fst := by
  obtain ⟨mem, _⟩ := h
  exact List.mem_map_of_mem mem

/-- What is grounded waits for what is grounded. -/
theorem Grounded.of_waitsFor (distinct : (pending.map Prod.fst).Nodup) {other : String}
    (h : Grounded given pending name) (waits : WaitsFor given pending name other) :
    Grounded given pending other := by
  obtain ⟨mem, names⟩ := h
  obtain ⟨f, mem', hother, awaited⟩ := waits
  cases List.inj_on_of_nodup_map distinct mem mem' rfl
  exact names other hother awaited

/-- What is grounded leads to what is grounded. -/
theorem Grounded.of_reflTransGen (distinct : (pending.map Prod.fst).Nodup) {other : String}
    (h : Grounded given pending name)
    (on : Relation.ReflTransGen (WaitsFor given pending) name other) :
    Grounded given pending other := by
  induction on with
  | refl => exact h
  | tail _ waits ih => exact ih.of_waitsFor distinct waits

/-- What is grounded does not wait for itself. -/
theorem Grounded.not_transGen (distinct : (pending.map Prod.fst).Nodup)
    (h : Grounded given pending name) : ¬ Relation.TransGen (WaitsFor given pending) name name := by
  induction h with
  | @intro name f mem names ih =>
    intro back
    obtain ⟨other, waits, on⟩ := Relation.TransGen.head'_iff.mp back
    obtain ⟨_, mem', hother, awaited⟩ := id waits
    cases List.inj_on_of_nodup_map distinct mem mem' rfl
    -- the circle goes through the name waited for as well
    exact ih other hother awaited (.tail' on waits)

/-- **What is grounded is not stuck.** -/
theorem Grounded.not_stuck (distinct : (pending.map Prod.fst).Nodup)
    (h : Grounded given pending name) : ¬ Stuck given pending name := by
  rintro ⟨_, other, on, bad⟩
  have grounded := h.of_reflTransGen distinct on
  obtain undefined | circular := bad
  · exact undefined grounded.mem
  · exact grounded.not_transGen distinct circular

/-- **Formulas that wait for one another** or for undefined names are all stuck. -/
theorem stuck_of_blocked {left : List String}
    (blocked : ∀ a ∈ left, a ∈ pending.map Prod.fst
      ∧ ∃ b, WaitsFor given pending a b ∧ (b ∈ left ∨ b ∉ pending.map Prod.fst))
    (mem : name ∈ left) : Stuck given pending name := by
  by_contra free
  -- of the formulas that can be come to, one would be the last
  let Reached := { a : String // a ∈ left ∧ Relation.ReflTransGen (WaitsFor given pending) name a }
  let Later (a b : Reached) : Prop := Relation.TransGen (WaitsFor given pending) b.1 a.1
  have : Finite Reached := Set.Finite.subset left.finite_toSet fun a ha => ha.1
  have irrefl : Std.Irrefl Later := ⟨fun a circular =>
    free ⟨(blocked name mem).1, a.1, a.2.2, .inr circular⟩⟩
  have trans : IsTrans Reached Later := ⟨fun _ _ _ ab bc => bc.trans ab⟩
  obtain ⟨last, _, none⟩ := (Finite.wellFounded_of_trans_of_irrefl Later).has_min Set.univ
    ⟨⟨name, mem, .refl⟩, trivial⟩
  obtain ⟨_, b, waits, inLeft | undefined⟩ := blocked last.1 last.2.1
  · exact none ⟨b, inLeft, last.2.2.tail waits⟩ trivial (.single waits)
  · exact free ⟨(blocked name mem).1, b, last.2.2.tail waits, .inl undefined⟩

/-- The order of the formulas does not matter. -/
theorem Stuck.of_perm {others : Pending} (perm : pending.Perm others)
    (h : Stuck given pending name) : Stuck given others name := by
  have keys := fun name => (perm.map Prod.fst).mem_iff (a := name)
  have waits : WaitsFor given pending = WaitsFor given others := by
    funext a b
    simp only [WaitsFor, perm.mem_iff]
  obtain ⟨mem, other, on, bad⟩ := h
  rw [waits] at on bad
  exact ⟨(keys name).mp mem, other, on, bad.imp_left (mt (keys other).mpr)⟩

end WhistledSpeech.Scope.Pending
