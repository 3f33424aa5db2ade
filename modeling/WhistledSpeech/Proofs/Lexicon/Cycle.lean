import Mathlib
import WhistledSpeech.Lexicon.Chain

/-!
# Cycles of references

What a chain of references closes when it meets one of its names again is a cycle: it leads from a
name back to that name, through names that are all different, by references only.
-/

namespace WhistledSpeech.Chain

variable {refers : String → String → Prop} {chain path : List String} {name next : String}

/-- **A cycle**: references that lead from a name back to it, through different names. -/
def IsCycle (refers : String → String → Prop) (path : List String) : Prop :=
  ∃ name inner, path = name :: inner ++ [name] ∧ (name :: inner).Nodup ∧ path.IsChain refers

/-- A cycle of references is one of all that are references as well. -/
theorem IsCycle.mono {refers' : String → String → Prop} (h : IsCycle refers path)
    (le : ∀ a b, refers a b → refers' a b) : IsCycle refers' path := by
  obtain ⟨name, inner, same, nodup, linked⟩ := h
  exact ⟨name, inner, same, nodup, linked.imp le⟩

/-- **A chain leads to a name** by references from each name to the next, and has been nowhere twice. -/
structure Leads (refers : String → String → Prop) (chain : List String) (name : String) : Prop where
  /-- Each name refers to the next, and the last to the name. -/
  linked : (chain ++ [name]).IsChain refers
  /-- The names of the chain are all different. -/
  nodup : chain.Nodup

/-- No chain is needed to begin with a name. -/
theorem Leads.start : Leads refers [] name := ⟨List.isChain_singleton name, List.nodup_nil⟩

/-- **A reference from a name that is new** makes the chain longer. -/
theorem Leads.step (h : Leads refers chain name) (new : name ∉ chain) (refer : refers name next) :
    Leads refers (chain ++ [name]) next where
  linked := by
    refine h.linked.append (List.isChain_singleton next) ?_
    simpa using refer
  nodup := by
    rw [List.nodup_append_comm]
    exact List.nodup_cons.mpr ⟨new, h.nodup⟩

/-- **A chain that meets one of its names again closes a cycle.** -/
theorem Leads.isCycle (h : Leads refers chain name) (mem : name ∈ chain) :
    IsCycle refers (cycle chain name) := by
  obtain ⟨linked, nodup⟩ := h
  obtain ⟨before, inner, rfl, new⟩ := List.eq_append_cons_of_mem mem
  have closed : cycle (before ++ name :: inner) name = name :: inner ++ [name] := by
    unfold cycle
    rw [List.dropWhile_append_of_pos, List.dropWhile_cons_of_neg (by simp)]
    intro other hother
    simpa using fun same : other = name => new (same ▸ hother)
  rw [List.append_assoc] at linked
  refine ⟨name, inner, closed, (List.nodup_append.mp nodup).2.1, ?_⟩
  rw [closed]
  exact linked.right_of_append

/-- Along references each name leads to every later one. -/
theorem transGen_of_isChain {first last : String} {between : List String}
    (linked : (first :: between ++ [last]).IsChain refers) :
    Relation.TransGen refers first last := by
  induction between generalizing first with
  | nil => exact .single (List.isChain_pair.mp linked)
  | cons next between ih =>
    obtain ⟨step, linked⟩ := List.isChain_cons_cons.mp linked
    exact .head step (ih linked)

/-- The first name of a cycle leads back to itself. -/
theorem IsCycle.exists_transGen (h : IsCycle refers path) :
    ∃ name, Relation.TransGen refers name name := by
  obtain ⟨name, inner, rfl, _, linked⟩ := h
  exact ⟨name, transGen_of_isChain linked⟩

/-- **Where every name runs out of references, none leads back to itself.** -/
theorem not_transGen_of_acc (acc : ∀ name, Acc (Function.swap refers) name) (name : String) :
    ¬ Relation.TransGen refers name name := by
  intro h
  have wf : WellFounded (Relation.TransGen (Function.swap refers)) :=
    WellFounded.transGen ⟨acc⟩
  exact wf.irrefl.irrefl name (Relation.transGen_swap.mpr h)

end WhistledSpeech.Chain
