import WhistledSpeech.Document

/-!
# Chains of references

Classes list classes, and pronunciations name pronunciations. Following such references one goes along
a chain of names; a name met again on its own chain closes a cycle. There are only finitely many names
to go to, and `unvisited` counts those a chain has not been to: it drops with every step, which is why
following references ends.
-/

namespace WhistledSpeech.Chain

variable {α : Type}

/-- **The names still to go to**: how many entries are under a name that is not on the chain. -/
def unvisited (entries : List (String × α)) (chain : List String) : Nat :=
  (entries.filter fun entry => !chain.contains entry.1).length

/-- The part of a chain that a name met again closes, from its first mention to its second. -/
def cycle (chain : List String) (name : String) : List String :=
  chain.dropWhile (· != name) ++ [name]

/-- A longer chain has at most as many names to go to. -/
theorem unvisited_append_le (entries : List (String × α)) (chain more : List String) :
    unvisited entries (chain ++ more) ≤ unvisited entries chain := by
  induction entries with
  | nil => simp [unvisited]
  | cons entry rest ih =>
    simp only [unvisited, List.filter_cons] at ih ⊢
    by_cases h : entry.1 ∈ chain
    · simpa [h] using ih
    · by_cases h' : entry.1 ∈ more
      · simp [h, h'] at ih ⊢; omega
      · simpa [h, h'] using ih

/-- **A step to a new name leaves fewer names to go to.** -/
theorem unvisited_lt {entries : List (String × α)} {chain : List String} {name : String} {value : α}
    (found : Document.find? name entries = some value) (new : chain.contains name = false) :
    unvisited entries (chain ++ [name]) < unvisited entries chain := by
  induction entries with
  | nil => simp [Document.find?] at found
  | cons entry rest ih =>
    obtain ⟨k, v⟩ := entry
    have new' : name ∉ chain := by simpa using new
    simp only [unvisited, List.filter_cons]
    by_cases hk : k = name
    · subst hk
      have := unvisited_append_le rest chain [k]
      simp only [unvisited] at this
      simp [new'] at this ⊢; omega
    · have := ih (by simpa [Document.find?, hk] using found)
      simp only [unvisited] at this
      by_cases hc : k ∈ chain
      · simpa [hc] using this
      · simpa [hc, hk] using this

end WhistledSpeech.Chain
