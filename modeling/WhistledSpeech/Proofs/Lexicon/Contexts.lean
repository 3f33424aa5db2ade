import Mathlib
import WhistledSpeech.Lexicon.Entries
import WhistledSpeech.Proofs.Steps

/-!
# The last rule that holds decides

The rules of a grapheme are entered into a table of tables, one after the other: a rule is written
at every pair of a member of its first class and a member of its second, over whatever stood there.
Read back at two neighbours, such a table gives what the last rule that holds for them says, and
nothing if none does.

A rule is said to hold by its classes alone (`ContextRule.Holds`), and the table is not mentioned:
that the two agree is the content of this module. The step is one rule entered
(`between?_setPairs`), the run is all of them (`compileRules_last` and `compileRules_none`). A rule
whose first class is empty holds nowhere and enters nothing, whatever its second side is.
-/

namespace WhistledSpeech

/-! ## Members that are graphemes -/

namespace ClassMember

/-- A grapheme is the same member as itself only. -/
theorem same_grapheme_iff {m : ClassMember} {name : String} :
    m.same (.grapheme name) = true ↔ m = .grapheme name := by
  cases m with
  | grapheme other => rw [same_grapheme, decide_eq_true_iff, grapheme.injEq]
  | absent => simp [same, whole?]
  | truth b => simp [same, whole?]
  | whole n => simp [same, whole?]
  | real bits =>
    unfold same
    cases (real bits).whole? with
    | none => simp [whole?]
    | some n => simp [whole?]

/-- Only the grapheme itself is the same member as a grapheme. -/
theorem grapheme_same_iff {m : ClassMember} {name : String} :
    (ClassMember.grapheme name).same m = true ↔ m = .grapheme name := by
  cases m with
  | grapheme other => rw [same_grapheme, decide_eq_true_iff, grapheme.injEq, eq_comm]
  | absent => simp [same, whole?]
  | truth b => simp [same, whole?]
  | whole n => simp [same, whole?]
  | real bits =>
    unfold same
    cases (real bits).whole? with
    | none => simp [whole?]
    | some n => simp [whole?]

end ClassMember

namespace MemberTable

variable {α : Type}

theorem get?_cons (name : String) (m : ClassMember) (value : α) (rest : MemberTable α) :
    get? (.grapheme name) ((m, value) :: rest)
      = if m = .grapheme name then some value else get? (.grapheme name) rest := by
  rw [get?]
  by_cases h : m = .grapheme name
  · rw [if_pos h, if_pos (ClassMember.same_grapheme_iff.mpr h)]
  · rw [if_neg h, if_neg fun same => h (ClassMember.same_grapheme_iff.mp same)]

/-- **A value set is found** at its own member, and nothing else changes. -/
theorem get?_set (name : String) (member : ClassMember) (value : α) (table : MemberTable α) :
    get? (.grapheme name) (set member value table)
      = if member = .grapheme name then some value else get? (.grapheme name) table := by
  induction table with
  | nil => rw [set, get?_cons]
  | cons entry rest ih =>
    obtain ⟨m, v⟩ := entry
    rw [set]
    by_cases there : m.same member = true
    · -- the entry keeps its key, and that is the grapheme exactly if the new one is
      rw [if_pos there, get?_cons, get?_cons]
      by_cases h : m = .grapheme name
      · have own : member = .grapheme name := ClassMember.grapheme_same_iff.mp (h ▸ there)
        rw [if_pos h, if_pos own]
      · have other : member ≠ .grapheme name := by
          rintro rfl
          exact h (ClassMember.same_grapheme_iff.mp there)
        rw [if_neg h, if_neg other, if_neg h]
    · rw [if_neg there, get?_cons, get?_cons, ih]
      by_cases h : m = .grapheme name
      · have other : member ≠ .grapheme name := by
          rintro rfl
          exact there (ClassMember.same_grapheme_iff.mpr h)
        rw [if_pos h, if_neg other, if_pos h]
      · rw [if_neg h, if_neg h]

end MemberTable

/-! ## Rules that hold -/

/-- **A side of a rule holds** for a neighbour that its class lists, or, if it is no class, for the
neighbour that it is. Nothing else holds. -/
inductive RuleSide.Holds (classes : ClassTable) : RuleSide → String → Prop where
  /-- A class holds for its members. -/
  | listed {name neighbour : String} {members : List ClassMember}
      (found : Document.find? name classes = some members)
      (mem : .grapheme neighbour ∈ members) : Holds classes (.member (.grapheme name)) neighbour
  /-- What is no class holds for itself. -/
  | itself {neighbour : String} (found : Document.find? neighbour classes = none) :
      Holds classes (.member (.grapheme neighbour)) neighbour

/-- **A rule holds between two neighbours** if both its sides do. -/
def ContextRule.Holds (classes : ClassTable) (ante post : String) (rule : ContextRule) : Prop :=
  rule.ante.Holds classes ante ∧ rule.post.Holds classes post

/-- **The last rule of several that holds** between two neighbours. -/
def ContextRule.IsLast (classes : ClassTable) (ante post : String) (rules : List ContextRule)
    (rule : ContextRule) : Prop :=
  ∃ before after, rules = before ++ rule :: after ∧ rule.Holds classes ante post
    ∧ ∀ later ∈ after, ¬ later.Holds classes ante post

/-- **The segments a rule comes to**: those of its pronunciation, and none without one. -/
def ContextRule.Resolves (named : Pronunciations) (rule : ContextRule) (segments : RawSegments) :
    Prop :=
  match rule.pronunciation with
  | none => segments = []
  | some ref => ref.expand named = .ok segments

/-- Of rules some hold, and then one is the last that does, or none holds. -/
theorem ContextRule.exists_isLast_or (classes : ClassTable) (ante post : String)
    (rules : List ContextRule) :
    (∃ rule, IsLast classes ante post rules rule)
      ∨ ∀ rule ∈ rules, ¬ rule.Holds classes ante post := by
  induction rules with
  | nil => exact .inr fun rule mem => absurd mem List.not_mem_nil
  | cons first rules ih =>
    obtain ⟨rule, before, after, rfl, holds, silent⟩ | silent := ih
    · exact .inl ⟨rule, first :: before, after, rfl, holds, silent⟩
    · by_cases holds : first.Holds classes ante post
      · exact .inl ⟨first, [], rules, rfl, holds, silent⟩
      · refine .inr ?_
        intro rule mem
        obtain rfl | mem := List.mem_cons.mp mem
        · exact holds
        · exact silent rule mem

/-- A side holds for the graphemes among its members. -/
theorem RuleSide.holds_iff {classes : ClassTable} {side : RuleSide} {members : List ClassMember}
    (given : side.members classes = .ok members) (neighbour : String) :
    side.Holds classes neighbour ↔ .grapheme neighbour ∈ members := by
  cases side with
  | unusable shown => exact absurd given (by simp [RuleSide.members])
  | member m =>
    cases given
    unfold ClassTable.members
    constructor
    · intro h
      cases h with
      | listed found mem =>
        rw [ClassMember.name?, Option.bind_some, found]
        exact mem
      | itself found =>
        rw [ClassMember.name?, Option.bind_some, found]
        exact List.mem_singleton_self _
    · intro mem
      cases m with
      | grapheme name =>
        rw [ClassMember.name?, Option.bind_some] at mem
        cases found : Document.find? name classes with
        | some members =>
          rw [found] at mem
          exact .listed found mem
        | none =>
          rw [found] at mem
          cases List.mem_singleton.mp mem
          exact .itself found
      | absent => exact absurd (List.mem_singleton.mp mem) (by simp)
      | truth b => exact absurd (List.mem_singleton.mp mem) (by simp)
      | whole n => exact absurd (List.mem_singleton.mp mem) (by simp)
      | real bits => exact absurd (List.mem_singleton.mp mem) (by simp)

/-! ## Entering rules -/

namespace ContextTable

/-- **What a table has between two neighbours.** -/
def between? (table : ContextTable) (ante post : String) : Option RawSegments :=
  (MemberTable.get? (.grapheme ante) table).bind (MemberTable.get? (.grapheme post))

theorem get?_setPosts (segments : RawSegments) (byPost : MemberTable RawSegments)
    (posts : List ClassMember) (post : String) :
    MemberTable.get? (.grapheme post) (setPosts segments byPost posts)
      = if .grapheme post ∈ posts then some segments
        else MemberTable.get? (.grapheme post) byPost := by
  induction posts generalizing byPost with
  | nil => rw [if_neg List.not_mem_nil]; rfl
  | cons first posts ih =>
    show MemberTable.get? _ (setPosts segments (MemberTable.set first segments byPost) posts) = _
    rw [ih, MemberTable.get?_set]
    by_cases h : .grapheme post ∈ posts
    · rw [if_pos h, if_pos (List.mem_cons_of_mem _ h)]
    · rw [if_neg h]
      by_cases same : first = .grapheme post
      · rw [if_pos same, if_pos (same ▸ List.mem_cons_self)]
      · rw [if_neg same, if_neg]
        intro mem
        obtain rfl | mem := List.mem_cons.mp mem
        · exact same rfl
        · exact h mem

/-- **One rule entered** is found at every pair of its members, and nothing else changes. -/
theorem between?_setPairs (segments : RawSegments) (antes posts : List ClassMember)
    (table : ContextTable) (ante post : String) :
    (setPairs segments antes posts table).between? ante post
      = if .grapheme ante ∈ antes ∧ .grapheme post ∈ posts then some segments
        else table.between? ante post := by
  induction antes generalizing table with
  | nil => rw [if_neg fun h => List.not_mem_nil h.1]; rfl
  | cons first antes ih =>
    -- the row of `first` is the only one that changes; one that was not there counts as empty
    have step : between? (MemberTable.set first
          (setPosts segments ((MemberTable.get? first table).getD []) posts) table) ante post
        = if first = .grapheme ante ∧ .grapheme post ∈ posts then some segments
          else table.between? ante post := by
      unfold between?
      rw [MemberTable.get?_set]
      by_cases same : first = .grapheme ante
      · subst same
        rw [if_pos rfl, Option.bind_some, get?_setPosts]
        by_cases h : .grapheme post ∈ posts
        · rw [if_pos h, if_pos ⟨rfl, h⟩]
        · rw [if_neg h, if_neg fun both => h both.2]
          cases MemberTable.get? (.grapheme ante) table <;> rfl
      · rw [if_neg same, if_neg fun both => same both.1]
    show between? (setPairs segments antes posts (MemberTable.set first
      (setPosts segments ((MemberTable.get? first table).getD []) posts) table)) ante post = _
    rw [ih, step]
    by_cases h : .grapheme ante ∈ antes ∧ .grapheme post ∈ posts
    · rw [if_pos h, if_pos ⟨List.mem_cons_of_mem _ h.1, h.2⟩]
    · rw [if_neg h]
      by_cases first' : first = .grapheme ante ∧ .grapheme post ∈ posts
      · rw [if_pos first', if_pos ⟨first'.1 ▸ List.mem_cons_self, first'.2⟩]
      · rw [if_neg first', if_neg]
        rintro ⟨mem, hpost⟩
        obtain rfl | mem := List.mem_cons.mp mem
        · exact first' ⟨rfl, hpost⟩
        · exact h ⟨mem, hpost⟩

end ContextTable

namespace Lexicon

/-- Naming what a missing name was needed for keeps results. -/
theorem relate_eq_ok_iff {α : Type} {missing : String → Fault} {result : Except Fault α} {a : α} :
    relate missing result = .ok a ↔ result = .ok a := by
  unfold relate
  split
  · exact ⟨fun h => absurd h (by simp), fun h => absurd h (by simp)⟩
  · exact Iff.rfl

/-- A rule is compiled to what it comes to. -/
theorem compileRule_eq_ok_iff {named : Pronunciations} {grapheme : String} {rule : ContextRule}
    {segments : RawSegments} :
    compileRule named grapheme rule = .ok segments ↔ rule.Resolves named segments := by
  unfold compileRule ContextRule.Resolves
  cases rule.pronunciation with
  | none =>
    show Except.ok [] = Except.ok segments ↔ segments = []
    rw [Except.ok.injEq, eq_comm]
  | some ref => exact relate_eq_ok_iff

variable {named : Pronunciations} {classes : ClassTable} {grapheme : String}
  {table table' : ContextTable} {rule : ContextRule} {rules : List ContextRule}

/-- **The step**: a rule entered is found wherever it holds, and what was there before is found
elsewhere. -/
theorem compileRules_cons
    (h : compileRules named classes grapheme table (rule :: rules) = .ok table') :
    ∃ segments next, rule.Resolves named segments
      ∧ compileRules named classes grapheme next rules = .ok table'
      ∧ ∀ ante post,
        (rule.Holds classes ante post → next.between? ante post = some segments)
        ∧ (¬ rule.Holds classes ante post →
            next.between? ante post = table.between? ante post) := by
  rw [compileRules] at h
  obtain ⟨segments, hsegments, h⟩ := bind_eq_ok_iff.mp h
  obtain ⟨antes, hantes, h⟩ := bind_eq_ok_iff.mp h
  have same : (if antes.isEmpty then pure [] else rule.post.members classes) >>= (fun posts =>
      compileRules named classes grapheme (ContextTable.setPairs segments antes posts table) rules)
        = .ok table' := by
    by_cases empty : antes.isEmpty = true
    · rw [if_pos empty] at h ⊢
      exact h
    · rw [if_neg empty] at h ⊢
      exact h
  obtain ⟨posts, hposts, h⟩ := bind_eq_ok_iff.mp same
  have holds : ∀ ante post, rule.Holds classes ante post
      ↔ .grapheme ante ∈ antes ∧ .grapheme post ∈ posts := by
    intro ante post
    unfold ContextRule.Holds
    rw [RuleSide.holds_iff hantes]
    by_cases empty : antes.isEmpty = true
    · -- the second side has not been looked at, and no rule holds without its first
      rw [List.isEmpty_iff.mp empty]
      exact ⟨fun both => absurd both.1 List.not_mem_nil, fun both => absurd both.1 List.not_mem_nil⟩
    · rw [if_neg empty] at hposts
      rw [RuleSide.holds_iff hposts]
  refine ⟨segments, _, compileRule_eq_ok_iff.mp hsegments, h, ?_⟩
  intro ante post
  rw [ContextTable.between?_setPairs, holds]
  exact ⟨fun both => if_pos both, fun not => if_neg not⟩

/-- **The run, where no rule holds**: the table has what it had. -/
theorem compileRules_none (h : compileRules named classes grapheme table rules = .ok table')
    {ante post : String} (silent : ∀ rule ∈ rules, ¬ rule.Holds classes ante post) :
    table'.between? ante post = table.between? ante post := by
  induction rules generalizing table with
  | nil =>
    cases h
    rfl
  | cons rule rules ih =>
    obtain ⟨_, next, _, h, step⟩ := compileRules_cons h
    rw [ih h fun later mem => silent later (List.mem_cons_of_mem _ mem)]
    exact (step ante post).2 (silent rule List.mem_cons_self)

/-- **The run, where some rule holds**: the table has what the last such rule comes to. -/
theorem compileRules_last (h : compileRules named classes grapheme table rules = .ok table')
    {ante post : String} (last : ContextRule.IsLast classes ante post rules rule) :
    ∃ segments, rule.Resolves named segments ∧ table'.between? ante post = some segments := by
  obtain ⟨before, after, rfl, holds, silent⟩ := last
  induction before generalizing table with
  | nil =>
    obtain ⟨segments, next, resolves, h, step⟩ := compileRules_cons h
    refine ⟨segments, resolves, ?_⟩
    rw [compileRules_none h silent]
    exact (step ante post).1 holds
  | cons first before ih =>
    obtain ⟨_, next, _, h, _⟩ := compileRules_cons h
    exact ih h

end Lexicon

end WhistledSpeech
