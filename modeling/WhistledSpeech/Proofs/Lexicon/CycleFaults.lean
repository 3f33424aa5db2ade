import Mathlib
import WhistledSpeech.Proofs.Lexicon.Classes

/-!
# From which class a cycle is found

Classes are flattened in the order of their declaration, and a cycle need not be found from a class that
lies on it: it is enough that one leads there. The first class that leads into a cycle is the one whose
flattening breaks off, and the cycle named in the fault is one that this class leads into
(`resolve_meets`). A class flattened before has no cycle anywhere below it, so what the table has of it
hides none.
-/

namespace WhistledSpeech

open Relation

namespace Chain

variable {refers : String → String → Prop} {chain : List String} {name other : String}

/-- Of a name that runs out of references no cycle is in reach. -/
theorem not_transGen_of_reach (acc : Acc (Function.swap refers) name)
    (reach : ReflTransGen refers name other) : ¬ TransGen refers other other := by
  induction acc with
  | intro name _ ih =>
    obtain rfl | ⟨next, step, reach⟩ := reach.cases_head
    · intro back
      obtain ⟨next, step, reach⟩ := TransGen.head'_iff.mp back
      exact ih next step reach back
    · exact ih next step reach

/-- What a chain closes is on the chain. -/
theorem mem_of_mem_cycle (mem : other ∈ cycle chain name) : other ∈ chain ++ [name] := by
  unfold cycle at mem
  obtain mem | mem := List.mem_append.mp mem
  · exact List.mem_append_left _ ((List.dropWhile_sublist _).mem mem)
  · exact List.mem_append_right _ mem

end Chain

namespace WrittenClasses

variable {classes : WrittenClasses} {start : String} {fault : Fault}

/-- **A class leads into no cycle**, neither its own nor one of a class below it. -/
def AcyclicBelow (classes : WrittenClasses) (name : String) : Prop :=
  ∀ below, ReflTransGen classes.Refers name below → ¬ TransGen classes.Refers below below

/-- **A fault is a cycle that a class leads into.** -/
def FindsCycle (classes : WrittenClasses) (name : String) (fault : Fault) : Prop :=
  ∃ path, fault = .circularClass path ∧ Chain.IsCycle classes.Refers path
    ∧ ∀ below ∈ path, ReflTransGen classes.Refers name below

/-- Classes are cyclic if one of them leads into a cycle. -/
theorem not_cyclic_iff :
    ¬ classes.Cyclic ↔ ∀ name ∈ classes.map Prod.fst, classes.AcyclicBelow name := by
  constructor
  · exact fun acyclic name _ below _ back => acyclic ⟨below, back⟩
  · rintro all ⟨name, back⟩
    obtain ⟨next, ⟨listed, found, _⟩, _⟩ := TransGen.head'_iff.mp back
    exact all name (List.mem_map_of_mem (Document.mem_of_find? found)) name .refl back

/-- A class with leaves leads into no cycle. -/
theorem acyclicBelow_of_leaves {name : String} {listed leaves : List String}
    (found : Document.find? name classes = some listed) (inside : Leaves classes listed leaves) :
    classes.AcyclicBelow name := by
  have acc : Acc (Function.swap classes.Refers) name := by
    refine ⟨name, ?_⟩
    rintro next ⟨listed', found', mem, _⟩
    cases found.symm.trans found'
    exact inside.acc next mem
  exact fun below reach => Chain.not_transGen_of_reach acc reach

/-- A class that finds a cycle leads into it. -/
theorem FindsCycle.not_acyclicBelow {name : String} (h : FindsCycle classes name fault) :
    ¬ classes.AcyclicBelow name := by
  obtain ⟨path, rfl, ⟨first, inner, rfl, _, linked⟩, reach⟩ := h
  exact fun ends => ends first (reach first (by simp)) (Chain.transGen_of_isChain linked)

/-! ## The fault of a single class -/

-- the induction is that of flattening: a chain has fewer classes left to visit, or a list is shorter
mutual

/-- **What a fault names is in reach** of any class from which the chain is. -/
theorem reach_of_flatten (chain : List String) {table : ClassTable} {name : String}
    {listed : List String} (found : Document.find? name classes = some listed)
    (reach : ∀ below ∈ chain ++ [name], ReflTransGen classes.Refers start below)
    (failed : ClassMap.flatten classes.toMap chain table name = .error fault) :
    ∃ path, fault = .circularClass path ∧ ∀ below ∈ path, ReflTransGen classes.Refers start below := by
  cases known : Document.find? name table with
  | some members =>
    rw [flatten_of_find? known] at failed
    exact absurd failed nofun
  | none =>
    by_cases mem : name ∈ chain
    · rw [flatten_of_mem known mem] at failed
      cases failed
      exact ⟨_, rfl, fun below hbelow => reach below (Chain.mem_of_mem_cycle hbelow)⟩
    · rw [flatten_of_notMem known mem found] at failed
      cases inside : ClassMap.flattenAll classes.toMap (chain ++ [name]) table []
          (graphemes listed) with
      | ok r =>
        rw [inside] at failed
        exact absurd failed nofun
      | error other =>
        rw [inside] at failed
        cases failed
        refine reach_of_flattenAll (chain ++ [name]) listed reach (fun next hnext isClass => ?_) inside
        exact (reach name (by simp)).tail ⟨listed, found, hnext, isClass⟩
termination_by (Chain.unvisited classes.toMap chain, 0)
decreasing_by
  exact Prod.Lex.left _ _ (unvisited_toMap_lt found mem)

/-- The same of what a class lists. -/
theorem reach_of_flattenAll (chain : List String) {table : ClassTable} {members : List ClassMember}
    (listed : List String)
    (reach : ∀ below ∈ chain, ReflTransGen classes.Refers start below)
    (reach' : ∀ next ∈ listed, next ∈ classes.map Prod.fst → ReflTransGen classes.Refers start next)
    (failed : ClassMap.flattenAll classes.toMap chain table members (graphemes listed)
      = .error fault) :
    ∃ path, fault = .circularClass path ∧ ∀ below ∈ path, ReflTransGen classes.Refers start below := by
  cases listed with
  | nil =>
    change ClassMap.flattenAll classes.toMap chain table members [] = _ at failed
    rw [ClassMap.flattenAll] at failed
    exact absurd failed nofun
  | cons name rest =>
    have behind : ∀ next ∈ rest, next ∈ classes.map Prod.fst →
        ReflTransGen classes.Refers start next :=
      fun next hnext => reach' next (List.mem_cons_of_mem _ hnext)
    cases found : Document.find? name classes with
    | none =>
      rw [flattenAll_literal found] at failed
      exact reach_of_flattenAll chain rest reach behind failed
    | some inner =>
      rw [flattenAll_nested found] at failed
      cases inside : ClassMap.flatten classes.toMap chain table name with
      | ok r =>
        rw [inside] at failed
        exact reach_of_flattenAll chain rest reach behind failed
      | error other =>
        rw [inside] at failed
        cases failed
        have isClass : name ∈ classes.map Prod.fst :=
          List.mem_map_of_mem (Document.mem_of_find? found)
        refine reach_of_flatten chain found (fun below hbelow => ?_) inside
        obtain hbelow | hbelow := List.mem_append.mp hbelow
        · exact reach below hbelow
        · obtain rfl := List.mem_singleton.mp hbelow
          exact reach' _ List.mem_cons_self isClass
termination_by (Chain.unvisited classes.toMap chain, listed.length + 1)
decreasing_by
  · subst_vars
    exact Prod.Lex.right _ (Nat.lt_succ_self _)
  · exact Prod.Lex.right _ (Nat.succ_pos _)
  · subst_vars
    exact Prod.Lex.right _ (Nat.lt_succ_self _)

end

/-- **What flattening one class comes to**, with a table that is sound. -/
theorem flatten_meets {table : ClassTable} (sound : Sound classes table) {name : String}
    (declared : name ∈ classes.map Prod.fst) :
    Meets classes.AcyclicBelow classes.FindsCycle [name] (ClassMap.flatten classes.toMap [] table name)
      ∧ ∀ r, ClassMap.flatten classes.toMap [] table name = .ok r → Sound classes r.2 := by
  obtain ⟨listed, found⟩ := Document.exists_find?_of_mem declared
  have flattens := flatten_flattens [] found .start sound
  refine ⟨Meets.singleton (fun r result => ?_) (fun fault failed => ?_), fun r result => ?_⟩
  · rw [result] at flattens
    obtain ⟨_, leaves, inside, _⟩ := flattens
    exact acyclicBelow_of_leaves found inside
  · rw [failed] at flattens
    obtain ⟨path, rfl, cycle⟩ := flattens
    have own : ∀ below ∈ [] ++ [name], ReflTransGen classes.Refers name below := by
      intro below hbelow
      cases List.mem_singleton.mp hbelow
      exact .refl
    obtain ⟨path', same, reach⟩ := reach_of_flatten [] found own failed
    cases same
    have finds : FindsCycle classes name (.circularClass path) := ⟨path, rfl, cycle, reach⟩
    exact ⟨finds.not_acyclicBelow, finds⟩
  · rw [result] at flattens
    exact flattens.1

/-! ## The fault of the first class -/

theorem flattenNames_cons (table : ClassTable) (name : String) (names : List String) :
    ClassMap.flattenNames classes.toMap table (name :: names)
      = ClassMap.flatten classes.toMap [] table name >>= fun r =>
          (ClassMap.flattenNames classes.toMap r.2 names).map ((name, r.1) :: ·) := by
  rw [ClassMap.flattenNames]
  cases ClassMap.flatten classes.toMap [] table name with
  | error fault => rfl
  | ok r =>
    dsimp only
    show _ = (ClassMap.flattenNames classes.toMap r.2 names).map ((name, r.1) :: ·)
    cases ClassMap.flattenNames classes.toMap r.2 names <;> rfl

theorem flattenNames_meets {table : ClassTable} (sound : Sound classes table) {names : List String}
    (declared : ∀ name ∈ names, name ∈ classes.map Prod.fst) :
    Meets classes.AcyclicBelow classes.FindsCycle names
      (ClassMap.flattenNames classes.toMap table names) := by
  induction names generalizing table with
  | nil => exact .nil []
  | cons name names ih =>
    obtain ⟨first, soundness⟩ := flatten_meets sound (declared name List.mem_cons_self)
    rw [flattenNames_cons, ← List.singleton_append]
    refine first.bind fun r result => Meets.map ?_ _
    exact ih (soundness r result) fun next mem => declared next (List.mem_cons_of_mem _ mem)

/-- **The first class that leads into a cycle is the one that is found at fault.** -/
theorem resolve_meets (classes : WrittenClasses) :
    Meets classes.AcyclicBelow classes.FindsCycle (classes.map Prod.fst)
      (ClassMap.resolve classes.toMap) := by
  have keys : classes.toMap.map Prod.fst = classes.map Prod.fst := by
    rw [toMap, List.map_map]
    rfl
  rw [ClassMap.resolve, keys]
  exact flattenNames_meets (fun _ _ found => absurd found (by simp [Document.find?]))
    fun _ declared => declared

end WrittenClasses

end WhistledSpeech
