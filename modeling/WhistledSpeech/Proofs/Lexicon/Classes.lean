import Mathlib
import WhistledSpeech.Lexicon.Classes
import WhistledSpeech.Proofs.Entries
import WhistledSpeech.Proofs.Lexicon.Cycle
import WhistledSpeech.Proofs.Steps

/-!
# Flattening classes is expanding them

A class that lists names lists graphemes and other classes. Its full expansion puts in the place of
each class it lists the full expansion of that class; what is left is a list of graphemes, the
*leaves*, in which one that is reached twice stands twice. `Leaves` says so directly: it keeps no
table, looks at no chain, and has nothing to say where the expansion does not end.

`ClassMap.flatten` does it with a table of what it has flattened and a chain of where it has come
from, and keeps first mentions only at every level. It comes to the same:

* it breaks off exactly where some class refers back to itself, and then it names a genuine cycle
  (`flatten_flattens`);
* otherwise each class has the first mentions of its leaves as its members (`resolve_eq_ok`).

So the members hold no class and no grapheme twice, the order in which the classes are declared does
not matter, and flattening what has been flattened changes nothing.
-/

namespace WhistledSpeech

/-! ## First mentions -/

section FirstMentions

variable {α : Type} [DecidableEq α]

/-- A last item is a first mention unless it has been mentioned. -/
theorem eraseDups_concat (items : List α) (item : α) :
    (items ++ [item]).eraseDups
      = if item ∈ items then items.eraseDups else items.eraseDups ++ [item] := by
  rw [List.eraseDups_append]
  by_cases h : item ∈ items
  · rw [if_pos h, List.removeAll]
    simp [h]
  · rw [if_neg h, List.removeAll]
    simp [h, List.eraseDups_cons]

theorem nodup_eraseDups (items : List α) : items.eraseDups.Nodup := by
  induction items using List.reverseRecOn with
  | nil => exact List.nodup_nil
  | append_singleton items item ih =>
    rw [eraseDups_concat]
    by_cases h : item ∈ items
    · rwa [if_pos h]
    · rw [if_neg h, List.nodup_append]
      refine ⟨ih, List.nodup_singleton item, ?_⟩
      rintro a ha b hb rfl
      exact h (List.mem_singleton.mp hb ▸ List.mem_eraseDups.mp ha)

theorem eraseDups_of_nodup {items : List α} (nodup : items.Nodup) : items.eraseDups = items := by
  induction items using List.reverseRecOn with
  | nil => rfl
  | append_singleton items item ih =>
    obtain ⟨front, _, apart⟩ := List.nodup_append.mp nodup
    have new : item ∉ items := fun mem => apart item mem item (List.mem_singleton_self item) rfl
    rw [eraseDups_concat, if_neg new, ih front]

/-- Dropping repeated mentions from a part first does not matter. -/
theorem eraseDups_append_eraseDups (front items : List α) :
    (front ++ items.eraseDups).eraseDups = (front ++ items).eraseDups := by
  induction items using List.reverseRecOn with
  | nil => rfl
  | append_singleton items item ih =>
    rw [eraseDups_concat items item, ← List.append_assoc front items [item],
      eraseDups_concat (front ++ items) item]
    by_cases h : item ∈ items
    · rw [if_pos h, if_pos (List.mem_append_right _ h), ih]
    · rw [if_neg h, ← List.append_assoc, eraseDups_concat, ih]
      simp only [List.mem_append, List.mem_eraseDups]

end FirstMentions

/-! ## Classes of names -/

/-- **Classes as they are written**: what each lists, by name. -/
abbrev WrittenClasses := List (String × List String)

namespace WrittenClasses

/-- Names as members of classes. -/
def graphemes (names : List String) : List ClassMember := names.map .grapheme

/-- The classes as they are flattened. -/
def toMap (classes : WrittenClasses) : ClassMap :=
  classes.map fun e => (e.1, Feed.ofList (graphemes e.2))

/-- The classes as a table of classes flattened. -/
def toTable (classes : WrittenClasses) : ClassTable :=
  classes.map fun e => (e.1, graphemes e.2)

/-- A class refers to a class that it lists. -/
def Refers (classes : WrittenClasses) (a b : String) : Prop :=
  ∃ listed, Document.find? a classes = some listed ∧ b ∈ listed ∧ b ∈ classes.map Prod.fst

/-- **Some class refers back to itself**, directly or through others. -/
def Cyclic (classes : WrittenClasses) : Prop :=
  ∃ name, Relation.TransGen classes.Refers name name

/-- **The leaves of a list of members**, expanded in full and from left to right: a class stands for
the leaves of what it lists, anything else for itself. -/
inductive Leaves (classes : WrittenClasses) : List String → List String → Prop where
  /-- No members have no leaves. -/
  | nil : Leaves classes [] []
  /-- What is no class is a leaf. -/
  | literal {name : String} {rest leaves : List String}
      (found : Document.find? name classes = none) (behind : Leaves classes rest leaves) :
      Leaves classes (name :: rest) (name :: leaves)
  /-- A class has the leaves of what it lists. -/
  | nested {name : String} {listed inner rest leaves : List String}
      (found : Document.find? name classes = some listed) (inside : Leaves classes listed inner)
      (behind : Leaves classes rest leaves) : Leaves classes (name :: rest) (inner ++ leaves)

variable {classes : WrittenClasses}

/-- The leaves are determined. -/
theorem Leaves.unique {listed leaves others : List String} (h : Leaves classes listed leaves)
    (h' : Leaves classes listed others) : others = leaves := by
  induction h generalizing others with
  | nil =>
    cases h'
    rfl
  | literal found _ ih =>
    cases h' with
    | literal _ behind => rw [ih behind]
    | nested found' _ _ => exact absurd (found.symm.trans found') (by simp)
  | nested found _ _ ihInside ihBehind =>
    cases h' with
    | literal found' _ => exact absurd (found'.symm.trans found) (by simp)
    | nested found' inside behind =>
      cases found.symm.trans found'
      rw [ihInside inside, ihBehind behind]

/-- No leaf is a class. -/
theorem Leaves.find?_eq_none {listed leaves : List String} (h : Leaves classes listed leaves) :
    ∀ leaf ∈ leaves, Document.find? leaf classes = none := by
  induction h with
  | nil => exact fun leaf mem => absurd mem (by simp)
  | literal found _ ih =>
    intro leaf mem
    obtain rfl | mem := List.mem_cons.mp mem
    · exact found
    · exact ih leaf mem
  | nested _ _ _ ihInside ihBehind =>
    intro leaf mem
    exact (List.mem_append.mp mem).elim (ihInside leaf) (ihBehind leaf)

/-- Members that are no classes are their own leaves. -/
theorem Leaves.of_forall {listed : List String}
    (h : ∀ name ∈ listed, Document.find? name classes = none) : Leaves classes listed listed := by
  induction listed with
  | nil => exact .nil
  | cons name rest ih =>
    exact .literal (h name List.mem_cons_self)
      (ih fun next mem => h next (List.mem_cons_of_mem _ mem))

/-- Classes that are found under the same names have the same leaves. -/
theorem Leaves.congr {others : WrittenClasses} {listed leaves : List String}
    (same : ∀ name, Document.find? name others = Document.find? name classes)
    (h : Leaves classes listed leaves) : Leaves others listed leaves := by
  induction h with
  | nil => exact .nil
  | literal found _ ih => exact .literal ((same _).trans found) ih
  | nested found _ _ ihInside ihBehind => exact .nested ((same _).trans found) ihInside ihBehind

/-! ## What flattening does -/

theorem find?_toMap (classes : WrittenClasses) (name : String) :
    Document.find? name classes.toMap
      = (Document.find? name classes).map fun listed => Feed.ofList (graphemes listed) :=
  Document.find?_map (fun _ listed => Feed.ofList (graphemes listed)) name classes

/-- A step to a new class leaves fewer classes to go to. -/
theorem unvisited_toMap_lt {chain : List String} {name : String} {listed : List String}
    (found : Document.find? name classes = some listed) (new : name ∉ chain) :
    Chain.unvisited classes.toMap (chain ++ [name]) < Chain.unvisited classes.toMap chain := by
  have found' : Document.find? name classes.toMap = some (Feed.ofList (graphemes listed)) := by
    rw [find?_toMap, found]
    rfl
  exact Chain.unvisited_lt found' (by simpa using new)

/-- A member names a class if it is the name of one. -/
theorem classOf?_grapheme (classes : WrittenClasses) (name : String) :
    ClassMap.classOf? classes.toMap (.grapheme name)
      = (Document.find? name classes).map fun _ => name := by
  unfold ClassMap.classOf?
  rw [ClassMember.name?, Option.bind_some, find?_toMap]
  cases Document.find? name classes <;> rfl

theorem addMember_grapheme (names : List String) (name : String) :
    ClassMap.addMember (graphemes names.eraseDups) (.grapheme name)
      = graphemes (names ++ [name]).eraseDups := by
  have there : (graphemes names.eraseDups).any (ClassMember.same (.grapheme name)) = true
      ↔ name ∈ names := by
    rw [graphemes, List.any_map, List.any_eq_true, ← List.mem_eraseDups]
    simp
  unfold ClassMap.addMember
  rw [eraseDups_concat]
  by_cases h : name ∈ names
  · rw [if_pos (there.mpr h), if_pos h]
  · rw [if_neg (fun any => h (there.mp any)), if_neg h]
    simp [graphemes]

/-- **Members are added by their first mentions.** -/
theorem addMembers_graphemes (names more : List String) :
    ClassMap.addMembers (graphemes names.eraseDups) (graphemes more)
      = graphemes (names ++ more).eraseDups := by
  induction more generalizing names with
  | nil => rw [List.append_nil]; rfl
  | cons name more ih =>
    show ClassMap.addMembers (ClassMap.addMember (graphemes names.eraseDups) (.grapheme name))
      (graphemes more) = _
    rw [addMember_grapheme, ih, List.append_assoc, List.singleton_append]

/-- **A table is sound** if the members it has for a class are the first mentions of its leaves. -/
def Sound (classes : WrittenClasses) (table : ClassTable) : Prop :=
  ∀ name members, Document.find? name table = some members →
    ∃ listed leaves, Document.find? name classes = some listed ∧ Leaves classes listed leaves
      ∧ members = graphemes leaves.eraseDups

/-- **What flattening a list comes to**, after the names `before`: the first mentions of these and
of the leaves, with a sound table, or else a genuine cycle. -/
def Flattens (classes : WrittenClasses) (before listed : List String) :
    Except Fault (List ClassMember × ClassTable) → Prop
  | .ok (members, table) => Sound classes table
      ∧ ∃ leaves, Leaves classes listed leaves ∧ members = graphemes (before ++ leaves).eraseDups
  | .error fault => ∃ path, fault = .circularClass path ∧ Chain.IsCycle classes.Refers path

/-- What is no class goes to the names before. -/
theorem Flattens.literal {before rest : List String} {name : String}
    {result : Except Fault (List ClassMember × ClassTable)}
    (h : Flattens classes (before ++ [name]) rest result)
    (found : Document.find? name classes = none) :
    Flattens classes before (name :: rest) result := by
  cases result with
  | error fault => exact h
  | ok r =>
    obtain ⟨sound, leaves, behind, hmembers⟩ := h
    refine ⟨sound, name :: leaves, .literal found behind, ?_⟩
    rw [hmembers, List.append_assoc, List.singleton_append]

/-- The leaves of a class go to the names before. -/
theorem Flattens.nested {before rest listed inner : List String} {name : String}
    {result : Except Fault (List ClassMember × ClassTable)}
    (h : Flattens classes (before ++ inner) rest result)
    (found : Document.find? name classes = some listed) (inside : Leaves classes listed inner) :
    Flattens classes before (name :: rest) result := by
  cases result with
  | error fault => exact h
  | ok r =>
    obtain ⟨sound, leaves, behind, hmembers⟩ := h
    refine ⟨sound, inner ++ leaves, .nested found inside behind, ?_⟩
    rw [hmembers, List.append_assoc]

/-- A sound table stays so with the members of one more class. -/
theorem Sound.setEntry {table : ClassTable} (sound : Sound classes table) {name : String}
    {listed leaves : List String} (found : Document.find? name classes = some listed)
    (inside : Leaves classes listed leaves) :
    Sound classes (Document.setEntry name (graphemes leaves.eraseDups) table) := by
  intro other members h
  by_cases same : other = name
  · subst same
    rw [Document.find?_setEntry_self] at h
    cases h
    exact ⟨listed, leaves, found, inside, rfl⟩
  · rw [Document.find?_setEntry_of_ne same] at h
    exact sound other members h

theorem flatten_of_find? {chain : List String} {table : ClassTable} {name : String}
    {members : List ClassMember} (known : Document.find? name table = some members) :
    ClassMap.flatten classes.toMap chain table name = .ok (members, table) := by
  rw [ClassMap.flatten, known]

theorem flatten_of_mem {chain : List String} {table : ClassTable} {name : String}
    (known : Document.find? name table = none) (mem : name ∈ chain) :
    ClassMap.flatten classes.toMap chain table name
      = .error (.circularClass (Chain.cycle chain name)) := by
  rw [ClassMap.flatten, known]
  exact dif_pos (List.contains_iff_mem.mpr mem)

theorem flatten_of_notMem {chain : List String} {table : ClassTable} {name : String}
    {listed : List String} (known : Document.find? name table = none) (new : name ∉ chain)
    (found : Document.find? name classes = some listed) :
    ClassMap.flatten classes.toMap chain table name
      = ClassMap.flattenAll classes.toMap (chain ++ [name]) table [] (graphemes listed) >>=
          fun r => .ok (r.1, Document.setEntry name r.1 r.2) := by
  have found' : Document.find? name classes.toMap = some (Feed.ofList (graphemes listed)) := by
    rw [find?_toMap, found]
    rfl
  rw [ClassMap.flatten, known]
  show (if new : chain.contains name then _ else _) = _
  rw [dif_neg (fun mem => new (List.contains_iff_mem.mp mem))]
  split
  · rename_i none
    exact absurd (none.symm.trans found') (by simp)
  · rename_i given some
    cases some.symm.trans found'
    dsimp only [Feed.ofList]
    cases ClassMap.flattenAll classes.toMap (chain ++ [name]) table [] (graphemes listed) <;> rfl

theorem flattenAll_literal {chain : List String} {table : ClassTable} {members : List ClassMember}
    {name : String} {rest : List String} (found : Document.find? name classes = none) :
    ClassMap.flattenAll classes.toMap chain table members (graphemes (name :: rest))
      = ClassMap.flattenAll classes.toMap chain table
          (ClassMap.addMember members (.grapheme name)) (graphemes rest) := by
  show ClassMap.flattenAll classes.toMap chain table members (.grapheme name :: graphemes rest) = _
  rw [ClassMap.flattenAll, classOf?_grapheme, found]
  rfl

theorem flattenAll_nested {chain : List String} {table : ClassTable} {members : List ClassMember}
    {name : String} {rest listed : List String}
    (found : Document.find? name classes = some listed) :
    ClassMap.flattenAll classes.toMap chain table members (graphemes (name :: rest))
      = ClassMap.flatten classes.toMap chain table name >>= fun r =>
          ClassMap.flattenAll classes.toMap chain r.2 (ClassMap.addMembers members r.1)
            (graphemes rest) := by
  show ClassMap.flattenAll classes.toMap chain table members (.grapheme name :: graphemes rest) = _
  rw [ClassMap.flattenAll, classOf?_grapheme, found]
  dsimp only [Option.map_some]
  cases ClassMap.flatten classes.toMap chain table name <;> rfl

mutual

/-- **Flattening a class** that a chain of references leads to. The chain says where a cycle comes
from, and the table may have any classes already; the recursion is that of the flattening itself. -/
theorem flatten_flattens (chain : List String) {table : ClassTable} {name : String}
    {listed : List String} (found : Document.find? name classes = some listed)
    (leads : Chain.Leads classes.Refers chain name) (sound : Sound classes table) :
    Flattens classes [] listed (ClassMap.flatten classes.toMap chain table name) := by
  cases known : Document.find? name table with
  | some members =>
    -- flattened on an earlier path, along which there was no cycle
    obtain ⟨listed', leaves, found', inside, rfl⟩ := sound name members known
    cases found.symm.trans found'
    rw [flatten_of_find? known]
    exact ⟨sound, leaves, inside, rfl⟩
  | none =>
    by_cases mem : name ∈ chain
    · -- the chain links its names, so what it closes is a cycle of the classes themselves
      rw [flatten_of_mem known mem]
      exact ⟨_, rfl, leads.isCycle mem⟩
    · -- whatever the class refers to is linked to the longer chain
      have inside := flattenAll_flattens (chain ++ [name]) [] listed
        (fun next hnext isClass => leads.step mem ⟨listed, found, hnext, isClass⟩) sound
      rw [flatten_of_notMem known mem found]
      show Flattens classes [] listed
        (ClassMap.flattenAll classes.toMap (chain ++ [name]) table (graphemes [].eraseDups)
          (graphemes listed) >>= _)
      cases result : ClassMap.flattenAll classes.toMap (chain ++ [name]) table
          (graphemes [].eraseDups) (graphemes listed) with
      | error fault =>
        rw [result] at inside
        exact inside
      | ok r =>
        rw [result] at inside
        obtain ⟨sound', leaves, hleaves, hmembers⟩ := inside
        rw [List.nil_append] at hmembers
        refine ⟨?_, leaves, hleaves, hmembers⟩
        show Sound classes (Document.setEntry name r.1 r.2)
        rw [hmembers]
        exact sound'.setEntry found hleaves
termination_by (Chain.unvisited classes.toMap chain, 0)
decreasing_by
  exact Prod.Lex.left _ _ (unvisited_toMap_lt found mem)

/-- Flattening what a class lists, after the names `before`. -/
theorem flattenAll_flattens (chain : List String) {table : ClassTable}
    (before listed : List String)
    (leads : ∀ name ∈ listed, name ∈ classes.map Prod.fst → Chain.Leads classes.Refers chain name)
    (sound : Sound classes table) :
    Flattens classes before listed (ClassMap.flattenAll classes.toMap chain table
      (graphemes before.eraseDups) (graphemes listed)) := by
  cases listed with
  | nil =>
    show Flattens classes before [] (ClassMap.flattenAll classes.toMap chain table _ [])
    rw [ClassMap.flattenAll]
    exact ⟨sound, [], .nil, by rw [List.append_nil]⟩
  | cons name rest =>
    have leads' : ∀ next ∈ rest, next ∈ classes.map Prod.fst →
        Chain.Leads classes.Refers chain next :=
      fun next hnext => leads next (List.mem_cons_of_mem _ hnext)
    cases found : Document.find? name classes with
    | none =>
      have behind := flattenAll_flattens chain (before ++ [name]) rest leads' sound
      rw [flattenAll_literal found, addMember_grapheme]
      exact behind.literal found
    | some inner =>
      have inside := flatten_flattens chain found (leads name List.mem_cons_self
        (List.mem_map_of_mem (Document.mem_of_find? found))) sound
      rw [flattenAll_nested found]
      cases result : ClassMap.flatten classes.toMap chain table name with
      | error fault =>
        rw [result] at inside
        exact inside
      | ok r =>
        rw [result] at inside
        obtain ⟨sound', leaves, hleaves, hmembers⟩ := inside
        rw [List.nil_append] at hmembers
        -- first mentions, added to first mentions, are the first mentions of all the leaves
        have behind := flattenAll_flattens chain (before ++ leaves) rest leads' sound'
        show Flattens classes before (name :: rest) (ClassMap.flattenAll classes.toMap chain r.2
          (ClassMap.addMembers (graphemes before.eraseDups) r.1) (graphemes rest))
        rw [hmembers, addMembers_graphemes, eraseDups_append_eraseDups]
        exact behind.nested found hleaves
termination_by (Chain.unvisited classes.toMap chain, listed.length + 1)
decreasing_by
  · subst_vars
    exact Prod.Lex.right _ (Nat.lt_succ_self _)
  · exact Prod.Lex.right _ (Nat.succ_pos _)
  · subst_vars
    exact Prod.Lex.right _ (Nat.lt_succ_self _)

end

/-! ## Resolving -/

/-- **The members a class comes to**: the first mentions of the leaves of what it lists. -/
def Expands (classes : WrittenClasses) (name : String) (members : List String) : Prop :=
  ∃ listed leaves, Document.find? name classes = some listed ∧ Leaves classes listed leaves
    ∧ members = leaves.eraseDups

theorem Expands.unique {name : String} {members others : List String}
    (h : Expands classes name members) (h' : Expands classes name others) : members = others := by
  obtain ⟨listed, leaves, found, inside, rfl⟩ := h
  obtain ⟨listed', leaves', found', inside', rfl⟩ := h'
  cases found.symm.trans found'
  rw [inside.unique inside']

/-- Members stand once. -/
theorem Expands.nodup {name : String} {members : List String} (h : Expands classes name members) :
    members.Nodup := by
  obtain ⟨_, leaves, _, _, rfl⟩ := h
  exact nodup_eraseDups leaves

/-- No member is a class. -/
theorem Expands.notMem {name : String} {members : List String} (h : Expands classes name members) :
    ∀ member ∈ members, member ∉ classes.map Prod.fst := by
  obtain ⟨_, leaves, _, inside, rfl⟩ := h
  intro member mem
  exact Document.find?_eq_none_iff.mp
    (inside.find?_eq_none member (List.mem_eraseDups.mp mem))

/-- Classes that are found under the same names come to the same members. -/
theorem Expands.congr {others : WrittenClasses} {name : String} {members : List String}
    (same : ∀ name, Document.find? name others = Document.find? name classes)
    (h : Expands classes name members) : Expands others name members := by
  obtain ⟨listed, leaves, found, inside, hmembers⟩ := h
  exact ⟨listed, leaves, (same name).trans found, inside.congr same, hmembers⟩

/-- **Flattening some classes** gives the members of each, or else a genuine cycle. -/
theorem flattenNames_expands {table : ClassTable} (sound : Sound classes table)
    {names : List String} (declared : ∀ name ∈ names, name ∈ classes.map Prod.fst) :
    match ClassMap.flattenNames classes.toMap table names with
    | .ok flat => ∃ resolved : WrittenClasses, flat = resolved.toTable
        ∧ resolved.map Prod.fst = names
        ∧ ∀ name members, (name, members) ∈ resolved → Expands classes name members
    | .error fault => ∃ path, fault = .circularClass path ∧ Chain.IsCycle classes.Refers path := by
  induction names generalizing table with
  | nil => exact ⟨[], rfl, rfl, fun _ _ mem => absurd mem (by simp)⟩
  | cons name names ih =>
    obtain ⟨listed, found⟩ := Document.exists_find?_of_mem (declared name List.mem_cons_self)
    have front := flatten_flattens [] found .start sound
    rw [ClassMap.flattenNames]
    cases result : ClassMap.flatten classes.toMap [] table name with
    | error fault =>
      rw [result] at front
      exact front
    | ok r =>
      rw [result] at front
      obtain ⟨sound', leaves, inside, hmembers⟩ := front
      have behind := ih sound' fun next hnext => declared next (List.mem_cons_of_mem _ hnext)
      dsimp only
      cases result' : ClassMap.flattenNames classes.toMap r.2 names with
      | error fault =>
        rw [result'] at behind
        exact behind
      | ok flat =>
        rw [result'] at behind
        obtain ⟨resolved, rfl, keys, hresolved⟩ := behind
        refine ⟨(name, leaves.eraseDups) :: resolved, ?_, ?_, ?_⟩
        · rw [hmembers]
          rfl
        · rw [List.map_cons, keys]
        · intro other members mem
          obtain same | mem := List.mem_cons.mp mem
          · cases same
            exact ⟨listed, leaves, found, inside, rfl⟩
          · exact hresolved other members mem

/-- Members that have leaves run out of references. -/
theorem Leaves.acc {listed leaves : List String} (h : Leaves classes listed leaves) :
    ∀ name ∈ listed, Acc (Function.swap classes.Refers) name := by
  induction h with
  | nil => exact fun name mem => absurd mem (by simp)
  | @literal name rest leaves found _ ih =>
    intro other mem
    obtain rfl | mem := List.mem_cons.mp mem
    · refine ⟨other, ?_⟩
      rintro next ⟨listed, found', _⟩
      exact absurd (found.symm.trans found') (by simp)
    · exact ih other mem
  | @nested name listed inner rest leaves found _ _ ihInside ihBehind =>
    intro other mem
    obtain rfl | mem := List.mem_cons.mp mem
    · refine ⟨other, ?_⟩
      rintro next ⟨listed', found', hnext, _⟩
      cases found.symm.trans found'
      exact ihInside next hnext
    · exact ihBehind other mem

/-- **Classes that all come to members are not cyclic.** -/
theorem not_cyclic_of_expands
    (h : ∀ name ∈ classes.map Prod.fst, ∃ members, Expands classes name members) :
    ¬ classes.Cyclic := by
  rintro ⟨name, back⟩
  refine Chain.not_transGen_of_acc (fun name => ?_) name back
  refine ⟨name, ?_⟩
  rintro next ⟨listed, found, hnext, _⟩
  obtain ⟨members, listed', leaves, found', inside, _⟩ :=
    h name (List.mem_map_of_mem (Document.mem_of_find? found))
  cases found.symm.trans found'
  exact inside.acc next hnext

/-- **What resolving comes to**: the members of every class, or else a genuine cycle. -/
theorem resolve_expands (classes : WrittenClasses) :
    match ClassMap.resolve classes.toMap with
    | .ok flat => ∃ resolved : WrittenClasses, flat = resolved.toTable
        ∧ resolved.map Prod.fst = classes.map Prod.fst
        ∧ ∀ name members, (name, members) ∈ resolved → Expands classes name members
    | .error fault => ∃ path, fault = .circularClass path ∧ Chain.IsCycle classes.Refers path := by
  have keys : classes.toMap.map Prod.fst = classes.map Prod.fst := by
    rw [toMap, List.map_map]
    rfl
  have empty : Sound classes [] := fun _ _ found => absurd found (by simp [Document.find?])
  rw [ClassMap.resolve, keys]
  exact flattenNames_expands empty fun _ declared => declared

/-- **Where resolving breaks off there is a cycle.** -/
theorem cyclic_of_resolve {fault : Fault} (h : ClassMap.resolve classes.toMap = .error fault) :
    classes.Cyclic := by
  have all := resolve_expands classes
  rw [h] at all
  obtain ⟨path, _, cycle⟩ := all
  exact cycle.exists_transGen

/-- **Resolving gives every class its members** where there is no cycle. -/
theorem exists_resolve (acyclic : ¬ classes.Cyclic) :
    ∃ resolved : WrittenClasses, ClassMap.resolve classes.toMap = .ok resolved.toTable
      ∧ resolved.map Prod.fst = classes.map Prod.fst
      ∧ ∀ name members, (name, members) ∈ resolved → Expands classes name members := by
  have all := resolve_expands classes
  cases result : ClassMap.resolve classes.toMap with
  | error fault => exact absurd (cyclic_of_resolve result) acyclic
  | ok flat =>
    rw [result] at all
    obtain ⟨resolved, rfl, keys, hresolved⟩ := all
    exact ⟨resolved, rfl, keys, hresolved⟩

/-- Where there is a cycle, resolving names one. -/
theorem resolve_of_cyclic (cyclic : classes.Cyclic) :
    ∃ path, ClassMap.resolve classes.toMap = .error (.circularClass path)
      ∧ Chain.IsCycle classes.Refers path := by
  have all := resolve_expands classes
  cases result : ClassMap.resolve classes.toMap with
  | error fault =>
    rw [result] at all
    obtain ⟨path, rfl, cycle⟩ := all
    exact ⟨path, rfl, cycle⟩
  | ok flat =>
    rw [result] at all
    obtain ⟨resolved, _, keys, hresolved⟩ := all
    refine absurd cyclic (not_cyclic_of_expands ?_)
    intro name declared
    rw [← keys] at declared
    obtain ⟨members, found⟩ := Document.exists_find?_of_mem declared
    exact ⟨members, hresolved name members (Document.mem_of_find? found)⟩

/-- What a class refers to depends on what is found only. -/
theorem Refers.congr {others : WrittenClasses}
    (same : ∀ name, Document.find? name others = Document.find? name classes) {a b : String}
    (h : Refers classes a b) : Refers others a b := by
  obtain ⟨listed, found, mem, declared⟩ := h
  obtain ⟨inner, found'⟩ := Document.exists_find?_of_mem declared
  refine ⟨listed, (same a).trans found, mem, ?_⟩
  exact List.mem_map_of_mem (Document.mem_of_find? ((same b).trans found'))

/-- Classes found under the same names are cyclic together. -/
theorem Cyclic.congr {others : WrittenClasses}
    (same : ∀ name, Document.find? name others = Document.find? name classes)
    (h : Cyclic classes) : Cyclic others := by
  obtain ⟨name, back⟩ := h
  exact ⟨name, back.lift id fun _ _ refers => refers.congr same⟩

/-- **The order in which classes are declared does not matter** to what resolving finds. -/
theorem find?_resolved {others resolved resolved' : WrittenClasses}
    (same : ∀ name, Document.find? name others = Document.find? name classes)
    (keys : resolved.map Prod.fst = classes.map Prod.fst)
    (keys' : resolved'.map Prod.fst = others.map Prod.fst)
    (h : ∀ name members, (name, members) ∈ resolved → Expands classes name members)
    (h' : ∀ name members, (name, members) ∈ resolved' → Expands others name members)
    (name : String) : Document.find? name resolved' = Document.find? name resolved := by
  cases found : Document.find? name classes with
  | none =>
    have absent : Document.find? name resolved = none := by
      rw [Document.find?_eq_none_iff, keys, ← Document.find?_eq_none_iff, found]
    rw [absent, Document.find?_eq_none_iff, keys', ← Document.find?_eq_none_iff, same, found]
  | some listed =>
    have declared : name ∈ classes.map Prod.fst :=
      List.mem_map_of_mem (Document.mem_of_find? found)
    have declared' : name ∈ others.map Prod.fst :=
      List.mem_map_of_mem (Document.mem_of_find? ((same name).trans found))
    rw [← keys] at declared
    rw [← keys'] at declared'
    obtain ⟨members, flat⟩ := Document.exists_find?_of_mem declared
    obtain ⟨members', flat'⟩ := Document.exists_find?_of_mem declared'
    have expands := (h name members (Document.mem_of_find? flat)).congr same
    rw [flat, flat', expands.unique (h' name members' (Document.mem_of_find? flat'))]

/-- **Flat classes are their own resolution.** -/
theorem resolve_resolved {resolved : WrittenClasses}
    (keys : resolved.map Prod.fst = classes.map Prod.fst)
    (h : ∀ name members, (name, members) ∈ resolved → Expands classes name members) :
    ClassMap.resolve resolved.toMap = .ok resolved.toTable := by
  have leaf : ∀ name members, (name, members) ∈ resolved →
      ∀ member ∈ members, Document.find? member resolved = none := by
    intro name members mem member hmember
    rw [Document.find?_eq_none_iff, keys]
    exact (h name members mem).notMem member hmember
  -- members are no classes, so they are their own leaves
  have own : ∀ name members, Expands resolved name members → Expands classes name members := by
    rintro name members ⟨listed, leaves, found, inside, rfl⟩
    have mem := Document.mem_of_find? found
    rw [(Leaves.of_forall (leaf name listed mem)).unique inside,
      eraseDups_of_nodup (h name listed mem).nodup]
    exact h name listed mem
  have acyclic : ¬ resolved.Cyclic := by
    rintro ⟨name, back⟩
    obtain ⟨next, ⟨listed, found, mem, declared⟩, _⟩ :=
      Relation.TransGen.head'_iff.mp back
    exact Document.find?_eq_none_iff.mp
      (leaf name listed (Document.mem_of_find? found) next mem) declared
  obtain ⟨again, result, keys', hagain⟩ := exists_resolve acyclic
  have same : again = resolved :=
    Document.eq_of_keys (P := classes.Expands) Expands.unique keys'
      (fun name members mem => own name members (hagain name members mem)) h
  rw [result, same]

/-- **Resolving classes is exact.** It breaks off exactly where some class refers back to itself,
and then with a genuine cycle. Otherwise every class, in the order of declaration, has as its
members the first mentions of the leaves of its full expansion. So members stand once and are no
classes, the classes may be declared in another order, and resolving again changes nothing. -/
theorem resolve_exact (classes : WrittenClasses) :
    (classes.Cyclic ↔ ∃ fault, ClassMap.resolve classes.toMap = .error fault)
    ∧ (classes.Cyclic → ∃ path, ClassMap.resolve classes.toMap = .error (.circularClass path)
        ∧ Chain.IsCycle classes.Refers path)
    ∧ (¬ classes.Cyclic → ∃ resolved : WrittenClasses,
        ClassMap.resolve classes.toMap = .ok resolved.toTable
        ∧ resolved.map Prod.fst = classes.map Prod.fst
        ∧ (∀ name members, (name, members) ∈ resolved →
            (∃ listed leaves, Document.find? name classes = some listed
              ∧ Leaves classes listed leaves
              ∧ (∀ others, Leaves classes listed others → others = leaves)
              ∧ members = leaves.eraseDups)
            ∧ members.Nodup
            ∧ ∀ member ∈ members, member ∉ classes.map Prod.fst)
        ∧ (∀ others : WrittenClasses, classes.Perm others → (classes.map Prod.fst).Nodup →
            ∃ resolved' : WrittenClasses,
              ClassMap.resolve others.toMap = .ok resolved'.toTable
              ∧ ∀ name, Document.find? name resolved' = Document.find? name resolved)
        ∧ ClassMap.resolve resolved.toMap = .ok resolved.toTable) := by
  refine ⟨⟨?_, ?_⟩, resolve_of_cyclic, ?_⟩
  · intro cyclic
    obtain ⟨path, result, _⟩ := resolve_of_cyclic cyclic
    exact ⟨_, result⟩
  · rintro ⟨fault, result⟩
    exact cyclic_of_resolve result
  · intro acyclic
    obtain ⟨resolved, result, keys, expands⟩ := exists_resolve acyclic
    refine ⟨resolved, result, keys, ?_, ?_, resolve_resolved keys expands⟩
    · intro name members mem
      refine ⟨?_, (expands name members mem).nodup, (expands name members mem).notMem⟩
      obtain ⟨listed, leaves, found, inside, hmembers⟩ := expands name members mem
      exact ⟨listed, leaves, found, inside, fun _ others => inside.unique others, hmembers⟩
    · intro others perm nodup
      have same := Document.find?_perm perm nodup
      have acyclic' : ¬ others.Cyclic :=
        fun cyclic => acyclic (cyclic.congr fun name => (same name).symm)
      obtain ⟨resolved', result', keys', expands'⟩ := exists_resolve acyclic'
      exact ⟨resolved', result', find?_resolved same keys keys' expands expands'⟩

/-- A grapheme that is reached twice is a member once, where it is reached first; and of classes that
refer to one another the cycle is named from the first that is met again. -/
example : ClassMap.resolve (toMap [("VI", ["i", "V"]), ("V", ["a", "i"])])
      = .ok (toTable [("VI", ["i", "a"]), ("V", ["a", "i"])])
    ∧ ClassMap.resolve (toMap [("A", ["B"]), ("B", ["C"]), ("C", ["B"])])
      = .error (.circularClass ["B", "C", "B"]) := by
  constructor <;> cbv

end WrittenClasses

end WhistledSpeech
