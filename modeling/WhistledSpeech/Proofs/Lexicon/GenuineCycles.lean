import Mathlib
import WhistledSpeech.Lexicon.Classes
import WhistledSpeech.Lexicon.Pronunciation
import WhistledSpeech.Proofs.Entries
import WhistledSpeech.Proofs.Lexicon.Cycle

/-!
# Cycles that are reported are there

Classes list classes and pronunciations name pronunciations, and both are gone through along a chain of
the names that have been entered and not been left. Whatever a document has in the place of a list, and
whatever has been gone through before: a fault that is a cycle was met at a name that is on the chain, and
the chain there leads from name to name by references of the document (`cycles_genuine`).

Both proofs go after the fault. A name breaks off because it is on the chain, or for a reason that is no
cycle, or because something it refers to breaks off on the chain with the name put behind. What has been
flattened before may be in a table, but what is in the table does not break off.
-/

namespace WhistledSpeech

/-! ## Classes -/

namespace ClassMap

variable {classes : ClassMap} {chain : List String} {name : String} {fault : Fault}

/-- **A class refers to a name** that it lists. -/
def Refers (classes : ClassMap) (a b : String) : Prop :=
  ∃ listed, Document.find? a classes = some listed ∧ ClassMember.grapheme b ∈ listed.items

/-- Only a name can be that of a class. -/
theorem eq_of_classOf? {member : ClassMember} (isClass : classOf? classes member = some name) :
    member = .grapheme name := by
  unfold classOf? at isClass
  obtain ⟨other, named, isClass⟩ := Option.bind_eq_some_iff.mp isClass
  split_ifs at isClass
  cases isClass
  cases member with
  | grapheme n =>
    cases named
    rfl
  | _ => exact absurd named nofun

/-- **Where a list breaks off**, a class that it lists does. -/
theorem exists_of_flattenAll {table : ClassTable} {members listed : List ClassMember}
    (failed : flattenAll classes chain table members listed = .error fault) :
    ∃ table' name, .grapheme name ∈ listed ∧ flatten classes chain table' name = .error fault := by
  induction listed generalizing table members with
  | nil =>
    rw [flattenAll] at failed
    exact absurd failed (by simp)
  | cons member rest ih =>
    have later {table : ClassTable} {members : List ClassMember}
        (failed : flattenAll classes chain table members rest = .error fault) :
        ∃ table' name, .grapheme name ∈ member :: rest
          ∧ flatten classes chain table' name = .error fault := by
      obtain ⟨table', name, mem, failed⟩ := ih failed
      exact ⟨table', name, List.mem_cons_of_mem _ mem, failed⟩
    rw [flattenAll] at failed
    cases isClass : classOf? classes member with
    | none =>
      rw [isClass] at failed
      exact later failed
    | some name =>
      rw [isClass] at failed
      cases result : flatten classes chain table name with
      | error other =>
        simp only [result] at failed
        cases failed
        exact ⟨table, name, eq_of_classOf? isClass ▸ List.mem_cons_self, result⟩
      | ok r =>
        simp only [result] at failed
        exact later failed

/-- **Where a class breaks off**, it is on the chain, or it is missing, or what it lists breaks off. -/
theorem cases_of_flatten {table : ClassTable}
    (failed : flatten classes chain table name = .error fault) :
    (name ∈ chain ∧ fault = .circularClass (Chain.cycle chain name))
      ∨ fault = .missingKey
      ∨ ∃ listed, name ∉ chain ∧ Document.find? name classes = some listed
        ∧ (flattenAll classes (chain ++ [name]) table [] listed.items = .error fault
          ∨ listed.fault = some fault) := by
  rw [flatten] at failed
  split at failed
  · exact absurd failed (by simp)
  by_cases mem : name ∈ chain
  · rw [dif_pos (List.contains_iff_mem.mpr mem)] at failed
    cases failed
    exact .inl ⟨mem, rfl⟩
  rw [dif_neg (fun there => mem (List.contains_iff_mem.mp there))] at failed
  split at failed
  · cases failed
    exact .inr (.inl rfl)
  · next listed found =>
    refine .inr (.inr ⟨listed, mem, found, ?_⟩)
    split at failed
    · next other inside =>
      cases failed
      exact .inl inside
    · split at failed
      · next other broken =>
        cases failed
        exact .inr broken
      · exact absurd failed (by simp)

/-- **A cycle that is met behind a chain of references** is one of references. -/
theorem isCycle_of_flatten {path : List String}
    (plain : ∀ name listed, Document.find? name classes = some listed →
      listed.fault ≠ some (.circularClass path))
    {chain : List String} {name : String} (leads : Chain.Leads classes.Refers chain name)
    {table : ClassTable} (failed : flatten classes chain table name = .error (.circularClass path)) :
    Chain.IsCycle classes.Refers path := by
  obtain ⟨mem, same⟩ | missing | ⟨listed, new, found, inside | broken⟩ := cases_of_flatten failed
  · cases same
    exact leads.isCycle mem
  · exact absurd missing nofun
  · obtain ⟨table', next, mem, failed⟩ := exists_of_flattenAll inside
    exact isCycle_of_flatten plain (leads.step new ⟨listed, found, mem⟩) failed
  · exact absurd broken (plain name listed found)
termination_by Chain.unvisited classes chain
decreasing_by
  exact Chain.unvisited_lt found (by simpa using new)

/-- Where several classes break off, one of them does. -/
theorem exists_of_flattenNames {table : ClassTable} {names : List String}
    (failed : flattenNames classes table names = .error fault) :
    ∃ table' name, flatten classes [] table' name = .error fault := by
  induction names generalizing table with
  | nil => exact absurd failed nofun
  | cons name rest ih =>
    rw [flattenNames] at failed
    cases result : flatten classes [] table name with
    | error other =>
      simp only [result] at failed
      cases failed
      exact ⟨table, name, result⟩
    | ok r =>
      simp only [result] at failed
      cases behind : flattenNames classes r.2 rest with
      | error other =>
        simp only [behind] at failed
        cases failed
        exact ih behind
      | ok others =>
        simp only [behind] at failed
        exact absurd failed nofun

/-- **A cycle that resolving classes reports** is one of references. -/
theorem isCycle_of_resolve {path : List String}
    (plain : ∀ name listed, Document.find? name classes = some listed →
      listed.fault ≠ some (.circularClass path))
    (failed : resolve classes = .error (.circularClass path)) : Chain.IsCycle classes.Refers path := by
  obtain ⟨table, name, failed⟩ := exists_of_flattenNames failed
  exact isCycle_of_flatten plain .start failed

end ClassMap

/-! ## Pronunciations -/

namespace PronunciationRef

variable {named : Pronunciations} {chain : List String} {n : String} {fault : Fault}

/-- **A reference mentions a name** if it is that name or lists it. -/
def Mentions (n : String) : PronunciationRef → Prop
  | name other => other = n
  | items listed => .name n ∈ listed.items

/-- Expands what a reference refers to, on a chain of names. -/
def expandOn (named : Pronunciations) (chain : List String) :
    PronunciationRef → Except Fault (List Document)
  | name n => expandName named chain n
  | items listed => close listed (expandItems named chain listed.items)

theorem expand_eq_expandOn (named : Pronunciations) (ref : PronunciationRef) :
    expand named ref = expandOn named [] ref := by
  cases ref <;> rfl

/-- **Where items break off**, a name that is one of them does. -/
theorem exists_of_expandItems {listed : List PronunciationItem}
    (failed : expandItems named chain listed = .error fault) :
    ∃ n, .name n ∈ listed ∧ expandName named chain n = .error fault := by
  induction listed with
  | nil =>
    rw [expandItems] at failed
    exact absurd failed (by simp)
  | cons item rest ih =>
    have behind (failed : expandItems named chain rest = .error fault) :
        ∃ n, .name n ∈ item :: rest ∧ expandName named chain n = .error fault := by
      obtain ⟨n, mem, failed⟩ := ih failed
      exact ⟨n, List.mem_cons_of_mem _ mem, failed⟩
    cases item with
    | segment raw =>
      rw [expandItems] at failed
      split at failed
      · next other broken =>
        cases failed
        exact behind broken
      · exact absurd failed (by simp)
    | name n =>
      rw [expandItems] at failed
      split at failed
      · next other broken =>
        cases failed
        exact ⟨n, List.mem_cons_self, broken⟩
      · split at failed
        · next other broken =>
          cases failed
          exact behind broken
        · exact absurd failed (by simp)

/-- **Where a reference breaks off**, a name that it mentions does, or its list. -/
theorem cases_of_expandOn {ref : PronunciationRef} (failed : expandOn named chain ref = .error fault) :
    (∃ n, ref.Mentions n ∧ expandName named chain n = .error fault)
      ∨ ∃ listed, ref = .items listed ∧ listed.fault = some fault := by
  cases ref with
  | name n => exact .inl ⟨n, rfl, failed⟩
  | items listed =>
    rw [expandOn] at failed
    unfold close at failed
    split at failed
    · next broken =>
      cases failed
      exact .inr ⟨listed, rfl, broken⟩
    · exact .inl (exists_of_expandItems failed)

/-- **Where a name breaks off**, it is on the chain, or it is not defined, or what it is defined as breaks
off. -/
theorem cases_of_expandName (failed : expandName named chain n = .error fault) :
    (n ∈ chain ∧ fault = .circularPronunciation (Chain.cycle chain n))
      ∨ fault = named.undefined.fault n
      ∨ ∃ ref, n ∉ chain ∧ Document.find? n named.entries = some ref
        ∧ expandOn named (chain ++ [n]) ref = .error fault := by
  rw [expandName] at failed
  by_cases mem : n ∈ chain
  · rw [dif_pos (List.contains_iff_mem.mpr mem)] at failed
    cases failed
    exact .inl ⟨mem, rfl⟩
  rw [dif_neg (fun there => mem (List.contains_iff_mem.mp there))] at failed
  split at failed
  · cases failed
    exact .inr (.inl rfl)
  · next other found => exact .inr (.inr ⟨.name other, mem, found, failed⟩)
  · next listed found => exact .inr (.inr ⟨.items listed, mem, found, failed⟩)

end PronunciationRef

/-- What becomes of a name that is not defined is no cycle. -/
theorem UndefinedName.fault_ne_circular (undefined : UndefinedName) (n : String) (path : List String) :
    undefined.fault n ≠ .circularPronunciation path := by
  cases undefined with
  | missing => exact nofun
  | missingFrom text =>
    rw [UndefinedName.fault]
    split_ifs <;> exact nofun
  | unusable => exact nofun

namespace Pronunciations

open PronunciationRef

variable {named : Pronunciations}

/-- **A pronunciation refers to a name** that is mentioned in its definition. -/
def Refers (named : Pronunciations) (a b : String) : Prop :=
  ∃ ref, Document.find? a named.entries = some ref ∧ ref.Mentions b

/-- **A cycle that is met behind a chain of references** is one of references. -/
theorem isCycle_of_expandName {path : List String}
    (plain : ∀ n listed, Document.find? n named.entries = some (.items listed) →
      listed.fault ≠ some (.circularPronunciation path))
    {chain : List String} {n : String} (leads : Chain.Leads named.Refers chain n)
    (failed : expandName named chain n = .error (.circularPronunciation path)) :
    Chain.IsCycle named.Refers path := by
  obtain ⟨mem, same⟩ | undefined | ⟨ref, new, found, failed⟩ := cases_of_expandName failed
  · cases same
    exact leads.isCycle mem
  · exact absurd undefined.symm (named.undefined.fault_ne_circular n path)
  obtain ⟨next, mention, failed⟩ | ⟨listed, rfl, broken⟩ := cases_of_expandOn failed
  · exact isCycle_of_expandName plain (leads.step new ⟨ref, found, mention⟩) failed
  · exact absurd broken (plain n listed found)
termination_by Chain.unvisited named.entries chain
decreasing_by
  exact Chain.unvisited_lt found (by simpa using new)

/-- **A cycle that expanding a reference reports** is one of references. -/
theorem isCycle_of_expand {path : List String} {ref : PronunciationRef}
    (plain : ∀ n listed, Document.find? n named.entries = some (.items listed) →
      listed.fault ≠ some (.circularPronunciation path))
    (plain' : ∀ listed, ref = .items listed → listed.fault ≠ some (.circularPronunciation path))
    (failed : expand named ref = .error (.circularPronunciation path)) :
    Chain.IsCycle named.Refers path := by
  rw [expand_eq_expandOn] at failed
  obtain ⟨n, _, failed⟩ | ⟨listed, same, broken⟩ := cases_of_expandOn failed
  · exact isCycle_of_expandName plain .start failed
  · exact absurd broken (plain' listed same)

end Pronunciations

/-! ## Documents -/

section Documents

variable {entries : List (String × Document)} {fault : Fault}

/-- **A class of a document lists a member.** -/
def ListsMember (entries : List (String × Document)) (a b : String) : Prop :=
  ∃ listed members, Document.find? a entries = some listed ∧ listed.members? = some members
    ∧ .text b ∈ members

/-- **A pronunciation of a document is defined by a name**: it is another name for that one, or a list that
has it. -/
def IsDefinedBy (entries : List (String × Document)) (a b : String) : Prop :=
  Document.find? a entries = some (.text b)
    ∨ ∃ listed members, Document.find? a entries = some listed ∧ (∀ s, listed ≠ .text s)
      ∧ listed.members? = some members ∧ .text b ∈ members

/-- The members of a list that are names are its texts. -/
theorem ClassMember.mem_of_mem_ofDocuments {values : List Document} {n : String}
    (mem : .grapheme n ∈ (ofDocuments values).items) : .text n ∈ values := by
  induction values with
  | nil => exact absurd mem List.not_mem_nil
  | cons value rest ih =>
    rw [ofDocuments] at mem
    cases member : ofDocument? value with
    | none =>
      rw [member] at mem
      exact absurd mem List.not_mem_nil
    | some first =>
      rw [member] at mem
      obtain rfl | mem := List.mem_cons.mp mem
      · cases value <;> cases member
        exact List.mem_cons_self
      · exact List.mem_cons_of_mem _ (ih mem)

/-- Members break off at a value of the wrong kind only. -/
theorem ClassMember.fault_ofDocuments {values : List Document}
    (broken : (ofDocuments values).fault = some fault) : fault = .wrongType := by
  induction values with
  | nil => exact absurd broken nofun
  | cons value rest ih =>
    rw [ofDocuments] at broken
    cases member : ofDocument? value with
    | none =>
      rw [member] at broken
      cases broken
      rfl
    | some first =>
      rw [member] at broken
      exact ih broken

theorem ClassMap.fault_listed {value : Document} (broken : (listed value).fault = some fault) :
    fault = .wrongType := by
  unfold listed at broken
  split at broken
  · exact ClassMember.fault_ofDocuments broken
  · cases broken
    rfl

theorem ClassMap.ofDocument_object (entries : List (String × Document)) :
    ofDocument (.object entries) = .ok (entries.map fun e => (e.1, listed e.2)) := by
  cases entries <;> rfl

/-- A class that is listed is listed in the document. -/
theorem ListsMember.of_refers {a b : String}
    (refers : ClassMap.Refers (entries.map fun e => (e.1, ClassMap.listed e.2)) a b) :
    ListsMember entries a b := by
  obtain ⟨listed, found, mem⟩ := refers
  rw [Document.find?_map fun _ => ClassMap.listed] at found
  obtain ⟨value, there, rfl⟩ := Option.map_eq_some_iff.mp found
  unfold ClassMap.listed at mem
  split at mem
  · next members gone => exact ⟨value, members, there, gone, ClassMember.mem_of_mem_ofDocuments mem⟩
  · exact absurd mem List.not_mem_nil

theorem Pronunciations.ofModel_object (entries : List (String × Document)) :
    ofModel (.object entries)
      = ofEntries (entries.map fun e => (e.1, PronunciationRef.ofDocument e.2)) := by
  cases entries <;> rfl

/-- A list of a document breaks off if it cannot be gone through, and only then. -/
theorem PronunciationRef.fault_ofDocument {value : Document} {listed : Feed PronunciationItem}
    (same : ofDocument value = .items listed) (broken : listed.fault = some fault) :
    fault = .wrongType := by
  unfold ofDocument at same
  split at same
  · exact absurd same nofun
  · split at same
    · cases same
      exact absurd broken nofun
    · cases same
      cases broken
      rfl

/-- Only a text is a name. -/
theorem PronunciationRef.eq_of_item {raw : Document} {n : String} (same : item raw = .name n) :
    raw = .text n := by
  cases raw with
  | text other =>
    cases same
    rfl
  | _ => exact absurd same nofun

/-- A name that is mentioned in a definition is in the document. -/
theorem IsDefinedBy.of_refers {a b : String}
    (refers : Pronunciations.Refers
      (.ofEntries (entries.map fun e => (e.1, PronunciationRef.ofDocument e.2))) a b) :
    IsDefinedBy entries a b := by
  obtain ⟨ref, found, mention⟩ := refers
  rw [Pronunciations.ofEntries, Document.find?_map fun _ => PronunciationRef.ofDocument] at found
  obtain ⟨value, there, rfl⟩ := Option.map_eq_some_iff.mp found
  unfold PronunciationRef.ofDocument at mention
  split at mention
  · cases (mention : _ = b)
    exact .inl there
  · next notText =>
    split at mention
    · next members gone =>
      obtain ⟨raw, mem, same⟩ := List.mem_map.mp (mention : .name b ∈ members.map PronunciationRef.item)
      cases PronunciationRef.eq_of_item same
      exact .inr ⟨value, members, there, notText, gone, mem⟩
    · exact absurd mention List.not_mem_nil

/-- **Cycles that are reported are there.** Whatever the entries of a document are: if resolving them as
classes breaks off with a cycle, this leads from a class back to it through different classes, each of
which lists the next. If expanding a reference breaks off with a cycle, where they are taken as named
pronunciations, it leads from a name back to it through different names, each of which is defined by the
next. -/
theorem cycles_genuine (entries : List (String × Document)) (path : List String) :
    ((ClassMap.ofDocument (.object entries) >>= ClassMap.resolve) = .error (.circularClass path) →
      Chain.IsCycle (ListsMember entries) path)
    ∧ ∀ reference : Document,
        PronunciationRef.expand (Pronunciations.ofModel (.object entries))
            (PronunciationRef.ofDocument reference) = .error (.circularPronunciation path) →
          Chain.IsCycle (IsDefinedBy entries) path := by
  constructor
  · intro failed
    rw [ClassMap.ofDocument_object] at failed
    refine (ClassMap.isCycle_of_resolve (fun name listed found broken => ?_) failed).mono
      fun _ _ => ListsMember.of_refers
    rw [Document.find?_map fun _ => ClassMap.listed] at found
    obtain ⟨value, _, rfl⟩ := Option.map_eq_some_iff.mp found
    exact absurd (ClassMap.fault_listed broken) nofun
  · intro reference failed
    rw [Pronunciations.ofModel_object] at failed
    refine (Pronunciations.isCycle_of_expand (fun n listed found broken => ?_)
      (fun listed same broken => ?_) failed).mono fun _ _ => IsDefinedBy.of_refers
    · rw [Pronunciations.ofEntries, Document.find?_map fun _ => PronunciationRef.ofDocument] at found
      obtain ⟨value, _, same⟩ := Option.map_eq_some_iff.mp found
      exact absurd (PronunciationRef.fault_ofDocument same broken) nofun
    · exact absurd (PronunciationRef.fault_ofDocument same broken) nofun

/-- A name that only leads to a cycle is no part of it. -/
theorem cycles_genuine_leadIn :
    Chain.IsCycle (ListsMember [("A", .list [.text "x", .text "B"]), ("B", .list [.text "C"]),
        ("C", .list [.text "x", .text "B"])]) ["B", "C", "B"]
    ∧ Chain.IsCycle (IsDefinedBy [("p", .text "q"), ("q", .list [.null, .text "r"]), ("r", .text "q")])
        ["q", "r", "q"] :=
  ⟨(cycles_genuine _ _).1 (by cbv), (cycles_genuine _ _).2 (.list [.text "p"]) (by cbv)⟩

end Documents

end WhistledSpeech
