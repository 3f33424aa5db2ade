import Mathlib
import WhistledSpeech.Proofs.Formula.Resolution

/-!
# The constants of a document

A document gives constants as numbers and as formulas over other constants, in any order. Two names
stand for a value without being given, and a document may redefine them.

Which constants can be resolved is a matter of the definitions alone (`IsStuck`): it takes no rounds to
say it. `Scope.ofDocument` resolves the constants of a document exactly if none is stuck and no
operation is without a value, and it reports just those that are stuck (`ofDocument_exact`).

Nor does the order of the entries matter, as far as no formula names one of the two built-in constants
while another formula redefines it (`ofDocument_perm`). Where one does it sees the new value if the
redefinition comes before it, and the built-in one otherwise (`ofDocument_redefined_order`).
-/

namespace WhistledSpeech

namespace Scope

open Pending

variable {α : Type} {definitions others : List (String × Definition α)} {name : String}

/-! ## Definitions -/

/-- **A name stands for a value before any formula is evaluated**: it is built in, or a number is
given for it. -/
def IsGiven (definitions : List (String × Definition α)) (name : String) : Prop :=
  name = "pi" ∨ name = "e" ∨ ∃ x, (name, Definition.value x) ∈ definitions

/-- **A constant is stuck**: it is defined by a formula which waits, directly or through the formulas
of other constants, for a name that is not defined or for one that waits for itself. -/
def IsStuck (definitions : List (String × Definition α)) (name : String) : Prop :=
  Stuck (IsGiven definitions) (pendingOf definitions) name

theorem mem_pendingOf {f : Formula} :
    (name, f) ∈ pendingOf definitions ↔ (name, Definition.formula f) ∈ definitions := by
  unfold pendingOf
  rw [List.mem_filterMap]
  constructor
  · rintro ⟨⟨key, definition⟩, mem, made⟩
    cases definition with
    | value x => exact absurd made (by simp)
    | formula g =>
      cases made
      exact mem
  · exact fun mem => ⟨_, mem, rfl⟩

theorem pendingOf_keys_sublist (definitions : List (String × Definition α)) :
    ((pendingOf definitions).map Prod.fst).Sublist (definitions.map Prod.fst) := by
  induction definitions with
  | nil => exact .refl _
  | cons entry rest ih =>
    obtain ⟨key, definition⟩ := entry
    cases definition with
    | value x => exact ih.cons _
    | formula f => exact ih.cons_cons key

/-- Numbers entered for other names leave a name as it is. -/
theorem get?_enterValues_of_notMem (scope : Scope α)
    (none : ∀ x, (name, Definition.value x) ∉ definitions) :
    (enterValues scope definitions).get? name = scope.get? name := by
  induction definitions generalizing scope with
  | nil => rfl
  | cons entry rest ih =>
    obtain ⟨key, definition⟩ := entry
    have behind := fun scope => ih scope fun x mem => none x (List.mem_cons_of_mem _ mem)
    cases definition with
    | value x =>
      have ne : name ≠ key := by
        rintro rfl
        exact none x List.mem_cons_self
      exact (behind (scope.set key x)).trans (get?_set_of_ne scope ne x)
    | formula f => exact behind scope

/-- A number that is entered is what its name stands for. -/
theorem get?_enterValues_of_mem (scope : Scope α) (distinct : (definitions.map Prod.fst).Nodup)
    {x : α} (mem : (name, Definition.value x) ∈ definitions) :
    (enterValues scope definitions).get? name = some x := by
  induction definitions generalizing scope with
  | nil => exact absurd mem List.not_mem_nil
  | cons entry rest ih =>
    obtain ⟨key, definition⟩ := entry
    obtain ⟨new, distinct'⟩ := List.nodup_cons.mp distinct
    obtain same | behind := List.mem_cons.mp mem
    · cases same
      have none : ∀ y, (name, Definition.value y) ∉ rest :=
        fun y hy => new (List.mem_map.mpr ⟨_, hy, rfl⟩)
      exact (get?_enterValues_of_notMem (scope.set name x) none).trans
        (get?_set_self scope name x)
    · cases definition with
      | value y => exact ih (scope.set key y) distinct' behind
      | formula f => exact ih scope distinct' behind

/-- Entries in another order enter the same numbers. -/
theorem get?_enterValues_perm (scope : Scope α) (perm : definitions.Perm others)
    (distinct : (definitions.map Prod.fst).Nodup) (name : String) :
    (enterValues scope others).get? name = (enterValues scope definitions).get? name := by
  have distinct' : (others.map Prod.fst).Nodup := (perm.map Prod.fst).nodup_iff.mp distinct
  by_cases number : ∃ x, (name, Definition.value x) ∈ definitions
  · obtain ⟨x, mem⟩ := number
    rw [get?_enterValues_of_mem scope distinct mem,
      get?_enterValues_of_mem scope distinct' (perm.mem_iff.mp mem)]
  · have none := not_exists.mp number
    rw [get?_enterValues_of_notMem scope none,
      get?_enterValues_of_notMem scope fun x mem => none x (perm.mem_iff.mpr mem)]

/-- What has a value after numbers are entered. -/
theorem contains_enterValues_iff (scope : Scope α) :
    (enterValues scope definitions).contains name = true
      ↔ scope.contains name = true ∨ ∃ x, (name, Definition.value x) ∈ definitions := by
  induction definitions generalizing scope with
  | nil => exact ⟨.inl, fun h => h.elim id fun ⟨_, mem⟩ => absurd mem List.not_mem_nil⟩
  | cons entry rest ih =>
    obtain ⟨key, definition⟩ := entry
    cases definition with
    | value x =>
      refine (ih (scope.set key x)).trans ?_
      rw [contains_set]
      constructor
      · rintro ((rfl | given) | ⟨y, mem⟩)
        · exact .inr ⟨x, List.mem_cons_self⟩
        · exact .inl given
        · exact .inr ⟨y, List.mem_cons_of_mem _ mem⟩
      · rintro (given | ⟨y, mem⟩)
        · exact .inl (.inr given)
        · obtain same | mem := List.mem_cons.mp mem
          · cases same
            exact .inl (.inl rfl)
          · exact .inr ⟨y, mem⟩
    | formula f =>
      refine (ih scope).trans (or_congr_right (exists_congr fun y => ?_))
      simp

variable [Arithmetic α]

theorem contains_builtIn : (builtIn : Scope α).contains name = true ↔ name = "pi" ∨ name = "e" := by
  unfold contains get? builtIn
  rw [Document.find?, Document.find?, Document.find?]
  by_cases isPi : "pi" = name
  · simp [isPi]
  · by_cases isE : "e" = name
    · simp [isPi, isE]
    · simp [isPi, isE, Ne.symm isPi, Ne.symm isE]

/-- **What is given has a value at the start**, and nothing else has. -/
theorem contains_start :
    (fun name => (enterValues builtIn definitions : Scope α).contains name = true)
      = IsGiven definitions := by
  funext name
  rw [contains_enterValues_iff, contains_builtIn, or_assoc]
  rfl

/-! ## What resolving comes to -/

omit [Arithmetic α] in
theorem mem_leftOver {left : Pending} {text : String} :
    (name, text) ∈ leftOver left ↔ ∃ f, (name, f) ∈ left ∧ f.text = text := by
  unfold leftOver
  rw [List.mem_map]
  constructor
  · rintro ⟨⟨key, f⟩, mem, made⟩
    cases made
    exact ⟨f, List.mem_mergeSort.mp mem, rfl⟩
  · rintro ⟨f, mem, rfl⟩
    exact ⟨(name, f), List.mem_mergeSort.mpr mem, rfl⟩

omit [Arithmetic α] in
/-- What is left over is reported in the order of the names. -/
theorem pairwise_leftOver {left : Pending} (distinct : (left.map Prod.fst).Nodup) :
    (leftOver left).Pairwise fun a b => a.1 < b.1 := by
  unfold leftOver
  rw [List.pairwise_map]
  have trans : ∀ a b c : String × Formula,
      decide (a.1 ≤ b.1) = true → decide (b.1 ≤ c.1) = true → decide (a.1 ≤ c.1) = true :=
    fun a b c ab bc => decide_eq_true (le_trans (of_decide_eq_true ab) (of_decide_eq_true bc))
  have total : ∀ a b : String × Formula, (decide (a.1 ≤ b.1) || decide (b.1 ≤ a.1)) = true := by
    intro a b
    rw [← Bool.decide_or]
    exact decide_eq_true (le_total a.1 b.1)
  have sorted := List.pairwise_mergeSort trans total left
  have apart : (left.mergeSort fun a b => decide (a.1 ≤ b.1)).Pairwise fun a b => a.1 ≠ b.1 :=
    List.pairwise_map.mp (((List.mergeSort_perm left _).map Prod.fst).nodup_iff.mpr distinct)
  exact (sorted.and apart).imp fun h => lt_of_le_of_ne (of_decide_eq_true h.1) h.2

/-- **What resolving definitions comes to.** A fault is that of a formula without a value, or the
report of the formulas that are stuck. -/
theorem ofDefinitions_eq_error {fault : Fault} (distinct : (definitions.map Prod.fst).Nodup)
    (result : ofDefinitions definitions = .error fault) :
    (∃ (name : String) (f : Formula) (scope : Scope α) (cause : ArithmeticFault),
        (name, Definition.formula f) ∈ definitions
        ∧ fault = .undefinedFormula f.text cause
        ∧ (∀ b ∈ f.names, scope.contains b = true)
        ∧ scope.eval f unbound = .error fault)
      ∨ ∃ left : Pending, left ≠ [] ∧ (left.map Prod.fst).Nodup
        ∧ (∀ entry ∈ left, (entry.1, Definition.formula entry.2) ∈ definitions)
        ∧ (∀ name, IsStuck definitions name ↔ name ∈ left.map Prod.fst)
        ∧ fault = .unresolvableConstants (leftOver left) := by
  have distinct' := distinct.sublist (pendingOf_keys_sublist definitions)
  have ends := resolve_ends (enterValues builtIn definitions) (pendingOf definitions)
  unfold ofDefinitions at result
  rw [result] at ends
  obtain ⟨scope, left, run, halts⟩ := ends
  have progress := Run.invariant (fun h step => Progress.step h step) run (.init distinct')
  cases halts with
  | @undefined entry _ mem ready value =>
    refine .inl ⟨entry.1, entry.2, scope, ?_⟩
    obtain ⟨x, hx⟩ | ⟨cause, hcause⟩ := eval_of_isReady ready
    · exact absurd (value.symm.trans hx) (by simp)
    · cases value.symm.trans hcause
      exact ⟨cause, mem_pendingOf.mp (progress.subset entry mem), rfl, isReady_iff.mp ready, hcause⟩
  | blocked some waiting =>
    refine .inr ⟨left, some, progress.nodup, ?_, ?_, rfl⟩
    · exact fun entry mem => mem_pendingOf.mp (progress.subset entry mem)
    · intro name
      unfold IsStuck
      rw [← contains_start]
      exact progress.stuck_iff distinct' waiting name

/-- No formula names a built-in constant that a formula redefines. -/
def BuiltInsApart (definitions : List (String × Definition α)) : Prop :=
  ∀ builtIn f, builtIn = "pi" ∨ builtIn = "e" → (builtIn, Definition.formula f) ∈ definitions →
    ∀ name g, (name, Definition.formula g) ∈ definitions → builtIn ∉ g.names

theorem separate_start (distinct : (definitions.map Prod.fst).Nodup)
    (apart : BuiltInsApart definitions) :
    Separate (enterValues builtIn definitions) (pendingOf definitions) := by
  intro entry mem b hb given redefined
  obtain ⟨⟨b, f⟩, hf, rfl⟩ := List.mem_map.mp redefined
  have given' : IsGiven definitions b := by
    rw [← contains_start]
    exact given
  have formula := mem_pendingOf.mp hf
  obtain isPi | isE | ⟨x, number⟩ := given'
  · exact apart b f (.inl isPi) formula entry.1 entry.2 (mem_pendingOf.mp mem) hb
  · exact apart b f (.inr isE) formula entry.1 entry.2 (mem_pendingOf.mp mem) hb
  · exact absurd (List.inj_on_of_nodup_map distinct formula number rfl) (by simp)

/-- **Where resolving definitions goes through**, what is found. -/
theorem ofDefinitions_eq_ok {scope : Scope α} (distinct : (definitions.map Prod.fst).Nodup)
    (result : ofDefinitions definitions = .ok scope) :
    (∀ name, ¬ IsStuck definitions name)
      ∧ (∀ name ∈ definitions.map Prod.fst, scope.contains name = true)
      ∧ (BuiltInsApart definitions →
          Settled (enterValues builtIn definitions) (pendingOf definitions) (scope, [])) := by
  obtain ⟨free, has, settled⟩ :=
    settled_of_resolve (distinct.sublist (pendingOf_keys_sublist definitions)) result
  refine ⟨?_, ?_, fun apart => settled (separate_start distinct apart)⟩
  · intro name stuck
    unfold IsStuck at stuck
    rw [← contains_start] at stuck
    exact free name stuck
  · intro name mem
    obtain ⟨⟨key, definition⟩, hentry, rfl⟩ := List.mem_map.mp mem
    rw [has]
    cases definition with
    | value x => exact .inl ((contains_enterValues_iff _).mpr (.inr ⟨x, hentry⟩))
    | formula f => exact .inr (List.mem_map.mpr ⟨_, mem_pendingOf.mpr hentry, rfl⟩)

/-- **Definitions in another order** resolve to the same values. -/
theorem ofDefinitions_perm {scope : Scope α} (perm : definitions.Perm others)
    (distinct : (definitions.map Prod.fst).Nodup) (apart : BuiltInsApart definitions)
    (result : ofDefinitions definitions = .ok scope) :
    ∃ scope', ofDefinitions others = .ok scope' ∧ ∀ name, scope'.get? name = scope.get? name := by
  obtain ⟨free, _, settled⟩ := ofDefinitions_eq_ok distinct result
  have distinct' : (others.map Prod.fst).Nodup := (perm.map Prod.fst).nodup_iff.mp distinct
  have pending : (pendingOf definitions).Perm (pendingOf others) := perm.filterMap _
  have keys := fun name => (pending.map Prod.fst).mem_iff (a := name)
  have given : IsGiven others = IsGiven definitions := by
    funext name
    simp only [IsGiven, perm.mem_iff]
  have apart' : BuiltInsApart others := fun builtIn f isBuiltIn mem name g mem' =>
    apart builtIn f isBuiltIn (perm.mem_iff.mpr mem) name g (perm.mem_iff.mpr mem')
  refine resolve_eq_ok_of_settled (distinct'.sublist (pendingOf_keys_sublist others))
    (separate_start distinct' apart') ?_ ?_
  · intro name stuck
    rw [contains_start, given] at stuck
    exact free name (stuck.of_perm pending.symm)
  · exact {
      untouched := fun name notMem => by
        rw [get?_enterValues_perm builtIn perm distinct]
        exact (settled apart).untouched name (mt (keys name).mp notMem)
      solved := fun entry mem notMem =>
        (settled apart).solved entry (pending.mem_iff.mpr mem) notMem
      final := fun _ _ _ _ _ => List.not_mem_nil }

/-! ## Documents -/

theorem ofDocument_object (entries : List (String × Document)) :
    ofDocument (.object entries) = Definition.ofEntries entries >>= ofDefinitions := by
  have given : (Document.object entries).optionalEntries = .ok entries := by
    cases entries <;> rfl
  unfold ofDocument
  rw [given]
  rfl

/-- **Entries are read one for one.** -/
theorem ofEntries_eq_ok_iff {entries : List (String × Document)}
    {definitions : List (String × Definition Float)} :
    Definition.ofEntries entries = .ok definitions
      ↔ Document.OneForOne (fun _ value definition => Definition.ofDocument value = .ok definition)
          entries definitions := by
  induction entries generalizing definitions with
  | nil =>
    constructor
    · intro h
      cases h
      exact .nil
    · intro h
      cases h
      rfl
  | cons entry rest ih =>
    obtain ⟨name, value⟩ := entry
    rw [Definition.ofEntries]
    constructor
    · intro h
      obtain ⟨definition, front, h⟩ := bind_eq_ok_iff.mp h
      obtain ⟨behind, hbehind, h⟩ := bind_eq_ok_iff.mp h
      cases h
      exact .cons ⟨rfl, front⟩ (ih.mp hbehind)
    · intro h
      cases h with
      | @cons _ made _ _ front behind =>
        obtain ⟨name', definition⟩ := made
        obtain ⟨rfl, front⟩ := front
        exact bind_eq_ok_iff.mpr ⟨definition, front, bind_eq_ok_iff.mpr ⟨_, ih.mpr behind, rfl⟩⟩

/-- Entries in another order give the same definitions in another order. -/
theorem ofEntries_perm {entries others : List (String × Document)}
    {definitions : List (String × Definition Float)} (perm : entries.Perm others)
    (parsed : Definition.ofEntries entries = .ok definitions) :
    ∃ definitions', Definition.ofEntries others = .ok definitions'
      ∧ definitions.Perm definitions' := by
  obtain ⟨definitions', made, perm'⟩ :=
    List.perm_comp_forall₂ perm.symm (ofEntries_eq_ok_iff.mp parsed)
  exact ⟨definitions', ofEntries_eq_ok_iff.mpr made, perm'.symm⟩

/-- **Resolving the constants of a document is exact.** If an evaluation has no value, that is the fault.
Otherwise there is a fault exactly if some constant is stuck, and it lists the constants that are stuck,
in the order of their names and with their formulas. If none is stuck, every entry has a value, and
with neither built-in constant redefined by a formula each formula has its value in the constants there
are in the end. -/
theorem ofDocument_exact {entries : List (String × Document)}
    {definitions : List (String × Definition Float)} (distinct : (entries.map Prod.fst).Nodup)
    (parsed : Definition.ofEntries entries = .ok definitions) :
    (∀ text cause, ofDocument (.object entries) = .error (.undefinedFormula text cause) →
        ∃ (name : String) (f : Formula) (scope : Scope Float),
          (name, Definition.formula f) ∈ definitions ∧ f.text = text
          ∧ (∀ b ∈ f.names, scope.contains b = true)
          ∧ scope.eval f unbound = .error (.undefinedFormula text cause))
    ∧ ((∀ text cause, ofDocument (.object entries) ≠ .error (.undefinedFormula text cause)) →
        ((∃ fault, ofDocument (.object entries) = .error fault)
          ↔ ∃ name, IsStuck definitions name)
        ∧ ((∃ name, IsStuck definitions name) →
            ∃ listed, ofDocument (.object entries) = .error (.unresolvableConstants listed)
              ∧ listed.Pairwise (fun a b => a.1 < b.1)
              ∧ ∀ name text, (name, text) ∈ listed ↔ IsStuck definitions name
                ∧ ∃ f, (name, Definition.formula f) ∈ definitions ∧ f.text = text)
        ∧ ((¬ ∃ name, IsStuck definitions name) →
            ∃ scope, ofDocument (.object entries) = .ok scope
              ∧ (∀ name ∈ entries.map Prod.fst, scope.contains name = true)
              ∧ ((∀ f, ("pi", Definition.formula f) ∉ definitions
                    ∧ ("e", Definition.formula f) ∉ definitions) →
                  ∀ name f, (name, Definition.formula f) ∈ definitions →
                    ∃ x, scope.get? name = some x ∧ scope.eval f unbound = .ok x))) := by
  have keys : definitions.map Prod.fst = entries.map Prod.fst :=
    (ofEntries_eq_ok_iff.mp parsed).keys
  have same : ofDocument (.object entries) = ofDefinitions definitions := by
    rw [ofDocument_object, parsed]
    rfl
  rw [same]
  rw [← keys] at distinct ⊢
  cases result : ofDefinitions definitions with
  | ok scope =>
    obtain ⟨free, has, settled⟩ := ofDefinitions_eq_ok distinct result
    refine ⟨fun _ _ h => absurd h (by simp), fun _ => ⟨⟨?_, ?_⟩, ?_, ?_⟩⟩
    · rintro ⟨fault, h⟩
      exact absurd h (by simp)
    · rintro ⟨name, stuck⟩
      exact absurd stuck (free name)
    · rintro ⟨name, stuck⟩
      exact absurd stuck (free name)
    · intro _
      refine ⟨scope, rfl, has, fun kept name f mem => ?_⟩
      have apart : BuiltInsApart definitions := by
        rintro builtIn f (rfl | rfl) redefined
        · exact absurd redefined (kept f).1
        · exact absurd redefined (kept f).2
      exact (settled apart).solved (name, f) (mem_pendingOf.mpr mem) List.not_mem_nil
  | error fault =>
    obtain ⟨name, f, scope, cause, mem, rfl, bound, value⟩ | ⟨left, some, nodup, mem, stuck, rfl⟩ :=
      ofDefinitions_eq_error distinct result
    · refine ⟨?_, fun computable => absurd rfl (computable f.text cause)⟩
      intro text cause' h
      cases h
      exact ⟨name, f, scope, mem, rfl, bound, value⟩
    · obtain ⟨entry, hentry⟩ := List.exists_mem_of_ne_nil left some
      have isStuck := (stuck entry.1).mpr (List.mem_map_of_mem hentry)
      refine ⟨fun _ _ h => absurd h (by simp), fun _ => ⟨?_, fun _ => ?_, ?_⟩⟩
      · exact ⟨fun _ => ⟨entry.1, isStuck⟩, fun _ => ⟨_, rfl⟩⟩
      · refine ⟨leftOver left, rfl, pairwise_leftOver nodup, fun name text => ?_⟩
        rw [mem_leftOver, stuck]
        constructor
        · rintro ⟨f, hf, htext⟩
          exact ⟨List.mem_map.mpr ⟨_, hf, rfl⟩, f, mem _ hf, htext⟩
        · rintro ⟨hname, f, hf, htext⟩
          obtain ⟨⟨name, g⟩, hg, rfl⟩ := List.mem_map.mp hname
          cases List.inj_on_of_nodup_map distinct hf (mem _ hg) rfl
          exact ⟨g, hg, htext⟩
      · exact fun free => absurd ⟨entry.1, isStuck⟩ free

/-- **Two constants waiting for each other** are both reported, and a third is not. -/
theorem ofDocument_exact_cycle :
    let definitions : List (String × Definition Float) :=
      [("A", .formula ⟨"B", .name "B"⟩), ("B", .formula ⟨"A", .name "A"⟩),
        ("C", .formula ⟨"pi", .name "pi"⟩)]
    ∃ listed,
      ofDocument (.object [("A", .text "B"), ("B", .text "A"), ("C", .text "pi")])
          = .error (.unresolvableConstants listed)
      ∧ ∀ name text, (name, text) ∈ listed ↔ IsStuck definitions name
        ∧ ∃ f, (name, Definition.formula f) ∈ definitions ∧ f.text = text := by
  intro definitions
  have parsed : Definition.ofEntries
      [("A", Document.text "B"), ("B", .text "A"), ("C", .text "pi")] = .ok definitions := by
    cbv
  have stops : ofDefinitions definitions = .error (.unresolvableConstants
      (leftOver [("A", ⟨"B", .name "B"⟩), ("B", ⟨"A", .name "A"⟩)])) := by
    unfold ofDefinitions
    rw [resolve]
    show resolve _ [("A", ⟨"B", .name "B"⟩), ("B", ⟨"A", .name "A"⟩)] = _
    rw [resolve]
    rfl
  have report : ofDocument (.object [("A", .text "B"), ("B", .text "A"), ("C", .text "pi")])
      = ofDefinitions definitions := by
    rw [ofDocument_object, parsed]
    rfl
  rw [stops] at report
  have outcome := (ofDocument_exact (by decide) parsed).2 fun text cause undefined => by
    rw [report] at undefined
    exact absurd undefined (by simp)
  obtain ⟨listed, result, _, mem⟩ := outcome.2.1 (outcome.1.mp ⟨_, report⟩)
  exact ⟨listed, result, mem⟩

/-- **A formula of a document** under a name. -/
def GivesFormula (entries : List (String × Document)) (name : String) (f : Formula) : Prop :=
  ∃ value, (name, value) ∈ entries ∧ Definition.ofDocument value = .ok (.formula f)

theorem givesFormula_of_mem {entries : List (String × Document)}
    {definitions : List (String × Definition Float)} {f : Formula}
    (parsed : Definition.ofEntries entries = .ok definitions)
    (mem : (name, Definition.formula f) ∈ definitions) : GivesFormula entries name f := by
  have made := ofEntries_eq_ok_iff.mp parsed
  clear parsed
  induction made with
  | nil => exact absurd mem List.not_mem_nil
  | @cons entry entry' rest rest' front _ ih =>
    obtain rfl | behind := List.mem_cons.mp mem
    · obtain ⟨rfl, front⟩ := front
      exact ⟨entry.2, List.mem_cons_self, front⟩
    · obtain ⟨value, mem', made'⟩ := ih behind
      exact ⟨value, List.mem_cons_of_mem _ mem', made'⟩

/-- Constants in another order resolve to the same values, where the given order resolves. -/
theorem ofDocument_eq_ok_of_perm {entries others : List (String × Document)} {scope : Scope Float}
    (perm : entries.Perm others) (distinct : (entries.map Prod.fst).Nodup)
    (apart : ∀ builtIn f, builtIn = "pi" ∨ builtIn = "e" → GivesFormula entries builtIn f →
      ∀ name g, GivesFormula entries name g → builtIn ∉ g.names)
    (result : ofDocument (.object entries) = .ok scope) :
    ∃ scope', ofDocument (.object others) = .ok scope'
      ∧ ∀ name, scope'.get? name = scope.get? name := by
  rw [ofDocument_object] at result ⊢
  obtain ⟨definitions, parsed, resolved⟩ := bind_eq_ok_iff.mp result
  obtain ⟨definitions', parsed', perm'⟩ := ofEntries_perm perm parsed
  rw [← (ofEntries_eq_ok_iff.mp parsed).keys] at distinct
  have apart' : BuiltInsApart definitions := fun builtIn f isBuiltIn mem name g mem' =>
    apart builtIn f isBuiltIn (givesFormula_of_mem parsed mem) name g
      (givesFormula_of_mem parsed mem')
  rw [parsed']
  exact ofDefinitions_perm perm' distinct apart' resolved

/-- **The order of the constants of a document does not matter**, as far as no formula names one of
the two built-in constants while another redefines it: either there is a fault in both orders, or
every name stands for the same in both. -/
theorem ofDocument_perm {entries others : List (String × Document)} (perm : entries.Perm others)
    (distinct : (entries.map Prod.fst).Nodup)
    (apart : ∀ builtIn f, builtIn = "pi" ∨ builtIn = "e" → GivesFormula entries builtIn f →
      ∀ name g, GivesFormula entries name g → builtIn ∉ g.names) :
    ((∃ fault, ofDocument (.object entries) = .error fault)
        ∧ ∃ fault, ofDocument (.object others) = .error fault)
      ∨ ∃ scope scope', ofDocument (.object entries) = .ok scope
        ∧ ofDocument (.object others) = .ok scope'
        ∧ ∀ name, scope'.get? name = scope.get? name := by
  cases result : ofDocument (.object entries) with
  | ok scope =>
    obtain ⟨scope', result', same⟩ := ofDocument_eq_ok_of_perm perm distinct apart result
    exact .inr ⟨scope, scope', rfl, result', same⟩
  | error fault =>
    refine .inl ⟨⟨fault, rfl⟩, ?_⟩
    cases result' : ofDocument (.object others) with
    | error fault' => exact ⟨fault', rfl⟩
    | ok scope' =>
      -- what resolves in the other order resolves in this one
      have back : ∀ {name f}, GivesFormula others name f → GivesFormula entries name f :=
        fun ⟨value, mem, made⟩ => ⟨value, perm.mem_iff.mpr mem, made⟩
      obtain ⟨scope, impossible, _⟩ := ofDocument_eq_ok_of_perm perm.symm
        ((perm.map Prod.fst).nodup_iff.mp distinct)
        (fun builtIn f isBuiltIn given name g given' =>
          apart builtIn f isBuiltIn (back given) name g (back given')) result'
      rw [result] at impossible
      exact absurd impossible (by simp)

/-- A chain of formulas down to a built-in constant that a number redefines. -/
theorem ofDocument_perm_chain :
    ∃ scope scope' : Scope Float,
      ofDocument (.object [("a", .text "b"), ("b", .text "pi"), ("pi", .float 3)]) = .ok scope
      ∧ ofDocument (.object [("pi", .float 3), ("b", .text "pi"), ("a", .text "b")]) = .ok scope'
      ∧ ∀ name, scope'.get? name = scope.get? name := by
  have parsed : Definition.ofEntries
      [("a", Document.text "b"), ("b", .text "pi"), ("pi", .float 3)]
      = .ok [("a", .formula ⟨"b", .name "b"⟩), ("b", .formula ⟨"pi", .name "pi"⟩),
          ("pi", .value 3)] := by
    cbv
  have resolved : ofDocument
      (.object [("a", .text "b"), ("b", .text "pi"), ("pi", .float 3)])
      = .ok ⟨[("pi", 3), ("e", Arithmetic.e), ("b", 3), ("a", 3)]⟩ := by
    rw [ofDocument_object, parsed]
    show ofDefinitions _ = _
    unfold ofDefinitions
    rw [resolve]
    show resolve _ [("a", ⟨"b", .name "b"⟩)] = _
    rw [resolve]
    show resolve _ [] = _
    rw [resolve]
    rfl
  have apart : ∀ builtIn f, builtIn = "pi" ∨ builtIn = "e" →
      GivesFormula [("a", .text "b"), ("b", .text "pi"), ("pi", .float 3)] builtIn f →
      ∀ name g, GivesFormula [("a", .text "b"), ("b", .text "pi"), ("pi", .float 3)] name g →
        builtIn ∉ g.names := by
    rintro _ f (rfl | rfl) ⟨value, mem, made⟩
    · cases (by simpa using mem : value = .float 3)
      exact absurd made (by simp [Definition.ofDocument, Document.number?, Except.map])
    · exact absurd mem (by simp)
  have perm : [("a", Document.text "b"), ("b", .text "pi"), ("pi", .float 3)].Perm
      [("pi", .float 3), ("b", .text "pi"), ("a", .text "b")] :=
    (List.reverse_perm _).symm
  obtain ⟨⟨fault, impossible⟩, _⟩ | both := ofDocument_perm perm (by decide) apart
  · rw [resolved] at impossible
    exact absurd impossible (by simp)
  · exact both

/-- **What a redefinition is worth depends on where it stands.** A formula that names the constant
sees the number built in before the redefinition, and the new one after it. -/
theorem ofDocument_redefined_order :
    ∃ scope scope' : Scope Float,
      [("x", Document.text "e"), ("e", .text "2")].Perm [("e", .text "2"), ("x", .text "e")]
      ∧ (["x", "e"] : List String).Nodup
      ∧ ofDocument (.object [("x", .text "e"), ("e", .text "2")]) = .ok scope
      ∧ ofDocument (.object [("e", .text "2"), ("x", .text "e")]) = .ok scope'
      ∧ scope.get? "x" = some Arithmetic.e
      ∧ scope'.get? "x" = some (Arithmetic.ofDecimal 2 0)
      ∧ scope.get? "x" ≠ scope'.get? "x" := by
  have first : Definition.ofEntries [("x", Document.text "e"), ("e", .text "2")]
      = .ok [("x", .formula ⟨"e", .name "e"⟩), ("e", .formula ⟨"2", .number 2 0⟩)] := by
    cbv
  have second : Definition.ofEntries [("e", Document.text "2"), ("x", .text "e")]
      = .ok [("e", .formula ⟨"2", .number 2 0⟩), ("x", .formula ⟨"e", .name "e"⟩)] := by
    cbv
  have apart : (Arithmetic.e : Float) ≠ Arithmetic.ofDecimal 2 0 := by decide +kernel
  refine ⟨⟨[("pi", Arithmetic.pi), ("e", Arithmetic.ofDecimal 2 0), ("x", Arithmetic.e)]⟩,
    ⟨[("pi", Arithmetic.pi), ("e", Arithmetic.ofDecimal 2 0), ("x", Arithmetic.ofDecimal 2 0)]⟩,
    .swap _ _ _, by decide, ?_, ?_, rfl, rfl, fun same => apart (Option.some.inj same)⟩
  · rw [ofDocument_object, first]
    show ofDefinitions _ = _
    unfold ofDefinitions
    rw [resolve]
    show resolve _ [] = _
    rw [resolve]
    rfl
  · rw [ofDocument_object, second]
    show ofDefinitions _ = _
    unfold ofDefinitions
    rw [resolve]
    show resolve _ [] = _
    rw [resolve]
    rfl

end Scope

end WhistledSpeech
