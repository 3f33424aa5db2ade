import Mathlib
import WhistledSpeech.Formula.Field
import WhistledSpeech.Proofs.Entries
import WhistledSpeech.Proofs.Formula.Dependencies
import WhistledSpeech.Proofs.Steps

/-!
# Resolving constants, formula by formula

Constants are resolved in rounds, and the rounds are a matter of order only: what a round does is to
evaluate one formula after the other, each of them one whose names all have a value. `Step` is such an
evaluation, and resolving is a run of steps, up to where no formula is left or the run *halts*, at a
formula that has no value or because none of those left is ready (`resolve_runs`).

What a step keeps, a run keeps. Three things are kept. A name has a value if one was given for it from
the start or its formula has been evaluated, and what has been evaluated is grounded (`Progress`); so
what is left where none is ready is exactly what is stuck. What has been evaluated has the value of its
formula in the constants there are (`Settled`), so long as no formula names a constant that a formula
redefines. And with that proviso all runs go the same way: if there are values that satisfy all the
formulas, then a run finds just these (`Agrees`).
-/

namespace WhistledSpeech

/-! ## The value of a formula -/

section Evaluation

variable {α : Type} [Arithmetic α] {lookup lookup' : String → Option α}

/-- The value of an expression depends on what its names stand for. -/
theorem Expr.eval_congr {e : Expr} (h : ∀ n ∈ e.names, lookup n = lookup' n) :
    e.eval lookup = e.eval lookup' := by
  induction e with
  | number _ _ => rfl
  | name n => rw [Expr.eval, Expr.eval, h n (List.mem_singleton_self n)]
  | neg operand ih => rw [Expr.eval, Expr.eval, ih h]
  | binary op left right ihLeft ihRight =>
    rw [Expr.eval, Expr.eval, ihLeft fun n mem => h n (List.mem_append_left _ mem),
      ihRight fun n mem => h n (List.mem_append_right _ mem)]
  | apply f argument ih => rw [Expr.eval, Expr.eval, ih h]

theorem Formula.eval_congr {f : Formula} (h : ∀ n ∈ f.names, lookup n = lookup' n) :
    f.eval lookup = f.eval lookup' := by
  unfold Formula.eval
  rw [Expr.eval_congr h]

/-- **A name found to stand for nothing** is one of the expression, and does stand for nothing. -/
theorem Expr.unbound_of_error {e : Expr} {n : String} (failed : e.eval lookup = .error (.unbound n)) :
    n ∈ e.names ∧ lookup n = none := by
  have lifted : ∀ result : Except ArithmeticFault α, Expr.lift result ≠ .error (.unbound n) := by
    intro result
    cases result <;> simp [Expr.lift]
  induction e with
  | number _ _ => cases failed
  | name m =>
    rw [Expr.eval] at failed
    split at failed
    · cases failed
    · next missing =>
      cases failed
      exact ⟨List.mem_singleton_self n, missing⟩
  | neg operand ih =>
    obtain failed | ⟨x, _, failed⟩ := bind_eq_error_iff.mp failed
    · exact ih failed
    · cases failed
  | binary op left right ihLeft ihRight =>
    obtain failed | ⟨x, _, failed⟩ := bind_eq_error_iff.mp failed
    · exact (ihLeft failed).imp_left (List.mem_append_left _)
    obtain failed | ⟨y, _, failed⟩ := bind_eq_error_iff.mp failed
    · exact (ihRight failed).imp_left (List.mem_append_right _)
    · exact absurd failed (lifted _)
  | apply f argument ih =>
    obtain failed | ⟨x, _, failed⟩ := bind_eq_error_iff.mp failed
    · exact ih failed
    · exact absurd failed (lifted _)

/-- **Why a formula has no value**: one of its names stands for nothing, or an operation has none. -/
theorem Formula.eval_eq_error {f : Formula} {fault : Fault} (failed : f.eval lookup = .error fault) :
    (∃ n ∈ f.names, lookup n = none ∧ fault = .unknownConstant n f.text)
      ∨ ∃ cause, fault = .undefinedFormula f.text cause := by
  unfold Formula.eval at failed
  cases result : f.tree.eval lookup with
  | ok x =>
    rw [result] at failed
    exact absurd failed nofun
  | error cause =>
    rw [result] at failed
    cases cause with
    | unbound n =>
      cases failed
      obtain ⟨mem, missing⟩ := Expr.unbound_of_error result
      exact .inl ⟨n, mem, missing, rfl⟩
    | arithmetic cause =>
      cases failed
      exact .inr ⟨cause, rfl⟩

/-- **A formula whose names all stand for something has a value**, unless an operation has none. -/
theorem Formula.eval_of_bound {f : Formula} (h : ∀ n ∈ f.names, (lookup n).isSome) :
    (∃ x, f.eval lookup = .ok x)
      ∨ ∃ cause, f.eval lookup = .error (.undefinedFormula f.text cause) := by
  cases result : f.eval lookup with
  | ok x => exact .inl ⟨x, rfl⟩
  | error fault =>
    obtain ⟨n, mem, missing, _⟩ | ⟨cause, rfl⟩ := Formula.eval_eq_error result
    · have bound := h n mem
      rw [missing] at bound
      exact absurd bound nofun
    · exact .inr ⟨cause, rfl⟩

end Evaluation

namespace Scope

open Pending

variable {α : Type}

theorem contains_set {scope : Scope α} {name other : String} {x : α} :
    (scope.set name x).contains other = true ↔ other = name ∨ scope.contains other = true := by
  unfold contains
  by_cases same : other = name
  · subst same
    simp
  · rw [get?_set_of_ne _ same]
    simp [same]

theorem lookup_unbound (scope : Scope α) (name : String) :
    scope.lookup unbound name = scope.get? name := by
  unfold lookup
  cases scope.get? name <;> rfl

theorem isReady_iff {scope : Scope α} {entry : String × Formula} :
    scope.isReady entry = true ↔ ∀ b ∈ entry.2.names, scope.contains b = true :=
  List.all_eq_true

variable [Arithmetic α]

theorem eval_congr {scope scope' : Scope α} {f : Formula}
    (h : ∀ b ∈ f.names, scope.get? b = scope'.get? b) :
    scope.eval f unbound = scope'.eval f unbound := by
  refine Formula.eval_congr fun b mem => ?_
  rw [lookup_unbound, lookup_unbound, h b mem]

theorem eval_of_isReady {scope : Scope α} {entry : String × Formula}
    (ready : scope.isReady entry = true) :
    (∃ x, scope.eval entry.2 unbound = .ok x)
      ∨ ∃ cause, scope.eval entry.2 unbound = .error (.undefinedFormula entry.2.text cause) := by
  refine Formula.eval_of_bound fun b mem => ?_
  rw [lookup_unbound]
  exact isReady_iff.mp ready b mem

/-! ## Steps and runs -/

/-- **A step**: of the formulas left, one that is ready is evaluated. Their order does not matter. -/
inductive Step : Scope α × Pending → Scope α × Pending → Prop where
  /-- The first formula is ready, and it has a value. -/
  | evaluate {scope : Scope α} {name : String} {f : Formula} {rest : Pending} {x : α}
      (ready : scope.isReady (name, f) = true) (value : scope.eval f unbound = .ok x) :
      Step (scope, (name, f) :: rest) (scope.set name x, rest)
  /-- The formulas left are put in another order. -/
  | reorder {scope : Scope α} {left left' : Pending} (perm : left.Perm left') :
      Step (scope, left) (scope, left')

/-- **A run** is made of steps. -/
abbrev Run : Scope α × Pending → Scope α × Pending → Prop := Relation.ReflTransGen Step

/-- The report of formulas that are left over, in the order of their names. -/
def leftOver (left : Pending) : List (String × String) :=
  (left.mergeSort fun a b => decide (a.1 ≤ b.1)).map fun entry => (entry.1, entry.2.text)

/-- **Why a run halts** with formulas left. -/
inductive Halts (scope : Scope α) (left : Pending) : Fault → Prop where
  /-- One of them is ready and has no value. -/
  | undefined {entry : String × Formula} {fault : Fault} (mem : entry ∈ left)
      (ready : scope.isReady entry = true) (value : scope.eval entry.2 unbound = .error fault) :
      Halts scope left fault
  /-- None of them is ready. -/
  | blocked (some : left ≠ []) (waiting : ∀ entry ∈ left, scope.isReady entry = false) :
      Halts scope left (.unresolvableConstants (leftOver left))

/-- What becomes of a run: it goes through, or it halts. -/
def Ends (state : Scope α × Pending) : Except Fault (Scope α) → Prop
  | .ok scope => Run state (scope, [])
  | .error fault => ∃ scope left, Run state (scope, left) ∧ Halts scope left fault

theorem Ends.of_run {state state' : Scope α × Pending} {result : Except Fault (Scope α)}
    (run : Run state state') (h : Ends state' result) : Ends state result := by
  cases result with
  | ok scope => exact run.trans h
  | error fault =>
    obtain ⟨scope, left, run', halts⟩ := h
    exact ⟨scope, left, run.trans run', halts⟩

omit [Arithmetic α] in
/-- More constants leave a formula ready. -/
theorem isReady_set {scope : Scope α} {name : String} {x : α} {entry : String × Formula}
    (ready : scope.isReady entry = true) : (scope.set name x).isReady entry = true :=
  isReady_iff.mpr fun b mem => contains_set.mpr (.inr (isReady_iff.mp ready b mem))

/-- **A round is a run** over the formulas that are ready when it starts. -/
theorem resolveRound_runs {scope : Scope α} (todo rest : Pending)
    (ready : ∀ entry ∈ todo, scope.isReady entry = true) :
    match resolveRound scope todo with
    | .ok scope' => Run (scope, todo ++ rest) (scope', rest)
    | .error fault => Ends (scope, todo ++ rest) (.error fault) := by
  induction todo generalizing scope with
  | nil => exact .refl
  | cons entry todo ih =>
    obtain ⟨name, f⟩ := entry
    have first := ready (name, f) List.mem_cons_self
    rw [resolveRound]
    cases value : scope.eval f unbound with
    | error fault =>
      exact ⟨scope, _, .refl, .undefined List.mem_cons_self first value⟩
    | ok x =>
      have step : Step (scope, (name, f) :: todo ++ rest) (scope.set name x, todo ++ rest) :=
        .evaluate first value
      have ready' : ∀ entry ∈ todo, (scope.set name x).isReady entry = true :=
        fun entry mem => isReady_set (ready entry (List.mem_cons_of_mem _ mem))
      have behind := ih ready'
      dsimp only
      cases result : resolveRound (scope.set name x) todo with
      | ok scope' =>
        rw [result] at behind
        exact .head step behind
      | error fault =>
        rw [result] at behind
        exact .of_run (.single step) behind

/-- **Resolving is a run.** -/
theorem resolve_ends (scope : Scope α) (left : Pending) : Ends (scope, left) (resolve scope left) := by
  rw [resolve]
  by_cases empty : left.isEmpty
  · rw [if_pos empty, List.isEmpty_iff.mp empty]
    exact .refl
  · rw [if_neg empty]
    by_cases none : (scope.ready left).isEmpty
    · rw [dif_pos none]
      refine ⟨scope, left, .refl, .blocked (fun nil => empty (List.isEmpty_iff.mpr nil)) ?_⟩
      intro entry mem
      have notReady := List.filter_eq_nil_iff.mp (List.isEmpty_iff.mp none) entry mem
      simpa using notReady
    · rw [dif_neg none]
      have split : Step (scope, left) (scope, scope.ready left ++ scope.waiting left) :=
        .reorder (List.filter_append_perm scope.isReady left).symm
      have isReady : ∀ entry ∈ scope.ready left, scope.isReady entry = true :=
        fun entry mem => (List.mem_filter.mp mem).2
      have round := resolveRound_runs (scope.ready left) (scope.waiting left) isReady
      cases result : resolveRound scope (scope.ready left) with
      | error fault =>
        rw [result] at round
        exact .of_run (.single split) round
      | ok scope' =>
        rw [result] at round
        exact .of_run (.head split round) (resolve_ends scope' (scope.waiting left))
termination_by left.length
decreasing_by exact length_waiting_lt none

/-- What every step keeps, a run keeps. -/
theorem Run.invariant {P : Scope α × Pending → Prop} {state state' : Scope α × Pending}
    (step : ∀ {s s'}, P s → Step s s' → P s') (run : Run state state') (h : P state) : P state' := by
  induction run with
  | refl => exact h
  | tail _ last ih => exact step ih last

/-! ## What has been resolved is grounded -/

/-- **How far a run has come** from given constants and all the formulas. -/
structure Progress (start : Scope α) (all : Pending) (state : Scope α × Pending) : Prop where
  /-- What is left is part of what there was. -/
  subset : ∀ entry ∈ state.2, entry ∈ all
  /-- What is left is left once. -/
  nodup : (state.2.map Prod.fst).Nodup
  /-- The names with a value are those given from the start and those no longer left. -/
  contains_iff : ∀ name, state.1.contains name = true ↔ start.contains name = true
    ∨ name ∈ all.map Prod.fst ∧ name ∉ state.2.map Prod.fst
  /-- What is no longer left is grounded. -/
  grounded : ∀ name ∈ all.map Prod.fst, name ∉ state.2.map Prod.fst →
    Grounded (fun name => start.contains name = true) all name

variable {start scope : Scope α} {all left : Pending} {name : String} {f : Formula}

omit [Arithmetic α] in
theorem Progress.init (distinct : (all.map Prod.fst).Nodup) : Progress start all (start, all) where
  subset _ mem := mem
  nodup := distinct
  contains_iff _ := ⟨.inl, fun h => h.elim id fun h => absurd h.1 h.2⟩
  grounded _ mem notMem := absurd mem notMem

theorem Progress.step {state state' : Scope α × Pending} (h : Progress start all state)
    (step : Step state state') : Progress start all state' := by
  cases step with
  | reorder perm =>
    have keys := fun name => (perm.map Prod.fst).mem_iff (a := name)
    exact {
      subset := fun entry mem => h.subset entry (perm.mem_iff.mpr mem)
      nodup := (perm.map Prod.fst).nodup_iff.mp h.nodup
      contains_iff := fun name => by rw [h.contains_iff, keys]
      grounded := fun name mem notMem => h.grounded name mem (mt (keys name).mp notMem) }
  | @evaluate scope name f rest x ready value =>
    obtain ⟨new, nodup⟩ := List.nodup_cons.mp h.nodup
    have mem := h.subset (name, f) List.mem_cons_self
    -- among the names no longer left there is one more
    have gone : ∀ other, other ∉ rest.map Prod.fst ↔
        other = name ∨ other ∉ ((name, f) :: rest).map Prod.fst := by
      intro other
      rw [List.map_cons, List.mem_cons]
      by_cases same : other = name
      · subst same
        simpa using new
      · simp [same]
    refine ⟨fun entry hentry => h.subset entry (List.mem_cons_of_mem _ hentry), nodup, ?_, ?_⟩
    · intro other
      rw [contains_set, h.contains_iff, gone]
      constructor
      · rintro (rfl | given | ⟨hmem, notMem⟩)
        · exact .inr ⟨List.mem_map_of_mem mem, .inl rfl⟩
        · exact .inl given
        · exact .inr ⟨hmem, .inr notMem⟩
      · rintro (given | ⟨hmem, rfl | notMem⟩)
        · exact .inr (.inl given)
        · exact .inl rfl
        · exact .inr (.inr ⟨hmem, notMem⟩)
    · intro other hmem notMem
      obtain rfl | notMem := (gone other).mp notMem
      · refine .intro mem fun b hb awaited => ?_
        obtain given | ⟨hb, resolved⟩ := (h.contains_iff b).mp (isReady_iff.mp ready b hb)
        · exact absurd given awaited
        · exact h.grounded b hb resolved
      · exact h.grounded other hmem notMem

omit [Arithmetic α] in
/-- **Where no formula left is ready, what is left is what is stuck.** -/
theorem Progress.stuck_iff (h : Progress start all (scope, left))
    (distinct : (all.map Prod.fst).Nodup)
    (waiting : ∀ entry ∈ left, scope.isReady entry = false) (name : String) :
    Stuck (fun name => start.contains name = true) all name ↔ name ∈ left.map Prod.fst := by
  constructor
  · intro stuck
    by_contra resolved
    exact (h.grounded name stuck.1 resolved).not_stuck distinct stuck
  · refine stuck_of_blocked fun a ha => ?_
    obtain ⟨⟨a, f⟩, mem, rfl⟩ := List.mem_map.mp ha
    refine ⟨List.mem_map_of_mem (h.subset _ mem), ?_⟩
    -- a name that holds the formula up has no value and is not resolved
    obtain ⟨b, hb, held⟩ := List.all_eq_false.mp (waiting (a, f) mem)
    rw [h.contains_iff] at held
    refine ⟨b, ⟨f, h.subset _ mem, hb, fun given => held (.inl given)⟩, ?_⟩
    by_contra neither
    rw [not_or, not_not] at neither
    exact held (.inr ⟨neither.2, neither.1⟩)

/-! ## What has been resolved satisfies its formula -/

/-- **No formula names a constant that is given and that a formula redefines.** Of such a constant a
formula may see one value or the other. -/
def Separate (start : Scope α) (all : Pending) : Prop :=
  ∀ entry ∈ all, ∀ b ∈ entry.2.names, start.contains b = true → b ∉ all.map Prod.fst

omit [Arithmetic α] in
/-- A formula that is ready names nothing that is left. -/
theorem Progress.notMem_left (h : Progress start all (scope, left)) (separate : Separate start all)
    (mem : (name, f) ∈ all) (ready : scope.isReady (name, f) = true) :
    ∀ b ∈ f.names, b ∉ left.map Prod.fst := by
  intro b hb
  obtain given | ⟨_, resolved⟩ := (h.contains_iff b).mp (isReady_iff.mp ready b hb)
  · intro hleft
    obtain ⟨entry, hentry, rfl⟩ := List.mem_map.mp hleft
    exact separate _ mem _ hb given (List.mem_map_of_mem (h.subset entry hentry))
  · exact resolved

omit [Arithmetic α] in
theorem notMem_keys_cons {other : String} {rest : Pending} (ne : other ≠ name)
    (notMem : other ∉ rest.map Prod.fst) : other ∉ ((name, f) :: rest).map Prod.fst := by
  rw [List.map_cons, List.mem_cons, not_or]
  exact ⟨ne, notMem⟩

/-- **What a run has settled.** -/
structure Settled (start : Scope α) (all : Pending) (state : Scope α × Pending) : Prop where
  /-- Names that no formula defines stand for what they stood for. -/
  untouched : ∀ name ∉ all.map Prod.fst, state.1.get? name = start.get? name
  /-- What is no longer left has the value of its formula. -/
  solved : ∀ entry ∈ all, entry.1 ∉ state.2.map Prod.fst →
    ∃ x, state.1.get? entry.1 = some x ∧ state.1.eval entry.2 unbound = .ok x
  /-- Nor is any name in its formula left, so that the value is final. -/
  final : ∀ entry ∈ all, entry.1 ∉ state.2.map Prod.fst →
    ∀ b ∈ entry.2.names, b ∉ state.2.map Prod.fst

theorem Settled.init : Settled start all (start, all) where
  untouched _ _ := rfl
  solved _ mem notMem := absurd (List.mem_map_of_mem mem) notMem
  final _ mem notMem := absurd (List.mem_map_of_mem mem) notMem

theorem Settled.step {state state' : Scope α × Pending} (progress : Progress start all state)
    (distinct : (all.map Prod.fst).Nodup) (separate : Separate start all)
    (h : Settled start all state) (step : Step state state') : Settled start all state' := by
  cases step with
  | reorder perm =>
    have keys := fun name => (perm.map Prod.fst).mem_iff (a := name)
    refine ⟨h.untouched, fun entry mem notMem => ?_, fun entry mem notMem b hb => ?_⟩
    · exact h.solved entry mem (mt (keys _).mp notMem)
    · exact mt (keys b).mpr (h.final entry mem (mt (keys _).mp notMem) b hb)
  | @evaluate scope name f rest x ready value =>
    have mem := progress.subset (name, f) List.mem_cons_self
    have named := progress.notMem_left separate mem ready
    have stays : ∀ other, other ∉ ((name, f) :: rest).map Prod.fst → other ≠ name := by
      rintro other notMem rfl
      exact notMem List.mem_cons_self
    have behind : ∀ other, other ∉ ((name, f) :: rest).map Prod.fst →
        other ∉ rest.map Prod.fst :=
      fun other notMem => mt (List.mem_cons_of_mem _) notMem
    -- a formula that names nothing left has the value it had
    have keeps : ∀ {g : Formula}, (∀ b ∈ g.names, b ∉ ((name, f) :: rest).map Prod.fst) →
        (scope.set name x).eval g unbound = scope.eval g unbound :=
      fun hg => eval_congr fun b hb => get?_set_of_ne scope (stays b (hg b hb)) x
    refine ⟨?_, ?_, ?_⟩
    · intro other notMem
      have ne : other ≠ name := by
        rintro rfl
        exact notMem (List.mem_map_of_mem mem)
      exact (get?_set_of_ne scope ne x).trans (h.untouched other notMem)
    · intro entry hentry notMem
      by_cases same : entry.1 = name
      · cases List.inj_on_of_nodup_map distinct hentry mem same
        exact ⟨x, get?_set_self scope name x, (keeps named).trans value⟩
      · have before := notMem_keys_cons (f := f) same notMem
        obtain ⟨y, hget, heval⟩ := h.solved entry hentry before
        exact ⟨y, (get?_set_of_ne scope same x).trans hget,
          (keeps (h.final entry hentry before)).trans heval⟩
    · intro entry hentry notMem b hb
      by_cases same : entry.1 = name
      · cases List.inj_on_of_nodup_map distinct hentry mem same
        exact behind b (named b hb)
      · have before := notMem_keys_cons (f := f) same notMem
        exact behind b (h.final entry hentry before b hb)

/-! ## All runs go the same way -/

/-- **A run agrees with constants** on every name that is not left. -/
def Agrees (solution : Scope α) (state : Scope α × Pending) : Prop :=
  ∀ name ∉ state.2.map Prod.fst, state.1.get? name = solution.get? name

variable {solution : Scope α}

/-- A formula that is ready has the value that constants which settle all the formulas have for it. -/
theorem Agrees.eval (agrees : Agrees solution (scope, left))
    (settled : Settled start all (solution, [])) (progress : Progress start all (scope, left))
    (separate : Separate start all) (mem : (name, f) ∈ left)
    (ready : scope.isReady (name, f) = true) :
    ∃ x, solution.get? name = some x ∧ scope.eval f unbound = .ok x := by
  obtain ⟨x, hget, heval⟩ :=
    settled.solved (name, f) (progress.subset _ mem) List.not_mem_nil
  have same := eval_congr (f := f) fun b hb =>
    agrees b (progress.notMem_left separate (progress.subset _ mem) ready b hb)
  exact ⟨x, hget, same.trans heval⟩

theorem Agrees.step {state state' : Scope α × Pending}
    (settled : Settled start all (solution, [])) (progress : Progress start all state)
    (separate : Separate start all) (agrees : Agrees solution state) (step : Step state state') :
    Agrees solution state' := by
  cases step with
  | reorder perm =>
    intro name notMem
    exact agrees name (mt (perm.map Prod.fst).mem_iff.mp notMem)
  | @evaluate scope name f rest x ready value =>
    obtain ⟨y, hget, heval⟩ := agrees.eval settled progress separate List.mem_cons_self ready
    intro other notMem
    by_cases same : other = name
    · subst same
      cases value.symm.trans heval
      exact (get?_set_self scope other x).trans hget.symm
    · exact (get?_set_of_ne scope same x).trans (agrees other (notMem_keys_cons same notMem))

/-- **Resolving finds the constants that settle all the formulas**, if there are any and no formula is
stuck. -/
theorem resolve_eq_ok_of_settled (distinct : (all.map Prod.fst).Nodup)
    (separate : Separate start all)
    (free : ∀ name, ¬ Stuck (fun name => start.contains name = true) all name)
    (settled : Settled start all (solution, [])) :
    ∃ scope, resolve start all = .ok scope ∧ ∀ name, scope.get? name = solution.get? name := by
  have kept : ∀ {state}, Run (start, all) state → Progress start all state ∧ Agrees solution state :=
    fun run => run.invariant (P := fun s => Progress start all s ∧ Agrees solution s)
      (fun h step => ⟨h.1.step step, Agrees.step settled h.1 separate h.2 step⟩)
      ⟨.init distinct, fun name notMem => (settled.untouched name notMem).symm⟩
  have ends := resolve_ends start all
  cases result : resolve start all with
  | ok scope =>
    rw [result] at ends
    exact ⟨scope, rfl, fun name => (kept ends).2 name List.not_mem_nil⟩
  | error fault =>
    rw [result] at ends
    obtain ⟨scope, left, run, halts⟩ := ends
    obtain ⟨progress, agrees⟩ := kept run
    cases halts with
    | undefined mem ready value =>
      obtain ⟨x, _, heval⟩ := agrees.eval settled progress separate mem ready
      exact absurd (value.symm.trans heval) (by simp)
    | blocked some waiting =>
      obtain ⟨entry, mem⟩ := List.exists_mem_of_ne_nil left some
      exact absurd ((progress.stuck_iff distinct waiting entry.1).mpr (List.mem_map_of_mem mem))
        (free entry.1)

/-- **Where resolving goes through** nothing is stuck and every formula has a value; with no formula
naming what another redefines it is the value in the constants there are in the end. -/
theorem settled_of_resolve (distinct : (all.map Prod.fst).Nodup)
    (result : resolve start all = .ok scope) :
    (∀ name, ¬ Stuck (fun name => start.contains name = true) all name)
      ∧ (∀ name, scope.contains name = true ↔ start.contains name = true
          ∨ name ∈ all.map Prod.fst)
      ∧ (Separate start all → Settled start all (scope, [])) := by
  have run := resolve_ends start all
  rw [result] at run
  have progress := Run.invariant (P := Progress start all) (fun h step => h.step step) run
    (.init distinct)
  refine ⟨fun name stuck => ?_, fun name => ?_, fun separate => ?_⟩
  · exact List.not_mem_nil
      ((progress.stuck_iff distinct (fun _ mem => absurd mem List.not_mem_nil) name).mp stuck)
  · exact (progress.contains_iff name).trans (or_congr_right (and_iff_left List.not_mem_nil))
  · exact (Run.invariant (P := fun s => Progress start all s ∧ Settled start all s)
      (fun h step => ⟨h.1.step step, h.2.step h.1 distinct separate step⟩) run
      ⟨.init distinct, .init⟩).2

end Scope

end WhistledSpeech
