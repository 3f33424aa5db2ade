import Mathlib
import WhistledSpeech.Proofs.Formula.Session

/-!
# Starting a session through its memory

`Session.ofDocument` resolves the constants of a document with all their formulas at hand, and then starts
a session that remembers the formulas. A session can as well be there from the beginning and find its
constants by itself (`assemble`). It goes through the entries, sets what is a number and parses all else,
so that its memory fills while constants are missing; then it asks itself, round by round, for the value
of each text whose names are constants by now.

That comes to the same session, and to the same fault where there is none (`assemble_eq_ofDocument`). What
carries it is that the rounds only ask for texts that have been parsed (`Recalls`): the memory answers
them, and it is after the rounds what it was before.
-/

namespace WhistledSpeech.Session

open Scope

/-! ## A session that finds its constants -/

/-- The session with other constants. -/
def within {α : Type} (session : Session α) (scope : Scope α) : Session α := { session with scope }

/-- The session with one more constant. -/
def set {α : Type} (session : Session α) (name : String) (x : α) : Session α :=
  session.within (session.scope.set name x)

/-- **Enters constants**, one after the other: a number is set, and anything else is parsed and left to be
resolved. -/
def enter (session : Session Float) :
    List (String × Document) → Except Fault (Session Float × Pending)
  | [] => .ok (session, [])
  | (name, given) :: rest =>
    match given.number? with
    | some (.ok x) => (session.set name x).enter rest
    | some (.error fault) => .error fault
    | none =>
      match session.parse given.plain with
      | (.ok formula, after) => do
        let (later, pending) ← after.enter rest
        return (later, (name, formula) :: pending)
      | (.error fault, _) => .error fault

/-- One round: the texts are evaluated one after the other, each with the constants before it. -/
def settleRound {α : Type} [Arithmetic α] (session : Session α) : Pending → Except Fault (Session α)
  | [] => .ok session
  | (name, formula) :: rest =>
    match session.evalText formula.text unbound with
    | (.ok x, after) => (after.set name x).settleRound rest
    | (.error fault, _) => .error fault

/-- **Resolves what is left**, in rounds. -/
def settle {α : Type} [Arithmetic α] (session : Session α) (pending : Pending) :
    Except Fault (Session α) :=
  if pending.isEmpty then .ok session
  else if h : (session.scope.ready pending).isEmpty then
    .error (.unresolvableConstants (leftOver pending))
  else
    have := length_waiting_lt h
    match session.settleRound (session.scope.ready pending) with
    | .error fault => .error fault
    | .ok later => later.settle (session.scope.waiting pending)
termination_by pending.length

/-- **Starts a session that finds the constants of a document by itself.** -/
def assemble (constants : Document) : Except Fault (Session Float) := do
  let entries ← constants.optionalEntries
  let (session, pending) ← (fresh builtIn).enter entries
  session.settle pending

/-! ## Entering -/

variable {α : Type} {session : Session α} {pending : Pending}

/-- The memory that entries leave does not depend on the constants. -/
theorem rememberAll_within (session : Session α) (scope : Scope α) (pending : Pending) :
    (session.within scope).rememberAll pending = (session.rememberAll pending).within scope := by
  induction pending generalizing session with
  | nil => rfl
  | cons entry rest ih => exact ih (session.remember entry.2)

/-- **Entering is reading the definitions**: their numbers are set, their formulas remembered. -/
theorem IsFaithful.enter_eq {session : Session Float} (faithful : session.IsFaithful)
    (entries : List (String × Document)) :
    session.enter entries = (Definition.ofEntries entries).map fun definitions =>
      ((session.within (enterValues session.scope definitions)).rememberAll (pendingOf definitions),
        pendingOf definitions) := by
  induction entries generalizing session with
  | nil => rfl
  | cons entry rest ih =>
    obtain ⟨name, given⟩ := entry
    rw [enter, Definition.ofEntries, Definition.ofDocument]
    cases given.number? with
    | some number =>
      cases number with
      | error fault => rfl
      | ok x =>
        have set : (session.set name x).IsFaithful := faithful
        dsimp only
        rw [ih set]
        cases Definition.ofEntries rest <;> rfl
    | none =>
      cases parsed : Formula.parse given.plain with
      | error fault =>
        rw [faithful.parse_of_error parsed]
        rfl
      | ok formula =>
        rw [faithful.parse_of_ok parsed]
        dsimp only
        rw [ih (faithful.remember (Formula.parse_text parsed))]
        cases Definition.ofEntries rest <;> rfl

/-! ## Settling -/

/-- **The formulas of entries are remembered.** -/
def Recalls (session : Session α) (pending : Pending) : Prop :=
  ∀ entry ∈ pending, Document.find? entry.2.text session.remembered = some entry.2

theorem Recalls.sublist {part : Pending} (recalls : session.Recalls pending)
    (sub : part.Sublist pending) : session.Recalls part :=
  fun entry mem => recalls entry (sub.subset mem)

/-- What has been remembered is still remembered when other formulas have been. -/
theorem find?_rememberAll {formula : Formula} (faithful : session.IsFaithful)
    (parsed : ∀ entry ∈ pending, Formula.parse entry.2.text = .ok entry.2)
    (found : Document.find? formula.text session.remembered = some formula) :
    Document.find? formula.text (session.rememberAll pending).remembered = some formula := by
  induction pending generalizing session with
  | nil => exact found
  | cons entry rest ih =>
    have first := parsed entry List.mem_cons_self
    refine ih (faithful.remember first) (fun other mem => parsed other (List.mem_cons_of_mem _ mem)) ?_
    show Document.find? _ (Document.setEntry _ _ _) = _
    by_cases same : formula.text = entry.2.text
    · cases first.symm.trans (same ▸ faithful _ _ found)
      exact Document.find?_setEntry_self _ _ _
    · rw [Document.find?_setEntry_of_ne same, found]

/-- What all has been remembered is remembered. -/
theorem recalls_rememberAll (faithful : session.IsFaithful)
    (parsed : ∀ entry ∈ pending, Formula.parse entry.2.text = .ok entry.2) :
    (session.rememberAll pending).Recalls pending := by
  induction pending generalizing session with
  | nil => exact fun entry mem => absurd mem List.not_mem_nil
  | cons first rest ih =>
    have faithful' := faithful.remember (parsed first List.mem_cons_self)
    have parsed' := fun other mem => parsed other (List.mem_cons_of_mem _ mem)
    intro entry mem
    obtain rfl | mem := List.mem_cons.mp mem
    · show Document.find? _ ((session.remember entry.2).rememberAll rest).remembered = _
      exact find?_rememberAll faithful' parsed' (Document.find?_setEntry_self _ _ _)
    · exact ih faithful' parsed' entry mem

variable [Arithmetic α]

/-- A round over what is remembered is a round of resolving; the memory stays. -/
theorem Recalls.settleRound_eq (recalls : session.Recalls pending) :
    session.settleRound pending = (resolveRound session.scope pending).map session.within := by
  induction pending generalizing session with
  | nil => rfl
  | cons entry rest ih =>
    obtain ⟨name, formula⟩ := entry
    have recalled : session.evalText formula.text unbound
        = (session.scope.eval formula unbound, session) := by
      unfold Session.evalText Session.parse
      rw [recalls (name, formula) List.mem_cons_self]
    rw [settleRound, resolveRound, recalled]
    cases session.scope.eval formula unbound with
    | error fault => rfl
    | ok x =>
      have behind : (session.set name x).Recalls rest := recalls.sublist (List.sublist_cons_self _ _)
      exact ih behind

/-- **Settling what is remembered is resolving it**; the memory stays. -/
theorem Recalls.settle_eq {session : Session α} {pending : Pending}
    (recalls : session.Recalls pending) :
    session.settle pending = (resolve session.scope pending).map session.within := by
  rw [settle, resolve]
  by_cases empty : pending.isEmpty
  · rw [if_pos empty, if_pos empty]
    rfl
  · rw [if_neg empty, if_neg empty]
    by_cases none : (session.scope.ready pending).isEmpty
    · rw [dif_pos none, dif_pos none]
      rfl
    · have ready : session.Recalls (session.scope.ready pending) :=
        recalls.sublist List.filter_sublist
      rw [dif_neg none, dif_neg none, ready.settleRound_eq]
      cases resolveRound session.scope (session.scope.ready pending) with
      | error fault => rfl
      | ok scope =>
        have waiting : (session.within scope).Recalls (session.scope.waiting pending) :=
          recalls.sublist List.filter_sublist
        exact Recalls.settle_eq waiting
termination_by pending.length
decreasing_by exact length_waiting_lt none

/-! ## Starting -/

omit [Arithmetic α] in
/-- **A session that finds its constants by itself is the one that is given them**, and if there is none
then for the same fault. -/
theorem assemble_eq_ofDocument (constants : Document) : assemble constants = ofDocument constants := by
  unfold assemble ofDocument ofDefinitions
  cases constants.optionalEntries with
  | error fault => rfl
  | ok entries =>
    have faithful : (fresh builtIn : Session Float).IsFaithful := isFaithful_fresh builtIn
    show (enter _ entries >>= _) = (Definition.ofEntries entries >>= _)
    rw [faithful.enter_eq]
    cases read : Definition.ofEntries entries with
    | error fault => rfl
    | ok definitions =>
      have recalls : (((fresh builtIn).rememberAll (pendingOf definitions)).within
          (enterValues builtIn definitions)).Recalls (pendingOf definitions) :=
        recalls_rememberAll faithful (Definition.parse_of_mem_pendingOf read)
      show settle (((fresh builtIn).within (enterValues builtIn definitions)).rememberAll _) _ = _
      rw [rememberAll_within, recalls.settle_eq]
      show (Scope.ofDefinitions definitions).map _
        = Scope.ofDefinitions definitions >>= fun scope => .ok ((fresh scope).rememberAll _)
      cases Scope.ofDefinitions definitions with
      | error fault => rfl
      | ok scope => exact congrArg Except.ok (rememberAll_within (fresh builtIn) scope _).symm

end WhistledSpeech.Session
