import Mathlib
import WhistledSpeech.Formula.Session
import WhistledSpeech.Proofs.Document.Keys
import WhistledSpeech.Proofs.Formula.Constants

/-!
# What a session remembers

A session answers from what it has parsed before, and each formula it remembers is the one that its text
parses to (`Session.IsFaithful`). That holds of a session just started, whose memory is the formulas of its
constants, and every request keeps it, also one that fails. So the answers of a session are those of its
scope, whatever it has been asked before (`Becomes.keeps`).
-/

namespace WhistledSpeech

/-- A parsed formula quotes the text it is parsed from. -/
theorem Formula.text_of_parse {text : String} {formula : Formula}
    (parsed : Formula.parse text = .ok formula) : formula.text = text := by
  unfold parse at parsed
  split at parsed
  · cases parsed
    rfl
  · exact absurd parsed nofun

/-- A parsed formula is parsed from the text it quotes. -/
theorem Formula.parse_text {text : String} {formula : Formula}
    (parsed : Formula.parse text = .ok formula) : Formula.parse formula.text = .ok formula := by
  rw [text_of_parse parsed, parsed]

/-- Formulas that define constants are parsed from their texts. -/
theorem Definition.parse_of_ofDocument {given : Document} {formula : Formula}
    (read : ofDocument given = .ok (.formula formula)) :
    Formula.parse formula.text = .ok formula := by
  unfold ofDocument at read
  split at read
  · next number _ =>
    cases number <;> exact absurd read nofun
  · cases parsed : Formula.parse given.plain with
    | error fault =>
      rw [parsed] at read
      exact absurd read nofun
    | ok formula' =>
      rw [parsed] at read
      cases read
      exact Formula.parse_text parsed

theorem Definition.parse_of_mem_pendingOf {entries : List (String × Document)}
    {definitions : List (String × Definition Float)} (read : ofEntries entries = .ok definitions) :
    ∀ entry ∈ Scope.pendingOf definitions, Formula.parse entry.2.text = .ok entry.2 := by
  intro entry mem
  obtain ⟨given, _, defines⟩ :=
    (Scope.ofEntries_eq_ok_iff.mp read).exists_of_mem (Scope.mem_pendingOf.mp mem)
  exact parse_of_ofDocument defines

namespace Session

section Memory

variable {α : Type} {session : Session α}

/-- **A faithful session** remembers under a text only the formula the text parses to. -/
def IsFaithful (session : Session α) : Prop :=
  ∀ text formula, Document.find? text session.remembered = some formula →
    Formula.parse text = .ok formula

theorem isFaithful_fresh (scope : Scope α) : (fresh scope).IsFaithful :=
  fun _ _ found => absurd found nofun

/-- Remembering a formula that is parsed from its text. -/
theorem IsFaithful.remember (faithful : session.IsFaithful) {formula : Formula}
    (parsed : Formula.parse formula.text = .ok formula) : (session.remember formula).IsFaithful := by
  intro text formula' found
  change Document.find? text (Document.setEntry formula.text formula session.remembered) = _ at found
  by_cases same : text = formula.text
  · subst same
    rw [Document.find?_setEntry_self] at found
    cases found
    exact parsed
  · rw [Document.find?_setEntry_of_ne same] at found
    exact faithful text formula' found

/-- What is remembered already is not remembered again. -/
theorem remember_of_find? {formula : Formula}
    (found : Document.find? formula.text session.remembered = some formula) :
    session.remember formula = session := by
  unfold Session.remember
  rw [Document.setEntry_of_find? found]

/-- **Parsing remembers**, and a formula that is recalled might as well be remembered again. -/
theorem IsFaithful.parse_of_ok (faithful : session.IsFaithful) {text : String} {formula : Formula}
    (parsed : Formula.parse text = .ok formula) :
    session.parse text = (.ok formula, session.remember formula) := by
  unfold Session.parse
  cases found : Document.find? text session.remembered with
  | some recalled =>
    cases parsed.symm.trans (faithful text recalled found)
    rw [← Formula.text_of_parse parsed] at found
    rw [remember_of_find? found]
  | none =>
    dsimp only
    rw [parsed]

/-- A text that does not parse leaves nothing behind. -/
theorem IsFaithful.parse_of_error (faithful : session.IsFaithful) {text : String} {fault : Fault}
    (failed : Formula.parse text = .error fault) : session.parse text = (.error fault, session) := by
  unfold Session.parse
  cases found : Document.find? text session.remembered with
  | some recalled => exact absurd (failed.symm.trans (faithful text recalled found)) nofun
  | none =>
    dsimp only
    rw [failed]

/-- **What parsing does**: the formula of the text, or its fault, and the session as it was but for what
it remembers. -/
theorem IsFaithful.parse_cases (faithful : session.IsFaithful) (text : String) :
    ∃ after : Session α, session.parse text = (Formula.parse text, after) ∧ after.scope = session.scope
      ∧ after.IsFaithful := by
  cases parsed : Formula.parse text with
  | ok formula =>
    exact ⟨_, faithful.parse_of_ok parsed, rfl, faithful.remember (Formula.parse_text parsed)⟩
  | error fault => exact ⟨session, faithful.parse_of_error parsed, rfl, faithful⟩

/-- **Compiling in a session** is compiling in its scope. -/
theorem IsFaithful.compile_cases (faithful : session.IsFaithful) (text : String) :
    ∃ after : Session α, session.compile text = (session.scope.compile text, after)
      ∧ after.scope = session.scope ∧ after.IsFaithful := by
  obtain ⟨after, parsed, kept, faithful'⟩ := faithful.parse_cases text
  unfold Session.compile Scope.compile
  rw [parsed]
  refine ⟨after, ?_, kept, faithful'⟩
  cases Formula.parse text <;> rfl

/-- **Evaluating in a session** is evaluating in its scope. -/
theorem IsFaithful.evalText_cases [Arithmetic α] (faithful : session.IsFaithful) (text : String)
    (bindings : String → Option α) :
    ∃ after : Session α, session.evalText text bindings = (session.scope.evalText text bindings, after)
      ∧ after.scope = session.scope ∧ after.IsFaithful := by
  obtain ⟨after, parsed, kept, faithful'⟩ := faithful.parse_cases text
  unfold Session.evalText Scope.evalText
  rw [parsed]
  refine ⟨after, ?_, kept, faithful'⟩
  cases Formula.parse text <;> rfl

/-- Remembers the formulas of entries, one after the other. -/
def rememberAll (session : Session α) (pending : Scope.Pending) : Session α :=
  pending.foldl (fun session entry => session.remember entry.2) session

theorem IsFaithful.rememberAll (faithful : session.IsFaithful) {pending : Scope.Pending}
    (parsed : ∀ entry ∈ pending, Formula.parse entry.2.text = .ok entry.2) :
    (session.rememberAll pending).IsFaithful := by
  induction pending generalizing session with
  | nil => exact faithful
  | cons entry rest ih =>
    exact ih (faithful.remember (parsed entry List.mem_cons_self))
      fun other mem => parsed other (List.mem_cons_of_mem _ mem)

end Memory

/-- **What a session remembers at the start**: formulas, parsed from their texts. -/
theorem exists_of_ofDocument {constants : Document} {session : Session Float}
    (started : ofDocument constants = .ok session) :
    ∃ scope pending, session = (fresh scope).rememberAll pending
      ∧ ∀ entry ∈ pending, Formula.parse entry.2.text = .ok entry.2 := by
  unfold ofDocument at started
  obtain ⟨entries, _, started⟩ := bind_eq_ok_iff.mp started
  obtain ⟨definitions, read, started⟩ := bind_eq_ok_iff.mp started
  obtain ⟨scope, _, started⟩ := bind_eq_ok_iff.mp started
  cases started
  exact ⟨scope, _, rfl, Definition.parse_of_mem_pendingOf read⟩

/-- **A session just started is faithful.** -/
theorem isFaithful_ofDocument {constants : Document} {session : Session Float}
    (started : ofDocument constants = .ok session) : session.IsFaithful := by
  obtain ⟨scope, pending, rfl, parsed⟩ := exists_of_ofDocument started
  exact (isFaithful_fresh scope).rememberAll parsed

/-- **One session becomes another** by being asked any number of things: for the formula of a text, for
the value of a field, for a text as a curve. -/
inductive Becomes (session : Session Float) : Session Float → Prop where
  /-- It has not been asked anything. -/
  | idle : Becomes session session
  /-- It has parsed a text. -/
  | parse {later : Session Float} (h : Becomes session later) (text : String) :
      Becomes session (later.parse text).2
  /-- It has evaluated a field. -/
  | evaluate {later : Session Float} (h : Becomes session later) (value : Document)
      (bindings : String → Option Float) : Becomes session (later.evalField value bindings).2
  /-- It has taken a text as a curve. -/
  | compile {later : Session Float} (h : Becomes session later) (text : String) :
      Becomes session (later.compile text).2

/-- **What is asked changes nothing**: the scope stays, and memory stays faithful. -/
theorem Becomes.keeps {session later : Session Float} (h : Becomes session later)
    (faithful : session.IsFaithful) : later.scope = session.scope ∧ later.IsFaithful := by
  induction h with
  | idle => exact ⟨rfl, faithful⟩
  | parse _ text ih =>
    obtain ⟨after, is, kept, faithful'⟩ := ih.2.parse_cases text
    rw [is]
    exact ⟨kept.trans ih.1, faithful'⟩
  | @evaluate later _ value bindings ih =>
    cases value with
    | text formula =>
      obtain ⟨after, is, kept, faithful'⟩ := ih.2.evalText_cases formula bindings
      change (later.evalText formula bindings).2.scope = _ ∧ (later.evalText formula bindings).2.IsFaithful
      rw [is]
      exact ⟨kept.trans ih.1, faithful'⟩
    | null | bool _ | int _ | float _ | list _ | object _ => exact ih
  | compile _ text ih =>
    obtain ⟨after, is, kept, faithful'⟩ := ih.2.compile_cases text
    rw [is]
    exact ⟨kept.trans ih.1, faithful'⟩

end Session

end WhistledSpeech
