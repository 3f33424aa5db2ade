import Mathlib
import WhistledSpeech.Proofs.Formula.Names
import WhistledSpeech.Proofs.Formula.Starting

/-!
# Any number of requests

A session is asked for the formula of a text, for the value of a field, for a text as a curve, and each
answer may change what it remembers. Here the answers are compared with those of the session as it was
when it started, and with those of its scope, which remembers nothing (`Scope.answer`): they are the same,
request by request, whatever has been asked before and whatever became of it (`askAll_exact`). A binding of
one request is not there for the next.

One request is answered from a sound memory (`IsSound.ask`), and what it leaves is a sound memory again,
with the text of the request in it if that is a formula (`Follows`). That carries over any number of them,
and so to all that a session can become (`becomes_iff`).
-/

namespace WhistledSpeech

/-- **What a session is asked.** -/
inductive Request where
  /-- For the formula of a text. -/
  | parse (text : String)
  /-- For the value of a field. -/
  | evaluate (value : Document) (bindings : String → Option Float)
  /-- For a text as a curve. -/
  | compile (text : String)

/-- **What it answers.** -/
inductive Answer where
  /-- A formula, with its names. -/
  | formula (result : Except Fault Formula)
  /-- A value. -/
  | value (result : Except Fault Float)
  /-- A curve: its value at each angle. -/
  | curve (result : Except Fault (Float → Except Fault Float))

/-- The text that is parsed for a request, if there is one. -/
def Request.text? : Request → Option String
  | .parse text => some text
  | .evaluate (.text formula) _ => some formula
  | .evaluate _ _ => none
  | .compile text => some text

/-- **The answer of a scope.** -/
def Scope.answer (scope : Scope Float) : Request → Answer
  | .parse text => .formula (Formula.parse text)
  | .evaluate value bindings => .value (scope.evalField value bindings)
  | .compile text => .curve ((scope.compile text).map scope.curveAt)

/-- A text that parses. -/
def IsFormula (text : String) : Prop := ∃ formula, Formula.parse text = .ok formula

namespace Session

/-- **The answer of a session**, and the session after it. -/
def ask (session : Session Float) : Request → Answer × Session Float
  | .parse text =>
    match session.parse text with
    | (result, after) => (.formula result, after)
  | .evaluate value bindings =>
    match session.evalField value bindings with
    | (result, after) => (.value result, after)
  | .compile text =>
    match session.compile text with
    | (result, after) => (.curve (result.map after.scope.curveAt), after)

/-- The answers to requests one after the other, and the session after the last. -/
def askAll (session : Session Float) : List Request → List Answer × Session Float
  | [] => ([], session)
  | request :: rest =>
    match session.ask request with
    | (answer, after) =>
      match after.askAll rest with
      | (answers, later) => (answer :: answers, later)

/-- The texts under which something is remembered. -/
def texts (session : Session Float) : List String := session.remembered.map Prod.fst

/-! ## Sound memories -/

/-- **A memory is sound**: it has each text once, with the formula that the text parses to. -/
structure IsSound (session : Session Float) : Prop where
  /-- The formulas. -/
  faithful : session.IsFaithful
  /-- The texts. -/
  once : session.texts.Nodup

variable {session middle later : Session Float} {request : Request} {text : String}

theorem isSound_fresh (scope : Scope Float) : (fresh scope).IsSound where
  faithful := isFaithful_fresh scope
  once := List.nodup_nil

theorem IsSound.remember (sound : session.IsSound) {formula : Formula}
    (parsed : Formula.parse formula.text = .ok formula) : (session.remember formula).IsSound where
  faithful := sound.faithful.remember parsed
  once := Document.nodup_setEntry formula.text formula sound.once

theorem IsSound.rememberAll (sound : session.IsSound) {pending : Scope.Pending}
    (parsed : ∀ entry ∈ pending, Formula.parse entry.2.text = .ok entry.2) :
    (session.rememberAll pending).IsSound := by
  induction pending generalizing session with
  | nil => exact sound
  | cons entry rest ih =>
    exact ih (sound.remember (parsed entry List.mem_cons_self))
      fun other mem => parsed other (List.mem_cons_of_mem _ mem)

/-- **A session just started has a sound memory.** -/
theorem isSound_ofDocument {constants : Document} (started : ofDocument constants = .ok session) :
    session.IsSound := by
  obtain ⟨scope, pending, rfl, parsed⟩ := exists_of_ofDocument started
  exact (isSound_fresh scope).rememberAll parsed

/-- Every entry of a sound memory is what its own text parses to. -/
theorem IsSound.parse_of_mem (sound : session.IsSound) {formula : Formula}
    (mem : (text, formula) ∈ session.remembered) : Formula.parse text = .ok formula :=
  sound.faithful text formula (Document.find?_of_mem sound.once mem)

/-- A text that does not parse is not in a sound memory. -/
theorem IsSound.notMem_of_parse (sound : session.IsSound) {fault : Fault}
    (failed : Formula.parse text = .error fault) : text ∉ session.texts := by
  intro mem
  obtain ⟨formula, found⟩ := Document.exists_find?_of_mem mem
  exact absurd (failed.symm.trans (sound.faithful text formula found)) nofun

/-! ## One request -/

/-- **What a session is after requests**: its constants are the same, its memory is sound, and besides what
was there it has the texts of the requests, as far as they parse. -/
structure Follows (session : Session Float) (requests : List Request) (later : Session Float) : Prop where
  /-- The constants. -/
  scope : later.scope = session.scope
  /-- The memory. -/
  sound : later.IsSound
  /-- The texts in it. -/
  texts : ∀ text, text ∈ later.texts
    ↔ text ∈ session.texts ∨ IsFormula text ∧ ∃ request ∈ requests, request.text? = some text

theorem Follows.refl (sound : session.IsSound) : session.Follows [] session where
  scope := rfl
  sound := sound
  texts text := (or_iff_left fun asked => by simp at asked).symm

theorem Follows.trans {requests others : List Request} (first : session.Follows requests middle)
    (second : middle.Follows others later) : session.Follows (requests ++ others) later where
  scope := second.scope.trans first.scope
  sound := second.sound
  texts text := by
    simp only [second.texts, first.texts, List.mem_append, or_and_right, exists_or, and_or_left, or_assoc]

/-- A request for which nothing is parsed leaves the session as it is. -/
theorem IsSound.follows_self (sound : session.IsSound) (none : request.text? = none) :
    session.Follows [request] session where
  scope := rfl
  sound := sound
  texts text := by simp [none]

/-- **What parsing the text of a request leaves behind.** -/
theorem IsSound.follows_parse (sound : session.IsSound) (is : request.text? = some text) :
    session.Follows [request] (session.parse text).2 := by
  cases parsed : Formula.parse text with
  | ok formula =>
    rw [sound.faithful.parse_of_ok parsed]
    refine ⟨rfl, sound.remember (Formula.parse_text parsed), fun other => ?_⟩
    have asked : (∃ r ∈ [request], r.text? = some other) ↔ other = text := by
      simp [is, eq_comm]
    rw [asked]
    refine (Document.mem_keys_setEntry).trans (or_congr_right ?_)
    rw [Formula.text_of_parse parsed]
    exact ⟨fun same => ⟨same ▸ ⟨formula, parsed⟩, same⟩, And.right⟩
  | error fault =>
    rw [sound.faithful.parse_of_error parsed]
    refine ⟨rfl, sound, fun other => (or_iff_left ?_).symm⟩
    rintro ⟨⟨formula, reads⟩, asked, mem, is'⟩
    cases List.mem_singleton.mp mem
    cases is.symm.trans is'
    exact absurd (parsed.symm.trans reads) nofun

theorem evalText_snd (session : Session Float) (text : String) (bindings : String → Option Float) :
    (session.evalText text bindings).2 = (session.parse text).2 := by
  unfold evalText
  split <;> next parsed => rw [parsed]

theorem compile_snd (session : Session Float) (text : String) :
    (session.compile text).2 = (session.parse text).2 := by
  unfold compile
  split <;> next parsed => rw [parsed]

/-- **One request** to a session with a sound memory: the scope answers, and the memory stays sound. -/
theorem IsSound.ask (sound : session.IsSound) (request : Request) :
    (session.ask request).1 = session.scope.answer request
      ∧ session.Follows [request] (session.ask request).2 := by
  cases request with
  | parse text =>
    obtain ⟨after, parses, _⟩ := sound.faithful.parse_cases text
    refine ⟨?_, sound.follows_parse rfl⟩
    show Answer.formula (session.parse text).1 = _
    rw [parses]
    rfl
  | evaluate value bindings =>
    cases value with
    | text formula =>
      obtain ⟨after, evaluates, _⟩ := sound.faithful.evalText_cases formula bindings
      constructor
      · show Answer.value (session.evalText formula bindings).1 = _
        rw [evaluates]
        rfl
      · show session.Follows _ (session.evalText formula bindings).2
        rw [evalText_snd]
        exact sound.follows_parse rfl
    | null | bool _ | int _ | float _ | list _ | object _ => exact ⟨rfl, sound.follows_self rfl⟩
  | compile text =>
    obtain ⟨after, compiles, same, _⟩ := sound.faithful.compile_cases text
    constructor
    · show Answer.curve ((session.compile text).1.map (session.compile text).2.scope.curveAt) = _
      rw [compiles, same]
      rfl
    · show session.Follows _ (session.compile text).2
      rw [compile_snd]
      exact sound.follows_parse rfl

/-! ## Any number of requests -/

/-- **Requests one after the other**: the scope answers each of them, and the memory stays sound. -/
theorem IsSound.askAll (sound : session.IsSound) (requests : List Request) :
    (session.askAll requests).1 = requests.map session.scope.answer
      ∧ session.Follows requests (session.askAll requests).2 := by
  induction requests generalizing session with
  | nil => exact ⟨rfl, .refl sound⟩
  | cons request rest ih =>
    obtain ⟨answers, follows⟩ := sound.ask request
    obtain ⟨answers', follows'⟩ := ih follows.sound
    refine ⟨?_, follows.trans follows'⟩
    rw [List.map_cons, ← answers, ← follows.scope, ← answers']
    rfl

theorem askAll_append (session : Session Float) (requests others : List Request) :
    (session.askAll (requests ++ others)).2 = ((session.askAll requests).2.askAll others).2 := by
  induction requests generalizing session with
  | nil => rfl
  | cons request rest ih => exact ih (session.ask request).2

/-- **A session becomes what it is after some requests**, and nothing else. -/
theorem becomes_iff : session.Becomes later ↔ ∃ requests, (session.askAll requests).2 = later := by
  constructor
  · intro becomes
    -- each thing it has been asked is one more request at the end
    induction becomes with
    | idle => exact ⟨[], rfl⟩
    | parse _ text ih =>
      obtain ⟨requests, rfl⟩ := ih
      exact ⟨requests ++ [.parse text], askAll_append session requests _⟩
    | evaluate _ value bindings ih =>
      obtain ⟨requests, rfl⟩ := ih
      exact ⟨requests ++ [.evaluate value bindings], askAll_append session requests _⟩
    | compile _ text ih =>
      obtain ⟨requests, rfl⟩ := ih
      exact ⟨requests ++ [.compile text], askAll_append session requests _⟩
  · rintro ⟨requests, rfl⟩
    induction requests using List.reverseRecOn with
    | nil => exact .idle
    | append_singleton requests request ih =>
      rw [askAll_append]
      cases request with
      | parse text => exact .parse ih text
      | evaluate value bindings => exact .evaluate ih value bindings
      | compile text => exact .compile ih text

/-- **What a session remembers cannot be told from its answers.** A session that starts from the constants
of a document, parsing their formulas as it reads them, answers any requests, one after the other, as it
would have answered each of them at the start, and so as its scope does: no binding and no fault of one
request is there for the next. Its constants stay what they are. In its memory each text stands with the
formula it parses to, a text that does not parse has none, and there is nothing but the texts of the
constants and those of the requests. -/
theorem askAll_exact {constants : Document} {start : Session Float}
    (started : ofDocument constants = .ok start) (requests : List Request) :
    assemble constants = .ok start
      ∧ ∃ later, start.askAll requests = (requests.map fun request => (start.ask request).1, later)
        ∧ (∀ request, (start.ask request).1 = start.scope.answer request)
        ∧ later.scope = start.scope
        ∧ (∀ entry ∈ later.remembered, Formula.parse entry.1 = .ok entry.2)
        ∧ later.texts.Nodup
        ∧ (∀ text fault, Formula.parse text = .error fault → text ∉ later.texts)
        ∧ ∀ text, text ∈ later.texts ↔ text ∈ start.texts
          ∨ IsFormula text ∧ ∃ request ∈ requests, request.text? = some text := by
  have sound := isSound_ofDocument started
  have answer := fun request => (sound.ask request).1
  obtain ⟨answers, follows⟩ := sound.askAll requests
  refine ⟨(assemble_eq_ofDocument constants).trans started, _, Prod.ext ?_ rfl, answer, follows.scope,
    fun entry mem => follows.sound.parse_of_mem mem, follows.sound.once,
    fun text fault failed => follows.sound.notMem_of_parse failed, follows.texts⟩
  rw [answers]
  exact List.map_congr_left fun request _ => (answer request).symm

/-- **The session of a constant and of another that is defined by its name.** -/
def linked : Session Float where
  scope := ⟨[("pi", Arithmetic.pi), ("e", Arithmetic.e), ("n", 2), ("k", 2)]⟩
  remembered := [("n", ⟨"n", .name "n"⟩)]

theorem ofDocument_linked : ofDocument (.object [("k", .text "n"), ("n", .float 2)]) = .ok linked := by
  have read : Definition.ofEntries [("k", .text "n"), ("n", .float 2)]
      = .ok [("k", .formula ⟨"n", .name "n"⟩), ("n", .value 2)] := by
    cbv
  have resolved : Scope.ofDefinitions [("k", .formula ⟨"n", .name "n"⟩), ("n", .value 2)]
      = .ok linked.scope := by
    unfold Scope.ofDefinitions
    rw [Scope.resolve]
    show Scope.resolve _ [] = _
    rw [Scope.resolve]
    rfl
  show (Definition.ofEntries _ >>= _) = _
  rw [read]
  show (Scope.ofDefinitions _ >>= _) = _
  rw [resolved]
  rfl

/-- The angle is bound for one request and not for the last, and a text that is no formula is asked for in
between: the last request is answered as if it were the only one. The text of the constant and that of the
angle are remembered, the other one is not. -/
theorem askAll_exact_angle :
    ∃ later : Session Float,
      ofDocument (.object [("k", .text "n"), ("n", .float 2)]) = .ok linked
      ∧ linked.askAll [.evaluate (.text "t") (angle 1), .parse "1/", .evaluate (.text "t") Scope.unbound]
        = ([.value (.ok 1), (linked.ask (.parse "1/")).1,
            .value (.error (.unknownConstant "t" "t"))], later)
      ∧ later.scope = linked.scope ∧ "n" ∈ later.texts ∧ "t" ∈ later.texts ∧ "1/" ∉ later.texts := by
  have parsed : Formula.parse "t" = .ok ⟨"t", .name "t"⟩ := by cbv
  have failed : ∃ fault, Formula.parse "1/" = .error fault := ⟨_, by cbv⟩
  have bound : linked.scope.answer (.evaluate (.text "t") (angle 1)) = .value (.ok 1) := by
    show Answer.value (linked.scope.evalText "t" (angle 1)) = _
    rw [Scope.evalText_of_parse parsed]
    rfl
  have unbound : linked.scope.answer (.evaluate (.text "t") Scope.unbound)
      = .value (.error (.unknownConstant "t" "t")) := by
    show Answer.value (linked.scope.evalText "t" Scope.unbound) = _
    rw [Scope.evalText_of_parse parsed]
    rfl
  obtain ⟨_, later, answers, answer, same, _, _, notParsed, texts⟩ := askAll_exact ofDocument_linked
    [.evaluate (.text "t") (angle 1), .parse "1/", .evaluate (.text "t") Scope.unbound]
  refine ⟨later, ofDocument_linked, ?_, same, ?_, ?_, ?_⟩
  · rw [answers, List.map_cons, List.map_cons, List.map_cons, List.map_nil, answer, bound,
      answer (.evaluate _ Scope.unbound), unbound]
  · exact (texts "n").mpr (.inl List.mem_cons_self)
  · exact (texts "t").mpr (.inr ⟨⟨_, parsed⟩, _, List.mem_cons_self, rfl⟩)
  · obtain ⟨fault, failed⟩ := failed
    exact notParsed "1/" fault failed

end Session

end WhistledSpeech
