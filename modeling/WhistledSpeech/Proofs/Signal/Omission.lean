import Mathlib
import WhistledSpeech.Proofs.Formula.Constants
import WhistledSpeech.Proofs.Signal.Linking

/-!
# Levels left out

A component that is left out holds the level its axis stands at. A level left out of a component stands
for the name of the linking value, evaluated like a formula, so a constant of that name comes first
(`Component.fieldValue_level`) and hides what the axis stands at (`normalize_hidden_level`).

Where no constant has that name, both ways come to the same: leaving a level out is as good as writing
the number there that the segment before ended on. `Component.writeOut` does that for a component,
`Segment.writeOut` for one axis of a raw segment, and `normalize_writeOut` has it for any segment of a
list, whether the segments before it sound or not.
-/

namespace WhistledSpeech

open Arithmetic

/-! ## The level an axis stands at -/

/-- The level an axis stands at. -/
def Links.level {α : Type} (links : Links α) : SignalAxis → α
  | .frequency => links.f
  | .amplitude => links.a

/-- The component of a segment on an axis. -/
def Segment.on {α : Type} (segment : Segment α) : SignalAxis → Component α
  | .frequency => segment.f
  | .amplitude => segment.a

/-- The key of an axis in a raw segment. -/
def SignalAxis.key : SignalAxis → String
  | .frequency => "f"
  | .amplitude => "a"

theorem Links.lookup_level {α : Type} (links : Links α) (axis : SignalAxis) :
    links.lookup axis.level = some (links.level axis) := by
  cases axis with
  | frequency => rfl
  | amplitude => rfl

theorem SignalAxis.parse_level (axis : SignalAxis) :
    Formula.parse axis.level = .ok ⟨axis.level, .name axis.level⟩ := by
  cases axis with
  | frequency => cbv
  | amplitude => cbv

/-! ## Fields -/

section Fields

variable {scope : Scope Float} {links : Links Float} {axis : SignalAxis}
  {spec fields : List (String × Document)} {key : String} {level : Float}

/-- **A level left out** is the constant of the name of the linking value, and only without one the
linking value itself. -/
theorem Component.fieldValue_level (missing : Document.find? key spec = none) :
    fieldValue scope links.lookup spec key (.text axis.level)
      = .ok ((scope.get? axis.level).getD (links.level axis)) := by
  unfold fieldValue
  rw [missing]
  show scope.evalText axis.level links.lookup = _
  unfold Scope.evalText
  rw [axis.parse_level]
  show (Formula.mk axis.level (.name axis.level)).eval (scope.lookup links.lookup) = _
  unfold Formula.eval
  dsimp only [Expr.eval]
  unfold Scope.lookup
  cases scope.get? axis.level with
  | some x => rfl
  | none =>
    dsimp only
    rw [links.lookup_level]
    rfl

/-! ### Writing levels out -/

/-- Every field a level can stand in, with the same number. -/
def Component.levels (level : Float) : List (String × Document) :=
  [("sy", .float level), ("ey", .float level), ("y", .float level)]

/-- **A component with the levels it leaves out written as a number**, and one that is left out as that
number held. -/
def Component.writeOut (level : Float) : Document → Document
  | .null => .object [("type", .text "constant"), ("y", .float level)]
  | .object spec => .object (spec ++ levels level)
  | other => other

/-- What is given comes before what is written behind it. -/
theorem Document.find?_append (key : String) (spec extra : List (String × Document)) :
    find? key (spec ++ extra) = (find? key spec).or (find? key extra) := by
  induction spec with
  | nil => rfl
  | cons entry rest ih =>
    rw [List.cons_append, find?, find?]
    by_cases here : entry.1 = key
    · rw [if_pos here, if_pos here]
      rfl
    · rw [if_neg here, if_neg here]
      exact ih

/-- A field that is no level stays. -/
theorem Component.find?_levels_of_none (other : Document.find? key (levels level) = none) :
    Document.find? key (spec ++ levels level) = Document.find? key spec := by
  rw [Document.find?_append, other, Option.or_none]

/-- A level written out has the value of one left out. -/
theorem Component.fieldValue_levels (free : scope.get? axis.level = none)
    (same : Document.find? key (levels (links.level axis)) = some (.float (links.level axis))) :
    fieldValue scope links.lookup (spec ++ levels (links.level axis)) key (.text axis.level)
      = fieldValue scope links.lookup spec key (.text axis.level) := by
  cases given : Document.find? key spec with
  | some value =>
    unfold fieldValue
    rw [Document.find?_append, given]
    rfl
  | none =>
    rw [fieldValue_level given, free]
    unfold fieldValue
    rw [Document.find?_append, given, same]
    rfl

/-- **Writing out what a component leaves out** changes nothing. -/
theorem Component.resolve_writeOut (free : scope.get? axis.level = none) (given : Document) :
    resolve scope links.lookup axis (writeOut (links.level axis) given)
      = resolve scope links.lookup axis given := by
  cases given with
  | object spec =>
    have kept : ∀ key, Document.find? key (levels (links.level axis)) = none →
        Document.find? key (spec ++ levels (links.level axis)) = Document.find? key spec :=
      fun _ other => find?_levels_of_none other
    have others : ∀ key, Document.find? key (levels (links.level axis)) = none → ∀ fallback,
        fieldValue scope links.lookup (spec ++ levels (links.level axis)) key fallback
          = fieldValue scope links.lookup spec key fallback := by
      intro key other fallback
      unfold fieldValue
      rw [kept key other]
    have written : ∀ key,
        Document.find? key (levels (links.level axis)) = some (.float (links.level axis)) →
        fieldValue scope links.lookup (spec ++ levels (links.level axis)) key (.text axis.level)
          = fieldValue scope links.lookup spec key (.text axis.level) :=
      fun _ same => fieldValue_levels free same
    show ofFields _ _ _ (spec ++ levels _) = ofFields _ _ _ spec
    unfold ofFields
    simp only [kept "type" rfl, kept "curve" rfl, written "sy" rfl, written "ey" rfl,
      written "y" rfl, others "sclip" rfl, others "eclip" rfl, others "a" rfl, others "clip" rfl]
  | null =>
    unfold resolve
    rw [links.lookup_level]
    rfl
  | bool b => rfl
  | int n => rfl
  | float x => rfl
  | text s => rfl
  | list items => rfl

/-- **A component holds a level where its fields leave one out.** -/
def Component.Holds (spec : List (String × Document)) (level : Float) : Component Float → Prop
  | .transition move => (Document.find? "sy" spec = none → move.start = level)
    ∧ (Document.find? "ey" spec = none → move.finish = level)
  | .contour excursion => Document.find? "y" spec = none → excursion.level = level
  | .constant y => Document.find? "y" spec = none → y = level
  | .foreign _ => False

/-- What a component holds that is given by its fields. -/
theorem Component.holds_of_ofFields {component : Component Float}
    (made : ofFields scope links.lookup axis spec = .ok component) :
    component.Holds spec ((scope.get? axis.level).getD (links.level axis)) := by
  have held : ∀ {key x}, fieldValue scope links.lookup spec key (.text axis.level) = .ok x →
      Document.find? key spec = none → x = (scope.get? axis.level).getD (links.level axis) :=
    fun value missing => Except.ok.inj (value.symm.trans (fieldValue_level missing))
  unfold ofFields at made
  dsimp only at made
  split at made
  · obtain ⟨start, hstart, made⟩ := bind_eq_ok_iff.mp made
    obtain ⟨finish, hfinish, made⟩ := bind_eq_ok_iff.mp made
    obtain ⟨curve, _, made⟩ := bind_eq_ok_iff.mp made
    obtain ⟨startClip, _, made⟩ := bind_eq_ok_iff.mp made
    obtain ⟨endClip, _, made⟩ := bind_eq_ok_iff.mp made
    cases made
    exact ⟨held hstart, held hfinish⟩
  · obtain ⟨y, hy, made⟩ := bind_eq_ok_iff.mp made
    obtain ⟨excursion, _, made⟩ := bind_eq_ok_iff.mp made
    obtain ⟨clip, _, made⟩ := bind_eq_ok_iff.mp made
    cases made
    exact held hy
  · obtain ⟨y, hy, made⟩ := bind_eq_ok_iff.mp made
    cases made
    exact held hy
  · exact absurd made nofun

end Fields

/-! ## Segments of a list -/

namespace Segment

variable {scope : Scope Float} {links : Links Float} {axis : SignalAxis}
  {raws : List Document} {fields : List (String × Document)} {segment : Segment Float}

/-- **The fields of a raw segment with the levels it leaves out on an axis written as a number.** -/
def writeOut (axis : SignalAxis) (level : Float) (fields : List (String × Document)) :
    List (String × Document) :=
  Document.setEntry axis.key
    (Component.writeOut level ((Document.find? axis.key fields).getD .null)) fields

/-- Writing out an axis of a raw segment changes nothing. -/
theorem resolve_writeOut (free : scope.get? axis.level = none) :
    resolve scope links (.object (writeOut axis (links.level axis) fields))
      = resolve scope links (.object fields) := by
  unfold resolve writeOut
  dsimp only
  cases axis with
  | frequency =>
    rw [SignalAxis.key, Document.find?_setEntry_self, Document.find?_setEntry_of_ne (by decide),
      Document.find?_setEntry_of_ne (by decide), Option.getD_some, Component.resolve_writeOut free]
  | amplitude =>
    rw [SignalAxis.key, Document.find?_setEntry_self, Document.find?_setEntry_of_ne (by decide),
      Document.find?_setEntry_of_ne (by decide), Option.getD_some, Component.resolve_writeOut free]

/-- What a resolved segment has on an axis. -/
theorem resolve_on (made : resolve scope links (.object fields) = .ok segment) :
    Component.resolve scope links.lookup axis ((Document.find? axis.key fields).getD .null)
      = .ok (segment.on axis) := by
  obtain ⟨hf, ha⟩ := resolve_object_eq_ok made
  cases axis with
  | frequency => exact hf
  | amplitude => exact ha

/-- **The level an axis stands at before a segment**: that of the links before the first, and the one
that the segment before it ended on before any other. -/
inductive StandsAt (links : Links Float) (segments : List (Segment Float)) (axis : SignalAxis) :
    Nat → Float → Prop where
  /-- Before the first. -/
  | first : StandsAt links segments axis 0 (links.level axis)
  /-- Behind another. -/
  | behind {i : Nat} {segment : Segment Float} {level phase : Float}
      (before : segments[i]? = some segment)
      (ended : (segment.on axis).terminal = .ok (level, phase)) :
      StandsAt links segments axis (i + 1) level

/-- The level of the links is what the components end on. -/
theorem terminal_of_after {last : Links Float}
    (ended : Links.after segment.f segment.a = .ok last) (axis : SignalAxis) :
    ∃ phase, (segment.on axis).terminal = .ok (last.level axis, phase) := by
  unfold Links.after at ended
  obtain ⟨⟨fLevel, fPhase⟩, hf, ended⟩ := bind_eq_ok_iff.mp ended
  obtain ⟨⟨aLevel, aPhase⟩, ha, ended⟩ := bind_eq_ok_iff.mp ended
  cases ended
  cases axis with
  | frequency => exact ⟨fPhase, hf⟩
  | amplitude => exact ⟨aPhase, ha⟩

/-- Where the links behind the segments before it are known, so is that level. -/
theorem standsAt_of_afterAll {segments : List (Segment Float)} {i : Nat} {last : Links Float}
    (reached : i ≤ segments.length) (ended : links.afterAll (segments.take i) = .ok last) :
    StandsAt links segments axis i (last.level axis) := by
  unfold Links.afterAll at ended
  cases i with
  | zero =>
    cases ended
    exact .first
  | succ i =>
    have before : segments[i]? = some segments[i] := List.getElem?_eq_getElem reached
    rw [List.getLast?_take, if_neg (Nat.succ_ne_zero i), Nat.add_sub_cancel, before] at ended
    obtain ⟨phase, level⟩ := terminal_of_after ended axis
    exact .behind before level

/-- **A level left out is the level its axis stands at**, unless a constant has the name of the linking
value. Writing that level out, in the place of fields or of the whole component that a raw segment leaves
out, changes nothing in what the list comes to; and where the segment is resolved, it holds that level
in place of each of them. -/
theorem normalize_writeOut (free : scope.get? axis.level = none) {i : Nat}
    (reached : i ≤ (resolveAll scope links raws).items.length)
    (given : raws[i]? = some (.object fields)) :
    ∃ level, StandsAt links (resolveAll scope links raws).items axis i level
      ∧ (∀ fault?, normalize scope links ⟨raws.set i (.object (writeOut axis level fields)), fault?⟩
        = normalize scope links ⟨raws, fault?⟩)
      ∧ ∀ segment, (resolveAll scope links raws).items[i]? = some segment →
        ((Document.find? axis.key fields).getD .null = .null → segment.on axis = .constant level)
        ∧ ∀ spec, Document.find? axis.key fields = some (.object spec) →
          (segment.on axis).Holds spec level := by
  obtain ⟨inside, here⟩ := List.getElem?_eq_some_iff.mp given
  have parts : ∀ raw, raws.set i raw = raws.take i ++ raw :: raws.drop (i + 1) := by
    intro raw
    rw [List.set_eq_take_append_cons_drop, if_pos inside]
  have whole : raws = raws.take i ++ .object fields :: raws.drop (i + 1) := by
    rw [← parts, ← here, List.set_getElem_self]
  obtain ⟨middle, run⟩ := resolves_take reached
  refine ⟨middle.level axis, standsAt_of_afterAll reached run.afterAll, fun fault? => ?_,
    fun segment made => ?_⟩
  · have step : normalize scope middle
          ⟨.object (writeOut axis (middle.level axis) fields) :: raws.drop (i + 1), fault?⟩
        = normalize scope middle ⟨.object fields :: raws.drop (i + 1), fault?⟩ := by
      unfold normalize
      dsimp only
      rw [resolveAll, resolveAll, resolve_writeOut free]
    -- the list is cut where the segment stands, so that only the step there has to agree
    rw [parts, run.normalize_append, step, ← run.normalize_append, ← whole]
  · have place : (raws.take i).length = i := List.length_take_of_le inside.le
    have made' : (resolveAll scope links
        (raws.take i ++ .object fields :: raws.drop (i + 1))).items[(raws.take i).length]?
          = some segment := by
      rw [place, ← whole]
      exact made
    have resolved : Component.resolve scope middle.lookup axis
        ((Document.find? axis.key fields).getD .null) = .ok (segment.on axis) :=
      resolve_on (run.resolve_of_getElem? made')
    refine ⟨fun omitted => ?_, fun spec written => ?_⟩
    · rw [omitted] at resolved
      unfold Component.resolve at resolved
      rw [middle.lookup_level] at resolved
      exact (Except.ok.inj resolved).symm
    · rw [written] at resolved
      have holds := Component.holds_of_ofFields resolved
      rw [free] at holds
      exact holds

/-- A tone, and a constant that leaves its level out. -/
def toneAndConstant : List Document :=
  [.object [("f", .object [("type", .text "constant"), ("y", .int 500)])],
    .object [("f", .object [("type", .text "constant")]), ("run", .int 10)]]

/-- The constant stands at the level of the tone, though the tone makes no sound. -/
theorem normalize_writeOut_tone :
    ∃ level, StandsAt .initial (resolveAll .builtIn .initial toneAndConstant).items .frequency 1 level
      ∧ ∀ segment, (resolveAll .builtIn .initial toneAndConstant).items[1]? = some segment →
        segment.f.Holds [("type", .text "constant")] level := by
  obtain ⟨level, stands, _, holds⟩ :=
    normalize_writeOut
      (show (Scope.builtIn : Scope Float).get? SignalAxis.frequency.level = none by decide)
      (show 1 ≤ (resolveAll .builtIn .initial toneAndConstant).items.length from Nat.le_add_left 1 _)
      rfl
  exact ⟨level, stands, fun segment made => (holds segment made).2 _ rfl⟩

/-- Constants of which one has the name of a linking value. -/
def namedAlike : Scope Float := ⟨[("pi", pi), ("e", e), ("lf", 100)]⟩

/-- The tone and the constant with these constants. -/
theorem resolveAll_namedAlike :
    resolveAll namedAlike .initial toneAndConstant
      = .ofList [⟨.constant 500, .constant 0, 0⟩, ⟨.constant 100, .constant 0, 10⟩] := by
  have f : Component.resolve namedAlike
      (Links.mk 500 0 Component.fullTurn Component.fullTurn).lookup .frequency
        (.object [("type", .text "constant")]) = .ok (.constant 100) := by
    show (Component.fieldValue _ _ _ "y" (.text SignalAxis.frequency.level) >>= _) = _
    rw [Component.fieldValue_level rfl]
    rfl
  have made : resolve namedAlike (Links.mk 500 0 Component.fullTurn Component.fullTurn)
      (.object [("f", .object [("type", .text "constant")]), ("run", .int 10)])
        = .ok ⟨.constant 100, .constant 0, 10⟩ := by
    show (Component.resolve _ _ .frequency (.object [("type", .text "constant")]) >>= _) = _
    rw [f]
    rfl
  unfold toneAndConstant
  rw [resolveAll_cons rfl rfl]
  show Feed.cons ⟨.constant 500, .constant 0, 0⟩ (resolveAll namedAlike
    (Links.mk 500 0 Component.fullTurn Component.fullTurn) _) = _
  rw [resolveAll_cons made rfl]
  rfl

/-- **A constant with the name of a linking value hides the level.** It stands in place of a level that
is left out, which is then not the one the axis stands at. -/
theorem normalize_hidden_level :
    Scope.ofDocument (.object [("lf", .int 100)]) = .ok namedAlike
      ∧ normalize namedAlike .initial (.ofList toneAndConstant)
        = .ofList [⟨.constant 100, .constant 0, 10⟩]
      ∧ StandsAt .initial (resolveAll namedAlike .initial toneAndConstant).items .frequency 1 500
      ∧ (100 : Float) ≠ 500 := by
  refine ⟨?_, ?_, ?_, by decide +kernel⟩
  · rw [Scope.ofDocument_object]
    show Scope.ofDefinitions _ = _
    unfold Scope.ofDefinitions
    rw [Scope.resolve]
    rfl
  · rw [normalize_ofList, resolveAll_namedAlike]
    rfl
  · rw [resolveAll_namedAlike]
    exact .behind rfl rfl

end Segment

end WhistledSpeech
