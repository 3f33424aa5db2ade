import WhistledSpeech.Authored.Field

/-!
# Authored segments

The raw segments of a model and of a score, as an author may write them. Every level and every clip may
be left out and is then linked or zero; only the excursion of a contour has to be there, and the kind of
every component. The curve of a contour is one of two; that of a transition is any text, since it may be
a formula.
-/

namespace WhistledSpeech.Authored

/-- The curve of an authored contour. -/
inductive ContourCurve where
  /-- A cosine. -/
  | sine
  /-- Half an ellipse. -/
  | ellipse
  deriving Repr, DecidableEq

namespace ContourCurve

/-- The curve with a name. -/
def ofDocument? : Document → Option ContourCurve
  | .text s => if s = "sine" then some sine else if s = "ellipse" then some ellipse else none
  | _ => none

/-- The name of a curve. -/
def toDocument : ContourCurve → Document
  | sine => .text "sine"
  | ellipse => .text "ellipse"

end ContourCurve

/-- **An authored component.** -/
inductive Component where
  /-- A move between two levels. -/
  | transition (curve : Option String) (start finish startClip endClip : Option Quantity)
  /-- An excursion and back. -/
  | contour (curve : Option ContourCurve) (level : Option Quantity) (excursion : Quantity)
      (clip : Option Quantity)
  /-- A level held. -/
  | constant (level : Option Quantity)

namespace Component

/-- The component that entries describe, by the kind they name. -/
def ofEntries? (entries : Entries) : Option Component :=
  let quantity := optional Quantity.ofDocument?
  match Document.find? "type" entries with
  | some (.text "transition") => do
    let curve ← optional text? "curve" entries
    let start ← quantity "sy" entries
    let finish ← quantity "ey" entries
    let startClip ← quantity "sclip" entries
    let endClip ← quantity "eclip" entries
    return transition curve start finish startClip endClip
  | some (.text "contour") => do
    let curve ← optional ContourCurve.ofDocument? "curve" entries
    let level ← quantity "y" entries
    let excursion ← required Quantity.ofDocument? "a" entries
    let clip ← quantity "clip" entries
    return contour curve level excursion clip
  | some (.text "constant") => do
    let level ← quantity "y" entries
    return constant level
  | _ => none

/-- The component of a value. -/
def ofDocument? : Document → Option Component := ofObject? ofEntries?

/-- The component as a document. -/
def toDocument : Component → Document
  | transition curve start finish startClip endClip =>
    .object <| [("type", .text "transition")] ++ entry .text "curve" curve ++
      entry Quantity.toDocument "sy" start ++ entry Quantity.toDocument "ey" finish ++
      entry Quantity.toDocument "sclip" startClip ++ entry Quantity.toDocument "eclip" endClip
  | contour curve level excursion clip =>
    .object <| [("type", .text "contour")] ++ entry ContourCurve.toDocument "curve" curve ++
      entry Quantity.toDocument "y" level ++ [("a", excursion.toDocument)] ++
      entry Quantity.toDocument "clip" clip
  | constant level =>
    .object <| [("type", .text "constant")] ++ entry Quantity.toDocument "y" level

end Component

/-- **An authored segment.** -/
structure Segment where
  /-- How the frequency moves. -/
  f : Option Component
  /-- How the amplitude moves. -/
  a : Option Component
  /-- How long the segment lasts. -/
  run : Option Quantity

namespace Segment

/-- The segment that entries describe. -/
def ofEntries? (entries : Entries) : Option Segment := do
  let f ← optional Component.ofDocument? "f" entries
  let a ← optional Component.ofDocument? "a" entries
  let run ← optional Quantity.ofDocument? "run" entries
  return ⟨f, a, run⟩

/-- The segment of a value. -/
def ofDocument? : Document → Option Segment := ofObject? ofEntries?

/-- The segment as a document. -/
def toDocument (segment : Segment) : Document :=
  .object <| entry Component.toDocument "f" segment.f ++ entry Component.toDocument "a" segment.a ++
    entry Quantity.toDocument "run" segment.run

end Segment

/-! ## Reading what was written -/

namespace ContourCurve

@[simp] theorem ofDocument?_toDocument (curve : ContourCurve) :
    ofDocument? curve.toDocument = some curve := by
  cases curve <;> rfl

theorem toDocument_ne_null (curve : ContourCurve) : curve.toDocument ≠ .null := by
  cases curve <;> simp [toDocument]

end ContourCurve

namespace Component

/-- The document of a component is an object that names its kind first. -/
theorem toDocument_ne_null (component : Component) : component.toDocument ≠ .null := by
  cases component <;> simp [toDocument]

/-- What the document of a transition holds. -/
theorem toDocument_transition (curve : Option String)
    (start finish startClip endClip : Option Quantity) :
    ∃ entries, (transition curve start finish startClip endClip).toDocument = .object entries
      ∧ Document.find? "type" entries = some (.text "transition")
      ∧ Document.find? "curve" entries = curve.map .text
      ∧ Document.find? "sy" entries = start.map Quantity.toDocument
      ∧ Document.find? "ey" entries = finish.map Quantity.toDocument
      ∧ Document.find? "sclip" entries = startClip.map Quantity.toDocument
      ∧ Document.find? "eclip" entries = endClip.map Quantity.toDocument := by
  refine ⟨_, rfl, ?_⟩
  simp [Document.find?]

/-- What the document of a contour holds. -/
theorem toDocument_contour (curve : Option ContourCurve) (level : Option Quantity)
    (excursion : Quantity) (clip : Option Quantity) :
    ∃ entries, (contour curve level excursion clip).toDocument = .object entries
      ∧ Document.find? "type" entries = some (.text "contour")
      ∧ Document.find? "curve" entries = curve.map ContourCurve.toDocument
      ∧ Document.find? "y" entries = level.map Quantity.toDocument
      ∧ Document.find? "a" entries = some excursion.toDocument
      ∧ Document.find? "clip" entries = clip.map Quantity.toDocument := by
  refine ⟨_, rfl, ?_⟩
  simp [Document.find?]

/-- What the document of a constant holds. -/
theorem toDocument_constant (level : Option Quantity) :
    ∃ entries, (constant level).toDocument = .object entries
      ∧ Document.find? "type" entries = some (.text "constant")
      ∧ Document.find? "y" entries = level.map Quantity.toDocument := by
  refine ⟨_, rfl, ?_⟩
  simp [Document.find?]

/-- **A component reads back.** -/
@[simp] theorem ofDocument?_toDocument (component : Component) :
    ofDocument? component.toDocument = some component := by
  cases component with
  | transition curve start finish startClip endClip =>
    obtain ⟨entries, written, kind, curve, start, finish, startClip, endClip⟩ :=
      toDocument_transition curve start finish startClip endClip
    simp only [written, ofDocument?, ofObject?, ofEntries?, kind, optional_text?_of_find? curve,
      Quantity.optional_of_find? start, Quantity.optional_of_find? finish,
      Quantity.optional_of_find? startClip, Quantity.optional_of_find? endClip]
    rfl
  | contour curve level excursion clip =>
    obtain ⟨entries, written, kind, curve, level, given, clip⟩ :=
      toDocument_contour curve level excursion clip
    have excursion : required Quantity.ofDocument? "a" entries = some excursion := by
      rw [required, given, Option.bind_some, Quantity.ofDocument?_toDocument]
    simp only [written, ofDocument?, ofObject?, ofEntries?, kind, excursion,
      optional_of_find? ContourCurve.ofDocument?_toDocument ContourCurve.toDocument_ne_null curve,
      Quantity.optional_of_find? level, Quantity.optional_of_find? clip]
    rfl
  | constant level =>
    obtain ⟨entries, written, kind, level⟩ := toDocument_constant level
    simp only [written, ofDocument?, ofObject?, ofEntries?, kind, Quantity.optional_of_find? level]
    rfl

/-- A component that may be left out reads back. -/
theorem optional_of_find? {key : String} {entries : Entries} {value : Option Component}
    (found : Document.find? key entries = value.map toDocument) :
    optional ofDocument? key entries = some value :=
  Authored.optional_of_find? ofDocument?_toDocument toDocument_ne_null found

end Component

namespace Segment

/-- What the document of a segment holds. -/
theorem toDocument_holds (segment : Segment) :
    ∃ entries, segment.toDocument = .object entries
      ∧ Document.find? "f" entries = segment.f.map Component.toDocument
      ∧ Document.find? "a" entries = segment.a.map Component.toDocument
      ∧ Document.find? "run" entries = segment.run.map Quantity.toDocument := by
  refine ⟨_, rfl, ?_⟩
  simp

/-- **A segment reads back.** -/
@[simp] theorem ofDocument?_toDocument (segment : Segment) :
    ofDocument? segment.toDocument = some segment := by
  obtain ⟨entries, written, f, a, run⟩ := segment.toDocument_holds
  simp only [written, ofDocument?, ofObject?, ofEntries?, Component.optional_of_find? f,
    Component.optional_of_find? a, Quantity.optional_of_find? run]
  rfl

end Segment

end WhistledSpeech.Authored
