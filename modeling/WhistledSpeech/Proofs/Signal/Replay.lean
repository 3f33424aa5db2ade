import Mathlib
import WhistledSpeech.Proofs.Signal.Linking

/-!
# Resolved segments written down again

A resolved segment as a document has a number in the place of every field that could have been left out,
so nothing is left that constants or links could decide. What has to be looked at are the curves, which are
texts on both sides: a transition along a formula is written with the mark that tells it from a name, and
without the white space around the formula, which is gone when the formula is read
(`TransitionCurve.ofDocument_text`); and a contour is never left without a curve to write.

`IsResolved` says this of a component. It holds of all that raw segments are resolved to
(`Resolves.isResolved`), and a segment of such components is read back as what it is, with whatever
constants and links (`IsResolved.exists_toDocument`). So are the segments that sound
(`normalize_toDocument`).
-/

namespace WhistledSpeech

open Arithmetic

/-! ## Curves -/

/-- Where the white space at the ends is gone there is none to take away. -/
theorem Text.strip_strip (s : List Char) : strip (strip s) = strip s := by
  have front : (strip s).dropWhile isBlank = strip s := by
    refine List.dropWhile_eq_self_iff.mpr fun nonempty => ?_
    have kept : strip s <+: s.dropWhile isBlank := List.rdropWhile_prefix isBlank _
    rw [kept.getElem nonempty]
    exact List.dropWhile_get_zero_not isBlank s _
  show ((strip s).dropWhile isBlank).rdropWhile isBlank = _
  rw [front]
  exact List.rdropWhile_idempotent isBlank (s.dropWhile isBlank)

namespace TransitionCurve

/-- Behind the mark there is a formula. -/
theorem ofDocument_marked (s : List Char) :
    ofDocument (.text (String.ofList (mark :: s))) = .ok (formula (String.ofList (Text.strip s))) := by
  unfold ofDocument
  dsimp only
  rw [String.toList_ofList]
  rfl

/-- **A curve that was read is read again** from its own text. -/
theorem ofDocument_text {given : Document} {curve : TransitionCurve}
    (read : ofDocument given = .ok curve) : ofDocument (.text curve.text) = .ok curve := by
  cases given with
  | null =>
    cases read
    rfl
  | text s =>
    have kinds : curve = named s ∨ ∃ rest, curve = formula (String.ofList (Text.strip rest)) := by
      unfold ofDocument at read
      dsimp only at read
      split at read
      · next c rest _ =>
        split at read
        · exact .inr ⟨rest, (Except.ok.inj read).symm⟩
        · exact .inl (Except.ok.inj read).symm
      · exact .inl (Except.ok.inj read).symm
    obtain rfl | ⟨rest, rfl⟩ := kinds
    · exact read
    · show ofDocument (.text (String.ofList (mark :: (String.ofList (Text.strip rest)).toList))) = _
      rw [ofDocument_marked, String.toList_ofList, Text.strip_strip]
  | bool b => exact absurd read nofun
  | int n => exact absurd read nofun
  | float x => exact absurd read nofun
  | list items => exact absurd read nofun
  | object entries => exact absurd read nofun

end TransitionCurve

/-! ## Components -/

namespace Component

/-- **A component as it comes from a raw segment**: the curve of a transition is the one its text is read
as, and a contour has a curve. -/
def IsResolved : Component Float → Prop
  | .transition move => TransitionCurve.ofDocument (.text move.curve.text) = .ok move.curve
  | .contour excursion => excursion.curve.isEmptyValue = false
  | .constant _ => True
  | .foreign _ => False

variable {scope : Scope Float} {links : String → Option Float} {axis : SignalAxis}
  {component : Component Float}

theorem isResolved_of_ofFields {spec : List (String × Document)}
    (made : ofFields scope links axis spec = .ok component) : component.IsResolved := by
  unfold ofFields at made
  dsimp only at made
  split at made
  · obtain ⟨start, _, made⟩ := bind_eq_ok_iff.mp made
    obtain ⟨finish, _, made⟩ := bind_eq_ok_iff.mp made
    obtain ⟨curve, read, made⟩ := bind_eq_ok_iff.mp made
    obtain ⟨startClip, _, made⟩ := bind_eq_ok_iff.mp made
    obtain ⟨endClip, _, made⟩ := bind_eq_ok_iff.mp made
    cases made
    exact TransitionCurve.ofDocument_text read
  · obtain ⟨y, _, made⟩ := bind_eq_ok_iff.mp made
    obtain ⟨excursion, _, made⟩ := bind_eq_ok_iff.mp made
    obtain ⟨clip, _, made⟩ := bind_eq_ok_iff.mp made
    cases made
    show Document.isEmptyValue (if _ then _ else _) = false
    split
    · rfl
    · next given => exact Bool.eq_false_iff.mpr given
  · obtain ⟨y, _, made⟩ := bind_eq_ok_iff.mp made
    cases made
    trivial
  · exact absurd made nofun

/-- **Raw components are resolved to such components.** -/
theorem isResolved_of_resolve {given : Document} (made : resolve scope links axis given = .ok component) :
    component.IsResolved := by
  cases given with
  | null =>
    unfold resolve at made
    dsimp only at made
    split at made
    · cases made
      trivial
    · exact absurd made nofun
  | object spec => exact isResolved_of_ofFields made
  | bool b => exact absurd made nofun
  | int n => exact absurd made nofun
  | float x => exact absurd made nofun
  | text s => exact absurd made nofun
  | list items => exact absurd made nofun

/-- **Such a component is read back from its document**, and neither constants nor links nor the axis play
a part in it. -/
theorem IsResolved.exists_toDocument (resolved : component.IsResolved) :
    ∃ given, component.toDocument = .ok given
      ∧ ∀ scope links axis, resolve scope links axis given = .ok component := by
  cases component with
  | transition move =>
    refine ⟨_, rfl, fun scope links axis => ?_⟩
    show (TransitionCurve.ofDocument (.text move.curve.text) >>= fun curve =>
      Except.ok (transition ⟨move.start, move.finish, curve, move.startClip, move.endClip⟩)) = _
    exact bind_eq_ok_iff.mpr ⟨move.curve, resolved, rfl⟩
  | contour excursion =>
    refine ⟨_, rfl, fun scope links axis => ?_⟩
    have given : excursion.curve.isEmptyValue = false := resolved
    show Except.ok (contour ⟨excursion.level, excursion.excursion,
      if excursion.curve.isEmptyValue then .text "sine" else excursion.curve, excursion.clip⟩) = _
    rw [given]
    rfl
  | constant level => exact ⟨_, rfl, fun _ _ _ => rfl⟩
  | foreign label => exact absurd resolved id

/-- Such a component ends somewhere. -/
theorem IsResolved.exists_terminal (resolved : component.IsResolved) :
    ∃ level phase, component.terminal = .ok (level, phase) := by
  cases component with
  | transition move => exact ⟨_, _, rfl⟩
  | contour excursion => exact ⟨_, _, rfl⟩
  | constant level => exact ⟨_, _, rfl⟩
  | foreign label => exact absurd resolved id

end Component

/-! ## Segments -/

namespace Segment

variable {scope : Scope Float} {links last : Links Float} {raws : List Document}
  {segment : Segment Float} {segments : List (Segment Float)}

/-- **A segment as it comes from a raw one.** -/
structure IsResolved (segment : Segment Float) : Prop where
  /-- The frequency. -/
  f : segment.f.IsResolved
  /-- The amplitude. -/
  a : segment.a.IsResolved

theorem isResolved_of_resolve {raw : Document} (made : resolve scope links raw = .ok segment) :
    segment.IsResolved := by
  cases raw with
  | object fields =>
    obtain ⟨f, a⟩ := resolve_object_eq_ok made
    exact ⟨Component.isResolved_of_resolve f, Component.isResolved_of_resolve a⟩
  | null => exact absurd made nofun
  | bool b => exact absurd made nofun
  | int n => exact absurd made nofun
  | float x => exact absurd made nofun
  | text s => exact absurd made nofun
  | list items => exact absurd made nofun

/-- All segments of a run are of this kind. -/
theorem Resolves.isResolved (run : Resolves scope links raws segments last) :
    ∀ segment ∈ segments, segment.IsResolved := by
  induction run with
  | nil links => exact fun _ mem => absurd mem List.not_mem_nil
  | cons made _ _ ih => exact List.forall_mem_cons.mpr ⟨isResolved_of_resolve made, ih⟩

/-- **Such a segment is read back from its document.** -/
theorem IsResolved.exists_toDocument (resolved : segment.IsResolved) :
    ∃ raw, segment.toDocument = .ok raw ∧ ∀ scope links, resolve scope links raw = .ok segment := by
  obtain ⟨f, writtenF, readF⟩ := resolved.f.exists_toDocument
  obtain ⟨a, writtenA, readA⟩ := resolved.a.exists_toDocument
  refine ⟨.object [("f", f), ("a", a), ("run", .float segment.run)], ?_, fun scope links => ?_⟩
  · unfold toDocument
    rw [writtenF, writtenA]
    rfl
  · show (Component.resolve scope links.lookup .frequency f >>= fun f =>
      Component.resolve scope links.lookup .amplitude a >>= fun a =>
        Except.ok (Segment.mk f a segment.run)) = _
    rw [readF, readA]
    rfl

/-- **So is a list of them**, from whatever links. -/
theorem exists_mapM_toDocument (resolved : ∀ segment ∈ segments, segment.IsResolved) :
    ∃ raws, segments.mapM toDocument = .ok raws
      ∧ ∀ scope links, resolveAll scope links raws = .ofList segments := by
  induction segments with
  | nil => exact ⟨[], rfl, fun _ _ => rfl⟩
  | cons segment segments ih =>
    obtain ⟨first, others⟩ := List.forall_mem_cons.mp resolved
    obtain ⟨raw, written, read⟩ := first.exists_toDocument
    obtain ⟨raws, writtenAll, readAll⟩ := ih others
    refine ⟨raw :: raws, ?_, fun scope links => ?_⟩
    · rw [List.mapM_cons, written, writtenAll]
      rfl
    · obtain ⟨fLevel, fPhase, f⟩ := first.f.exists_terminal
      obtain ⟨aLevel, aPhase, a⟩ := first.a.exists_terminal
      have ended : Links.after segment.f segment.a = .ok ⟨fLevel, aLevel, fPhase, aPhase⟩ := by
        unfold Links.after
        rw [f, a]
        rfl
      rw [resolveAll_cons (read scope links) ended, readAll]
      rfl

/-- The segments that sound are some of those resolved. -/
theorem items_normalize (scope : Scope Float) (links : Links Float) (source : Feed Document) :
    (normalize scope links source).items = (resolveAll scope links source.items).items.filter sounds := by
  unfold normalize Feed.append
  dsimp only
  split
  · rfl
  · rw [List.append_nil]

/-- **What raw segments come to does not change when it is written down and resolved again.** The segments
that sound, also those before a fault, can all be written as documents; and with whatever constants, and
from whatever links, these are resolved without a fault to the same segments. -/
theorem normalize_toDocument (scope : Scope Float) (links : Links Float) (source : Feed Document) :
    ∃ raws, (normalize scope links source).items.mapM toDocument = .ok raws
      ∧ ∀ scope' links', normalize scope' links' (.ofList raws)
        = .ofList (normalize scope links source).items := by
  obtain ⟨last, run⟩ := resolves_take (le_refl (resolveAll scope links source.items).items.length)
  rw [List.take_length] at run
  have resolved : ∀ segment ∈ (normalize scope links source).items, segment.IsResolved := by
    intro segment mem
    rw [items_normalize] at mem
    exact run.isResolved segment (List.mem_of_mem_filter mem)
  have sounding : (normalize scope links source).items.filter sounds
      = (normalize scope links source).items := by
    rw [items_normalize, List.filter_filter]
    simp only [Bool.and_self]
  obtain ⟨raws, written, read⟩ := exists_mapM_toDocument resolved
  refine ⟨raws, written, fun scope' links' => ?_⟩
  rw [normalize_ofList, read]
  show (⟨_, none⟩ : Feed (Segment Float)) = _
  rw [Feed.ofList, sounding]

end Segment

end WhistledSpeech
