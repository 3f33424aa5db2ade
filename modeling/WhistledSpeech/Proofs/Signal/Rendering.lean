import Mathlib
import WhistledSpeech.Authored.Score
import WhistledSpeech.Authored.Voice
import WhistledSpeech.Proofs.Lexicon.Segments
import WhistledSpeech.Proofs.Signal.Interruption
import WhistledSpeech.Proofs.Signal.Omission
import WhistledSpeech.Proofs.Signal.Tone

/-!
# What can go wrong on the way to sound

Raw segments that an author may write are resolved, moved by a voice, written and made audible.
Formulas and curves may fail on the way, and there may be more samples than can be counted or held.
Nothing else goes wrong: `Rendering.Fails` lists the ways, and `Rendering.raises_tone` has it that
there is no other at a rate above zero.

The invariant is `Segment.IsPlayable`: both components have a curve to ask for, and the time has no minus
sign. It holds of every segment that is resolved and makes a sound, and a voice keeps it. So samples are
never a negative number, the lanes of a track are as long as what goes into them, and its cells come in
pairs.
-/

namespace WhistledSpeech

open Arithmetic

/-! ## Fields -/

section Fields

variable {scope : Scope Float} {links : String → Option Float} {axis : SignalAxis}
  {spec : List (String × Document)} {key : String}

/-- **An authored quantity** has a value, or its formula is at fault. -/
theorem Authored.Quantity.raises_evalField (quantity : Authored.Quantity) :
    Raises Fault.OfFormula (scope.evalField quantity.toDocument links) := by
  cases quantity with
  | number x => trivial
  | formula written => exact scope.raises_evalText written links

/-- A field that holds a quantity, or is left out and has the value of another. -/
theorem Component.raises_fieldValue {value : Option Authored.Quantity}
    (found : Document.find? key spec = value.map Authored.Quantity.toDocument) {fallback : Document}
    (other : Raises Fault.OfFormula (scope.evalField fallback links)) :
    Raises Fault.OfFormula (fieldValue scope links spec key fallback) := by
  unfold fieldValue
  rw [found]
  cases value with
  | none => exact other
  | some quantity => exact quantity.raises_evalField

end Fields

/-! ## Resolving -/

section Resolving

variable {scope : Scope Float} {links : String → Option Float} {axis : SignalAxis}

/-- The curve of an authored transition can be read. -/
theorem TransitionCurve.exists_ofDocument (curve : Option String) :
    ∃ read, ofDocument ((curve.map Document.text).getD .null) = .ok read := by
  cases curve with
  | none => exact ⟨_, rfl⟩
  | some s =>
    show ∃ read, ofDocument (.text s) = .ok read
    unfold ofDocument
    dsimp only
    cases s.toList with
    | nil => exact ⟨_, rfl⟩
    | cons c rest => exact ⟨_, rfl⟩

/-- The curve of an authored contour is a text. -/
theorem Component.exists_contourCurve (curve : Option Authored.ContourCurve) :
    ∃ name, (if ((curve.map Authored.ContourCurve.toDocument).getD .null).isEmptyValue then
      .text "sine" else (curve.map Authored.ContourCurve.toDocument).getD .null)
        = Document.text name := by
  cases curve with
  | none => exact ⟨"sine", rfl⟩
  | some curve =>
    cases curve with
    | sine => exact ⟨"sine", rfl⟩
    | ellipse => exact ⟨"ellipse", rfl⟩

/-- **An authored component resolves** to a proper one, or a formula in it is at fault. -/
theorem Component.comesTo_resolve (component : Authored.Component) :
    ComesTo IsProper Fault.OfFormula (resolve scope links axis component.toDocument) := by
  have level : Raises Fault.OfFormula (scope.evalField (.text axis.level) links) :=
    scope.raises_evalText axis.level links
  have zero : Raises Fault.OfFormula (scope.evalField (.int 0) links) := trivial
  cases component with
  | transition curve start finish startClip endClip =>
    obtain ⟨spec, written, kind, curveGiven, start, finish, startClip, endClip⟩ :=
      Authored.Component.toDocument_transition curve start finish startClip endClip
    obtain ⟨read, curveRead⟩ := TransitionCurve.exists_ofDocument curve
    rw [written]
    show ComesTo _ _ (ofFields scope links axis spec)
    unfold ofFields
    rw [kind, curveGiven]
    refine (raises_fieldValue start level).bind fun start _ => ?_
    refine (raises_fieldValue finish level).bind fun finish _ => ?_
    rw [curveRead]
    refine (raises_fieldValue startClip zero).bind fun startClip _ => ?_
    exact (raises_fieldValue endClip zero).bind fun endClip _ => trivial
  | contour curve y excursion clip =>
    obtain ⟨spec, written, kind, curveGiven, y, given, clip⟩ :=
      Authored.Component.toDocument_contour curve y excursion clip
    have excursion : Document.find? "a" spec
        = (some excursion).map Authored.Quantity.toDocument := given
    rw [written]
    show ComesTo _ _ (ofFields scope links axis spec)
    unfold ofFields
    rw [kind, curveGiven]
    refine (raises_fieldValue y level).bind fun y _ => ?_
    refine (raises_fieldValue excursion zero).bind fun excursion _ => ?_
    exact (raises_fieldValue clip zero).bind fun clip _ => exists_contourCurve curve
  | constant y =>
    obtain ⟨spec, written, kind, y⟩ := Authored.Component.toDocument_constant y
    rw [written]
    show ComesTo _ _ (ofFields scope links axis spec)
    unfold ofFields
    rw [kind]
    exact (raises_fieldValue y level).bind fun y _ => trivial

/-- A component that may be left out. -/
theorem Component.comesTo_resolve_option {links : Links Float} (component : Option Authored.Component) :
    ComesTo IsProper Fault.OfFormula (resolve scope links.lookup axis
      ((component.map Authored.Component.toDocument).getD .null)) := by
  cases component with
  | none =>
    rw [Option.map_none, Option.getD_none, resolve, links.lookup_level]
    trivial
  | some component => exact comesTo_resolve component

/-- **A segment of proper components.** -/
def Segment.IsProper (segment : Segment Float) : Prop := segment.f.IsProper ∧ segment.a.IsProper

/-- **An authored segment resolves** to one of proper components, or a formula in it is at fault. -/
theorem Segment.comesTo_resolve (scope : Scope Float) (segment : Authored.Segment)
    (links : Links Float) :
    ComesTo IsProper Fault.OfFormula (resolve scope links segment.toDocument) := by
  obtain ⟨fields, written, f, a, run⟩ := segment.toDocument_holds
  have zero : Raises Fault.OfFormula (scope.evalField (.int 0) links.lookup) := trivial
  rw [written]
  unfold resolve
  dsimp only
  rw [f, a]
  refine (Component.comesTo_resolve_option segment.f).bind fun f proper => ?_
  refine (Component.comesTo_resolve_option segment.a).bind fun a proper' => ?_
  refine (Component.raises_fieldValue run zero).bind fun run _ => ?_
  exact ⟨proper, proper'⟩

/-- What a proper component hands on. -/
theorem Component.IsProper.exists_terminal {component : Component Float} (proper : component.IsProper) :
    ∃ ends, component.terminal = .ok ends := by
  cases component with
  | transition _ | contour _ | constant _ => exact ⟨_, rfl⟩
  | foreign _ => exact proper.elim

/-- **Authored segments resolve**, up to the first formula at fault. -/
theorem Segment.resolveAll_authored (scope : Scope Float) {raws : List Document}
    (authored : ∀ raw ∈ raws, IsAuthored raw) (links : Links Float) :
    (∀ segment ∈ (resolveAll scope links raws).items, segment.IsProper)
      ∧ ∀ fault, (resolveAll scope links raws).fault = some fault → fault.OfFormula := by
  induction raws generalizing links with
  | nil => exact ⟨fun _ mem => absurd mem List.not_mem_nil, nofun⟩
  | cons raw rest ih =>
    obtain ⟨written, rfl⟩ := authored raw List.mem_cons_self
    have resolves := comesTo_resolve scope written links
    rw [resolveAll]
    cases made : resolve scope links written.toDocument with
    | error fault =>
      refine ⟨fun _ mem => absurd mem List.not_mem_nil, fun other is => ?_⟩
      cases is
      exact resolves.fault made
    | ok segment =>
      have proper := resolves.result made
      obtain ⟨fEnds, fTerminal⟩ := proper.1.exists_terminal
      obtain ⟨aEnds, aTerminal⟩ := proper.2.exists_terminal
      -- the rest is resolved after what this segment hands on, and a proper one always does
      have after : Links.after segment.f segment.a = .ok ⟨fEnds.1, aEnds.1, fEnds.2, aEnds.2⟩ := by
        unfold Links.after
        rw [fTerminal, aTerminal]
        rfl
      obtain ⟨all, faults⟩ := ih (fun raw mem => authored raw (List.mem_cons_of_mem _ mem))
        ⟨fEnds.1, aEnds.1, fEnds.2, aEnds.2⟩
      dsimp only
      rw [after]
      refine ⟨fun other mem => ?_, faults⟩
      obtain rfl | mem := List.mem_cons.mp mem
      · exact proper
      · exact all other mem

end Resolving

/-! ## Segments that can be played -/

/-- **A segment can be played**: its components are proper, and its time has no minus sign. -/
structure Segment.IsPlayable (segment : Segment Float) : Prop where
  /-- Both components have a curve to ask for. -/
  proper : segment.IsProper
  /-- The time is zero, a positive number or infinite. -/
  unsigned : IsUnsigned segment.run

/-- A segment that sounds. -/
theorem Segment.IsProper.isPlayable {segment : Segment Float} (proper : segment.IsProper)
    (above : lt (nat 0) segment.run = true) : segment.IsPlayable :=
  ⟨proper, isUnsigned_of_lt above⟩

/-- **The sounding segments** of authored ones are proper, and their times are above zero. -/
theorem Segment.normalize_authored (scope : Scope Float) {source : Feed Document}
    (authored : ∀ raw ∈ source.items, IsAuthored raw) (links : Links Float) :
    (∀ segment ∈ (normalize scope links source).items,
        segment.IsProper ∧ lt (nat 0) segment.run = true)
      ∧ ∀ fault, (normalize scope links source).fault = some fault →
        fault.OfFormula ∨ source.fault = some fault := by
  obtain ⟨proper, faults⟩ := resolveAll_authored scope authored links
  unfold normalize Feed.append
  dsimp only
  cases broken : (resolveAll scope links source.items).fault with
  | some fault =>
    dsimp only
    refine ⟨fun segment mem => ?_, fun other is => ?_⟩
    · obtain ⟨mem, sounds⟩ := List.mem_filter.mp mem
      exact ⟨proper segment mem, sounds⟩
    · rw [broken] at is
      cases is
      exact .inl (faults fault broken)
  | none =>
    dsimp only
    rw [List.append_nil]
    refine ⟨fun segment mem => ?_, fun fault is => .inr is⟩
    obtain ⟨mem, sounds⟩ := List.mem_filter.mp mem
    exact ⟨proper segment mem, sounds⟩

/-! ### Voices -/

/-- A map of an axis has an image of every proper component, and that is proper. -/
theorem AxisMap.exists_mapComponent (m : AxisMap Float) {component : Component Float}
    (proper : component.IsProper) :
    ∃ mapped, m.mapComponent component = .ok mapped ∧ mapped.IsProper := by
  cases component with
  | transition move => exact ⟨_, rfl, trivial⟩
  | contour excursion => exact ⟨_, rfl, proper⟩
  | constant level => exact ⟨_, rfl, trivial⟩
  | foreign label => exact proper.elim

theorem Voice.exists_mapAxis (m? : Option (AxisMap Float)) {component : Component Float}
    (proper : component.IsProper) :
    ∃ mapped, mapAxis m? component = .ok mapped ∧ mapped.IsProper := by
  unfold mapAxis
  cases m? with
  | none => exact ⟨component, rfl, proper⟩
  | some m =>
    dsimp only
    split
    · exact ⟨component, rfl, proper⟩
    · exact m.exists_mapComponent proper

/-- **A voice keeps what can be played.** -/
theorem Voice.exists_mapSegment {voice : Voice Float} (positive : lt (nat 0) voice.rate = true)
    {segment : Segment Float} (proper : segment.IsProper)
    (above : lt (nat 0) segment.run = true) :
    ∃ moved, voice.mapSegment segment = .ok moved ∧ moved.IsPlayable := by
  obtain ⟨f, hf, fProper⟩ := exists_mapAxis voice.f proper.1
  obtain ⟨a, ha, aProper⟩ := exists_mapAxis voice.a proper.2
  refine ⟨⟨f, a, segment.run * voice.rate⟩, ?_, ⟨fProper, aProper⟩, isUnsigned_mul above positive⟩
  unfold mapSegment
  rw [hf, ha]
  rfl

/-! ## Tracks of segments that can be played -/

namespace Segment

/-- **A segment goes beyond the range of the numbers**: it has more samples than can be counted, or the
end of one of its curves is too far out. -/
def Overflows (scope? : Option (Scope Float)) (rate : Float) (segment : Segment Float) : Prop :=
  sampleCount segment.run rate = .error .overflow
    ∨ ∃ count : Int, sampleCount segment.run rate = .ok count
      ∧ (segment.f.profile (ofInt count) scope? = .error .overflow
        ∨ segment.a.profile (ofInt count) scope? = .error .overflow)

/-- **What can be at fault in a segment.** -/
inductive Faulty (scope? : Option (Scope Float)) (rate : Float) (segment : Segment Float) : Fault → Prop
  /-- A formula. -/
  | formula {fault : Fault} (h : fault.OfFormula) : Faulty scope? rate segment fault
  /-- A curve. -/
  | curve {fault : Fault} (h : fault.OfCurve) : Faulty scope? rate segment fault
  /-- A number beyond its range. -/
  | overflow (beyond : segment.Overflows scope? rate) : Faulty scope? rate segment .overflow

variable {scope? : Option (Scope Float)} {rate : Float} {segment : Segment Float} {fault : Fault}

/-- A component of a proper segment that has no profile. -/
theorem IsProper.faulty_of_profile (proper : segment.IsProper) {count : Int}
    (counted : sampleCount segment.run rate = .ok count)
    (failed : segment.f.profile (ofInt count) scope? = .error fault
      ∨ segment.a.profile (ofInt count) scope? = .error fault) :
    segment.Faulty scope? rate fault := by
  have level : fault.OfLevel :=
    failed.elim (proper.1.raises_profile _ scope?).fault (proper.2.raises_profile _ scope?).fault
  cases level with
  | formula h => exact .formula h
  | curve h => exact .curve h
  | overflow => exact .overflow (.inr ⟨count, counted, failed⟩)

/-- Where a component breaks at a sample, a formula is at fault. -/
theorem ofFormula_of_breaksAt {component : Component Float} {count k : Nat}
    (breaks : component.BreaksAt scope? count k fault) : fault.OfFormula := by
  obtain ⟨profile, made⟩ := breaks.made
  have failed := breaks.failed
  rw [Component.levelAt_of_profile made] at failed
  cases level : profile.eval (ofInt k) with
  | ok x =>
    rw [level] at failed
    exact absurd failed nofun
  | error cause =>
    rw [level] at failed
    cases failed
    exact (profile.raises_eval _).fault level

/-- Whatever stops a proper segment, something is at fault in it. -/
theorem IsProper.faulty_of_writeSegment (proper : segment.IsProper) {count offset : Nat}
    {buffer filled : Array Float} (counted : sampleCount segment.run rate = .ok count)
    (positive : 0 < count) (room : offset + 2 * count ≤ buffer.size)
    (failed : Track.writeSegment scope? buffer offset count segment = ⟨filled, .error fault⟩) :
    segment.Faulty scope? rate fault := by
  obtain ⟨before, _⟩ | ⟨between, _⟩ := Track.writeSegment_error positive room failed
  · cases before with
    | frequency failed => exact proper.faulty_of_profile counted (.inl failed)
    | amplitude _ failed => exact proper.faulty_of_profile counted (.inr failed)
    | sample _ breaks =>
      obtain ⟨k, breaks⟩ := breaks
      exact .formula (ofFormula_of_breaksAt breaks)
  · obtain ⟨k, breaks⟩ := between.breaks
    exact .formula (ofFormula_of_breaksAt breaks)

end Segment

namespace Track

variable {scope? : Option (Scope Float)} {rate : Float} {segments : List (Segment Float)}
  {counts : List Nat} {fault : Fault}

/-- **What writing into a new buffer comes to**: a buffer that is filled to its end, or one of two
kinds of faults. -/
inductive NewTrack (scope? : Option (Scope Float)) (rate : Float) (segments : List (Segment Float)) :
    Except Fault (Array Float × Int) → Prop
  /-- All is written. -/
  | filled {buffer : Array Float} {last : Int} {count : Nat} (size : buffer.size = 2 * count)
      (fits : lengthFault? (2 * count : Nat) = none) : NewTrack scope? rate segments (.ok (buffer, last))
  /-- Something is at fault in a segment. -/
  | faulty {segment : Segment Float} {fault : Fault} (mem : segment ∈ segments)
      (why : segment.Faulty scope? rate fault) : NewTrack scope? rate segments (.error fault)
  /-- There are more samples than a buffer can hold. -/
  | long {length : Int} {fault : Fault} (measured : trackLength rate segments = .ok length)
      (excessive : excessiveLength ≤ length) (refused : lengthFault? length = some fault) :
      NewTrack scope? rate segments (.error fault)

/-- A write that stops, where there is room for all, stops at a segment with something at fault in it. -/
theorem exists_faulty_of_writeAll (proper : ∀ segment ∈ segments, segment.IsProper)
    (counted : Counts rate segments counts) {buffer filled : Array Float}
    (room : 0 + 2 * counts.sum ≤ buffer.size)
    (failed : writeAll scope? rate buffer (0 : Nat) segments = ⟨filled, .error fault⟩) :
    ∃ segment ∈ segments, segment.Faulty scope? rate fault := by
  obtain ⟨front, segment, back, frontCounts, before, count, rfl, countedFront, known, some, le,
    writtenFront, stops⟩ := exists_stop counted room failed
  -- the segments before have left the size as it was, so there is room where the write stops
  have size : before.size = buffer.size := by
    have keeps : KeepsTo _ 0 frontCounts.sum (writeAll scope? rate buffer (0 : Nat) front) :=
      (writeAll_spec countedFront _ (by omega)).keeps
    rw [writtenFront] at keeps
    exact keeps.size
  have mem : segment ∈ front ++ segment :: back := List.mem_append_right front List.mem_cons_self
  exact ⟨segment, mem, (proper segment mem).faulty_of_writeSegment known some (by omega) stops⟩

/-- **A new track** of segments that can be played. -/
theorem newTrack_write (scope? : Option (Scope Float))
    (playable : ∀ segment ∈ segments, segment.IsPlayable) (positive : lt (nat 0) rate = true)
    (finite : isFinite rate = true) :
    NewTrack scope? rate segments (write scope? segments rate none 0).toExcept := by
  obtain ⟨counts, counted⟩ | ⟨⟨segment, mem, uncountable⟩, total⟩ :=
    counts_or_overflow_of_isUnsigned fun segment mem =>
      isUnsigned_mul_finite (playable segment mem).unsigned positive finite
  · have measured : trackLength rate segments = .ok (2 * counts.sum : Nat) := by
      unfold trackLength
      rw [counted.totalCount]
      rfl
    -- every segment has a count, and the new buffer has just as many cells as they need
    have new : write scope? segments rate none (0 : Nat) = _ := write_none counted 0
    rw [Nat.zero_add] at new
    rw [← Nat.cast_zero, new]
    cases refused : lengthFault? (2 * counts.sum : Nat) with
    | some fault => exact .long measured (excessive_of_lengthFault? (Int.natCast_nonneg _) refused) refused
    | none =>
      dsimp only
      have room : 0 + 2 * counts.sum ≤ (Array.replicate (2 * counts.sum) (nat 0 : Float)).size := by
        rw [Array.size_replicate, Nat.zero_add]
      rw [write_some counted, if_neg (Nat.not_lt.mpr room)]
      have writes : Writes _ 0 counts.sum _ _ (writeAll scope? rate
          (Array.replicate (2 * counts.sum) (nat 0)) (0 : Nat) segments) :=
        writeAll_spec counted _ room
      cases written : writeAll scope? rate (Array.replicate (2 * counts.sum) (nat 0)) (0 : Nat) segments
        with
      | mk filled outcome =>
      cases outcome with
      | ok last =>
        rw [written] at writes
        exact .filled (writes.keeps.size.trans Array.size_replicate) refused
      | error fault =>
        obtain ⟨segment, mem, why⟩ := exists_faulty_of_writeAll
          (fun segment mem => (playable segment mem).proper) counted room written
        exact .faulty mem why
  · rw [write_of_overflow total]
    exact .faulty mem (.overflow (.inl uncountable))

end Track

/-! ## Sound -/

/-- A feed as a result: its items if it runs to its end, and else its fault. -/
theorem Feed.comesTo_toExcept {α : Type} {feed : Feed α} {kind : α → Prop} {failed : Fault → Prop}
    (all : ∀ item ∈ feed.items, kind item)
    (faults : ∀ fault, feed.fault = some fault → failed fault) :
    ComesTo (fun items => ∀ item ∈ items, kind item) failed feed.toExcept := by
  unfold toExcept
  cases broken : feed.fault with
  | none => exact all
  | some fault => exact faults fault broken

namespace Rendering

variable {scope : Scope Float} {voice? : Option (Voice Float)} {source : Feed Document}
  {rate : Float}

/-- **The segments of authored raw segments** can be played, or a formula is at fault, or there are no
more raw segments. -/
theorem comesTo_segments (scope : Scope Float) (authored : ∀ raw ∈ source.items, IsAuthored raw)
    (positive : ∀ voice ∈ voice?, lt (nat 0) voice.rate = true) :
    ComesTo (fun resolved => ∀ segment ∈ resolved, segment.IsPlayable)
      (fun fault => fault.OfFormula ∨ source.fault = some fault)
      (segments scope voice? source).toExcept := by
  obtain ⟨all, faults⟩ := Segment.normalize_authored scope authored Links.initial
  unfold segments
  cases voice? with
  | none =>
    exact Feed.comesTo_toExcept
      (fun segment mem => (all segment mem).1.isPlayable (all segment mem).2) faults
  | some voice =>
    have each : ∀ segment ∈ (Segment.normalize scope Links.initial source).items,
        ∃ moved, voice.mapSegment segment = .ok moved ∧ moved.IsPlayable :=
      fun segment mem => Voice.exists_mapSegment (positive voice rfl) (all segment mem).1
        (all segment mem).2
    obtain ⟨playable, same⟩ := Feed.mapExcept_of_each each
    refine Feed.comesTo_toExcept playable fun fault is => faults fault ?_
    rw [← same]
    exact is

/-- **The ways in which raw segments fail to become sound.** -/
inductive Fails (scope : Scope Float) (voice? : Option (Voice Float)) (source : Feed Document)
    (rate : Float) : Fault → Prop
  /-- There are no more raw segments. -/
  | source {fault : Fault} (broken : source.fault = some fault) : Fails scope voice? source rate fault
  /-- A formula in a raw segment is at fault. -/
  | formula {fault : Fault} (h : fault.OfFormula) : Fails scope voice? source rate fault
  /-- Something is at fault in a segment. -/
  | segment {resolved : List (Segment Float)} {segment : Segment Float} {fault : Fault}
      (made : (segments scope voice? source).toExcept = .ok resolved) (mem : segment ∈ resolved)
      (why : segment.Faulty (some scope) rate fault) : Fails scope voice? source rate fault
  /-- There are more samples than a buffer can hold. -/
  | long {resolved : List (Segment Float)} {length : Int} {fault : Fault}
      (made : (segments scope voice? source).toExcept = .ok resolved)
      (measured : trackLength rate resolved = .ok length) (excessive : excessiveLength ≤ length)
      (refused : lengthFault? length = some fault) : Fails scope voice? source rate fault

/-- **Authored raw segments fail to become sound in no other way.** -/
theorem raises_tone (scope : Scope Float) (authored : ∀ raw ∈ source.items, IsAuthored raw)
    (voicePositive : ∀ voice ∈ voice?, lt (nat 0) voice.rate = true)
    (positive : lt (nat 0) rate = true) (finite : isFinite rate = true) :
    Raises (Fails scope voice? source rate) (tone scope voice? source rate) := by
  have resolves := comesTo_segments scope authored voicePositive
  unfold tone track
  cases made : (segments scope voice? source).toExcept with
  | error fault => exact (resolves.fault made).elim .formula .source
  | ok resolved =>
    have written := Track.newTrack_write (some scope) (resolves.result made) positive finite
    show Raises _ ((Track.write (some scope) resolved rate none 0).toExcept >>= _)
    generalize (Track.write (some scope) resolved rate none 0).toExcept = outcome at written
    cases written with
    | @filled buffer last count size fits =>
      -- a track that is filled is made audible
      have half : lengthFault? count = none := by
        rw [lengthFault?_eq_none_iff] at fits ⊢
        omega
      obtain ⟨sound, rendered⟩ := Tone.render_none size half (eq_zero_of_lt positive) 0
      show Raises _ (Tone.render buffer rate none 0 0)
      rw [rendered]
      trivial
    | faulty mem why => exact .segment made mem why
    | long measured excessive refused => exact .long made measured excessive refused

end Rendering

end WhistledSpeech
