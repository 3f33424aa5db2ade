import Mathlib
import WhistledSpeech.Proofs.Lexicon.References
import WhistledSpeech.Proofs.Scores
import WhistledSpeech.Proofs.Signal.Rendering

/-!
# What can keep a text from sounding

An authored model is well formed before anything is compiled from it, and what a speaker pronounces are
segments that its author wrote. So nothing is met on the way that could be of a wrong kind. What a model,
a text, a voice and a rate can still be at fault for, from the document to the last sample, is said by
`Speaker.faults_of_accepted`.
-/

namespace WhistledSpeech

open Arithmetic Authored

/-! ## Compiling -/

/-- **What can keep an authored model from being compiled.** -/
inductive Authored.Model.Breaks (model : Model) : Fault → Prop
  /-- What should separate words is no pattern. -/
  | boundary {written : String} {cause : PatternFault} (given : model.wordBoundary = some written)
      (unread : WrittenPattern.read written = .error cause) : Breaks model cause.toFault
  /-- A reference does not resolve. -/
  | reference {reference : Reference} {fault : Fault} (mem : reference ∈ model.references)
      (reports : reference.Reports model fault) : Breaks model fault
  /-- A constant is at fault. -/
  | constants {fault : Fault} (h : fault.OfFormula) : Breaks model fault

/-- **An authored quantity defines** a number, or a formula unless it is at fault. -/
theorem Authored.Quantity.raises_definition (quantity : Quantity) :
    Raises Fault.OfFormula (Definition.ofDocument quantity.toDocument) := by
  cases quantity with
  | number x => trivial
  | formula written => exact (raises_parse written).map fun _ _ => trivial

/-- Authored constants are defined one after the other. -/
theorem Definition.raises_ofEntries (constants : List (String × Quantity)) :
    Raises Fault.OfFormula
      (ofEntries (constants.map fun entry => (entry.1, entry.2.toDocument))) := by
  induction constants with
  | nil => trivial
  | cons entry rest ih =>
    exact entry.2.raises_definition.bind fun definition _ => ih.bind fun definitions _ => trivial

/-- **The scope of authored constants.** -/
theorem Scope.raises_ofDocument (constants : List (String × Quantity)) :
    Raises Fault.OfFormula (ofDocument (ofTable Quantity.toDocument constants)) := by
  unfold ofDocument
  rw [optionalEntries_ofTable]
  exact (Definition.raises_ofEntries constants).bind fun definitions _ => raises_resolve _ _

variable {model : Model}

/-- What separates words is a pattern, or a text that is none. -/
theorem Authored.Model.raises_boundary (model : Model) :
    Raises model.Breaks
      (WordBoundary.ofDocument ((model.wordBoundary.map Document.text).getD .null)) := by
  cases given : model.wordBoundary with
  | none => trivial
  | some written =>
    unfold WordBoundary.ofDocument
    dsimp only [Option.map_some, Option.getD_some]
    split
    · trivial
    · cases unread : WrittenPattern.read written with
      | ok boundary => trivial
      | error cause => exact .boundary given unread

/-- A lexicon is compiled, or the first reference that does not resolve is reported. -/
theorem Lexicon.raises_compile (model : Model) : Raises model.Breaks (compile model.toEntries) := by
  have goes := compiles_toEntries model
  cases compiled : compile model.toEntries with
  | ok lexicon => trivial
  | error fault =>
    rw [compiled] at goes
    -- a lexicon that is not compiled reports the first reference that does not resolve
    obtain ⟨before, reference, after, parts, _, _, reports⟩ := goes
    refine .reference ?_ reports
    rw [parts]
    exact List.mem_append_right before List.mem_cons_self

/-- **Compiling an authored model** fails with what separates words, its references or its constants. -/
theorem Speaker.raises_compile (model : Model) : Raises model.Breaks (compile model.toEntries) := by
  have boundary : Document.find? "wordBoundary" model.toEntries
      = model.wordBoundary.map Document.text := by
    simp [Model.toEntries, Document.find?]
  have constants : Document.find? "constants" model.toEntries
      = some (ofTable Quantity.toDocument model.constants) := by
    simp [Model.toEntries, Document.find?]
  unfold compile
  dsimp only
  rw [boundary, constants]
  refine model.raises_boundary.bind fun boundary _ => ?_
  refine (Lexicon.raises_compile model).bind fun lexicon _ => ?_
  exact ((Scope.raises_ofDocument model.constants).raises fun _ => .constants).bind fun _ _ => trivial

/-! ## Speaking -/

/-- **A voice that an author may write** moves times by a factor above zero. -/
theorem Voice.rate_positive {given : Document} {voice : Voice Float}
    (accepted : ofDocument given = .ok voice) : lt (nat 0) voice.rate = true := by
  unfold ofDocument at accepted
  split at accepted
  · next read =>
    cases accepted
    cases given with
    | object entries =>
      unfold ofObject? ofEntries? at read
      simp only [Option.bind_eq_bind, Option.bind_eq_some_iff] at read
      -- a factor that is left out is one, and one that is given has been compared with zero
      obtain ⟨_, _, _, _, rate, read, made⟩ := read
      cases made
      unfold withDefault at read
      split at read
      · cases read
        show lt (nat 0) (1 : Float) = true
        rfl
      · unfold positive? at read
        split at read
        · split at read
          · next above =>
            cases read
            exact decide_eq_true above
          · exact absurd read nofun
        · exact absurd read nofun
    | null | bool _ | int _ | float _ | text _ | list _ => exact absurd read nofun
  · exact absurd accepted nofun

namespace Speaker

/-- **The faults of pronouncing a text**: a separator whose capture is no stretch of it, or those of a
word. -/
theorem fault_pronounce {speaker : Speaker} {text : String} {fault : Fault}
    (broken : (speaker.pronounce text).fault = some fault) :
    fault = .reversedCapture ∨ (∃ fragment, fault = .unrecognizedText fragment)
      ∨ ∃ grapheme ante post, fault = .unknownContext grapheme ante post := by
  obtain boundary | ⟨part, mem, within⟩ := (Feed.isConcat_expand _ _).fault_eq_some broken
  · exact .inl (WordBoundary.fault_words boundary)
  · obtain ⟨word, _, rfl⟩ := List.mem_map.mp mem
    exact .inr (speaker.lexicon.fault_pronounceWord within)

/-- **What is well formed fails only as it may.** A document that is accepted as a model compiles, or
the pattern of its separator, a reference in it or a constant is at fault. The speaker it compiles to
pronounces a text, or the text is; a capture of the separator may be no stretch of it. And what is
pronounced becomes sound in every voice that is accepted and at every rate above zero, or a formula or
a curve is at fault, a number is beyond its range, or there are more samples than a buffer can hold. No
value is of a wrong kind, no key is missing, no count is below zero or undefined, and what is written
fits. -/
theorem faults_of_accepted {written : Document} {model : Model}
    (accepted : Model.ofDocument? written = some model) :
    Raises model.Breaks (ofDocument written)
      ∧ ∀ speaker, ofDocument written = .ok speaker → ∀ text,
        (∀ fault, (speaker.pronounce text).fault = some fault →
          fault = .reversedCapture ∨ (∃ fragment, fault = .unrecognizedText fragment)
            ∨ ∃ grapheme ante post, fault = .unknownContext grapheme ante post)
        ∧ ∀ voice? rate, (∀ voice ∈ voice?, ∃ given, Voice.ofDocument given = .ok voice) →
          lt (nat 0) rate = true → isFinite rate = true →
          Raises (Rendering.Fails speaker.scope voice? (speaker.pronounce text) rate)
            (speaker.tone voice? text rate) := by
  have compiles : ofDocument written = compile model.toEntries := by
    unfold ofDocument
    rw [accepted]
  rw [compiles]
  refine ⟨raises_compile model, fun speaker compiled text => ⟨fun _ => fault_pronounce, ?_⟩⟩
  intro voice? rate voices positive finite
  refine Rendering.raises_tone speaker.scope (isAuthored_of_mem_pronounce compiled text)
    (fun voice mem => ?_) positive finite
  obtain ⟨given, accepted⟩ := voices voice mem
  exact Voice.rate_positive accepted

/-- A text that is half known, in a voice of half the speed. -/
theorem faults_of_accepted_oneGrapheme :
    ∃ speaker voice, ofDocument oneGrapheme = .ok speaker
      ∧ Voice.ofDocument (.object [("rate", .float 2)]) = .ok voice
      ∧ Raises (Rendering.Fails speaker.scope (some voice) (speaker.pronounce "ab") 1000)
          (speaker.tone (some voice) "ab" 1000) := by
  have accepted : Voice.ofDocument (.object [("rate", .float 2)]) = .ok ⟨none, none, 2⟩ := rfl
  refine ⟨_, _, ofDocument_oneGrapheme, accepted, ?_⟩
  refine ((faults_of_accepted rfl).2 _ ofDocument_oneGrapheme "ab").2 _ 1000 (fun voice mem => ?_)
    rfl rfl
  cases mem
  exact ⟨_, accepted⟩

/-- **A separator that contradicts itself**: it is to cover ASCII only and every script. -/
theorem ofDocument_contrary :
    Model.ofDocument? (.object [("wordBoundary", .text "(?a)(?u)x"), ("graphemes", .object [])])
        = some ⟨some "(?a)(?u)x", [], [], [], [], []⟩
      ∧ ofDocument (.object [("wordBoundary", .text "(?a)(?u)x"), ("graphemes", .object [])])
        = .error .contraryFlags := by
  have contrary : WrittenPattern.read "(?a)(?u)x" = .error .contrary := by cbv
  refine ⟨rfl, ?_⟩
  show (WordBoundary.ofDocument (.text "(?a)(?u)x") >>= _) = _
  unfold WordBoundary.ofDocument
  dsimp only
  rw [contrary]
  rfl

end Speaker

end WhistledSpeech
