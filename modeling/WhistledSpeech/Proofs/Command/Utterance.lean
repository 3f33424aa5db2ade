import Mathlib
import WhistledSpeech.Command.Folder
import WhistledSpeech.Command.Outcome
import WhistledSpeech.Proofs.SpeakerFaults

/-!
# What a command makes heard

Before a command makes a sound it reads: the input, the model, the voice it is given. That changes no
folder (`Looks`), and what comes of it is authored. What can go wrong is reported, with two exceptions
(`Command.looks_utterance`): a setting that lacks its value, and a separator that is no pattern.
-/

namespace WhistledSpeech

open Arithmetic Authored

/-! ## Faults that are reported -/

/-- **A fault that a command reports.** -/
abbrev Fault.IsReported (fault : Fault) : Prop := fault.isReported = true

theorem Fault.OfFormula.isReported {fault : Fault} (h : fault.OfFormula) : fault.IsReported := by
  cases h <;> rfl

theorem Fault.OfCurve.isReported {fault : Fault} (h : fault.OfCurve) : fault.IsReported := by
  cases h <;> rfl

/-- A reference that does not resolve is reported. -/
theorem Authored.Reference.Reports.isReported {model : Model} {reference : Reference} {fault : Fault}
    (reports : reference.Reports model fault) : fault.IsReported := by
  cases reports with
  | cycle finds =>
    obtain ⟨path, rfl, _⟩ := finds
    rfl
  | circular _ _ => rfl
  | @missing place _ _ _ _ _ _ => cases place <;> rfl

namespace Path

theorem isReported_of_fault? {path : String} {fault : Fault} (h : fault? path = some fault) :
    fault.IsReported := by
  unfold fault? at h
  split at h
  · cases h; rfl
  · split at h
    · cases h; rfl
    · split at h
      · cases h; rfl
      · split at h
        · cases h; rfl
        · exact absurd h nofun

variable (occupant? : Place → Option Occupant)

theorem raises_step (place : Place) (next : PathStep) :
    Raises Fault.IsReported (step occupant? place next) := by
  unfold step
  split
  · trivial
  · trivial
  · split
    · rfl
    · split
      · trivial
      · rfl
  · rfl

theorem raises_follow (place : Place) (steps : List PathStep) :
    Raises Fault.IsReported (follow occupant? place steps) := by
  unfold follow
  induction steps generalizing place with
  | nil => trivial
  | cons next rest ih =>
    rw [List.foldlM_cons]
    exact (raises_step occupant? place next).bind fun place _ => ih place

/-- **Reading a file** fails with what is reported. -/
theorem raises_textAt (home : Place) (path : String) :
    Raises Fault.IsReported (textAt occupant? home path) := by
  unfold textAt
  split
  · next malformed => exact isReported_of_fault? malformed
  · refine (raises_follow occupant? _ _).bind fun place _ => ?_
    split
    · trivial
    · rfl

/-- So does **finding the place for a file**. -/
theorem raises_placeFor (home : Place) (path : String) :
    Raises Fault.IsReported (placeFor occupant? home path) := by
  unfold placeFor
  split
  · next malformed => exact isReported_of_fault? malformed
  · refine (raises_follow occupant? _ _).bind fun here _ => ?_
    refine (raises_step occupant? here .stay).bind fun here _ => ?_
    split
    · split
      · rfl
      · split
        · rfl
        · trivial
    · rfl

end Path

/-! ## Looking -/

section Looking

variable {α β : Type} {folder : Folder} {failed : Fault → Prop}

/-- **A step that only looks**: it comes to something and leaves the folder as it is. -/
def Looks (made : α → Prop) (failed : Fault → Prop) (step : ExceptT Fault (StateM Folder) α)
    (folder : Folder) : Prop :=
  ∃ result, step.run.run folder = (result, folder) ∧ ComesTo made failed result

/-- A fault ends all that would come after it. -/
theorem run_bind_of_error {step : ExceptT Fault (StateM Folder) α} {fault : Fault}
    (stopped : step.run.run folder = (.error fault, folder))
    (next : α → ExceptT Fault (StateM Folder) β) :
    (step >>= next).run.run folder = (.error fault, folder) := by
  rw [ExceptT.run_bind, StateT.run_bind, stopped]
  rfl

namespace Looks

variable {made : α → Prop} {then_ : β → Prop} {step : ExceptT Fault (StateM Folder) α}

/-- What is known already needs no look. -/
theorem ofExcept {result : Except Fault α} (h : ComesTo made failed result) :
    Looks made failed (Command.ofExcept result) folder :=
  ⟨result, rfl, h⟩

theorem throw {fault : Fault} (h : failed fault) : Looks made failed (MonadExcept.throw fault) folder :=
  ⟨.error fault, rfl, h⟩

theorem throw_bind {fault : Fault} (h : failed fault) (next : β → ExceptT Fault (StateM Folder) α) :
    Looks made failed (MonadExcept.throw fault >>= next) folder :=
  ⟨.error fault, run_bind_of_error rfl next, h⟩

/-- The same of other faults. -/
theorem mono {failed' : Fault → Prop} (h : Looks made failed step folder)
    (fault : ∀ fault, failed fault → failed' fault) : Looks made failed' step folder := by
  obtain ⟨result, run, comes⟩ := h
  exact ⟨result, run, comes.mono (fun _ h => h) fault⟩

/-- **A step after a look** starts in the same folder, or is not taken. -/
theorem run_bind (h : Looks made failed step folder) (next : α → ExceptT Fault (StateM Folder) β) :
    (∃ a, made a ∧ (step >>= next).run.run folder = (next a).run.run folder)
      ∨ ∃ fault, failed fault ∧ (step >>= next).run.run folder = (.error fault, folder) := by
  obtain ⟨result, run, comes⟩ := h
  cases result with
  | ok a =>
    refine .inl ⟨a, comes, ?_⟩
    rw [ExceptT.run_bind, StateT.run_bind, run]
    rfl
  | error fault => exact .inr ⟨fault, comes, run_bind_of_error run next⟩

/-- **One look after the other.** -/
theorem bind {next : α → ExceptT Fault (StateM Folder) β} (h : Looks made failed step folder)
    (h' : ∀ a, made a → Looks then_ failed (next a) folder) :
    Looks then_ failed (step >>= next) folder := by
  obtain ⟨a, there, run⟩ | ⟨fault, fails, run⟩ := h.run_bind next
  · obtain ⟨result, run', comes⟩ := h' a there
    exact ⟨result, run.trans run', comes⟩
  · exact ⟨.error fault, run, fails⟩

/-- What a step comes to can be looked at, fault or not. -/
theorem lift (h : Looks made failed step folder) :
    Looks (fun result => ComesTo made failed result) failed (ExceptT.lift step.run) folder := by
  obtain ⟨result, run, comes⟩ := h
  refine ⟨.ok result, ?_, comes⟩
  rw [ExceptT.run_lift, StateT.run_map, run]
  rfl

end Looks

/-- A file of a folder is read without changing it. -/
theorem Folder.looks_textAt (folder : Folder) (input path : String) :
    Looks (fun text => Path.textAt folder.occupant? home path = .ok text) Fault.IsReported
      ((surroundings input).textAt path) folder := by
  refine ⟨Path.textAt folder.occupant? home path, rfl, ?_⟩
  have raises := Path.raises_textAt folder.occupant? home path
  cases read : Path.textAt folder.occupant? home path with
  | ok text => rfl
  | error fault => exact raises.fault read

end Looking

/-! ## Reading -/

/-- **An authored utterance**: its raw segments are authored, its voice does not turn back time, and what
ends it early is reported or is a separator whose capture is no stretch of the text. -/
structure Utterance.IsAuthored (utterance : Utterance) : Prop where
  /-- The raw segments are authored. -/
  segments : ∀ raw ∈ utterance.source.items, WhistledSpeech.IsAuthored raw
  /-- The factor on times is above zero. -/
  voice : ∀ voice ∈ utterance.voice?, lt (nat 0) voice.rate = true
  /-- It ends early for what is reported, or for a separator. -/
  fault : ∀ fault, utterance.source.fault = some fault → fault.IsReported ∨ fault = .reversedCapture

/-- What a speaker of an authored model says. -/
theorem Speaker.isAuthored_utterance {model : Model} {speaker : Speaker}
    (compiled : compile model.toEntries = .ok speaker) {voice? : Option (Voice Float)}
    (positive : ∀ voice ∈ voice?, lt (nat 0) voice.rate = true) (text : String) :
    (speaker.utterance voice? text).IsAuthored := by
  refine ⟨isAuthored_of_mem_pronounce compiled _, positive, fun fault broken => ?_⟩
  obtain rfl | ⟨_, rfl⟩ | ⟨_, _, _, rfl⟩ := fault_pronounce broken
  · exact .inr rfl
  · exact .inl rfl
  · exact .inl rfl

/-- **A score that has been read** is authored, or what is wrong with it is reported. -/
theorem Command.comesTo_recite (written : String) :
    ComesTo Utterance.IsAuthored Fault.IsReported (recite written) := by
  unfold recite
  cases Document.read written with
  | error cause => cases cause <;> rfl
  | ok document =>
    show ComesTo _ _ (Score.ofDocument document >>= _)
    unfold Score.ofDocument
    cases Score.ofDocument? document with
    | none => rfl
    | some score =>
      show ComesTo _ _ (score.utterance none)
      unfold Score.utterance Score.constantsDocument
      -- the raw segments of a score are those its author wrote, and they never end early
      refine ((Scope.raises_ofDocument score.constants).raises fun _ h => h.isReported).bind
        fun scope _ => ⟨fun raw mem => ?_, nofun, nofun⟩
      obtain ⟨segment, _, rfl⟩ := List.mem_map.mp mem
      exact ⟨segment, rfl⟩

/-- **The voice of a command** does not turn back time. -/
theorem Command.comesTo_voice (command : Command) :
    ComesTo (fun voice? => ∀ voice ∈ voice?, lt (nat 0) voice.rate = true) Fault.IsReported
      command.voice := by
  unfold Command.voice
  split
  · rfl
  · unfold Voice.ofMaps
    split
    · next above =>
      intro voice mem
      unfold Voice.unlessIdentity at mem
      split at mem
      · exact absurd mem nofun
      · cases mem
        exact decide_eq_true above
    · rfl

namespace Command

variable {command : Command} {input : String} {folder : Folder}

/-- **The model of a command**: the one that the file at its path describes. -/
def FindsModel (command : Command) (folder : Folder) (model : Model) : Prop :=
  ∃ written document, Path.textAt folder.occupant? Folder.home (Path.shown command.model) = .ok written
    ∧ Document.read (Text.asRead written) = .ok document ∧ Model.ofDocument? document = some model

/-- **What a command does not foresee while it reads**: a setting that lacks its value, and a separator
that is no pattern. -/
inductive Overlooks (command : Command) (folder : Folder) : Fault → Prop
  /-- A setting lacks its value. -/
  | lacking {setting : Setting} (lacks : command.lacks setting = true) :
      Overlooks command folder .wrongType
  /-- What should separate words in the model is no pattern. -/
  | boundary {model : Model} {written : String} {cause : PatternFault} (speaks : command.kind = .text)
      (found : command.FindsModel folder model) (given : model.wordBoundary = some written)
      (unread : WrittenPattern.read written = .error cause) : Overlooks command folder cause.toFault

/-- A fault that is reported, or that a command does not foresee. -/
abbrev FailsReading (command : Command) (folder : Folder) (fault : Fault) : Prop :=
  fault.IsReported ∨ command.Overlooks folder fault

/-- **The speaker of a written model**, or what is wrong with the model. -/
theorem comesTo_ofText {written : String} (speaks : command.kind = .text)
    (there : Path.textAt folder.occupant? Folder.home (Path.shown command.model) = .ok written) :
    ComesTo (fun speaker => ∃ model : Model, Speaker.compile model.toEntries = .ok speaker)
      (command.FailsReading folder) (Speaker.ofText (Text.asRead written)) := by
  unfold Speaker.ofText
  cases read : Document.read (Text.asRead written) with
  | error cause => cases cause <;> exact .inl rfl
  | ok document =>
    dsimp only
    unfold Speaker.ofDocument
    cases accepted : Model.ofDocument? document with
    | none => exact .inl rfl
    | some model =>
      dsimp only
      cases compiled : Speaker.compile model.toEntries with
      | ok speaker => exact ⟨model, compiled⟩
      | error fault =>
        cases (Speaker.raises_compile model).fault compiled with
        | boundary given unread =>
          exact .inr (.boundary speaks ⟨written, document, there, read, accepted⟩ given unread)
        | reference _ reports => exact .inl reports.isReported
        | constants h => exact .inl h.isReported

/-- The file of the model is read, and the model in it compiled. -/
theorem looks_readSpeaker (speaks : command.kind = .text) :
    Looks (fun speaker => ∃ model : Model, Speaker.compile model.toEntries = .ok speaker)
      (command.FailsReading folder) (command.readSpeaker (Folder.surroundings input)) folder := by
  unfold readSpeaker
  extract_lets path go
  split
  · next lacks => exact Looks.throw_bind (.inr (.lacking lacks)) go
  · show Looks _ _ (ExceptT.lift ((Folder.surroundings input).textAt path).run >>= _) folder
    refine ((folder.looks_textAt input path).lift.mono fun _ => .inl).bind fun result comes => ?_
    split
    · exact Looks.ofExcept (comesTo_ofText speaks comes)
    · exact Looks.throw (.inl rfl)
    · exact Looks.throw (.inl rfl)
    · exact Looks.throw (.inl rfl)
    · exact Looks.throw (.inl rfl)
    · exact Looks.throw (.inl comes)

/-- The input is read. -/
theorem looks_readInput :
    Looks (fun _ => True) (command.FailsReading folder)
      (command.readInput (Folder.surroundings input)) folder := by
  unfold readInput
  split
  · next lacks => exact Looks.throw (.inr (.lacking lacks))
  · split
    · exact ⟨.ok (Text.asRead input), rfl, trivial⟩
    · exact ((folder.looks_textAt input command.input).mono fun _ => .inl).bind
        fun text _ => ⟨.ok (Text.asRead text), rfl, trivial⟩

/-- **What a command makes heard** in a folder. -/
def hears (command : Command) (input : String) (folder : Folder) : Except Fault Utterance :=
  ((command.utterance (Folder.surroundings input)).run.run folder).1

/-- **A command reads** without changing the folder, and what it makes heard is authored. -/
theorem looks_utterance :
    Looks (fun utterance => command.hears input folder = .ok utterance ∧ utterance.IsAuthored)
      (command.FailsReading folder) (command.utterance (Folder.surroundings input)) folder := by
  -- what is heard is what this run gives, so it is enough that it is authored
  have looks : Looks Utterance.IsAuthored (command.FailsReading folder)
      (command.utterance (Folder.surroundings input)) folder := by
    unfold utterance
    split
    · exact looks_readInput.bind fun written _ =>
        Looks.ofExcept ((comesTo_recite written).mono (fun _ h => h) fun _ => .inl)
    · next speaks =>
      refine (looks_readSpeaker speaks).bind fun speaker ⟨model, compiled⟩ => ?_
      refine (Looks.ofExcept (command.comesTo_voice.mono (fun _ h => h) fun _ => .inl)).bind
        fun voice? positive => ?_
      exact looks_readInput.bind fun text _ =>
        ⟨.ok _, rfl, speaker.isAuthored_utterance compiled positive text⟩
  obtain ⟨result, run, comes⟩ := looks
  refine ⟨result, run, ?_⟩
  cases result with
  | ok utterance => exact ⟨congrArg Prod.fst run, comes⟩
  | error fault => exact comes

end Command

end WhistledSpeech
