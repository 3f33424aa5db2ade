import Mathlib
import WhistledSpeech.Proofs.Command.Utterance
import WhistledSpeech.Proofs.Decimal.Integer
import WhistledSpeech.Proofs.Signal.Checking

/-!
# How a command ends

A command is done, and its output has received the sound file. Or nothing has been written, and a fault
is reported. Or nothing has been written, and the fault is one that the command does not foresee
(`Command.run_cases`). `Command.Unforeseen` lists what it does not foresee and what brings it about; a
model whose separator is no pattern is enough (`Command.run_of_unread`).

One more thing is not foreseen, and not modelled either: a machine may have a limit to the depth of
recursion, and then it gives up on a model, or on a formula in it, that nests deeper than that.
-/

namespace WhistledSpeech

open Arithmetic Authored

/-! ## Numbers -/

/-- **A sample rate** is too large to be written down, not above zero, or one that a sound file can have. -/
theorem Wave.rateFault?_cases (rate : Int) :
    (rateFault? rate = some .overflow ∧ (rateLimit ≤ rate ∨ rate < -rateLimit))
      ∨ (rateFault? rate = some .refusedRate ∧ rate ≤ 0)
      ∨ (rateFault? rate = none ∧ 0 < rate ∧ rate < rateLimit) := by
  unfold rateFault?
  by_cases large : rateLimit ≤ rate ∨ rate < -rateLimit
  · exact .inl ⟨if_pos large, large⟩
  · rw [if_neg large]
    by_cases low : rate ≤ 0
    · exact .inr (.inl ⟨if_pos low, low⟩)
    · exact .inr (.inr ⟨if_neg low, by omega, by omega⟩)

/-- A length that a buffer does not have is reported, or there is no memory for it. -/
theorem lengthFault?_eq_some {length : Int} {fault : Fault} (h : lengthFault? length = some fault) :
    fault.IsReported ∨ fault = .noMemory ∧ excessiveLength ≤ length := by
  unfold lengthFault? at h
  split at h
  · cases h
    exact .inl rfl
  · split at h
    · next excessive =>
      cases h
      exact .inr ⟨rfl, excessive⟩
    · exact absurd h nofun

namespace Command

variable {command : Command} {input : String} {folder : Folder}

/-- **What a command does not foresee**, and why. A limit to the depth of recursion is left out: with one,
what nests too deep would be another constructor. -/
inductive Unforeseen (command : Command) (input : String) (folder : Folder) : Fault → Prop
  /-- It is overlooked while reading. -/
  | overlooked {fault : Fault} (h : command.Overlooks folder fault) :
      Unforeseen command input folder fault
  /-- A capture of what separates words ends before it starts. -/
  | reversed {utterance : Utterance} (heard : command.hears input folder = .ok utterance)
      (broken : utterance.source.fault = some .reversedCapture) :
      Unforeseen command input folder .reversedCapture
  /-- A segment goes beyond the range of the numbers. -/
  | overflow {utterance : Utterance} {resolved : List (Segment Float)} {segment : Segment Float}
      (heard : command.hears input folder = .ok utterance) (made : utterance.segments = .ok resolved)
      (mem : segment ∈ resolved) (beyond : segment.Overflows (some utterance.scope) command.rate) :
      Unforeseen command input folder .overflow
  /-- There is no memory for so many samples, on the machine that is assumed. -/
  | long {utterance : Utterance} {resolved : List (Segment Float)} {length : Int}
      (heard : command.hears input folder = .ok utterance) (made : utterance.segments = .ok resolved)
      (measured : trackLength command.rate resolved = .ok length)
      (excessive : excessiveLength ≤ length) : Unforeseen command input folder .noMemory
  /-- The sample rate is zero. -/
  | zeroRate (zero : command.sampleRate = 0) : Unforeseen command input folder .zeroRate
  /-- The sample rate is below zero. -/
  | negativeRate (below : command.sampleRate < 0) : Unforeseen command input folder .refusedRate
  /-- The sample rate is too large to be written down. -/
  | largeRate (beyond : Wave.rateLimit ≤ command.sampleRate ∨ command.sampleRate < -Wave.rateLimit) :
      Unforeseen command input folder .overflow

/-- **A fault of a command**: one that it reports, or one that it does not foresee. -/
abbrev FailsWith (command : Command) (input : String) (folder : Folder) (fault : Fault) : Prop :=
  fault.IsReported ∨ command.Unforeseen input folder fault

/-! ## Sound -/

section Sound

variable {utterance : Utterance} {resolved : List (Segment Float)} {segment : Segment Float}
  {fault : Fault}

/-- Where an utterance ends early. -/
theorem failsWith_of_broken (heard : command.hears input folder = .ok utterance)
    (authored : utterance.IsAuthored) (broken : utterance.source.fault = some fault) :
    command.FailsWith input folder fault := by
  obtain reported | rfl := authored.fault fault broken
  · exact .inl reported
  · exact .inr (.reversed heard broken)

/-- What is at fault in a segment of an utterance. -/
theorem failsWith_of_faulty (heard : command.hears input folder = .ok utterance)
    (made : utterance.segments = .ok resolved) (mem : segment ∈ resolved)
    (why : segment.Faulty (some utterance.scope) command.rate fault) :
    command.FailsWith input folder fault := by
  cases why with
  | formula h => exact .inl h.isReported
  | curve h => exact .inl h.isReported
  | overflow beyond => exact .inr (.overflow heard made mem beyond)

/-- What is wrong with the length of an utterance. -/
theorem failsWith_of_length (heard : command.hears input folder = .ok utterance)
    (made : utterance.segments = .ok resolved) {length : Int}
    (measured : trackLength command.rate resolved = .ok length)
    (refused : lengthFault? length = some fault) : command.FailsWith input folder fault := by
  obtain reported | ⟨rfl, excessive⟩ := lengthFault?_eq_some refused
  · exact .inl reported
  · exact .inr (.long heard made measured excessive)

/-- **The segments of what a command makes heard.** -/
theorem raises_segments (heard : command.hears input folder = .ok utterance)
    (authored : utterance.IsAuthored) : Raises (command.FailsWith input folder) utterance.segments :=
  (Rendering.comesTo_segments utterance.scope authored.segments authored.voice).raises
    fun _ failed => failed.elim (fun h => .inl h.isReported) (failsWith_of_broken heard authored)

/-- **A check of what a command makes heard**, at any rate. -/
theorem raises_check (heard : command.hears input folder = .ok utterance)
    (authored : utterance.IsAuthored) :
    Raises (command.FailsWith input folder) (utterance.check command.rate) := by
  refine (Rendering.raises_check utterance.scope authored.segments authored.voice).raises fun fault stops => ?_
  cases stops with
  | source broken => exact failsWith_of_broken heard authored broken
  | formula h => exact .inl h.isReported
  | segment made mem stops =>
    cases stops with
    | faulty why => exact failsWith_of_faulty heard made mem why
    | undefined => exact .inl rfl
    | uneven => exact .inl rfl
  | length made measured refused => exact failsWith_of_length heard made measured refused
  | zeroRate zero =>
    refine .inr (.zeroRate ?_)
    by_contra some
    exact absurd (zero.symm.trans (eq_ofInt_zero some)) nofun

/-- **The samples of what a command makes heard**, at a rate that a sound file can have. -/
theorem raises_samples (heard : command.hears input folder = .ok utterance)
    (authored : utterance.IsAuthored) (above : 0 < command.sampleRate)
    (below : command.sampleRate < Wave.rateLimit) :
    Raises (command.FailsWith input folder) (utterance.samples command.rate) := by
  -- what a sound file can have as its rate has a double that is finite and above zero
  have small : command.sampleRate.natAbs < 2 ^ 31 := by
    have limit : Wave.rateLimit = 2 ^ 31 := rfl
    omega
  have tone := Rendering.raises_tone utterance.scope authored.segments authored.voice
    (lt_zero_ofInt above) (isFinite_ofInt small)
  refine (tone.raises fun fault fails => ?_).map fun _ _ => trivial
  cases fails with
  | source broken => exact failsWith_of_broken heard authored broken
  | formula h => exact .inl h.isReported
  | segment made mem why => exact failsWith_of_faulty heard made mem why
  | long made measured _ refused => exact failsWith_of_length heard made measured refused

/-- A check at a rate of zero never ends well. -/
theorem check_ne_ok (zero : command.sampleRate = 0) (utterance : Utterance) :
    utterance.check command.rate ≠ .ok () := by
  intro checked
  obtain ⟨resolved, _, checked⟩ := bind_eq_ok_iff.mp checked
  obtain ⟨_, _, checked⟩ := bind_eq_ok_iff.mp checked
  have nothing : eq (Decimal.Binary64.ofInt 0) (0 : Float) = true := rfl
  unfold rate at checked
  rw [zero, if_pos nothing] at checked
  exact absurd checked nofun

end Sound

/-- **The sound file of a command** in a folder: the samples of what it makes heard, encoded. -/
def Sounds (command : Command) (input : String) (folder : Folder) (bytes : List UInt8) : Prop :=
  ∃ utterance samples, command.hears input folder = .ok utterance
    ∧ utterance.samples command.rate = .ok samples
    ∧ Wave.encode samples command.sampleRate = .ok bytes

/-- **At a rate that no sound file can have** there is none, and what is to be heard is checked instead. -/
theorem failsWith_of_rateFault {utterance : Utterance}
    (heard : command.hears input folder = .ok utterance) (authored : utterance.IsAuthored)
    {fault : Fault} (refused : Wave.rateFault? command.sampleRate = some fault) :
    ComesTo (fun _ => command.FailsWith input folder fault) (command.FailsWith input folder)
      (utterance.check command.rate) := by
  have checks := raises_check heard authored
  obtain ⟨rate, beyond⟩ | ⟨rate, low⟩ | ⟨rate, _⟩ := Wave.rateFault?_cases command.sampleRate
  · obtain rfl : fault = .overflow := Option.some.inj (refused.symm.trans rate)
    exact checks.mono (fun _ _ => .inr (.largeRate beyond)) fun _ h => h
  · obtain rfl : fault = .refusedRate := Option.some.inj (refused.symm.trans rate)
    -- a rate of zero fails the check, so what passes it is below zero
    cases checked : utterance.check command.rate with
    | error other => exact checks.fault checked
    | ok _ =>
      have below : command.sampleRate < 0 :=
        lt_of_le_of_ne low fun zero => check_ne_ok zero utterance checked
      exact .inr (.negativeRate below)
  · exact absurd (refused.symm.trans rate) nofun

/-- **At every other rate** the sound file holds the samples of what is to be heard. -/
theorem sounds_of_rateFault_none {utterance : Utterance}
    (heard : command.hears input folder = .ok utterance) (authored : utterance.IsAuthored)
    (fits : Wave.rateFault? command.sampleRate = none) :
    ComesTo (command.Sounds input folder) (command.FailsWith input folder)
      (utterance.samples command.rate >>= fun samples => Wave.encode samples command.sampleRate) := by
  obtain ⟨rate, _⟩ | ⟨rate, _⟩ | ⟨_, above, below⟩ := Wave.rateFault?_cases command.sampleRate
  · exact absurd (rate.symm.trans fits) nofun
  · exact absurd (rate.symm.trans fits) nofun
  · have renders := raises_samples heard authored above below
    cases made : utterance.samples command.rate with
    | error fault => exact renders.fault made
    | ok samples =>
      obtain ⟨bytes, encoded⟩ : ∃ bytes, Wave.encode samples command.sampleRate = .ok bytes := by
        unfold Wave.encode
        rw [fits]
        exact ⟨_, rfl⟩
      show ComesTo _ _ (Wave.encode samples command.sampleRate)
      rw [encoded]
      exact ⟨utterance, samples, heard, made, encoded⟩

/-- **A sound file is made** without changing the folder. -/
theorem looks_soundFile :
    Looks (command.Sounds input folder) (command.FailsWith input folder)
      (command.soundFile (Folder.surroundings input)) folder := by
  unfold soundFile
  refine (looks_utterance.mono fun fault fails => fails.imp_right .overlooked).bind
    fun utterance ⟨heard, authored⟩ => ?_
  extract_lets go
  split
  · next lacks =>
    refine (Looks.ofExcept (raises_segments heard authored)).bind fun _ _ => ?_
    exact Looks.throw_bind (.inr (.overlooked (.lacking lacks))) go
  · show Looks _ _ (go ()) folder
    dsimp only [go]
    cases rate : Wave.rateFault? command.sampleRate with
    | some fault =>
      exact (Looks.ofExcept (failsWith_of_rateFault heard authored rate)).bind
        fun _ fails => Looks.throw fails
    | none =>
      refine ⟨_, ?_, sounds_of_rateFault_none heard authored rate⟩
      cases utterance.samples command.rate with
      | error fault => rfl
      | ok samples => rfl

/-! ## Output -/

/-- **An output receives bytes**: they are added to the standard output, or are the file at a place. -/
def Receives (output : String) (folder : Folder) (bytes : List UInt8) (after : Folder) : Prop :=
  output = "-" ∧ after = { folder with emitted := folder.emitted ++ bytes }
    ∨ output ≠ "-" ∧ ∃ place, Path.placeFor folder.occupant? Folder.home output = .ok place
      ∧ after = folder.store place bytes

/-- A file is stored at its place, if there is one for it. -/
theorem run_store (input path : String) (bytes : List UInt8) (folder : Folder) :
    ((Folder.surroundings input).store path bytes).run.run folder
      = match Path.placeFor folder.occupant? Folder.home path with
        | .ok place => (.ok (), folder.store place bytes)
        | .error fault => (.error fault, folder) := by
  show (ExceptT.mk (pure (Path.placeFor folder.occupant? Folder.home path)) >>= fun place =>
    set (folder.store place bytes) : ExceptT Fault (StateM Folder) Unit).run.run folder = _
  cases Path.placeFor folder.occupant? Folder.home path with
  | ok place => rfl
  | error fault => rfl

/-- **Carrying out a command** writes the sound file, or fails and writes nothing. -/
theorem perform_cases (command : Command) (input : String) (folder : Folder) :
    (∃ bytes after, (command.perform (Folder.surroundings input)).run.run folder = (.ok (), after)
        ∧ command.Sounds input folder bytes ∧ Receives command.output folder bytes after)
      ∨ ∃ fault, (command.perform (Folder.surroundings input)).run.run folder = (.error fault, folder)
        ∧ command.FailsWith input folder fault := by
  unfold perform
  obtain ⟨bytes, sounds, run⟩ | ⟨fault, fails, run⟩ := looks_soundFile.run_bind _
  · rw [run]
    split
    · next lacks => exact .inr ⟨_, rfl, .inr (.overlooked (.lacking lacks))⟩
    · split
      · next standard => exact .inl ⟨bytes, _, rfl, sounds, .inl ⟨standard, rfl⟩⟩
      · next named =>
        have raises := Path.raises_placeFor folder.occupant? Folder.home command.output
        cases found : Path.placeFor folder.occupant? Folder.home command.output with
        | ok place =>
          refine .inl ⟨bytes, folder.store place bytes, ?_, sounds, .inr ⟨named, place, found, rfl⟩⟩
          rw [run_store, found]
        | error fault =>
          refine .inr ⟨fault, ?_, .inl (raises.fault found)⟩
          rw [run_store, found]
  · rw [run]
    exact .inr ⟨fault, rfl, fails⟩

/-- **How a command ends.** Either it is done, and its output has received the sound file and nothing
else: the samples of what it makes heard, encoded. Or the folder is as it was, nothing has been written
anywhere, and a fault is reported. Or the folder is as it was and the fault is one that the command does
not foresee: a setting lacks its value, the separator of the model is no pattern or captures what is no
stretch of the text, a number is beyond its range, there is no memory for the samples, or the sample
rate is none that a sound file can have. That is all there is as long as the depth of recursion has no
limit; a model that nests beyond such a limit adds a fault that is not foreseen. -/
theorem run_cases (command : Command) (input : String) (folder : Folder) :
    ∃ outcome after,
      ((Invocation.command command).run (Folder.surroundings input)).run folder = (outcome, after)
        ∧ ((outcome = .done ∧ ∃ bytes, command.Sounds input folder bytes
              ∧ Receives command.output folder bytes after)
          ∨ (after = folder ∧ ∃ fault, outcome = .reported fault ∧ fault.IsReported)
          ∨ (after = folder ∧ ∃ fault, outcome = .unforeseen fault
              ∧ command.Unforeseen input folder fault)) := by
  unfold Invocation.run
  dsimp only
  rw [StateT.run_bind]
  obtain ⟨bytes, after, run, sounds, received⟩ | ⟨fault, run, fails⟩ :=
    perform_cases command input folder
  · rw [run]
    exact ⟨.done, after, rfl, .inl ⟨rfl, bytes, sounds, received⟩⟩
  · rw [run]
    cases known : fault.isReported with
    | true =>
      refine ⟨.reported fault, folder, ?_, .inr (.inl ⟨rfl, fault, rfl, known⟩)⟩
      show (if fault.isReported then Outcome.reported fault else .unforeseen fault, folder) = _
      rw [known]
      rfl
    | false =>
      refine ⟨.unforeseen fault, folder, ?_, .inr (.inr ⟨rfl, fault, rfl, ?_⟩)⟩
      · show (if fault.isReported then Outcome.reported fault else .unforeseen fault, folder) = _
        rw [known]
        rfl
      · exact fails.resolve_left (by rw [Fault.IsReported, known]; nofun)

/-! ## A separator that is no pattern -/

/-- A model whose separator is no pattern is not compiled. -/
theorem compile_of_unread {model : Model} {written : String} {cause : PatternFault}
    (given : model.wordBoundary = some written) (unread : WrittenPattern.read written = .error cause) :
    Speaker.compile model.toEntries = .error cause.toFault := by
  have found : Document.find? "wordBoundary" model.toEntries = some (.text written) := by
    simp [Model.toEntries, Document.find?, given]
  have some : (Document.text written).isEmptyValue = false := by
    cases empty : (Document.text written).isEmptyValue with
    | false => rfl
    | true =>
      -- nothing written is no separator, but it is a pattern
      obtain rfl : written = "" := String.isEmpty_iff.mp empty
      have pattern : (WrittenPattern.read "").isOk = true := by cbv
      rw [unread] at pattern
      exact absurd pattern Bool.false_ne_true
  unfold Speaker.compile
  dsimp only
  rw [found]
  show WordBoundary.ofDocument (.text written) >>= _ = _
  unfold WordBoundary.ofDocument
  rw [some]
  dsimp only
  rw [unread]
  rfl

/-- The speaker of a file that holds such a model. -/
theorem readSpeaker_of_unread (has : command.lacks .model = false) {model : Model} {written : String}
    {cause : PatternFault} (found : command.FindsModel folder model)
    (given : model.wordBoundary = some written) (unread : WrittenPattern.read written = .error cause) :
    (command.readSpeaker (Folder.surroundings input)).run.run folder
      = (.error cause.toFault, folder) := by
  obtain ⟨text, document, there, read, accepted⟩ := found
  have ofText : Speaker.ofText (Text.asRead text) = .error cause.toFault := by
    unfold Speaker.ofText Speaker.ofDocument
    rw [read]
    dsimp only
    rw [accepted]
    exact compile_of_unread given unread
  have looks : Looks (fun result => result = .ok text) (fun _ => False)
      (ExceptT.lift ((Folder.surroundings input).textAt (Path.shown command.model)).run) folder :=
    ⟨.ok (.ok text), congrArg (fun result => (Except.ok result, folder)) there, rfl⟩
  unfold readSpeaker
  extract_lets path go
  rw [has]
  obtain ⟨_, rfl, run⟩ | ⟨_, none, _⟩ := looks.run_bind _
  · refine run.trans ?_
    show (Speaker.ofText (Text.asRead text), folder) = _
    rw [ofText]
  · exact none.elim

/-- **A command does not foresee a separator that is no pattern.** It ends with the fault of the pattern,
whatever the text, and writes nothing. -/
theorem run_of_unread (speaks : command.kind = .text) (has : command.lacks .model = false)
    {model : Model} {written : String} {cause : PatternFault} (found : command.FindsModel folder model)
    (given : model.wordBoundary = some written) (unread : WrittenPattern.read written = .error cause)
    (silent : cause.toFault.isReported = false) :
    ((Invocation.command command).run (Folder.surroundings input)).run folder
      = (.unforeseen cause.toFault, folder) := by
  have speaker : (command.readSpeaker (Folder.surroundings input)).run.run folder
      = (.error cause.toFault, folder) := readSpeaker_of_unread has found given unread
  have utterance : (command.utterance (Folder.surroundings input)).run.run folder
      = (.error cause.toFault, folder) := by
    unfold utterance
    rw [speaks]
    exact run_bind_of_error speaker _
  have performed : (command.perform (Folder.surroundings input)).run.run folder
      = (.error cause.toFault, folder) :=
    run_bind_of_error (run_bind_of_error utterance _) _
  unfold Invocation.run
  dsimp only
  rw [StateT.run_bind, performed]
  show (if cause.toFault.isReported then Outcome.reported cause.toFault
    else .unforeseen cause.toFault, folder) = _
  rw [silent]
  rfl

/-- **A model whose separator is an opening bracket**, and nothing else. -/
def bracketModel : String := "\x7b\"wordBoundary\":\"[\",\"graphemes\":\x7b\x7d\x7d"

/-- A command that speaks with that model. -/
def bracketCommand : Command := { ofKind .text with model := "m" }

/-- It ends with a fault that it does not report. -/
theorem run_bracketCommand :
    Invocation.ofArguments ["text", "-c", "m"] = .command bracketCommand
      ∧ ((Invocation.command bracketCommand).run (Folder.surroundings "a")).run
          (Folder.ofTexts [("m", bracketModel)])
        = (.unforeseen .malformedPattern, Folder.ofTexts [("m", bracketModel)]) := by
  refine ⟨by cbv, ?_⟩
  have there : Path.textAt (Folder.ofTexts [("m", bracketModel)]).occupant? Folder.home
      (Path.shown bracketCommand.model) = .ok bracketModel := by cbv
  have read : Document.read (Text.asRead bracketModel)
      = .ok (.object [("wordBoundary", .text "["), ("graphemes", .object [])]) := by cbv
  have found : bracketCommand.FindsModel (Folder.ofTexts [("m", bracketModel)])
      ⟨some "[", [], [], [], [], []⟩ := ⟨bracketModel, _, there, read, rfl⟩
  have unread : WrittenPattern.read "[" = .error .malformed := by cbv
  exact run_of_unread rfl rfl found rfl unread rfl

end Command

end WhistledSpeech
