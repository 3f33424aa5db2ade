import WhistledSpeech.Authored.Model
import WhistledSpeech.Authored.Score
import WhistledSpeech.Command.Arguments
import WhistledSpeech.Command.Path
import WhistledSpeech.Command.Surroundings
import WhistledSpeech.Document.Reader
import WhistledSpeech.Text.Lines
import WhistledSpeech.Wave

/-!
# Carrying out a command

A command reads its input, makes the samples and writes the sound file, in surroundings of any kind.
Nothing is written unless everything before has gone well.

Most faults are reported and end the command with the exit code 1. Some are not foreseen: those of
numbers and of the sound file, of a boundary that is no pattern, and of values of the wrong kind.
`Fault.isReported` tells them apart.
-/

namespace WhistledSpeech

/-- **How a command line ends.** -/
inductive Outcome where
  /-- The sound file has been written. -/
  | done
  /-- A fault has been reported. -/
  | reported (fault : Fault)
  /-- A fault was not foreseen. -/
  | unforeseen (fault : Fault)
  /-- Help was asked for. -/
  | helped
  /-- The command line could not be understood. -/
  | misused

namespace Outcome

/-- The exit code. -/
def exitCode : Outcome → UInt8
  | done | helped => 0
  | reported _ | unforeseen _ => 1
  | misused => 2

end Outcome

namespace Fault

/-- **Whether a command reports a fault.** -/
def isReported : Fault → Bool
  | wrongType | wrongShape | missingKey | zeroRate | overflow | malformedPattern | reversedCapture
  | refusedRate | noMemory => false
  | _ => true

end Fault

namespace Speaker

/-- **The speaker of a written model.** -/
def ofText (written : String) : Except Fault Speaker :=
  match Document.read written with
  | .ok value => ofDocument value
  | .error .malformed => .error .malformedDocument
  | .error .longInteger => .error .longInteger

end Speaker

namespace Command

variable {m : Type → Type} [Monad m]

/-- The voice of a command, unless it leaves everything as it is. -/
def voice (command : Command) : Except Fault (Option (Voice Float)) :=
  if command.lacking.any Setting.isVocal then .error .invalidDocument
  else Voice.ofMaps command.frequency command.amplitude command.duration

/-- The sample rate as a number. -/
def rate (command : Command) : Float := Decimal.Binary64.ofInt command.sampleRate

/-- A result as a result with effects. -/
def ofExcept {α : Type} (r : Except Fault α) : ExceptT Fault m α := ExceptT.mk (pure r)

/-- The input of a command. -/
def readInput (place : Surroundings m) (command : Command) : ExceptT Fault m String := do
  if command.lacks .input then throw .wrongType
  else if command.input = "-" then return Text.asRead (← place.standardInput)
  else return Text.asRead (← place.textAt command.input)

/-- The speaker of a command. Where no model can be, none is looked for. -/
def readSpeaker (place : Surroundings m) (command : Command) : ExceptT Fault m Speaker := do
  if command.lacks .model then throw .wrongType
  let path := Path.shown command.model
  match ← ExceptT.lift (place.textAt path).run with
  | .ok written => ofExcept (Speaker.ofText (Text.asRead written))
  | .error .absentFile | .error .notFolder | .error .malformedPath | .error .unwritablePath =>
    throw (.missingModel path)
  | .error fault => throw fault

/-- The utterance of a score that has been read. -/
def recite (written : String) : Except Fault Utterance :=
  match Document.read written with
  | .ok value => do (← Authored.Score.ofDocument value).utterance none
  | .error .malformed => .error .malformedInput
  | .error .longInteger => .error .longInteger

/-- What a command makes heard. -/
def utterance (place : Surroundings m) (command : Command) : ExceptT Fault m Utterance := do
  match command.kind with
  | .curves => ofExcept (recite (← readInput place command))
  | .text =>
    let speaker ← readSpeaker place command
    let voice? ← ofExcept command.voice
    return speaker.utterance voice? (← readInput place command)

/-- The sound file of a command. Samples that cannot be written down are not made, but what faults they
have come first. -/
def soundFile (place : Surroundings m) (command : Command) : ExceptT Fault m (List UInt8) := do
  let utterance ← utterance place command
  if command.lacks .sampleRate then
    let _ ← ofExcept utterance.segments
    throw .wrongType
  match Wave.rateFault? command.sampleRate with
  | some fault =>
    ofExcept (utterance.check command.rate)
    throw fault
  | none =>
    let samples ← ofExcept (utterance.samples command.rate)
    ofExcept (Wave.encode samples command.sampleRate)

/-- **Carries out a command.** -/
def perform (place : Surroundings m) (command : Command) : ExceptT Fault m Unit := do
  let bytes ← soundFile place command
  if command.lacks .output then throw .wrongType
  else if command.output = "-" then place.emit bytes
  else place.store command.output bytes

end Command

/-- **Carries out a command line.** -/
def Invocation.run {m : Type → Type} [Monad m] (place : Surroundings m) : Invocation → m Outcome
  | .help => return .helped
  | .misuse => return .misused
  | .command c => do
    match ← (c.perform place).run with
    | .ok () => return .done
    | .error fault => return if fault.isReported then .reported fault else .unforeseen fault

end WhistledSpeech
