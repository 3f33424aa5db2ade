import WhistledSpeech.Authored.Voice
import WhistledSpeech.Signal.Linking
import WhistledSpeech.Text.Integer

/-!
# What can be set on the command line

There are two commands: one speaks a text with a model, the other plays a score. Both have an input, an
output and a sample rate; speaking also has a model and a voice. A setting is given by an option and
takes one value. Of several values of one setting the last counts.

Two hyphens can be attached to an option. They are no value: the setting is *lacking* until it gets one,
and that comes to light where the value is needed.
-/

namespace WhistledSpeech

/-- What to do. -/
inductive CommandKind where
  /-- Play a score. -/
  | curves
  /-- Speak a text. -/
  | text
  deriving Repr, DecidableEq

/-- A number of the map of an axis. -/
inductive AxisNumber where
  /-- The centre. -/
  | center
  /-- The shift. -/
  | shift
  /-- The scale. -/
  | scale
  deriving Repr, DecidableEq

/-- **What an option sets.** -/
inductive Setting where
  /-- Where the input is. -/
  | input
  /-- Where the output goes. -/
  | output
  /-- Samples per second. -/
  | sampleRate
  /-- Where the model is. -/
  | model
  /-- A number of the map of an axis. -/
  | axis (on : SignalAxis) (number : AxisNumber)
  /-- The factor on times. -/
  | duration
  /-- Nothing: the option asks for help. -/
  | help
  deriving Repr, DecidableEq

/-- **A command with all its settings.** -/
structure Command where
  /-- What to do. -/
  kind : CommandKind
  /-- Where the input is; a hyphen stands for the standard input. -/
  input : String
  /-- Where the sound file goes; a hyphen stands for the standard output. -/
  output : String
  /-- Samples per second. -/
  sampleRate : Int
  /-- Where the model is. -/
  model : String
  /-- The map of frequencies. -/
  frequency : AxisMap Float
  /-- The map of amplitudes. -/
  amplitude : AxisMap Float
  /-- The factor on times. -/
  duration : Float
  /-- The settings that lack their value. -/
  lacking : List Setting

namespace Command

/-- A command as it is without options. -/
def ofKind (kind : CommandKind) : Command :=
  { kind := kind, input := "-", output := "-", sampleRate := 44100, model := "config.json",
    frequency := ⟨0, 0, 1⟩, amplitude := ⟨0, 0, 1⟩, duration := 1, lacking := [] }

/-- Whether a setting lacks its value. -/
def lacks (command : Command) (setting : Setting) : Bool := command.lacking.contains setting

/-- Notes that a setting lacks its value. -/
def lack (setting : Setting) (command : Command) : Command :=
  { command with lacking := setting :: command.lacking }

/-- Notes that a setting has a value. -/
def provide (setting : Setting) (command : Command) : Command :=
  { command with lacking := command.lacking.filter (· != setting) }

end Command

namespace AxisNumber

/-- Replaces a number of a map. -/
def set (number : AxisNumber) (x : Float) (m : AxisMap Float) : AxisMap Float :=
  match number with
  | center => { m with center := x }
  | shift => { m with shift := x }
  | scale => { m with scale := x }

end AxisNumber

namespace Setting

/-- Whether a setting is of the voice. -/
def isVocal : Setting → Bool
  | axis .. | duration => true
  | _ => false

/-- The command in which a setting has the value that is written. -/
def change? (setting : Setting) (written : String) (command : Command) : Option Command :=
  let number := Decimal.ofArgument? written.toList
  match setting with
  | input => some { command with input := written }
  | output => some { command with output := written }
  | model => some { command with model := written }
  | sampleRate => (Text.integer? written.toList).map fun n => { command with sampleRate := n }
  | duration => number.map fun x => { command with duration := x }
  | axis .frequency which =>
    number.map fun x => { command with frequency := which.set x command.frequency }
  | axis .amplitude which =>
    number.map fun x => { command with amplitude := which.set x command.amplitude }
  | help => none

/-- **Sets a setting** to the value an option is given, if it is one. -/
def apply (setting : Setting) (written : String) (command : Command) : Option Command :=
  (setting.change? written command).map (Command.provide setting)

/-- Sets a setting to what is attached to an option. -/
def attach (setting : Setting) (attached : String) (command : Command) : Option Command :=
  if attached = "--" then some (command.lack setting) else setting.apply attached command

/-- The requests there can be in front of a command. -/
def requests : List (String × Setting) := [("-h", help), ("--help", help)]

/-- The options of every command. -/
def common : List (String × Setting) :=
  requests ++ [("-o", output), ("--output", output), ("-r", sampleRate),
    ("--sample-rate", sampleRate), ("-i", input), ("--input", input)]

/-- **The options of a command** and what they set. -/
def options : CommandKind → List (String × Setting)
  | .curves => common
  | .text => common ++
    [("-c", model), ("--config", model), ("--fc", axis .frequency .center),
      ("--ac", axis .amplitude .center), ("--fs", axis .frequency .shift),
      ("--as", axis .amplitude .shift), ("--fm", axis .frequency .scale),
      ("--am", axis .amplitude .scale), ("--rate", duration)]

end Setting

end WhistledSpeech
