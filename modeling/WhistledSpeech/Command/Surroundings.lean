import WhistledSpeech.Fault

/-!
# What surrounds a command

A command reads from files and streams and writes to them. What those are is left open: `Surroundings`
says what there has to be, for the real files of a computer as for a few texts at hand.
-/

namespace WhistledSpeech

/-- **What surrounds a command.** -/
structure Surroundings (m : Type → Type) where
  /-- The standard input, to its end. -/
  standardInput : m String
  /-- The text of the file at a path. -/
  textAt : String → ExceptT Fault m String
  /-- Writes to the standard output. -/
  emit : List UInt8 → m Unit
  /-- Writes a file at a path. -/
  store : String → List UInt8 → ExceptT Fault m Unit

end WhistledSpeech
