import WhistledSpeech.Command.Outcome

/-!
# The command line

Connects commands to the files, the streams and the exit code of a real program. Everything that is
decided is decided in `Invocation.run`.
-/

namespace WhistledSpeech

/-- How commands are given. -/
def usage : String :=
  "usage: whistle curves [-i INPUT] [-o OUTPUT] [-r RATE]\n" ++
  "       whistle text [-i INPUT] [-o OUTPUT] [-r RATE] [-c CONFIG]\n" ++
  "                    [--fc N] [--fs N] [--fm N] [--ac N] [--as N] [--am N] [--rate N]"

/-- The text of a stream from here to its end. -/
partial def readToEnd (stream : IO.FS.Stream) (soFar : String) : IO String := do
  let line ← stream.getLine
  if line.isEmpty then return soFar else readToEnd stream (soFar ++ line)

/-- The fault of a file that cannot be read or written. -/
def faultOf : IO.Error → Fault
  | .noFileOrDirectory .. => .absentFile
  | _ => .refusedPath

/-- The files and streams of this program. -/
def program : Surroundings IO where
  standardInput := do readToEnd (← IO.getStdin) ""
  textAt path := ExceptT.mk do
    try .ok <$> IO.FS.readFile path catch e => pure (.error (faultOf e))
  emit bytes := do
    let out ← IO.getStdout
    out.write bytes.toByteArray
    out.flush
  store path bytes := ExceptT.mk do
    try .ok <$> IO.FS.writeBinFile path bytes.toByteArray catch e => pure (.error (faultOf e))

end WhistledSpeech

open WhistledSpeech in
/-- Carries out the command line of this program. -/
def main (args : List String) : IO UInt32 := do
  let outcome ← (Invocation.ofArguments args).run program
  match outcome with
  | .reported fault | .unforeseen fault => IO.eprintln (fault.message.getD "The input cannot be used.")
  | .misused => IO.eprintln usage
  | .helped => IO.println usage
  | .done => pure ()
  return outcome.exitCode.toUInt32
