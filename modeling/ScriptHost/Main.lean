import ScriptHost.Program
import ScriptHost.Snapshot

/-!
# The command line

Runs the program in the surroundings that standard input describes. A runtime library is not loaded
for real: the calls that it would receive are part of the outcome and have no other effect.
-/

namespace ScriptHost

/-- The lines of a stream up to its end, without the empty ones. -/
partial def readLines (input : IO.FS.Stream) (lines : List String) : IO (List String) := do
  let line ← input.getLine
  if line.isEmpty then return lines.reverse
  let text := line.trimAscii.toString
  readLines input (if text.isEmpty then lines else text :: lines)

end ScriptHost

/-- Prints what the program shows and ends with its exit status. -/
def main (args : List String) : IO UInt32 := do
  let lines ← ScriptHost.readLines (← IO.getStdin) []
  match ScriptHost.Snapshot.ofLines lines with
  | none =>
    IO.eprintln "nshost: the description of the surroundings is malformed"
    return 2
  | some system =>
    let outcome := ScriptHost.Program.run system (args.map ScriptHost.bytesOf)
    IO.print outcome.stdout
    for line in outcome.stderr do
      IO.eprintln line
    return UInt32.ofNat outcome.exitStatus
