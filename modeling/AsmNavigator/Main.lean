import AsmNavigator.CommandLine.Snapshot

/-!
# The program

The first line of the standard input is the snapshot to work on; the rest is the input
of the command.
-/

namespace AsmNavigator

/-- What is left of a stream. -/
partial def readRest (stream : IO.FS.Stream) (text : String) : IO String := do
  let line ← stream.getLine
  if line.isEmpty then return text else readRest stream (text ++ line)

end AsmNavigator

open AsmNavigator in
def main (args : List String) : IO UInt32 := do
  let stdin ← IO.getStdin
  let snapshot ← stdin.getLine
  let input ← readRest stdin ""
  let result := CommandLine.runOnSnapshot args snapshot input
  IO.print (Text.characters result.output)
  IO.eprint (Text.characters result.errorText)
  return UInt32.ofNat result.exitCode
