import Captioning.CommandLine

/-!
# The program

Reads the file that the arguments name, and prints the answer.
-/

open Captioning

/-- The bytes of a file, if it can be read. -/
def readBytes? (path : String) : IO (Option (List UInt8)) := do
  try
    return some (← IO.FS.readBinFile path).data.toList
  catch _ =>
    return none

/-- The output for the given arguments. -/
def outputFor (args : List String) : IO CommandLine.Output := do
  match CommandLine.plan args with
  | .finished output => return output
  | .load path options => return CommandLine.answer path options (← readBytes? path)

/-- The program. -/
def main (args : List String) : IO UInt32 := do
  let output ← outputFor args
  IO.print output.stdout
  IO.eprint output.stderr
  return output.code.toUInt32
