import GridRules.CommandLine

/-!
# The program

Reads the files that the command names, runs it and prints what it leaves behind.
-/

open GridRules

/-- The content of a file, if it can be read and is text. -/
def readContent (path : String) : IO (Option String) := do
  try
    let bytes ← IO.FS.readBinFile path
    return String.fromUTF8? bytes
  catch _ => return none

/-- Runs the program. -/
def main (args : List String) : IO UInt32 := do
  let names := ((Command.ofArgs args).map Command.files).getD []
  let contents ← names.mapM fun name => do return (name, ← readContent name)
  let outcome := runArgs args fun name => (contents.lookup name).join
  (← IO.getStdout).putStr outcome.output
  (← IO.getStderr).putStr outcome.errors
  return outcome.status.toUInt32
