import QueryFilter.CommandLine

/-!
# The program

Reads the files that the arguments name, runs the search, and writes its outcome.
-/

/-- The contents of a file, if it can be read as text. -/
def readText? (path : QueryFilter.Text) : IO (Option QueryFilter.Text) := do
  try
    let text ← IO.FS.readFile (String.ofList path)
    return some text.toList
  catch _ => return none

/-- Runs the program. -/
def main (arguments : List String) : IO UInt32 := do
  let arguments := arguments.map String.toList
  let files ← (QueryFilter.CommandLine.filesNamed arguments).mapM fun path => do
    return (path, ← readText? path)
  let contents := fun path => (files.find? (·.1 == path)).bind (·.2)
  let outcome := QueryFilter.CommandLine.run arguments contents
  (← IO.getStderr).putStr (String.ofList outcome.messages)
  (← IO.getStdout).putStr (String.ofList outcome.output)
  return outcome.exitCode.toUInt32
