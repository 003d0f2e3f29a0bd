import ChatSession.Console.Run

/-!
The command line: replay a recorded backend session and print the snapshot.

This layer only reads the arguments, the files and the environment, and
prints what the run gives; a run that stops on an error prints the error and
exits with status 1.
-/

open ChatSession

/-- The text of a file, if it can be read. -/
def readText (path : String) : IO (Option String) := do
  try
    return some (← IO.FS.readFile path)
  catch _ =>
    return none

def main (args : List String) : IO UInt32 := do
  let outcome ← Console.run args readText fun name => (IO.getEnv name : IO (Option String))
  IO.print outcome.stdout
  (← IO.getStdout).flush
  match outcome.error, outcome.exit with
  | some e, _ =>
    IO.eprintln ("error: " ++ e.message)
    return 1
  | none, some code =>
    if code == 2 then IO.eprintln usageText
    return code.toUInt32
  | none, none => return 0
