import JobMatrix.Cli

/-!
The program's entry point: reads the job file the arguments name, runs the command line on it,
and writes the two streams and the exit code.
-/

namespace JobMatrix

/-- Reads a file, with the fault the system reports on failure. -/
def readFileText (path : String) : IO (Except FileFault String) := do
  try
    pure (.ok (← IO.FS.readFile path))
  catch e =>
    pure (.error (match e with
      | .noFileOrDirectory .. => .notFound
      | .inappropriateType .. => .isDirectory
      | e => .other (toString e)))

end JobMatrix

open JobMatrix in
def main (args : List String) : IO UInt32 := do
  let content ← match (Cli.request args).path? with
    | some path => readFileText path
    | none => pure (.error .notFound)
  let outcome := Cli.run args fun _ => content
  IO.print outcome.stdout
  IO.eprint outcome.stderr
  pure outcome.exitCode.toUInt32
