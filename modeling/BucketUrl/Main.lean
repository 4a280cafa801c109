/-
BucketUrl/Main.lean

The command line: inspects the URLs that are given as arguments.
-/
import BucketUrl.Inspector

namespace BucketUrl

/-- The variables of the environment that the inspector reads. -/
def readEnvironment : IO Environment := do
  let read (name : String) : IO (Option Text) := do
    return (← IO.getEnv name).map String.toList
  return {
    logLevel := ← read "LOG_LEVEL"
    logFilter := ← read "RUST_LOG"
    output := ← read "S3URL_OUTPUT"
    strict := ← read "S3URL_STRICT" }

end BucketUrl

/-- Inspects the URLs that are given as arguments, and reports a failure on the error stream.  No
log is kept, so any filter will do for it. -/
def main (args : List String) : IO UInt32 := do
  let env ← BucketUrl.readEnvironment
  let outcome := BucketUrl.Inspector.run (fun _ => none) env (args.map String.toList)
  IO.print (String.ofList outcome.stdout)
  if let some failure := outcome.failure then
    IO.eprintln s!"Error: {String.ofList failure.message}"
  return UInt32.ofNat outcome.exitCode
