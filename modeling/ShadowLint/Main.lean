import ShadowLint.CommandLine.Run

/-!
# The command line

Reads the files that the arguments name, runs the check, and prints what the run printed.
-/

namespace ShadowLint

/-- What stands at a path of the file system. -/
def readStatus (path : Path) : IO PathStatus := do
  if path.text.contains '\x00' then
    return .absent .nullCharacter
  try
    let bytes ← IO.FS.readBinFile path.text
    pure (.file (Dump.document bytes))
  catch
    | .noFileOrDirectory .. => pure (.absent .notFound)
    | .inappropriateType .. => pure .directory
    | .invalidArgument .. => pure (.absent .nameTooLong)
    | _ => pure (.absent .notDirectory)

/-- What stands at each of some paths. -/
def readStatuses (paths : List Path) : IO (Path → PathStatus) := do
  let statuses ← paths.mapM fun path => do pure (path, ← readStatus path)
  pure fun path => (statuses.lookup path).getD (.absent .notFound)

/-- The paths that a command line names. -/
def namedPaths (texts : List String) : List Path :=
  match Arguments.parse texts with
  | .ok arguments => arguments.targets
  | .error _ => []

/-- How the program is called. -/
def usage : String := "usage: shadowlint [-h] [--strict] [--debug] targets [targets ...]"

/-- Why a run broke off, for the error stream. -/
def Crash.message : Crash → String
  | .refused _ => usage
  | .noEdge fault => "a node of kind " ++ fault.kind.name ++ " has no position"
  | .markup fault => fault.message
  | .unreachable target => target.text ++ ": " ++ ReadFault.nameTooLong.message
  | .fatal fault => fault.message

/-- The exit code of a run. -/
def RunOutcome.code (outcome : RunOutcome) : Nat :=
  match outcome.exit with
  | .ok code => code
  | .error (.refused refusal) => refusal.exitCode
  | .error _ => 1

end ShadowLint

open ShadowLint in
/-- Runs the command line. -/
def main (texts : List String) : IO UInt32 := do
  let status ← readStatuses (namedPaths texts)
  let outcome := RunOutcome.ofCommandLine status texts
  for event in outcome.events do
    IO.eprintln (event.level.name ++ " " ++ event.origin ++ ": " ++ event.text)
  for text in outcome.printed do
    IO.println text
  if let .error crash := outcome.exit then
    IO.eprintln crash.message
  pure outcome.code.toUInt32
