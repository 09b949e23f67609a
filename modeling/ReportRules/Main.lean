import ReportRules.Command.Arguments
import Std.Time.DateTime.Timestamp

/-!
# ReportRules.Main -- the command line

Gathers what a command needs from outside (variables, files, the clock), and prints what it comes
to.
-/

namespace ReportRules.Main

open Command (FileError Files Job)

/-- The variables that are set. -/
def readVariables : IO Config.Variables := do
  let values ← Config.variableNames.filterMapM fun name => do
    return (← IO.getEnv name).map fun value => (name, value)
  return fun name => values.lookup name

/-- The text of a file. -/
def readText (path : String) : IO (Except FileError String) := do
  try
    return .ok (← IO.FS.readFile path)
  catch
    | .noFileOrDirectory .. => return .error .missing
    | e => return .error (.unreadable (toString e))

/-- The contents of files. -/
def readFiles (paths : List String) : IO Files := do
  let contents ← paths.mapM fun path => do
    return (path, ← readText path)
  return fun path => (contents.lookup path).getD (.error .missing)

/-- The present instant. -/
def readClock : IO Calendar.Instant := do
  let nanos := (← Std.Time.Timestamp.now).toNanosecondsSinceUnixEpoch.val
  let second : Int := Calendar.nanosPerSecond
  return ⟨nanos / second, (nanos % second).toNat⟩

/-- Do what is asked for. -/
def run (job : Job) : IO UInt32 := do
  let vars ← readVariables
  let files ← readFiles (job.paths vars)
  match job.output vars files (← readClock) with
  | .ok output =>
    IO.println output
    return 0
  | .error failure =>
    IO.eprintln ("application error: " ++ failure.message)
    return 1

end ReportRules.Main

/-- The program. -/
def main (args : List String) : IO UInt32 :=
  match ReportRules.Command.Job.read? args with
  | some job => ReportRules.Main.run job
  | none => do
    IO.eprintln ReportRules.Command.usage
    return 2
