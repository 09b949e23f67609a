import ReportRules.Config.Settings
import ReportRules.Http.Server

/-!
# ReportRules.Command.Failure -- why a command fails

A command fails because of its settings, its log filter, a file, the network or its rule book. Each
failure has a sentence, and an HTTP answer for the case that a request runs into it.
-/

namespace ReportRules.Command

open Json (DecodeError)

/-- Why the content of a file cannot be used. -/
inductive FileError
  /-- There is no such file. -/
  | missing
  | unreadable (reason : String)
  | undecodable (e : DecodeError)

/-- The sentence that reports an error. -/
def FileError.message : FileError → String
  | .missing => "No such file or directory (os error 2)"
  | .unreadable reason => reason
  | .undecodable e => e.message

/-- Why a command fails. -/
inductive Failure
  | settings (e : Config.SettingsError)
  /-- The log level is no filter. -/
  | logFilter (level : String)
  /-- Logging cannot be set up. -/
  | logging (reason : String)
  | file (e : FileError)
  | network (reason : String)
  /-- The file of the rule book cannot be read. -/
  | ruleBookFile (e : FileError)
  /-- The rule book is no JSON, or JSON of the wrong shape. -/
  | ruleBookText (e : DecodeError)

namespace Failure

/-- The sentence that reports the cause of a failure. -/
def cause : Failure → String
  | .settings e => e.message
  | .logFilter level => Trace.invalidFilterMessage level
  | .logging reason => "could not install subscriber: " ++ reason
  | .file e => e.message
  | .network reason => reason
  | .ruleBookFile e => "failed to read rule book: " ++ e.message
  | .ruleBookText e => "invalid rule book JSON: " ++ e.message

/-- The part of the program that fails, as the sentences of failures begin. -/
def area : Failure → String
  | .settings _ => "configuration"
  | .logFilter _ | .logging _ => "telemetry"
  | .file _ => "io"
  | .network _ => "server"
  | .ruleBookFile _ | .ruleBookText _ => "rule book"

/-- The sentence that reports a failure. -/
def message (f : Failure) : String :=
  f.area ++ " error: " ++ f.cause

/-- Whether the cause of a failure is itself the effect of another one. -/
def hasDeeperCause : Failure → Bool
  | .settings .invalidHost => true
  | .settings .invalidPort | .settings (.emptyFieldKey _) => false
  | .file _ => false
  | .logFilter _ | .logging _ | .network _ | .ruleBookFile _ | .ruleBookText _ => true

/-- The status of the answer to a request that runs into a failure: only a rule book is taken to
come from the one who asks. -/
def status : Failure → Nat
  | .ruleBookFile _ | .ruleBookText _ => 400
  | .settings _ | .logFilter _ | .logging _ | .file _ | .network _ => 500

/-- The answer to a request that runs into a failure. -/
def response (f : Failure) : Http.Response :=
  .json f.status (.obj [("error", .str f.message)])

end Failure

end ReportRules.Command
