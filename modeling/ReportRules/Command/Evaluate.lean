import ReportRules.Command.Failure
import ReportRules.Engine
import ReportRules.Json.Printer
import ReportRules.Standard

/-!
# ReportRules.Command.Evaluate -- rules evaluated on files

The command takes a form, and possibly units, an earlier visit and a rule book, from files and
prints default values and the audit. Files are looked at in a fixed order, so the first one that is
of no use is the one that is reported: rule book, form, units, visit.
-/

namespace ReportRules.Command

open Calendar (Instant)
open Config (Settings)
open Json (Codec)

/-- The contents of files by their paths. -/
abbrev Files :=
  String → Except FileError String

/-- The value that a file holds. -/
def readFile {α : Type} (files : Files) (c : Codec α) (path : String) : Except FileError α := do
  let text ← files path
  (c.ofText text).mapError .undecodable

/-- The rule book at a path. -/
def readRules (files : Files) (path : String) : Except Failure RuleBook :=
  match readFile files RuleBook.codec path with
  | .ok rules => .ok rules
  | .error (.undecodable e) => .error (.ruleBookText e)
  | .error e => .error (.ruleBookFile e)

/-- The rule book to use: the given one, else the configured one, else the built-in one. -/
def loadRules (settings : Settings) (files : Files) (given : Option String) :
    Except Failure RuleBook :=
  match given.or settings.rulesPath with
  | some path => readRules files path
  | none => .ok Standard.rules

/-- The engine of a command. -/
def loadEngine (vars : Config.Variables) (files : Files) (given : Option String) :
    Except Failure Engine := do
  let settings ← (Settings.read vars).mapError .settings
  let rules ← loadRules settings files given
  .ok { rules, evidenceFields := settings.evidenceFields }

/-- The paths that the command is given. -/
structure EvaluateOptions where
  rules : Option String := none
  form : String
  units : Option String := none
  history : Option String := none

/-- The value of a file that need not be given. -/
def readOptional {α : Type} (files : Files) (c : Codec α) :
    Option String → Except Failure (Option α)
  | none => .ok none
  | some path => ((readFile files c path).map some).mapError .file

/-- The default values and the audit of a form. -/
def evaluate (vars : Config.Variables) (files : Files) (options : EvaluateOptions)
    (now : Instant) : Except Failure Json := do
  let engine ← loadEngine vars files options.rules
  let form ← (readFile files Codec.record options.form).mapError .file
  let units ← readOptional files (.list .record) options.units
  let history ← readOptional files .record options.history
  .ok <| Json.ordered <| .obj
    [("defaults", (engine.defaults form history now).toJson),
     ("audit", Audit.codec.encode (engine.audit form units now))]

end ReportRules.Command
