import ReportRules.Command.Demo

/-!
# ReportRules.Command.Arguments -- what a command line asks for

A command line names a command, followed by its options in any order. An option that takes a value
has it as the next argument.
-/

namespace ReportRules.Command

/-- What is asked for. -/
inductive Job
  | evaluate (options : EvaluateOptions)
  | demo (unitCount : Nat) (showAudit : Bool)

/-- Options of `evaluate` as far as they have been read. -/
structure EvaluateArguments where
  rules : Option String := none
  form : Option String := none
  units : Option String := none
  history : Option String := none

/-- Read the options of `evaluate`. -/
def readEvaluate (given : EvaluateArguments) : List String → Option EvaluateOptions
  | [] => given.form.map fun form =>
    { rules := given.rules, form, units := given.units, history := given.history }
  | "--rules" :: path :: rest => readEvaluate { given with rules := some path } rest
  | "--form" :: path :: rest => readEvaluate { given with form := some path } rest
  | "--units" :: path :: rest => readEvaluate { given with units := some path } rest
  | "--history" :: path :: rest => readEvaluate { given with history := some path } rest
  | _ => none

/-- Read the options of `demo`. -/
def readDemo (unitCount : Nat) (showAudit : Bool) : List String → Option Job
  | [] => some (.demo unitCount showAudit)
  | "--show-audit" :: rest => readDemo unitCount true rest
  | "--units" :: count :: rest =>
    match Text.natural? count.toList with
    | some unitCount => readDemo unitCount showAudit rest
    | none => none
  | _ => none

/-- Read a command line. -/
def Job.read? : List String → Option Job
  | "evaluate" :: options => (readEvaluate {} options).map .evaluate
  | "demo" :: options => readDemo 3 false options
  | _ => none

/-- How commands are written. -/
def usage : String :=
  "usage: evaluate --form FILE [--rules FILE] [--units FILE] [--history FILE]\n" ++
  "       demo [--units COUNT] [--show-audit]"

/-- The paths that a command may read, given the settings of the deployment. -/
def Job.paths (job : Job) (vars : Config.Variables) : List String :=
  let configured := (vars "AUTOMATION_RULES_PATH").toList
  match job with
  | .evaluate o => configured ++ o.rules.toList ++ [o.form] ++ o.units.toList ++ o.history.toList
  | .demo _ _ => configured

/-- What a command prints. -/
def Job.output (job : Job) (vars : Config.Variables) (files : Files) (now : Calendar.Instant) :
    Except Failure String :=
  match job with
  | .evaluate options => (Command.evaluate vars files options now).map Json.pretty
  | .demo unitCount showAudit =>
    (Demo.lines vars files unitCount showAudit now).map fun lines => "\n".intercalate lines

end ReportRules.Command
