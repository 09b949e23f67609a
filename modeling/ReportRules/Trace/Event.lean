/-!
# ReportRules.Trace.Event -- what the engine reports while it works

An event has a level, the dotted path of the part that reports it, a message and named values. The
functions that decide something return their result only; which events a decision gives rise to is
computed from the decision by a function of its own, so tracing cannot influence it.
-/

namespace ReportRules.Trace

/-- How important an event is, from `error` down to `trace`. -/
inductive Level
  | error
  | warn
  | info
  | debug
  | trace
  deriving Repr, DecidableEq

/-- The place of a level, the most important one first. -/
def Level.rank : Level → Nat
  | .error => 1
  | .warn => 2
  | .info => 3
  | .debug => 4
  | .trace => 5

/-- The name of a level. -/
def Level.name : Level → String
  | .error => "ERROR"
  | .warn => "WARN"
  | .info => "INFO"
  | .debug => "DEBUG"
  | .trace => "TRACE"

/-- Something that happened. -/
structure Event where
  level : Level
  /-- The path of the part that reports the event. -/
  target : String
  message : String
  /-- Named values. -/
  fields : List (String × String)
  deriving Repr, DecidableEq

/-- The names of the fields of an event; its message is one of them. -/
def Event.fieldNames (e : Event) : List String :=
  "message" :: e.fields.map Prod.fst

/-- The path of the parts that evaluate rules. -/
def automationTarget : String :=
  "fieldops::workflows::service_report::automation"

/-- The path of the part that takes submissions. -/
def serviceTarget : String :=
  "fieldops::workflows::service_report::service"

/-- An event of the part of the automation with the given name. -/
def automationEvent (part message : String) (fields : List (String × String)) : Event :=
  ⟨.debug, automationTarget ++ "::" ++ part, message, fields⟩

end ReportRules.Trace
