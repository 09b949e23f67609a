import ReportRules.Calendar.Timestamp
import ReportRules.Condition.Holds
import ReportRules.Formula.Evaluate
import ReportRules.Trace.Event

/-!
# ReportRules.Default -- values that fill a new record beforehand

A default rule names a field and a source for its value: the data of the job, the last visit, a
fixed value, the clock or a formula. A rule may be gated by conditions on the job. Rules are taken
in order and do not see each other's values; of several values for a field the last one stays. A
source that has nothing to give leaves the field as it is.
-/

namespace ReportRules

open Calendar (Instant)

/-- Where a default value comes from. -/
inductive DefaultSource
  | jobData
  | lastVisit
  | fixed
  | system
  | formula
  deriving Repr, DecidableEq

/-- What the clock can tell. -/
inductive SystemField
  | currentDate
  | currentTime
  | currentDatetime
  /-- A name that the clock has nothing for. -/
  | unknown
  deriving Repr, DecidableEq

namespace SystemField

/-- The field that a name stands for; white space around the name does not count. -/
def ofName (name : String) : SystemField :=
  let name := Text.trim name
  if name = "current_date" then .currentDate
  else if name = "current_time" then .currentTime
  else if name = "current_datetime" then .currentDatetime
  else .unknown

/-- What the clock tells at an instant: the date, the time of day, or both with milliseconds, all
in UTC. -/
def text? (now : Instant) : SystemField → Option String
  | .currentDate => some now.date.text
  | .currentTime => some now.timeText
  | .currentDatetime => some now.millisText
  | .unknown => none

end SystemField

/-- A rule that gives a field a default value. -/
structure DefaultRule where
  fieldId : String
  source : DefaultSource
  /-- The field of the job or of the last visit to copy, or the name of a system field. -/
  sourceField : Option String := none
  fixedValue : Option Json := none
  /-- The age in days up to which the last visit is used. -/
  daysThreshold : Option Int := none
  formula : Option String := none
  /-- Conditions on the job; without any the rule always applies. -/
  conditions : Option ConditionSet := none

/-- What the source of a rule gives. -/
inductive DefaultOutcome
  | value (v : Json)
  | nothing
  /-- The last visit is too old. -/
  | stale (age threshold : Int)
  | formulaFailed (e : Formula.FormulaError)

/-- The value that a source gives, if it gives one. -/
def DefaultOutcome.value? : DefaultOutcome → Option Json
  | .value v => some v
  | .nothing | .stale _ _ | .formulaFailed _ => none

/-- The outcome of a value that may be missing. -/
def DefaultOutcome.ofOption : Option Json → DefaultOutcome
  | some v => .value v
  | none => .nothing

/-- The field under which a visit carries its date. -/
def visitDateField : String :=
  "date"

/-- The instant of a visit's date: a date with a time and an offset, or a plain date. -/
def visitInstant? (date : String) : Option Instant :=
  let date := Text.trim date
  (Calendar.Timestamp.strict? date).or (Calendar.Timestamp.plainDate? date)

/-- The age of a visit in whole days. -/
def visitAge? (visit : Record) (now : Instant) : Option Int :=
  match visit.find? visitDateField with
  | some (.str date) => (visitInstant? date).map fun visited => now.daysSince visited
  | _ => none

namespace DefaultRule

/-- Whether the conditions of a rule let it apply. -/
def applies (rule : DefaultRule) (job : Record) : Bool :=
  match rule.conditions with
  | none => true
  | some conditions => conditions.holds job

/-- The source field of a rule in a record. -/
def copied? (rule : DefaultRule) (r : Record) : Option Json :=
  rule.sourceField.bind r.find?

/-- What the last visit gives: nothing without a threshold, a visit and a readable date. -/
def lastVisitOutcome (rule : DefaultRule) (history : Option Record) (now : Instant) :
    DefaultOutcome :=
  match rule.daysThreshold, history with
  | some threshold, some visit =>
    match visitAge? visit now with
    | none => .nothing
    | some age =>
      if threshold < age then .stale age threshold else .ofOption (rule.copied? visit)
  | _, _ => .nothing

/-- What a formula gives. -/
def formulaOutcome (formula : String) (job : Record) : DefaultOutcome :=
  match Formula.evaluate formula job with
  | .ok x => .ofOption (Formula.fieldValue? x)
  | .error e => .formulaFailed e

/-- What the source of a rule gives. -/
def sourceOutcome (rule : DefaultRule) (job : Record) (history : Option Record) (now : Instant) :
    DefaultOutcome :=
  match rule.source with
  | .jobData => .ofOption (rule.copied? job)
  | .lastVisit => rule.lastVisitOutcome history now
  | .fixed => .ofOption rule.fixedValue
  | .system =>
    .ofOption ((rule.sourceField.bind fun name => (SystemField.ofName name).text? now).map .str)
  | .formula =>
    match rule.formula with
    | some formula => formulaOutcome formula job
    | none => .nothing

/-- What a rule gives; a rule that does not apply gives nothing. -/
def outcome (rule : DefaultRule) (job : Record) (history : Option Record) (now : Instant) :
    DefaultOutcome :=
  if rule.applies job then rule.sourceOutcome job history now else .nothing

/-- The events of a rule: a visit that is too old and a formula that fails are reported. -/
def events (rule : DefaultRule) (job : Record) (history : Option Record) (now : Instant) :
    List Trace.Event :=
  let event (message : String) (fields : List (String × String)) : Trace.Event :=
    Trace.automationEvent "defaults" message (("field_id", rule.fieldId) :: fields)
  match rule.outcome job history now with
  | .stale age threshold =>
    [event "last visit too old for default"
      [("age", Text.intText age), ("threshold", Text.intText threshold)]]
  | .formulaFailed e => [event "formula default skipped" [("error", e.message)]]
  | .value _ | .nothing => []

/-- The defaults with the value of one more rule. -/
def fill (rule : DefaultRule) (job : Record) (history : Option Record) (now : Instant)
    (defaults : Record) : Record :=
  match (rule.outcome job history now).value? with
  | some value => defaults.insert rule.fieldId value
  | none => defaults

end DefaultRule

/-- The default values that rules give at an instant. -/
def resolveDefaults (rules : List DefaultRule) (job : Record) (history : Option Record)
    (now : Instant) : Record :=
  rules.foldl (fun defaults rule => rule.fill job history now defaults) Keyed.empty

end ReportRules
