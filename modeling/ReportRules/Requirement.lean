import ReportRules.Condition.Holds
import ReportRules.Evidence
import ReportRules.Trace.Event

/-!
# ReportRules.Requirement -- what becomes mandatory when a rule triggers

A requirement rule triggers on a subject, which is a unit or a whole form, when it is active and its
conditions hold there. It then makes fields mandatory and may ask for evidence. `Resolution.of`
collects what all rules ask of one subject.
-/

namespace ReportRules

/-- A rule that makes fields and evidence mandatory when its conditions hold. -/
structure RequirementRule where
  id : String
  name : String
  active : Bool := true
  conditions : ConditionSet := []
  requiredFields : List String := []
  evidence : Option EvidenceMinimum := none

/-- Whether a rule triggers on a subject. -/
def RequirementRule.triggers (rule : RequirementRule) (subject : Record) : Bool :=
  rule.active && rule.conditions.holds subject

/-- What the rules ask of one subject. -/
structure Resolution where
  /-- The rules that trigger, in their order. -/
  triggered : List RequirementRule
  /-- The mandatory fields, each with the name of the first triggered rule that lists it. -/
  requiredBy : Keyed String
  /-- The evidence asked for, under the id of the rule that asks. -/
  evidence : Keyed EvidenceMinimum

namespace Resolution

/-- The fields of triggered rules, with the name of the first rule for each. -/
def requirers (triggered : List RequirementRule) : Keyed String :=
  triggered.foldl
    (fun names rule =>
      rule.requiredFields.foldl (fun names field => names.insertNew field rule.name) names)
    .empty

/-- The evidence that triggered rules declare; of two rules with the same id the later counts. -/
def declaredEvidence (triggered : List RequirementRule) : Keyed EvidenceMinimum :=
  .ofList (triggered.filterMap fun rule => rule.evidence.map fun evidence => (rule.id, evidence))

/-- What a list of rules asks of a subject. -/
def of (rules : List RequirementRule) (subject : Record) : Resolution :=
  let triggered := rules.filter fun rule => rule.triggers subject
  ⟨triggered, requirers triggered, declaredEvidence triggered⟩

/-- The mandatory fields in ascending order. -/
def requiredFields (r : Resolution) : List String :=
  r.requiredBy.keys

/-- Whether a field is mandatory. -/
def isRequired (r : Resolution) (field : String) : Bool :=
  r.requiredBy.contains field

/-- Whether a rule with the given id triggered. -/
def wasTriggered (r : Resolution) (id : String) : Bool :=
  r.triggered.any fun rule => rule.id == id

/-- One event per triggered rule. -/
def events (r : Resolution) : List Trace.Event :=
  r.triggered.map fun rule =>
    Trace.automationEvent "requirements" "auto-requirement triggered"
      [("rule_id", rule.id), ("rule_name", rule.name)]

end Resolution

/-- What a list of rules asks of a unit, or of the whole form when no unit is given. -/
def resolveRequirements (rules : List RequirementRule) (form : Record) (unit : Option Record) :
    Resolution :=
  .of rules (unit.getD form)

end ReportRules
