import ReportRules.Calendar.Instant
import ReportRules.Fee
import ReportRules.Validation

/-!
# ReportRules.Audit -- what the rules made of one submission

An audit is compiled once, when a submission is made: which requirement rules triggered on the
form, which fees are proposed, and what keeps the submission from being saved. Afterwards only what
people did about it is added: decisions on fees, tasks and notifications.

Requirement rules are reported for the form alone, also where units are checked one by one.
-/

namespace ReportRules

open Calendar (Instant)

/-- A requirement rule, and whether it triggered on the form. -/
structure RuleEvaluation where
  ruleId : String
  ruleName : String
  triggered : Bool
  evaluatedAt : Instant
  deriving DecidableEq

/-- What a triggered rule asks for. -/
structure TriggeredRequirement where
  ruleId : String
  ruleName : String
  requiredFields : List String
  evidence : Option EvidenceMinimum := none
  deriving DecidableEq

/-- What was done with a proposed fee. -/
inductive FeeDecision
  | accepted
  | dismissed
  | modified
  deriving Repr, DecidableEq

/-- A proposed fee, and the decision on it once there is one. -/
structure FeeSuggestion where
  recommendation : Recommendation
  decision : Option FeeDecision := none
  deriving DecidableEq

/-- A task that follows from a submission. -/
structure FollowUpTask where
  title : String
  assignee : Option String := none
  sourceRuleId : Option String := none
  deriving Repr, DecidableEq

/-- A notification that was sent. -/
structure Notification where
  channel : String
  recipient : String
  template : String
  deriving Repr, DecidableEq

/-- What checking a submission found. -/
structure ValidationResults where
  blocking : List Issue
  warnings : List Issue := []
  deriving DecidableEq

/-- The record of what the rules made of a submission. -/
structure Audit where
  compiledAt : Instant
  evaluations : List RuleEvaluation
  triggered : List TriggeredRequirement
  fees : List FeeSuggestion
  tasks : List FollowUpTask := []
  notifications : List Notification := []
  validation : ValidationResults
  deriving DecidableEq

/-- A rule as an audit reports it. -/
def RequirementRule.evaluation (rule : RequirementRule) (r : Resolution) (now : Instant) :
    RuleEvaluation :=
  ⟨rule.id, rule.name, r.wasTriggered rule.id, now⟩

/-- What a rule asks for, without the rule. -/
def RequirementRule.demand (rule : RequirementRule) : TriggeredRequirement :=
  ⟨rule.id, rule.name, rule.requiredFields, rule.evidence⟩

namespace Audit

/-- How an audit checks the units of a submission: one by one whenever there is a list of them. -/
def unitLoop (units : Option (List Record)) : UnitLoop :=
  { enabled := units.isSome }

/-- The audit of a submission at an instant. -/
def compile (requirements : List RequirementRule) (fees : List FeeRule) (fields : EvidenceFields)
    (form : Record) (units : Option (List Record)) (now : Instant) : Audit :=
  let resolution := Resolution.of requirements form
  { compiledAt := now
    evaluations := requirements.map fun rule => rule.evaluation resolution now
    triggered := resolution.triggered.map RequirementRule.demand
    fees := (resolveFees fees form units).map fun recommendation => ⟨recommendation, none⟩
    validation := ⟨validate requirements fields (some (unitLoop units)) form units, []⟩ }

/-- The events of compiling an audit. -/
def events (requirements : List RequirementRule) (fees : List FeeRule) (form : Record)
    (units : Option (List Record)) : List Trace.Event :=
  (Resolution.of requirements form).events ++
    (resolveFees fees form units).map Recommendation.event ++
    validationEvents requirements (some (unitLoop units)) form units

/-- Whether the submission was kept from being saved. -/
def hasBlockingIssues (a : Audit) : Bool :=
  !a.validation.blocking.isEmpty

/-- The ids of the rules that triggered. -/
def triggeredRuleIds (a : Audit) : List String :=
  (a.evaluations.filter fun evaluation => evaluation.triggered).map RuleEvaluation.ruleId

/-! ## What people did -/

/-- Whether a decision on a fee is about a proposal. A decision without a unit is about every
proposal of the fee. -/
def concerns (feeId : String) (unitId : Option String) (s : FeeSuggestion) : Bool :=
  s.recommendation.feeId == feeId && (unitId.isNone || s.recommendation.unitId == unitId)

/-- The number of proposals that a decision is about. -/
def matchCount (a : Audit) (feeId : String) (unitId : Option String) : Nat :=
  a.fees.countP (concerns feeId unitId)

/-- Put down a decision on every proposal that it is about. -/
def decide (a : Audit) (feeId : String) (unitId : Option String) (decision : FeeDecision) :
    Audit :=
  { a with
    fees := a.fees.map fun s =>
      if concerns feeId unitId s then { s with decision := some decision } else s }

/-- Put down a task. -/
def addTask (a : Audit) (task : FollowUpTask) : Audit :=
  { a with tasks := a.tasks ++ [task] }

/-- Put down a notification. -/
def addNotification (a : Audit) (notification : Notification) : Audit :=
  { a with notifications := a.notifications ++ [notification] }

end Audit

end ReportRules
