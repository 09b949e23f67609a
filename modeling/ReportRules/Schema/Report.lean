import ReportRules.Calendar.Timestamp
import ReportRules.Schema.Rules
import ReportRules.Schema.Submission

/-!
# ReportRules.Schema.Report -- audits and stored reports as JSON

A fee suggestion is written as one object: the members of its recommendation and the decision side
by side. It is therefore read in two passes, first the decision and then, of the other members,
the recommendation.
-/

namespace ReportRules

open Calendar (Instant)
open Json (Codec Decoder DecodeError Document Key Shape)

/-- Instants as text. -/
def instantCodec : Codec Instant where
  decode
    | .str s =>
      match Calendar.Timestamp.relaxed s with
      | .ok t => .ok t
      | .error fault => Json.mismatched (.unreadableTime fault.message)
    | d => d.refuse "an RFC 3339 formatted date and time string"
  encode t := .str t.text

/-- Evaluations as JSON. -/
def RuleEvaluation.codec : Codec RuleEvaluation :=
  let shape :=
    (Shape.required "rule_id" .text).and <|
    (Shape.required "rule_name" .text).and <|
    (Shape.required "triggered" .bool).and <|
    Shape.required "evaluated_at" instantCodec
  (shape.iso (fun (ruleId, ruleName, triggered, evaluatedAt) =>
      { ruleId, ruleName, triggered, evaluatedAt })
    (fun e => (e.ruleId, e.ruleName, e.triggered, e.evaluatedAt))).codec "RuleEvaluation"

/-- What triggered rules ask for as JSON. -/
def TriggeredRequirement.codec : Codec TriggeredRequirement :=
  let shape :=
    (Shape.required "rule_id" .text).and <|
    (Shape.required "rule_name" .text).and <|
    (Shape.required "required_fields" (.list .text)).and <|
    Shape.optional "evidence_requirements" EvidenceMinimum.codec
  (shape.iso (fun (ruleId, ruleName, requiredFields, evidence) =>
      { ruleId, ruleName, requiredFields, evidence })
    (fun t => (t.ruleId, t.ruleName, t.requiredFields, t.evidence))).codec "TriggeredRequirement"

/-! ## Fee suggestions -/

/-- The name of a decision. -/
def FeeDecision.name : FeeDecision → String
  | .accepted => "accepted"
  | .dismissed => "dismissed"
  | .modified => "modified"

/-- Decisions by their names. -/
def FeeDecision.codec : Codec FeeDecision :=
  .choice [.accepted, .dismissed, .modified] FeeDecision.name

namespace FeeSuggestion

/-- The shape of the decision. -/
def decisionShape : Shape (Option FeeDecision) :=
  Shape.optional "user_decision" FeeDecision.codec

/-- Read the decision and set the other members aside, which must hold values. -/
def split : List (Key × Document) → decisionShape.Slots →
    Except DecodeError (decisionShape.Slots × List (Key × Document))
  | [], slots => .ok (slots, [])
  | (.spoilt fault, _) :: _, _ => Json.malformed fault
  | (.text key, d) :: rest, slots =>
    match decisionShape.accept? key d slots with
    | some result => do
      let slots ← result
      split rest slots
    | none => do
      let _ ← Decoder.json d
      let (slots, aside) ← split rest slots
      .ok (slots, (.text key, d) :: aside)

/-- Read a fee suggestion. -/
def decode : Decoder FeeSuggestion
  | .obj entries ending => do
    let (slots, aside) ← split entries decisionShape.start
    match ending with
    | .closed =>
      let decision ← decisionShape.close slots
      let fields ← Recommendation.shape.members aside Recommendation.shape.start
      let recommendation ← Recommendation.shape.close fields
      .ok { recommendation, decision }
    | .broken wanted _ | .afterComma wanted _ => Json.malformed wanted
  | d => d.refuse "struct FeeSuggestionEntry"

/-- Fee suggestions as JSON. -/
def codec : Codec FeeSuggestion where
  decode := decode
  encode s := .obj (Recommendation.shape.write s.recommendation ++ decisionShape.write s.decision)

end FeeSuggestion

/-! ## Audits and reports -/

/-- Tasks as JSON. -/
def FollowUpTask.codec : Codec FollowUpTask :=
  let shape :=
    (Shape.required "title" .text).and <|
    (Shape.optional "assignee" .text).and <|
    Shape.optional "source_rule_id" .text
  (shape.iso (fun (title, assignee, sourceRuleId) => { title, assignee, sourceRuleId })
    (fun t => (t.title, t.assignee, t.sourceRuleId))).codec "AutomationTask"

/-- Notifications as JSON. -/
def Notification.codec : Codec Notification :=
  let shape :=
    (Shape.required "channel" .text).and <|
    (Shape.required "recipient" .text).and <|
    Shape.required "template" .text
  (shape.iso (fun (channel, recipient, template) => { channel, recipient, template })
    (fun n => (n.channel, n.recipient, n.template))).codec "NotificationRecord"

/-- What checking found as JSON. -/
def ValidationResults.codec : Codec ValidationResults :=
  let shape :=
    (Shape.required "blocking_issues" (.list Issue.codec)).and <|
    Shape.required "warnings" (.list Issue.codec)
  (shape.iso (fun (blocking, warnings) => { blocking, warnings })
    (fun v => (v.blocking, v.warnings))).codec "ValidationResults"

/-- Audits as JSON. -/
def Audit.codec : Codec Audit :=
  let shape :=
    (Shape.required "compiled_at" instantCodec).and <|
    (Shape.required "rules_evaluated" (.list RuleEvaluation.codec)).and <|
    (Shape.required "auto_requirements_triggered" (.list TriggeredRequirement.codec)).and <|
    (Shape.required "fee_suggestions" (.list FeeSuggestion.codec)).and <|
    (Shape.required "tasks_created" (.list FollowUpTask.codec)).and <|
    (Shape.required "notifications_sent" (.list Notification.codec)).and <|
    Shape.required "validation_results" ValidationResults.codec
  (shape.iso
    (fun (compiledAt, evaluations, triggered, fees, tasks, notifications, validation) =>
      { compiledAt, evaluations, triggered, fees, tasks, notifications, validation })
    (fun a => (a.compiledAt, a.evaluations, a.triggered, a.fees, a.tasks, a.notifications,
      a.validation))).codec "AutomationAudit"

/-- Stored reports as JSON. -/
def Report.codec : Codec Report :=
  let shape :=
    (Shape.required "report_id" .text).and <|
    (Shape.placed "job_key" .text).and <|
    (Shape.required "form_data" .record).and <|
    (Shape.defaulted "units" (.list .record) []).and <|
    Shape.required "audit" Audit.codec
  (shape.iso (fun (id, jobKey, form, units, audit) => { id, jobKey, form, units, audit })
    (fun r => (r.id, r.jobKey, r.form, r.units, r.audit))).codec "SubmissionRecord"

/-- A short view of a report as JSON. -/
def Summary.toJson (s : Summary) : Json :=
  .obj
    [("report_id", .str s.reportId), ("unit_count", .nat s.unitCount),
     ("triggered_rules", .arr (s.triggeredRules.map .str)), ("fee_count", .nat s.feeCount),
     ("fee_total", .float s.feeTotal)]

end ReportRules
