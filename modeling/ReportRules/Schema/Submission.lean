import ReportRules.Json.Shape
import ReportRules.Report

/-!
# ReportRules.Schema.Submission -- submissions and the answers to them as JSON
-/

namespace ReportRules

open Json (Codec Shape)

/-- Kinds of issues by their names. -/
def IssueKind.codec : Codec IssueKind :=
  .choice [.requiredField, .missingEvidence, .invalidValue] IssueKind.name

/-- Issues as JSON. -/
def Issue.codec : Codec Issue :=
  let shape :=
    (Shape.optional "unit_id" .text).and <|
    (Shape.optional "unit_index" .position).and <|
    (Shape.required "field_id" .text).and <|
    (Shape.required "field_label" .text).and <|
    (Shape.required "issue_type" IssueKind.codec).and <|
    (Shape.required "message" .text).and <|
    Shape.optional "rule_name" .text
  (shape.iso
    (fun (unitId, unitIndex, fieldId, fieldLabel, kind, message, ruleName) =>
      { unitId, unitIndex, fieldId, fieldLabel, kind, message, ruleName })
    (fun i => (i.unitId, i.unitIndex, i.fieldId, i.fieldLabel, i.kind, i.message,
      i.ruleName))).codec "ValidationIssue"

/-- The shape of a proposed fee. -/
def Recommendation.shape : Shape Recommendation :=
  let shape :=
    (Shape.required "fee_id" .text).and <|
    (Shape.required "fee_name" .text).and <|
    (Shape.required "fee_amount" .double).and <|
    (Shape.required "reason" .text).and <|
    (Shape.optional "unit_id" .text).and <|
    (Shape.optional "unit_index" .position).and <|
    (Shape.required "auto_added" .bool).and <|
    Shape.required "rule_id" .text
  shape.iso
    (fun (feeId, feeName, feeAmount, reason, unitId, unitIndex, autoAdded, ruleId) =>
      { feeId, feeName, feeAmount, reason, unitId, unitIndex, autoAdded, ruleId })
    (fun r => (r.feeId, r.feeName, r.feeAmount, r.reason, r.unitId, r.unitIndex, r.autoAdded,
      r.ruleId))

/-- Proposed fees as JSON. -/
def Recommendation.codec : Codec Recommendation :=
  Recommendation.shape.codec "FeeRecommendation"

/-- The way units are checked as JSON. -/
def UnitLoop.codec : Codec UnitLoop :=
  let shape :=
    (Shape.defaulted "enabled" .bool false).and <|
    Shape.defaulted "unit_label" .text defaultUnitLabel
  (shape.iso (fun (enabled, unitLabel) => { enabled, unitLabel })
    (fun l => (l.enabled, l.unitLabel))).codec "UnitLoopConfig"

/-- The fields of evidence as JSON. -/
def EvidenceFields.codec : Codec EvidenceFields :=
  let shape :=
    (Shape.required "photo_marker" .text).and <|
    (Shape.required "gps_field" .text).and <|
    Shape.required "signature_field" .text
  (shape.iso (fun (photoMarker, gpsField, signatureField) =>
      { photoMarker, gpsField, signatureField })
    (fun f => (f.photoMarker, f.gpsField, f.signatureField))).codec "EvidenceFields"

/-- Requests for default values as JSON. -/
def PrefillRequest.codec : Codec PrefillRequest :=
  let shape :=
    (Shape.nullable "job_key" .text).and <|
    Shape.defaulted "job_data" .record .empty
  (shape.iso (fun (jobKey, job) => { jobKey, job })
    (fun r => (r.jobKey, r.job))).codec "PrefillRequest"

/-- Submissions as JSON. -/
def Submission.codec : Codec Submission :=
  let shape :=
    (Shape.nullable "job_key" .text).and <|
    (Shape.defaulted "form_data" .record .empty).and <|
    Shape.nullable "units" (.list .record)
  (shape.iso (fun (jobKey, form, units) => { jobKey, form, units })
    (fun s => (s.jobKey, s.form, s.units))).codec "ServiceReportSubmission"

end ReportRules
