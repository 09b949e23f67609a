import ReportRules.Engine
import ReportRules.Json.Shape

/-!
# ReportRules.Schema.Rules -- rules as JSON

Rule books are stored as JSON. A missing field takes the default that its rule has: rules are
active, lists are empty, flags are off. An operator that is not known is kept as one that never
matches, and a combination that is not known as `AND`, so a book written for more rules still loads.
-/

namespace ReportRules

open Json (Codec Shape)

/-! ## Conditions -/

/-- The name of an operator. -/
def Operator.name : Operator → String
  | .equals => "equals"
  | .notEquals => "not_equals"
  | .greaterThan => "greater_than"
  | .lessThan => "less_than"
  | .contains => "contains"
  | .inList => "in_list"
  | .unknown => "unknown"

/-- Operators by their names. -/
def Operator.codec : Codec Operator :=
  let known := [Operator.equals, .notEquals, .greaterThan, .lessThan, .contains, .inList]
  .openChoice (known.map fun op => (op.name, op)) .unknown Operator.name

/-- The name of a combination. -/
def Logic.name : Logic → String
  | .or => "OR"
  | .and => "AND"

/-- Combinations by their names; `or` may be written in small letters. -/
def Logic.codec : Codec Logic :=
  .openChoice [("OR", .or), ("or", .or)] .and Logic.name

/-- Conditions as JSON. -/
def Condition.codec : Codec Condition :=
  let shape :=
    (Shape.required "field" .text).and <|
    (Shape.required "operator" Operator.codec).and <|
    (Shape.defaulted "value" .json .null).and <|
    Shape.optional "logic" Logic.codec
  (shape.iso (fun (field, operator, value, logic) => { field, operator, value, logic })
    (fun c => (c.field, c.operator, c.value, c.logic))).codec "RuleCondition"

/-- Sets of conditions as JSON. -/
def ConditionSet.codec : Codec ConditionSet :=
  .list Condition.codec

/-! ## Rules -/

/-- The least evidence as JSON. -/
def EvidenceMinimum.codec : Codec EvidenceMinimum :=
  let shape :=
    (Shape.optional "min_photos" .word32).and <|
    (Shape.defaulted "gps_required" .bool false).and <|
    Shape.defaulted "signature_required" .bool false
  (shape.iso (fun (photos, gps, signature) => { photos, gps, signature })
    (fun e => (e.photos, e.gps, e.signature))).codec "EvidenceRequirements"

/-- Requirement rules as JSON. -/
def RequirementRule.codec : Codec RequirementRule :=
  let shape :=
    (Shape.required "id" .text).and <|
    (Shape.required "name" .text).and <|
    (Shape.defaulted "is_active" .bool true).and <|
    (Shape.defaulted "conditions" ConditionSet.codec []).and <|
    (Shape.defaulted "required_fields" (.list .text) []).and <|
    Shape.optional "evidence_requirements" EvidenceMinimum.codec
  (shape.iso
    (fun (id, name, active, conditions, requiredFields, evidence) =>
      { id, name, active, conditions, requiredFields, evidence })
    (fun r => (r.id, r.name, r.active, r.conditions, r.requiredFields, r.evidence))).codec
    "AutoRequirementRule"

/-- The name of a scope. -/
def FeeScope.name : FeeScope → String
  | .perJob => "per_job"
  | .perUnit => "per_unit"

/-- Scopes by their names. -/
def FeeScope.codec : Codec FeeScope :=
  .choice [.perJob, .perUnit] FeeScope.name

/-- Fee rules as JSON. -/
def FeeRule.codec : Codec FeeRule :=
  let shape :=
    (Shape.required "id" .text).and <|
    (Shape.required "fee_id" .text).and <|
    (Shape.required "fee_name" .text).and <|
    (Shape.required "fee_amount" .double).and <|
    (Shape.defaulted "conditions" ConditionSet.codec []).and <|
    (Shape.defaulted "scope" FeeScope.codec .perJob).and <|
    (Shape.defaulted "auto_add" .bool false).and <|
    (Shape.defaulted "prevent_duplicates" .bool false).and <|
    Shape.defaulted "is_active" .bool true
  (shape.iso
    (fun (id, feeId, feeName, feeAmount, conditions, scope, autoAdd, preventDuplicates, active) =>
      { id, feeId, feeName, feeAmount, conditions, scope, autoAdd, preventDuplicates, active })
    (fun r => (r.id, r.feeId, r.feeName, r.feeAmount, r.conditions, r.scope, r.autoAdd,
      r.preventDuplicates, r.active))).codec "FeeSuggestionRule"

/-- The name of a source. -/
def DefaultSource.name : DefaultSource → String
  | .jobData => "job_data"
  | .lastVisit => "last_visit"
  | .fixed => "static"
  | .system => "system"
  | .formula => "formula"

/-- Sources by their names. -/
def DefaultSource.codec : Codec DefaultSource :=
  .choice [.jobData, .lastVisit, .fixed, .system, .formula] DefaultSource.name

/-- The name of a system field. -/
def SystemField.name : SystemField → String
  | .currentDate => "current_date"
  | .currentTime => "current_time"
  | .currentDatetime => "current_datetime"
  | .unknown => "unknown"

/-- System fields by their names. -/
def SystemField.codec : Codec SystemField :=
  let known := [SystemField.currentDate, .currentTime, .currentDatetime]
  .openChoice (known.map fun f => (f.name, f)) .unknown SystemField.name

/-- Default rules as JSON. -/
def DefaultRule.codec : Codec DefaultRule :=
  let shape :=
    (Shape.required "field_id" .text).and <|
    (Shape.required "source" DefaultSource.codec).and <|
    (Shape.optional "source_field" .text).and <|
    (Shape.optional "static_value" .json).and <|
    (Shape.optional "days_threshold" .signed64).and <|
    (Shape.optional "formula" .text).and <|
    Shape.optional "conditions" ConditionSet.codec
  (shape.iso
    (fun (fieldId, source, sourceField, fixedValue, daysThreshold, formula, conditions) =>
      { fieldId, source, sourceField, fixedValue, daysThreshold, formula, conditions })
    (fun r => (r.fieldId, r.source, r.sourceField, r.fixedValue, r.daysThreshold, r.formula,
      r.conditions))).codec "DefaultValueRule"

/-- Rule books as JSON. -/
def RuleBook.codec : Codec RuleBook :=
  let shape :=
    (Shape.defaulted "auto_requirements" (.list RequirementRule.codec) []).and <|
    (Shape.defaulted "fee_suggestions" (.list FeeRule.codec) []).and <|
    Shape.defaulted "default_values" (.list DefaultRule.codec) []
  (shape.iso (fun (requirements, fees, defaults) => { requirements, fees, defaults })
    (fun b => (b.requirements, b.fees, b.defaults))).codec "RuleBook"

end ReportRules
