import ReportRules.Requirement
import ReportRules.Text.Words

/-!
# ReportRules.Validation -- what keeps a submission from being saved

A submission is checked against the requirement rules. Where the unit loop is enabled and there are
units, each unit is a subject of its own and the form is not looked at; otherwise the form is the
only subject, and evidence is not asked for. Every shortcoming becomes an `Issue`; a submission
without issues may be saved.
-/

namespace ReportRules

/-- The kind of an issue. -/
inductive IssueKind
  | requiredField
  | missingEvidence
  | invalidValue
  deriving Repr, DecidableEq

/-- The name of a kind. -/
def IssueKind.name : IssueKind → String
  | .requiredField => "required_field"
  | .missingEvidence => "missing_evidence"
  | .invalidValue => "invalid_value"

/-- A shortcoming of a submission or of one of its units. -/
structure Issue where
  unitId : Option String := none
  unitIndex : Option Nat := none
  fieldId : String
  fieldLabel : String
  kind : IssueKind
  message : String
  /-- The name of the rule that asks for what is missing. -/
  ruleName : Option String := none
  deriving Repr, DecidableEq

/-- The label of units unless another one is configured. -/
def defaultUnitLabel : String :=
  "Unit"

/-- Whether the units of a submission are checked one by one, and what a unit is called. -/
structure UnitLoop where
  enabled : Bool := false
  unitLabel : String := defaultUnitLabel
  deriving Repr, DecidableEq

/-- The mandatory fields that a subject has no value for, each with the name of the rule that made
it mandatory, in ascending order of the fields. -/
def Resolution.missingFields (r : Resolution) (subject : Record) : List (String × String) :=
  r.requiredBy.entries.filter fun (field, _) => !subject.hasValue field

/-- The sentence for a missing mandatory field. -/
def requiredMessage (field : String) : String :=
  Text.label field ++ " is required"

/-- The issue of a form that lacks a mandatory field. -/
def Issue.ofForm (field ruleName : String) : Issue :=
  { fieldId := field, fieldLabel := Text.label field, kind := .requiredField,
    message := requiredMessage field, ruleName := some ruleName }

/-- A unit among the units of a submission. -/
structure UnitAt where
  record : Record
  index : Nat

namespace UnitAt

/-- How messages refer to a unit: by its label, its position from one, and its id if it has one. -/
def heading (u : UnitAt) (unitLabel : String) : String :=
  let position := unitLabel ++ " " ++ Text.natText (u.index + 1)
  match u.record.unitId? with
  | some id => position ++ " (" ++ id ++ ")"
  | none => position

/-- An issue of a unit. -/
def issue (u : UnitAt) (unitLabel field : String) (kind : IssueKind) (sentence ruleName : String) :
    Issue :=
  { unitId := u.record.unitId?, unitIndex := some u.index, fieldId := field,
    fieldLabel := Text.label field, kind, message := u.heading unitLabel ++ ": " ++ sentence,
    ruleName := some ruleName }

/-- The field id under which missing photos are reported. -/
def photosField : String :=
  "photos"

/-- The sentence for missing photos. -/
def photosMessage (least found : Nat) : String :=
  "at least " ++ Text.natText least ++ " photo(s) required, found " ++ Text.natText found

/-- The issue of a unit with fewer photos than asked for. -/
def photoIssues (u : UnitAt) (unitLabel : String) (fields : EvidenceFields) (ruleName : String)
    (least : Option Nat) : List Issue :=
  let found := u.record.photoCount fields.photoMarker
  match least with
  | none => []
  | some least =>
    if 0 < least ∧ found < least then
      [u.issue unitLabel photosField .missingEvidence (photosMessage least found) ruleName]
    else []

/-- The issue of a unit without a value in a field of evidence that is asked for. -/
def fieldIssues (u : UnitAt) (unitLabel field sentence ruleName : String) (asked : Bool) :
    List Issue :=
  if asked && !u.record.hasValue field then
    [u.issue unitLabel field .missingEvidence sentence ruleName]
  else []

/-- The issues of a unit that lacks evidence a triggered rule asks for: photos, location lock,
signature. -/
def evidenceIssues (u : UnitAt) (unitLabel : String) (fields : EvidenceFields)
    (rule : RequirementRule) : List Issue :=
  match rule.evidence with
  | none => []
  | some evidence =>
    u.photoIssues unitLabel fields rule.name evidence.photos ++
      u.fieldIssues unitLabel fields.gpsField "GPS location lock is required" rule.name
        evidence.gps ++
      u.fieldIssues unitLabel fields.signatureField "signature is required" rule.name
        evidence.signature

/-- The issues of a unit: missing mandatory fields first, then missing evidence rule by rule. -/
def issues (u : UnitAt) (unitLabel : String) (fields : EvidenceFields) (r : Resolution) :
    List Issue :=
  (r.missingFields u.record).map (fun (field, ruleName) =>
      u.issue unitLabel field .requiredField (requiredMessage field) ruleName) ++
    r.triggered.flatMap fun rule => u.evidenceIssues unitLabel fields rule

/-- The units of a submission with their positions. -/
def enumerate (units : List Record) : List UnitAt :=
  units.zipIdx.map fun (record, index) => ⟨record, index⟩

end UnitAt

/-- The units that are checked one by one, if that is what happens. -/
def checkedUnits? (units : Option (List Record)) (loop : Option UnitLoop) :
    Option (String × List Record) :=
  match loop, units with
  | some loop, some units =>
    if loop.enabled && !units.isEmpty then some (loop.unitLabel, units) else none
  | _, _ => none

/-- The issues of a submission. -/
def validate (rules : List RequirementRule) (fields : EvidenceFields) (loop : Option UnitLoop)
    (form : Record) (units : Option (List Record)) : List Issue :=
  match checkedUnits? units loop with
  | some (unitLabel, units) =>
    (UnitAt.enumerate units).flatMap fun u =>
      u.issues unitLabel fields (Resolution.of rules u.record)
  | none =>
    ((Resolution.of rules form).missingFields form).map fun (field, ruleName) =>
      Issue.ofForm field ruleName

/-- The events of validating a submission: those of resolving each subject. -/
def validationEvents (rules : List RequirementRule) (loop : Option UnitLoop) (form : Record)
    (units : Option (List Record)) : List Trace.Event :=
  match checkedUnits? units loop with
  | some (_, units) => units.flatMap fun unit => (Resolution.of rules unit).events
  | none => (Resolution.of rules form).events

end ReportRules
