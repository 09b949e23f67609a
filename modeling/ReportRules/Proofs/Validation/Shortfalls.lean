import Mathlib.Data.List.Dedup
import Mathlib.Data.List.Sort
import ReportRules.Proofs.Requirement.Attribution
import ReportRules.Proofs.Text.Octets
import ReportRules.Validation

/-!
# ReportRules.Proofs.Validation.Shortfalls -- every issue of a submission, and its place

`validate` works through a `Resolution`: a map of names, in the order of its keys, and a list of
rules. Here the same list of issues is written down from the rules and the records alone. For one
subject it begins with the mandatory fields that have no value. These are collected over all
triggered rules, each is taken once, they are sorted by their bytes, and each is blamed on the first
rule that lists it. For a unit, the evidence that is missing follows, rule by rule.
-/

namespace ReportRules

/-! ## The list of issues, without a resolution -/

/-- The rules that trigger on a subject, in their order. -/
def triggeredOn (rules : List RequirementRule) (subject : Record) : List RequirementRule :=
  rules.filter fun rule => rule.triggers subject

/-- The fields that some triggered rule lists and the subject has no value for, each once, in
ascending order of their bytes. -/
def lackingFields (rules : List RequirementRule) (subject : Record) : List String :=
  (((triggeredOn rules subject).flatMap RequirementRule.requiredFields).filter
      fun field => !subject.hasValue field).dedup.mergeSort
    fun a b => decide (Text.octets a ≤ Text.octets b)

/-- The rule that a missing field is blamed on, by its name: the first triggered one that lists the
field. -/
def blamedFor (rules : List RequirementRule) (subject : Record) (field : String) : Option String :=
  (firstToRequire (triggeredOn rules subject) field).map RequirementRule.name

/-- The issue that a form has no value in a mandatory field. -/
def formShortfall (rules : List RequirementRule) (form : Record) (field : String) : Issue :=
  { unitId := none, unitIndex := none, fieldId := field, fieldLabel := Text.label field,
    kind := .requiredField, message := requiredMessage field,
    ruleName := blamedFor rules form field }

namespace UnitAt

/-- The issue that a unit has no value in a mandatory field. -/
def fieldShortfall (u : UnitAt) (unitLabel : String) (rules : List RequirementRule)
    (field : String) : Issue :=
  { unitId := u.record.unitId?, unitIndex := some u.index, fieldId := field,
    fieldLabel := Text.label field, kind := .requiredField,
    message := u.heading unitLabel ++ ": " ++ requiredMessage field,
    ruleName := blamedFor rules u.record field }

/-- The issue that a unit lacks evidence which a rule asks for. -/
def evidenceShortfall (u : UnitAt) (unitLabel : String) (rule : RequirementRule)
    (field sentence : String) : Issue :=
  { unitId := u.record.unitId?, unitIndex := some u.index, fieldId := field,
    fieldLabel := Text.label field, kind := .missingEvidence,
    message := u.heading unitLabel ++ ": " ++ sentence, ruleName := some rule.name }

/-- What a unit lacks of the evidence that one rule asks for: photos, location lock, signature. -/
def evidenceShortfalls (u : UnitAt) (unitLabel : String) (fields : EvidenceFields)
    (rule : RequirementRule) : List Issue :=
  let found := u.record.photoCount fields.photoMarker
  let least := (rule.evidence.bind EvidenceMinimum.photos).getD 0
  (if 0 < least ∧ found < least then
      [u.evidenceShortfall unitLabel rule "photos" (photosMessage least found)]
    else []) ++
  (if rule.evidence.any EvidenceMinimum.gps ∧ u.record.hasValue fields.gpsField = false then
      [u.evidenceShortfall unitLabel rule fields.gpsField "GPS location lock is required"]
    else []) ++
  (if rule.evidence.any EvidenceMinimum.signature ∧
        u.record.hasValue fields.signatureField = false then
      [u.evidenceShortfall unitLabel rule fields.signatureField "signature is required"]
    else [])

/-- All that a unit lacks. -/
def shortfalls (u : UnitAt) (unitLabel : String) (fields : EvidenceFields)
    (rules : List RequirementRule) : List Issue :=
  (lackingFields rules u.record).map (u.fieldShortfall unitLabel rules) ++
    (triggeredOn rules u.record).flatMap (u.evidenceShortfalls unitLabel fields)

end UnitAt

/-- All that a submission lacks: of each unit when units are checked one by one, else of the form. -/
def shortfalls (rules : List RequirementRule) (fields : EvidenceFields) (loop : Option UnitLoop)
    (form : Record) (units : Option (List Record)) : List Issue :=
  let ofForm := (lackingFields rules form).map (formShortfall rules form)
  match loop, units with
  | some loop, some units =>
    if loop.enabled = true ∧ units ≠ [] then
      units.zipIdx.flatMap fun (unit, index) =>
        (UnitAt.mk unit index).shortfalls loop.unitLabel fields rules
    else ofForm
  | _, _ => ofForm

/-! ## Mandatory fields without a value -/

theorem mem_lackingFields_iff (rules : List RequirementRule) (subject : Record) (field : String) :
    field ∈ lackingFields rules subject ↔
      (∃ rule ∈ rules, rule.triggers subject = true ∧ field ∈ rule.requiredFields) ∧
        subject.hasValue field = false := by
  simp only [lackingFields, triggeredOn, List.mem_mergeSort, List.mem_dedup, List.mem_filter,
    List.mem_flatMap, Bool.not_eq_true', and_assoc]

theorem pairwise_lackingFields (rules : List RequirementRule) (subject : Record) :
    (lackingFields rules subject).Pairwise (· < ·) := by
  have sorted : (lackingFields rules subject).Pairwise (· ≤ ·) := by
    refine (List.pairwise_mergeSort ?_ ?_ _).imp ?_
    · intro a b c hab hbc
      simp only [decide_eq_true_eq, Text.octets_le_iff] at hab hbc ⊢
      exact hab.trans hbc
    · intro a b
      simp only [Bool.or_eq_true, decide_eq_true_eq, Text.octets_le_iff]
      exact le_total a b
    · intro a b hab
      simpa only [decide_eq_true_eq, Text.octets_le_iff] using hab
  have distinct : (lackingFields rules subject).Nodup :=
    (List.mergeSort_perm _ _).nodup_iff.mpr (List.nodup_dedup _)
  exact sorted.imp₂ (fun _ _ hle hne => lt_of_le_of_ne hle hne) distinct

namespace Resolution

/-- Keys of a resolution's map and sorted list of fields: the same fields in the same order. -/
theorem map_fst_missingFields (rules : List RequirementRule) (subject : Record) :
    ((Resolution.of rules subject).missingFields subject).map Prod.fst =
      lackingFields rules subject := by
  -- both lists ascend strictly, so it is enough that they have the same members
  have ascending :
      (((Resolution.of rules subject).missingFields subject).map Prod.fst).Pairwise (· < ·) :=
    List.pairwise_map.mpr
      ((Resolution.of rules subject).requiredBy.ascending.sublist List.filter_sublist)
  refine List.Pairwise.eq_of_mem_iff ascending (pairwise_lackingFields rules subject) ?_
  intro field
  rw [mem_lackingFields_iff, ← mem_requiredFields_iff]
  simp [missingFields, requiredFields, Keyed.keys]

theorem blamedFor_of_mem_missingFields {rules : List RequirementRule} {subject : Record}
    {entry : String × String}
    (h : entry ∈ (Resolution.of rules subject).missingFields subject) :
    blamedFor rules subject entry.1 = some entry.2 := by
  have hfind := (Keyed.mem_entries_iff _).mp (List.mem_of_mem_filter h)
  rw [← hfind]
  exact (find?_requirers (triggeredOn rules subject) entry.1).symm

/-- Going through the map of a resolution is going through the lacking fields. -/
theorem map_missingFields {β : Type} (rules : List RequirementRule) (subject : Record)
    (f : String → Option String → β) :
    ((Resolution.of rules subject).missingFields subject).map
        (fun entry => f entry.1 (some entry.2)) =
      (lackingFields rules subject).map fun field => f field (blamedFor rules subject field) := by
  rw [← map_fst_missingFields, List.map_map]
  refine List.map_congr_left fun entry hentry => ?_
  rw [Function.comp_apply, blamedFor_of_mem_missingFields hentry]

end Resolution

/-! ## Missing evidence -/

namespace UnitAt

theorem evidenceIssues_eq (u : UnitAt) (unitLabel : String) (fields : EvidenceFields)
    (rule : RequirementRule) :
    u.evidenceIssues unitLabel fields rule = u.evidenceShortfalls unitLabel fields rule := by
  unfold evidenceIssues evidenceShortfalls
  cases hasked : rule.evidence with
  | none => simp
  | some asked =>
    have photos : u.photoIssues unitLabel fields rule.name asked.photos =
        if 0 < asked.photos.getD 0 ∧
            u.record.photoCount fields.photoMarker < asked.photos.getD 0 then
          [u.evidenceShortfall unitLabel rule "photos"
            (photosMessage (asked.photos.getD 0) (u.record.photoCount fields.photoMarker))]
        else [] := by
      unfold photoIssues
      cases asked.photos with
      | none => simp
      | some least => rfl
    have field : ∀ (name sentence : String) (isAsked : Bool),
        u.fieldIssues unitLabel name sentence rule.name isAsked =
          if isAsked = true ∧ u.record.hasValue name = false then
            [u.evidenceShortfall unitLabel rule name sentence]
          else [] := by
      intro name sentence isAsked
      unfold fieldIssues
      cases isAsked <;> cases u.record.hasValue name <;> rfl
    simp only [photos, field, Option.bind_some, Option.any_some]

/-- A unit checked through a resolution lacks what it lacks by itself. -/
theorem issues_eq_shortfalls (u : UnitAt) (unitLabel : String) (fields : EvidenceFields)
    (rules : List RequirementRule) :
    u.issues unitLabel fields (Resolution.of rules u.record) =
      u.shortfalls unitLabel fields rules := by
  unfold issues shortfalls
  congr 1
  · exact Resolution.map_missingFields rules u.record fun field blamed =>
      { u.fieldShortfall unitLabel rules field with ruleName := blamed }
  · exact congrArg (List.flatMap · _) (funext (u.evidenceIssues_eq unitLabel fields))

end UnitAt

/-- **The verdict is exact.** Whatever the rules, the records, the unit loop and the evidence fields
are, the issues of a submission are its shortfalls: none is missing, none is reported twice, and
each is in its place with its text and the rule it is blamed on. -/
theorem validate_eq_shortfalls (rules : List RequirementRule) (fields : EvidenceFields)
    (loop : Option UnitLoop) (form : Record) (units : Option (List Record)) :
    validate rules fields loop form units = shortfalls rules fields loop form units := by
  have ofForm : ((Resolution.of rules form).missingFields form).map
        (fun entry => Issue.ofForm entry.1 entry.2) =
      (lackingFields rules form).map (formShortfall rules form) :=
    Resolution.map_missingFields rules form fun field blamed =>
      { formShortfall rules form field with ruleName := blamed }
  unfold validate checkedUnits? shortfalls
  cases loop with
  | none => exact ofForm
  | some loop =>
    cases units with
    | none => exact ofForm
    | some units =>
      cases henabled : loop.enabled with
      | false => simpa [henabled] using ofForm
      | true =>
        cases units with
        | nil => simpa [henabled] using ofForm
        | cons unit rest =>
          simp only [henabled, UnitAt.enumerate, List.flatMap_map, UnitAt.issues_eq_shortfalls]
          rfl

end ReportRules
