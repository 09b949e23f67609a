import Mathlib.Algebra.Order.BigOperators.Group.List
import ReportRules.Proofs.Validation.Filling

/-!
# ReportRules.Proofs.Validation.Clearing -- where an issue can be cleared

An issue names a field. At a field that has a value nothing is reported any more, save for one check
that does not ask for a value: a lack of photos is always reported at `photos`, wherever the photos
are counted. If `photos` is one of the fields in which they are, an array with enough of them clears
the issue. If it is none, the issue stays whatever is put there.
-/

namespace ReportRules

open UnitAt (photosField)

/-! ## Photos put into a record -/

/-- An array that counts for a number of photos. -/
def Json.photos (count : Nat) : Json :=
  .arr (.replicate count (.bool true))

theorem Json.photoCount_photos (count : Nat) : (Json.photos count).photoCount = count := by
  simp [photos, photoCount, isNull]

theorem Json.isFilled_photos (count : Nat) : (Json.photos (count + 1)).isFilled = true := by
  rfl

namespace Record

/-- Outside of the photo fields nothing is counted. -/
theorem photoCount_insert_of_not_contains {field marker : String}
    (unmarked : Text.contains field marker = false) (r : Record) (value : Json) :
    Record.photoCount (r.insert field value) marker = r.photoCount marker := by
  have elsewhere : ∀ key, Text.contains key marker = true →
      (r.insert field value).find? key = r.find? key := by
    intro key marked
    rw [Keyed.find?_insert, if_neg]
    rintro rfl
    rw [unmarked] at marked
    cases marked
  unfold photoCount
  rw [Keyed.filter_entries_congr elsewhere]

/-- In a photo field everything is counted. -/
theorem le_photoCount_insert {field marker : String}
    (marked : Text.contains field marker = true) (r : Record) (value : Json) :
    value.photoCount ≤ Record.photoCount (r.insert field value) marker := by
  have isThere : (field, value) ∈ (r.insert field value).entries :=
    (Keyed.mem_entries_iff _).mpr (Keyed.find?_insert_self r field value)
  rw [photoCount_eq_sum]
  refine List.single_le_sum (fun _ _ => Nat.zero_le _) _ (List.mem_map.mpr ⟨_, isThere, ?_⟩)
  simp only [marked, if_true]

end Record

/-! ## What stays at a field with a value -/

/-- The subject of an issue. -/
def Issue.subject (i : Issue) : Subject :=
  match i.unitIndex with
  | some index => .unit index
  | none => .form

theorem Issue.isAbout_iff {i : Issue} {s : Subject} : i.IsAbout s ↔ i.subject = s := by
  unfold IsAbout subject Subject.index?
  cases i.unitIndex <;> cases s <;> simp

theorem Issue.gist_eq_iff {i j : Issue} : j.gist = i.gist ↔ j.unitIndex = i.unitIndex ∧
    j.fieldId = i.fieldId ∧ j.kind = i.kind ∧ j.ruleName = i.ruleName := by
  simp only [gist, Prod.mk.injEq]

/-- An issue at `photos` agrees, apart from its texts, with a lack of photos: a rule of its name
triggers on the unit and asks for more photos than are counted. -/
structure Issue.LacksPhotos (i : Issue) (rules : List RequirementRule) (marker : String)
    (unit : Record) : Prop where
  field : i.fieldId = photosField
  kind : i.kind = .missingEvidence
  rule : ∃ rule ∈ rules, rule.triggers unit = true ∧ i.ruleName = some rule.name ∧
    ∃ least, rule.evidence.bind EvidenceMinimum.photos = some least ∧
      unit.photoCount marker < least

namespace Issue.LacksPhotos

variable {rules : List RequirementRule} {marker : String} {r : Record} {i j : Issue}

theorem of_gist_eq (same : j.gist = i.gist) (lacks : j.LacksPhotos rules marker r) :
    i.LacksPhotos rules marker r := by
  obtain ⟨-, field, kind, ruleName⟩ := gist_eq_iff.mp same
  obtain ⟨isPhotos, isEvidence, rule, isRule, triggers, name, asks⟩ := lacks
  exact ⟨field ▸ isPhotos, kind ▸ isEvidence, rule, isRule, triggers, ruleName ▸ name, asks⟩

/-- A lack of photos is not touched in a field that is no photo field. -/
theorem insert_iff {field : String}
    (unseen : ∀ rule ∈ rules, rule.active = true → ∀ c ∈ rule.conditions, c.field ≠ field)
    (unmarked : Text.contains field marker = false) (value : Json) :
    i.LacksPhotos rules marker (r.insert field value) ↔ i.LacksPhotos rules marker r := by
  have triggers {rule : RequirementRule} (isRule : rule ∈ rules) :=
    RequirementRule.triggers_insert unseen r value isRule
  have count := Record.photoCount_insert_of_not_contains unmarked r value
  constructor
  · rintro ⟨field, kind, rule, isRule, triggered, name, least, asks, few⟩
    rw [triggers isRule] at triggered
    rw [count] at few
    exact ⟨field, kind, rule, isRule, triggered, name, least, asks, few⟩
  · rintro ⟨field, kind, rule, isRule, triggered, name, least, asks, few⟩
    rw [← triggers isRule] at triggered
    rw [← count] at few
    exact ⟨field, kind, rule, isRule, triggered, name, least, asks, few⟩

end Issue.LacksPhotos

namespace Subject

variable {rules : List RequirementRule} {fields : EvidenceFields} {loop : Option UnitLoop}
  {form r : Record} {units : Option (List Record)} {i : Issue}

/-- At a field that has a value, only a lack of photos is reported. -/
theorem lacksPhotos_of_hasValue {s : Subject} (h : i ∈ s.issues rules fields loop r)
    (has : r.hasValue i.fieldId = true) : i.LacksPhotos rules fields.photoMarker r := by
  have evidence : i.kind ≠ .requiredField :=
    fun required => fieldId_ne_of_mem_issues has h required rfl
  cases s with
  | form =>
    obtain ⟨entry, -, rfl⟩ := List.mem_map.mp h
    exact absurd rfl evidence
  | unit index =>
    rcases UnitAt.mem_issues_iff.mp h with ⟨entry, -, rfl⟩ | ⟨rule, triggered, hi⟩
    · exact absurd rfl evidence
    · obtain ⟨isRule, triggers⟩ := List.mem_filter.mp triggered
      rcases UnitAt.mem_evidenceIssues_iff.mp hi with ⟨least, asks, few, rfl⟩ | ⟨-, lacking, rfl⟩ |
        ⟨-, lacking, rfl⟩
      · exact ⟨rfl, rfl, rule, isRule, triggers, rfl, least, asks, few⟩
      all_goals exact absurd (show true = false from has.symm.trans lacking) (by decide)

variable (loop) in
/-- A lack of photos is reported, whether or not `photos` has a value. -/
theorem exists_gist_of_lacksPhotos {index : Nat} (about : i.IsAbout (.unit index))
    (lacks : i.LacksPhotos rules fields.photoMarker r) :
    ∃ j ∈ (unit index).issues rules fields loop r, j.gist = i.gist := by
  obtain ⟨field, kind, rule, isRule, triggers, name, least, asks, few⟩ := lacks
  let unitLabel := (loop.map UnitLoop.unitLabel).getD ""
  refine ⟨(UnitAt.mk r index).photosIssue unitLabel fields least rule.name, ?_, ?_⟩
  · refine UnitAt.mem_issues_iff.mpr (.inr ⟨rule, List.mem_filter.mpr ⟨isRule, triggers⟩, ?_⟩)
    exact UnitAt.mem_evidenceIssues_iff.mpr (.inl ⟨least, asks, few, rfl⟩)
  · have index : i.unitIndex = some index := about
    unfold Issue.gist
    rw [index, field, kind, name]
    rfl

/-- Outside of the photo fields a lack of photos cannot be cleared. -/
theorem exists_gist_after_fill {index : Nat}
    (checked : (unit index).checked? loop form units = some r)
    (unseen : ∀ rule ∈ rules, rule.active = true → ∀ c ∈ rule.conditions, c.field ≠ photosField)
    (unmarked : Text.contains photosField fields.photoMarker = false)
    (about : i.IsAbout (.unit index)) (lacks : i.LacksPhotos rules fields.photoMarker r)
    (value : Json) :
    ∃ j ∈ validate rules fields loop ((unit index).fillForm photosField value form)
      ((unit index).fillUnits photosField value units), j.gist = i.gist := by
  have remains := (Issue.LacksPhotos.insert_iff unseen unmarked value).mpr lacks
  obtain ⟨j, hj, same⟩ := exists_gist_of_lacksPhotos loop about remains
  exact ⟨j, mem_validate_iff.mpr ⟨_, _, checked?_fill checked photosField value, hj⟩, same⟩

end Subject

/-- More photos than any of the rules asks for. -/
def enoughPhotos (rules : List RequirementRule) : Nat :=
  (rules.filterMap fun rule => rule.evidence.bind EvidenceMinimum.photos).sum + 1

theorem lt_enoughPhotos {rules : List RequirementRule} {rule : RequirementRule} {least : Nat}
    (isRule : rule ∈ rules) (asks : rule.evidence.bind EvidenceMinimum.photos = some least) :
    least < enoughPhotos rules := by
  have member : least ∈
      rules.filterMap fun rule => rule.evidence.bind EvidenceMinimum.photos :=
    List.mem_filterMap.mpr ⟨rule, isRule, asks⟩
  exact Nat.lt_succ_of_le (List.single_le_sum (fun _ _ => Nat.zero_le _) _ member)

/-- **Clearing an issue at the field it names.** Let an issue of a submission name a field that no
condition of an active rule looks at. Its subject is checked, and there is a value that clears the
issue there, so that no issue with its unit, field, kind and rule is left, exactly when `photos` is
one of the fields in which photos are counted or the issue does not agree with a lack of photos. -/
theorem cleared_at_named_field {rules : List RequirementRule} {fields : EvidenceFields}
    {loop : Option UnitLoop} {form : Record} {units : Option (List Record)} {i : Issue}
    (reported : i ∈ validate rules fields loop form units)
    (unseen : ∀ rule ∈ rules, rule.active = true → ∀ c ∈ rule.conditions, c.field ≠ i.fieldId) :
    ∃ r, i.subject.checked? loop form units = some r ∧
      ((∃ value, ∀ j ∈ validate rules fields loop (i.subject.fillForm i.fieldId value form)
          (i.subject.fillUnits i.fieldId value units), j.gist ≠ i.gist) ↔
        Text.contains photosField fields.photoMarker = true ∨
          ¬ i.LacksPhotos rules fields.photoMarker r) := by
  obtain ⟨s, r, checked, h⟩ := Subject.mem_validate_iff.mp reported
  have about := Subject.isAbout_of_mem_issues h
  rw [Issue.isAbout_iff.mp about]
  refine ⟨r, checked, ?_, ?_⟩
  · rintro ⟨value, cleared⟩
    refine or_iff_not_imp_left.mpr fun unmarked lacks => ?_
    rw [Bool.not_eq_true] at unmarked
    rw [lacks.field] at unseen cleared
    cases s with
    | form =>
      obtain ⟨entry, -, rfl⟩ := List.mem_map.mp h
      cases lacks.kind
    | unit index =>
      obtain ⟨j, hj, same⟩ :=
        Subject.exists_gist_after_fill checked unseen unmarked about lacks value
      exact cleared j hj same
  · intro clearable
    refine ⟨.photos (enoughPhotos rules), fun j hj same => ?_⟩
    obtain ⟨unitIndex, field, -, -⟩ := Issue.gist_eq_iff.mp same
    have own := (Subject.mem_validate_iff_of_isAbout (Subject.checked?_fill checked _ _)
      (unitIndex.trans about)).mp hj
    have has : Record.hasValue (r.insert i.fieldId (.photos (enoughPhotos rules))) j.fieldId =
        true := by
      rw [Record.hasValue_insert, if_pos field]
      exact Json.isFilled_photos _
    have lacks := (Subject.lacksPhotos_of_hasValue own has).of_gist_eq same
    cases marked : Text.contains i.fieldId fields.photoMarker with
    | true =>
      obtain ⟨rule, isRule, -, -, least, asks, few⟩ := lacks.rule
      have most := lt_enoughPhotos isRule asks
      have counted := Record.le_photoCount_insert marked r (.photos (enoughPhotos rules))
      rw [Json.photoCount_photos] at counted
      omega
    | false =>
      rcases clearable with isPhotoField | lacksNot
      · rw [lacks.field, isPhotoField] at marked
        cases marked
      · exact lacksNot ((Issue.LacksPhotos.insert_iff unseen marked _).mp lacks)

/-- Where the location lock is looked for among the photos, one value clears the lack of both. -/
theorem photos_clear_location_lock :
    let damaged : Condition :=
      { field := "unit_status", operator := .equals, value := .str "damaged" }
    let rules : List RequirementRule :=
      [{ id := "damage", name := "Damage", conditions := [damaged],
         evidence := some { photos := some 2, gps := true } }]
    let fields : EvidenceFields := { gpsField := "photos" }
    let loop : UnitLoop := { enabled := true }
    let unit : Record := .ofList [("unit_status", .str "damaged"), ("photos", .arr [])]
    let before := validate rules fields (some loop) .empty (some [unit])
    let issue := (UnitAt.mk unit 0).locationIssue "Unit" fields "Damage"
    before.map Issue.fieldId = ["photos", "photos"] ∧ issue ∈ before ∧
      ∃ value, ∀ j ∈ validate rules fields (some loop) .empty (some [unit.insert "photos" value]),
        j.gist ≠ issue.gist := by
  intro damaged rules fields loop unit before issue
  have reported : issue ∈ before := by decide
  have unseen : ∀ rule ∈ rules, rule.active = true →
      ∀ c ∈ rule.conditions, c.field ≠ "photos" := by decide
  obtain ⟨r, -, clears⟩ :=
    @cleared_at_named_field rules fields (some loop) .empty (some [unit]) issue reported unseen
  exact ⟨by decide, reported, clears.mpr (.inl (by decide))⟩

/-- Where photos are counted in the fields with `image` in their key, they are asked for at `photos`,
and no value there will do. -/
theorem image_not_cleared_at_photos :
    let damaged : Condition :=
      { field := "unit_status", operator := .equals, value := .str "damaged" }
    let rules : List RequirementRule :=
      [{ id := "damage", name := "Damage", conditions := [damaged],
         evidence := some { photos := some 1 } }]
    let fields : EvidenceFields := { photoMarker := "image" }
    let loop : UnitLoop := { enabled := true }
    let unit : Record := .ofList [("unit_status", .str "damaged")]
    let issue := (UnitAt.mk unit 0).photosIssue "Unit" fields 1 "Damage"
    validate rules fields (some loop) .empty (some [unit]) = [issue] ∧
      issue.fieldId = "photos" ∧
      (∀ rule ∈ rules, rule.active = true → ∀ c ∈ rule.conditions, c.field ≠ "photos") ∧
      ∀ value, ∃ j ∈ validate rules fields (some loop) .empty (some [unit.insert "photos" value]),
        j.gist = issue.gist := by
  intro damaged rules fields loop unit issue
  have unseen : ∀ rule ∈ rules, rule.active = true →
      ∀ c ∈ rule.conditions, c.field ≠ "photos" := by decide
  have lacks : issue.LacksPhotos rules "image" unit :=
    ⟨rfl, rfl, _, List.mem_singleton_self _, by decide, rfl, 1, rfl, by decide⟩
  refine ⟨by decide, rfl, unseen, fun value => ?_⟩
  exact @Subject.exists_gist_after_fill rules fields (some loop) .empty unit (some [unit]) issue 0
    rfl unseen (by decide) rfl lacks value

end ReportRules
