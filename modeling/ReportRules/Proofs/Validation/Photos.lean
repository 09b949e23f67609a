import ReportRules.Proofs.Text.Figures
import ReportRules.Proofs.Validation.Filling

/-!
# ReportRules.Proofs.Validation.Photos -- what counts as a photo

A rule may ask that a unit carries a number of photos. Two tests of a value meet here that are not
the same: whether it is usable, and how many photos it counts for. A number or a truth value is
usable, but it is no photo unless it stands in an array. An element of an array is a photo unless it
is `null`, so blank text and empty collections count there, although they are not usable. For all
other values the two tests agree, and the difference over a whole record is exactly these two
numbers.
-/

namespace ReportRules

/-! ## Single values -/

namespace Json

/-- The elements of an array. -/
def elements : Json → List Json
  | .arr items => items
  | _ => []

/-- The values that a value offers as photos: the elements of an array, anything else itself. -/
def offered : Json → List Json
  | .arr items => items
  | value => [value]

/-- Whether a value is neither usable nor `null`: blank text or an empty collection. -/
def isBlank (value : Json) : Bool :=
  !value.isFilled && !value.isNull

/-- Whether a value is a number or a truth value. -/
def isBare : Json → Bool
  | .bool _ | .num _ => true
  | _ => false

theorem isNull_eq_false_of_isFilled {value : Json} (usable : value.isFilled = true) :
    value.isNull = false := by
  cases value with
  | null => cases usable
  | bool _ | num _ | str _ | arr _ | obj _ => rfl

/-- Elements count if they are usable or blank. -/
theorem length_filter_not_isNull (items : List Json) :
    (items.filter fun item => !item.isNull).length =
      items.countP isFilled + items.countP isBlank := by
  rw [← List.countP_eq_length_filter]
  induction items with
  | nil => rfl
  | cons item rest ih =>
    have present := @isNull_eq_false_of_isFilled item
    have single : (if !item.isNull then 1 else 0) =
        (if item.isFilled then 1 else 0) + if item.isBlank then 1 else 0 := by
      unfold isBlank
      revert present
      cases item.isFilled <;> cases item.isNull <;> decide
    rw [List.countP_cons, List.countP_cons, List.countP_cons, ih, single]
    omega

theorem photoCount_add_bare (value : Json) :
    value.photoCount + [value].countP isBare =
      value.offered.countP isFilled + value.elements.countP isBlank := by
  cases value with
  | null | bool _ | num _ => rfl
  | arr items => exact length_filter_not_isNull items
  | str s =>
    cases blank : Text.isBlankText s <;>
      simp [photoCount, offered, elements, isBare, isFilled, blank]
  | obj members =>
    cases blank : members.isEmpty <;>
      simp [photoCount, offered, elements, isBare, isFilled, blank]

end Json

/-! ## Records -/

namespace Record

/-- The values of the fields whose key contains the marker. -/
def photoValues (r : Record) (marker : String) : List Json :=
  (r.entries.filter fun (key, _) => Text.contains key marker).map Prod.snd

/-- The number of usable values among the elements of arrays and the other values in these fields. -/
def usablePhotos (r : Record) (marker : String) : Nat :=
  ((r.photoValues marker).flatMap Json.offered).countP Json.isFilled

/-- The number of elements of arrays in these fields that are blank. -/
def blankPhotos (r : Record) (marker : String) : Nat :=
  ((r.photoValues marker).flatMap Json.elements).countP Json.isBlank

/-- The number of these fields that hold a number or a truth value. -/
def barePhotos (r : Record) (marker : String) : Nat :=
  (r.photoValues marker).countP Json.isBare

/-- **Photos and usable values.** Blank elements are counted beyond the usable values, and numbers
and truth values are left out. -/
theorem photoCount_add_barePhotos (r : Record) (marker : String) :
    r.photoCount marker + r.barePhotos marker = r.usablePhotos marker + r.blankPhotos marker := by
  unfold photoCount barePhotos usablePhotos blankPhotos photoValues
  induction r.entries.filter fun (key, _) => Text.contains key marker with
  | nil => rfl
  | cons entry rest ih =>
    obtain ⟨key, value⟩ := entry
    have single := value.photoCount_add_bare
    simp only [List.map_cons, List.flatMap_cons, List.countP_append, List.foldr_cons,
      List.countP_cons, List.countP_nil] at ih single ⊢
    omega

end Record

/-! ## Units -/

theorem photosMessage_injective (found : Nat) :
    Function.Injective fun least => UnitAt.photosMessage least found := by
  intro m n same
  have shorter := (String.append_left_inj _).mp ((String.append_left_inj _).mp same)
  have texts : Text.natText m = Text.natText n := (String.append_right_inj _).mp shorter
  exact Text.figures_injective (String.ofList_injective texts)

/-- The issue of too few photos is reported where a rule with that name asks for so many. -/
theorem UnitAt.photosIssue_mem_issues_iff {u : UnitAt} {unitLabel : String} {fields : EvidenceFields}
    {res : Resolution} {least : Nat} {ruleName : String} :
    u.photosIssue unitLabel fields least ruleName ∈ u.issues unitLabel fields res ↔
      (∃ rule ∈ res.triggered, rule.name = ruleName ∧
          rule.evidence.bind EvidenceMinimum.photos = some least) ∧
        u.record.photoCount fields.photoMarker < least := by
  rw [mem_issues_iff]
  constructor
  · rintro (⟨entry, -, same⟩ | ⟨rule, triggered, h⟩)
    · cases congrArg Issue.kind same
    · rcases mem_evidenceIssues_iff.mp h with ⟨least', asks, few, same⟩ | ⟨-, -, same⟩ | ⟨-, -, same⟩
      · obtain rfl := photosMessage_injective _ (sentence_of_issue_eq same)
        have name : ruleName = rule.name := Option.some.inj (congrArg Issue.ruleName same)
        exact ⟨⟨rule, triggered, name.symm, asks⟩, few⟩
      · exact absurd (sentence_of_issue_eq same) (photosMessage_ne (by decide) _ _)
      · exact absurd (sentence_of_issue_eq same) (photosMessage_ne (by decide) _ _)
  · rintro ⟨⟨rule, triggered, rfl, asks⟩, few⟩
    exact .inr ⟨rule, triggered, mem_evidenceIssues_iff.mpr (.inl ⟨least, asks, few, rfl⟩)⟩

/-- **Minimums of photos.** Let units be checked one by one, and let a rule that triggers on one of
them ask for a number of photos. That these are too few is reported of the unit, at `photos` and
under the name of the rule, exactly when the usable values among the elements of arrays and the
other values in its photo fields, together with the blank elements of these arrays, are fewer than
what is asked for, numbers and truth values outside of arrays not taken into account. So where no
array has a blank element, too few usable values do not pass. -/
theorem photo_minimum_reported_iff {rules : List RequirementRule} {fields : EvidenceFields}
    {loop : UnitLoop} {form : Record} {units : List Record} {index : Nat} {unit : Record}
    {rule : RequirementRule} {least : Nat} (enabled : loop.enabled = true)
    (isUnit : units[index]? = some unit) (isRule : rule ∈ rules)
    (triggers : rule.triggers unit = true)
    (asks : rule.evidence.bind EvidenceMinimum.photos = some least) :
    let issues := validate rules fields (some loop) form (some units)
    let usable := unit.usablePhotos fields.photoMarker
    let blank := unit.blankPhotos fields.photoMarker
    let bare := unit.barePhotos fields.photoMarker
    ((UnitAt.mk unit index).photosIssue loop.unitLabel fields least rule.name ∈ issues ↔
        usable + blank < least + bare) ∧
      (blank = 0 → usable < least → ∃ i ∈ issues, i.unitIndex = some index ∧
        i.fieldId = "photos" ∧ i.kind = .missingEvidence ∧ i.ruleName = some rule.name) := by
  intro issues usable blank bare
  have count := unit.photoCount_add_barePhotos fields.photoMarker
  have nonempty : units ≠ [] := by
    rintro rfl
    cases isUnit
  have mode : checkedUnits? (some units) (some loop) = some (loop.unitLabel, units) :=
    checkedUnits?_eq_some_iff.mpr ⟨loop, rfl, enabled, rfl, rfl, nonempty⟩
  have checked : (Subject.unit index).checked? (some loop) form (some units) = some unit := by
    rw [Subject.checked?, mode]
    exact isUnit
  have triggered : rule ∈ (Resolution.of rules unit).triggered :=
    List.mem_filter.mpr ⟨isRule, triggers⟩
  let issue := (UnitAt.mk unit index).photosIssue loop.unitLabel fields least rule.name
  have reported : issue ∈ issues ↔ usable + blank < least + bare := by
    refine (Subject.mem_validate_iff_of_isAbout (i := issue) checked rfl).trans ?_
    refine UnitAt.photosIssue_mem_issues_iff.trans ?_
    rw [and_iff_right ⟨rule, triggered, rfl, asks⟩]
    show unit.photoCount fields.photoMarker < least ↔ _
    omega
  exact ⟨reported, fun none few => ⟨_, reported.mpr (by omega), rfl, rfl, rfl, rfl⟩⟩

/-- Two of the fields of a unit offer usable values, a list of photos with a blank one among them and
a number. The blank one counts, the number does not, so three photos are too many to ask for. -/
theorem number_is_no_photo :
    let damaged : Condition :=
      { field := "unit_status", operator := .equals, value := .str "damaged" }
    let rule : RequirementRule :=
      { id := "damage", name := "Damage", conditions := [damaged],
        evidence := some { photos := some 3 } }
    let unit : Record := .ofList [("unit_status", .str "damaged"),
      ("photo_before", .arr [.str "a.jpg", .str "", .null]), ("photo_count", .int 1),
      ("photo_after", .str " ")]
    let issues := validate [rule] {} (some { enabled := true }) .empty (some [.empty, unit])
    unit.usablePhotos "photo" = 2 ∧ unit.blankPhotos "photo" = 1 ∧ unit.barePhotos "photo" = 1 ∧
      rule.triggers unit = true ∧
      (UnitAt.mk unit 1).photosIssue "Unit" {} 3 "Damage" ∈ issues := by
  intro damaged rule unit issues
  have triggers : rule.triggers unit = true := by decide
  have reported := (@photo_minimum_reported_iff [rule] {} { enabled := true } .empty [.empty, unit] 1
    unit rule 3 rfl rfl (List.mem_singleton_self rule) triggers rfl).1
  exact ⟨by decide, by decide, by decide, triggers, reported.mpr (by decide)⟩

/-- One blank photo in a list is enough for a rule that asks for one. -/
theorem blank_photo_passes :
    let damaged : Condition :=
      { field := "unit_status", operator := .equals, value := .str "damaged" }
    let rule : RequirementRule :=
      { id := "damage", name := "Damage", conditions := [damaged],
        evidence := some { photos := some 1 } }
    let unit : Record := .ofList [("unit_status", .str "damaged"), ("photo", .arr [.str ""])]
    rule.triggers unit = true ∧ unit.usablePhotos "photo" = 0 ∧
      validate [rule] {} (some { enabled := true }) .empty (some [unit]) = [] := by
  decide

end ReportRules
