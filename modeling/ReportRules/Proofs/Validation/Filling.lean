import Mathlib.Algebra.GroupWithZero.Nat
import Mathlib.Data.List.Flatten
import ReportRules.Proofs.Engine.Mentioned

/-!
# ReportRules.Proofs.Validation.Filling -- a value that was missing is put in

A subject of a submission gets a usable value in a field in which it had none. If no active rule
looks at the field in a condition, and the field does not name the unit, then the same rules trigger
as before and nothing new can be missing: a usable value satisfies every check that asks for the
field, and it does not take photos away, because a value that is not usable is not counted as a
photo in the first place. What is reported about other subjects stays the same to the letter.

The issues of the subject itself may change their texts, since a lack of photos is reported with
their number. So the comparison is about the unit, the field, the kind and the rule of an issue.
-/

namespace ReportRules

/-! ## Subjects -/

/-- What a submission is checked for: its form, or the unit in a place. -/
inductive Subject
  | form
  | unit (index : Nat)
  deriving Repr, DecidableEq

namespace Subject

/-- The place of a unit. -/
def index? : Subject → Option Nat
  | form => none
  | unit index => some index

/-- The record of a subject, if the subject is checked: the form is where no units are, and a unit
is if it exists. -/
def checked? (loop : Option UnitLoop) (form : Record) (units : Option (List Record)) :
    Subject → Option Record
  | .form => if (checkedUnits? units loop).isNone then some form else none
  | .unit index => (checkedUnits? units loop).bind fun (_, units) => units[index]?

/-- The form after a value has been put into a field of a subject. -/
def fillForm (s : Subject) (field : String) (value : Json) (form : Record) : Record :=
  match s with
  | .form => form.insert field value
  | .unit _ => form

/-- The units after a value has been put into a field of a subject. -/
def fillUnits (s : Subject) (field : String) (value : Json) (units : Option (List Record)) :
    Option (List Record) :=
  match s with
  | .form => units
  | .unit index => units.map fun units => units.modify index fun unit => unit.insert field value

end Subject

/-- Whether an issue is about a subject. -/
def Issue.IsAbout (s : Subject) (i : Issue) : Prop :=
  i.unitIndex = s.index?

instance (s : Subject) (i : Issue) : Decidable (i.IsAbout s) :=
  inferInstanceAs (Decidable (_ = _))

/-- An issue apart from its texts: the unit, the field, the kind and the rule. -/
def Issue.gist (i : Issue) : Option Nat × String × IssueKind × Option String :=
  (i.unitIndex, i.fieldId, i.kind, i.ruleName)

/-- The issue of a unit with too few photos. -/
def UnitAt.photosIssue (u : UnitAt) (unitLabel : String) (fields : EvidenceFields) (least : Nat)
    (ruleName : String) : Issue :=
  u.issue unitLabel UnitAt.photosField .missingEvidence
    (UnitAt.photosMessage least (u.record.photoCount fields.photoMarker)) ruleName

/-- The issue of a unit without a location lock. -/
def UnitAt.locationIssue (u : UnitAt) (unitLabel : String) (fields : EvidenceFields)
    (ruleName : String) : Issue :=
  u.issue unitLabel fields.gpsField .missingEvidence "GPS location lock is required" ruleName

/-- The issue of a unit without a signature. -/
def UnitAt.signatureIssue (u : UnitAt) (unitLabel : String) (fields : EvidenceFields)
    (ruleName : String) : Issue :=
  u.issue unitLabel fields.signatureField .missingEvidence "signature is required" ruleName

/-! ## Photos -/

/-- A value that is not usable holds no photo. -/
theorem Json.photoCount_of_not_isFilled {value : Json} (unusable : value.isFilled = false) :
    value.photoCount = 0 := by
  cases value with
  | null => rfl
  | bool b => cases unusable
  | num n => cases unusable
  | str s =>
    have blank : Text.isBlankText s = true := by simpa [isFilled] using unusable
    simp only [photoCount, blank, if_true]
  | arr items =>
    have none : items = [] := by simpa [isFilled] using unusable
    simp only [photoCount, none, List.filter_nil, List.length_nil]
  | obj members =>
    have none : members.isEmpty = true := by simpa [isFilled] using unusable
    simp only [photoCount, none, if_true]

/-- An entry that counts nothing can be overwritten without loss. -/
theorem sum_le_sum_insertEntry (weight : String × Json → Nat) (key : String) (value : Json)
    {entries : List (String × Json)}
    (weightless : ∀ old, entries.lookup key = some old → weight (key, old) = 0) :
    (entries.map weight).sum ≤ ((Keyed.insertEntry key value entries).map weight).sum := by
  induction entries with
  | nil => exact Nat.zero_le _
  | cons head rest ih =>
    obtain ⟨k, old⟩ := head
    simp only [Keyed.lookup_cons_eq_ite] at weightless
    simp only [Keyed.insertEntry]
    split
    · rename_i same
      subst same
      have nothing : weight (key, old) = 0 := weightless old (if_pos rfl)
      simp only [List.map_cons, List.sum_cons]
      omega
    · rename_i different
      split
      · simp only [List.map_cons, List.sum_cons]
        omega
      · have smaller := ih fun old found => weightless old (by rw [if_neg different, found])
        simp only [List.map_cons, List.sum_cons]
        omega

namespace Record

variable {r : Record} {field : String}

theorem hasValue_insert (r : Record) (field : String) (value : Json) (asked : String) :
    Record.hasValue (r.insert field value) asked =
      if asked = field then value.isFilled else r.hasValue asked := by
  unfold hasValue
  rw [Keyed.find?_insert]
  by_cases same : asked = field
  · rw [if_pos same, if_pos same]
  · rw [if_neg same, if_neg same]

theorem photoCount_eq_sum (r : Record) (marker : String) :
    r.photoCount marker =
      (r.entries.map fun entry =>
        if Text.contains entry.1 marker then entry.2.photoCount else 0).sum := by
  unfold photoCount
  induction r.entries with
  | nil => rfl
  | cons entry rest ih =>
    obtain ⟨key, value⟩ := entry
    rw [List.map_cons, List.sum_cons, ← ih]
    cases marked : Text.contains key marker with
    | true => simp only [List.filter_cons, marked, if_true, List.foldr_cons]
    | false => simp only [List.filter_cons, marked, Bool.false_eq_true, if_false, Nat.zero_add]

/-- A record does not lose photos when a value is put where it had none. -/
theorem photoCount_le_insert (missing : r.hasValue field = false) (value : Json)
    (marker : String) : r.photoCount marker ≤ Record.photoCount (r.insert field value) marker := by
  rw [photoCount_eq_sum, photoCount_eq_sum]
  refine sum_le_sum_insertEntry _ field value fun old found => ?_
  have unusable : old.isFilled = false := by
    unfold hasValue Keyed.find? at missing
    rw [found] at missing
    exact missing
  dsimp only
  split
  · exact Json.photoCount_of_not_isFilled unusable
  · rfl

theorem unitId?_insert (other : field ≠ unitIdField) (r : Record) (value : Json) :
    Record.unitId? (r.insert field value) = r.unitId? := by
  unfold unitId?
  rw [Keyed.find?_insert, if_neg other.symm]

end Record

/-! ## One subject -/

/-- Rules do not see a field that no condition of an active one looks at. -/
theorem RequirementRule.triggers_insert {rules : List RequirementRule} {field : String}
    (unseen : ∀ rule ∈ rules, rule.active = true → ∀ c ∈ rule.conditions, c.field ≠ field)
    (r : Record) (value : Json) {rule : RequirementRule} (isRule : rule ∈ rules) :
    rule.triggers (r.insert field value) = rule.triggers r := by
  unfold RequirementRule.triggers
  cases active : rule.active with
  | false => rfl
  | true =>
    refine congrArg (true && ·) (ConditionSet.holds_congr fun c hc => ?_)
    rw [Keyed.find?_insert, if_neg (unseen rule isRule active c hc)]

theorem Resolution.of_insert {rules : List RequirementRule} {field : String}
    (unseen : ∀ rule ∈ rules, rule.active = true → ∀ c ∈ rule.conditions, c.field ≠ field)
    (r : Record) (value : Json) :
    Resolution.of rules (r.insert field value) = Resolution.of rules r := by
  unfold Resolution.of
  rw [List.filter_congr fun rule isRule => RequirementRule.triggers_insert unseen r value isRule]

namespace UnitAt

section

variable {u : UnitAt} {unitLabel : String} {fields : EvidenceFields} {i : Issue}

theorem mem_photoIssues_iff {ruleName : String} {minimum : Option Nat} :
    i ∈ u.photoIssues unitLabel fields ruleName minimum ↔
      ∃ least, minimum = some least ∧ u.record.photoCount fields.photoMarker < least ∧
        i = u.photosIssue unitLabel fields least ruleName := by
  unfold photoIssues
  cases minimum with
  | none => simp
  | some least =>
    dsimp only
    split
    · rename_i lacking
      rw [List.mem_singleton]
      exact ⟨fun h => ⟨least, rfl, lacking.2, h⟩, fun ⟨_, same, _, h⟩ => Option.some.inj same ▸ h⟩
    · rename_i enough
      refine iff_of_false List.not_mem_nil ?_
      rintro ⟨_, same, few, -⟩
      cases same
      exact enough ⟨by omega, few⟩

theorem mem_fieldIssues_iff {field sentence ruleName : String} {asked : Bool} :
    i ∈ u.fieldIssues unitLabel field sentence ruleName asked ↔
      asked = true ∧ u.record.hasValue field = false ∧
        i = u.issue unitLabel field .missingEvidence sentence ruleName := by
  unfold fieldIssues
  cases asked <;> cases u.record.hasValue field <;> simp

/-- Where evidence is missing, it is photos, a location lock or a signature. -/
theorem mem_evidenceIssues_iff {rule : RequirementRule} :
    i ∈ u.evidenceIssues unitLabel fields rule ↔
      (∃ least, rule.evidence.bind EvidenceMinimum.photos = some least ∧
          u.record.photoCount fields.photoMarker < least ∧
          i = u.photosIssue unitLabel fields least rule.name) ∨
        (rule.evidence.any EvidenceMinimum.gps = true ∧ u.record.hasValue fields.gpsField = false ∧
          i = u.locationIssue unitLabel fields rule.name) ∨
        rule.evidence.any EvidenceMinimum.signature = true ∧
          u.record.hasValue fields.signatureField = false ∧
          i = u.signatureIssue unitLabel fields rule.name := by
  unfold evidenceIssues
  cases rule.evidence with
  | none => simp
  | some evidence =>
    rw [List.mem_append, List.mem_append, or_assoc, mem_photoIssues_iff, mem_fieldIssues_iff,
      mem_fieldIssues_iff]
    rfl

theorem eq_of_mem_evidenceIssues {rule : RequirementRule}
    (h : i ∈ u.evidenceIssues unitLabel fields rule) :
    (∃ least, i = u.photosIssue unitLabel fields least rule.name) ∨
      i = u.locationIssue unitLabel fields rule.name ∧
        u.record.hasValue fields.gpsField = false ∨
      i = u.signatureIssue unitLabel fields rule.name ∧
        u.record.hasValue fields.signatureField = false := by
  rcases mem_evidenceIssues_iff.mp h with ⟨least, -, -, same⟩ | ⟨-, lacking, same⟩ |
    ⟨-, lacking, same⟩
  · exact .inl ⟨least, same⟩
  · exact .inr (.inl ⟨same, lacking⟩)
  · exact .inr (.inr ⟨same, lacking⟩)

end

/-- An issue of a unit is about a mandatory field without a value, or about evidence. -/
theorem mem_issues_iff {u : UnitAt} {unitLabel : String} {fields : EvidenceFields} {r : Resolution}
    {i : Issue} :
    i ∈ u.issues unitLabel fields r ↔
      (∃ entry ∈ r.missingFields u.record, i =
        u.issue unitLabel entry.1 .requiredField (requiredMessage entry.1) entry.2) ∨
      ∃ rule ∈ r.triggered, i ∈ u.evidenceIssues unitLabel fields rule := by
  unfold issues
  rw [List.mem_append, List.mem_map, List.mem_flatMap]
  simp only [eq_comm]

theorem unitIndex_of_mem_issues {u : UnitAt} {unitLabel : String} {fields : EvidenceFields}
    {r : Resolution} {i : Issue} (h : i ∈ u.issues unitLabel fields r) :
    i.unitIndex = some u.index := by
  rcases mem_issues_iff.mp h with ⟨entry, -, rfl⟩ | ⟨rule, -, hi⟩
  · rfl
  · rcases eq_of_mem_evidenceIssues hi with ⟨_, rfl⟩ | ⟨rfl, -⟩ | ⟨rfl, -⟩ <;> rfl

end UnitAt

section

variable {r : Record} {field : String} {value : Json}

/-- No field loses its value. -/
theorem Record.lacked_of_lacking (usable : value.isFilled = true) {asked : String}
    (lacking : Record.hasValue (r.insert field value) asked = false) :
    r.hasValue asked = false := by
  rw [hasValue_insert] at lacking
  split at lacking
  · rw [usable] at lacking
    cases lacking
  · exact lacking

theorem Resolution.missingFields_insert_sublist (usable : value.isFilled = true)
    (res : Resolution) :
    (res.missingFields (r.insert field value)).Sublist (res.missingFields r) := by
  unfold missingFields
  refine List.monotone_filter_right _ fun entry lacking => ?_
  rw [Bool.not_eq_true'] at lacking ⊢
  exact Record.lacked_of_lacking usable lacking

namespace UnitAt

/-- What is reported about a unit shows its id and nothing else of it. -/
theorem issue_insert (other : field ≠ Record.unitIdField) (index : Nat)
    (unitLabel asked : String) (kind : IssueKind) (sentence ruleName : String) :
    (mk (r.insert field value) index).issue unitLabel asked kind sentence ruleName =
      (mk r index).issue unitLabel asked kind sentence ruleName := by
  unfold issue heading
  simp only [Record.unitId?_insert other]

/-- A lack of photos that remains was there before; its text may show another number. -/
theorem gist_photoIssues_insert_sublist (missing : r.hasValue field = false) (index : Nat)
    (unitLabel : String) (fields : EvidenceFields) (ruleName : String) (least : Option Nat) :
    (((mk (r.insert field value) index).photoIssues unitLabel fields ruleName least).map
        Issue.gist).Sublist
      (((mk r index).photoIssues unitLabel fields ruleName least).map Issue.gist) := by
  have more := Record.photoCount_le_insert missing value fields.photoMarker
  unfold photoIssues
  cases least with
  | none => exact List.Sublist.refl _
  | some least =>
    dsimp only
    split
    · rename_i lacking
      rw [if_pos ⟨lacking.1, by omega⟩]
      exact List.Sublist.refl _
    · exact List.nil_sublist _

variable (usable : value.isFilled = true) (other : field ≠ Record.unitIdField)

include usable other

theorem fieldIssues_insert_sublist (index : Nat) (unitLabel asked sentence ruleName : String)
    (isAsked : Bool) :
    ((mk (r.insert field value) index).fieldIssues unitLabel asked sentence ruleName
        isAsked).Sublist
      ((mk r index).fieldIssues unitLabel asked sentence ruleName isAsked) := by
  unfold fieldIssues
  rw [issue_insert other]
  split
  · rename_i lacking
    rw [Bool.and_eq_true, Bool.not_eq_true'] at lacking
    have lacked : r.hasValue asked = false := Record.lacked_of_lacking usable lacking.2
    rw [if_pos (by rw [lacking.1, lacked]; rfl)]
  · exact List.nil_sublist _

theorem gist_evidenceIssues_insert_sublist (missing : r.hasValue field = false) (index : Nat)
    (unitLabel : String) (fields : EvidenceFields) (rule : RequirementRule) :
    (((mk (r.insert field value) index).evidenceIssues unitLabel fields rule).map
        Issue.gist).Sublist
      (((mk r index).evidenceIssues unitLabel fields rule).map Issue.gist) := by
  unfold evidenceIssues
  split
  · exact List.Sublist.refl _
  · simp only [List.map_append]
    refine .append (.append ?_ ?_) ?_
    · exact gist_photoIssues_insert_sublist missing ..
    · exact (fieldIssues_insert_sublist usable other ..).map _
    · exact (fieldIssues_insert_sublist usable other ..).map _

theorem gist_issues_insert_sublist (missing : r.hasValue field = false) (index : Nat)
    (unitLabel : String) (fields : EvidenceFields) (res : Resolution) :
    (((mk (r.insert field value) index).issues unitLabel fields res).map Issue.gist).Sublist
      (((mk r index).issues unitLabel fields res).map Issue.gist) := by
  unfold issues
  simp only [List.map_append, List.map_flatMap, List.map_map]
  refine .append ?_ (.flatMap_right _ fun rule _ => ?_)
  · simp only [issue_insert other]
    exact (Resolution.missingFields_insert_sublist usable res).map _
  · exact gist_evidenceIssues_insert_sublist usable other missing ..

end UnitAt

end

/-! ## What is no longer reported -/

theorem photosMessage_ne {sentence : String} (first : sentence.toList.head? ≠ some 'a')
    (least found : Nat) : UnitAt.photosMessage least found ≠ sentence := by
  rintro rfl
  apply first
  simp only [UnitAt.photosMessage, String.toList_append]
  rfl

namespace UnitAt

theorem sentence_of_issue_eq {u : UnitAt} {unitLabel field field' sentence sentence' : String}
    {kind kind' : IssueKind} {ruleName ruleName' : String}
    (same : u.issue unitLabel field kind sentence ruleName =
      u.issue unitLabel field' kind' sentence' ruleName') : sentence = sentence' :=
  (String.append_right_inj _).mp (congrArg Issue.message same)

variable {u : UnitAt} {unitLabel : String} {fields : EvidenceFields} {res : Resolution}

/-- No mandatory field that has a value is reported. -/
theorem fieldId_ne_of_hasValue {field : String} (has : u.record.hasValue field = true) {i : Issue}
    (h : i ∈ u.issues unitLabel fields res) (required : i.kind = .requiredField) :
    i.fieldId ≠ field := by
  rintro rfl
  rcases mem_issues_iff.mp h with ⟨entry, hentry, rfl⟩ | ⟨rule, -, hi⟩
  · have lacking := (List.mem_filter.mp hentry).2
    rw [Bool.not_eq_true', show u.record.hasValue entry.1 = true from has] at lacking
    cases lacking
  · rcases eq_of_mem_evidenceIssues hi with ⟨_, rfl⟩ | ⟨rfl, -⟩ | ⟨rfl, -⟩ <;> cases required

/-- An issue about evidence that shows a sentence of its own is not reported where the check with
that sentence is met. The other checks may report the same field, but not with this sentence. -/
theorem issue_not_mem_issues {asked sentence : String} (photos : sentence.toList.head? ≠ some 'a')
    (location : sentence = "GPS location lock is required" →
      u.record.hasValue fields.gpsField = true)
    (signature : sentence = "signature is required" →
      u.record.hasValue fields.signatureField = true)
    (ruleName : String) :
    u.issue unitLabel asked .missingEvidence sentence ruleName ∉ u.issues unitLabel fields res := by
  intro h
  rcases mem_issues_iff.mp h with ⟨entry, -, same⟩ | ⟨rule, -, hi⟩
  · cases congrArg Issue.kind same
  · rcases eq_of_mem_evidenceIssues hi with ⟨_, same⟩ | ⟨same, lacking⟩ | ⟨same, lacking⟩
    · exact photosMessage_ne photos _ _ (sentence_of_issue_eq same).symm
    · rw [location (sentence_of_issue_eq same)] at lacking
      cases lacking
    · rw [signature (sentence_of_issue_eq same)] at lacking
      cases lacking

theorem locationIssue_not_mem (has : u.record.hasValue fields.gpsField = true) (ruleName : String) :
    u.locationIssue unitLabel fields ruleName ∉ u.issues unitLabel fields res :=
  issue_not_mem_issues (by decide) (fun _ => has) (fun same => absurd same (by decide)) ruleName

theorem signatureIssue_not_mem (has : u.record.hasValue fields.signatureField = true)
    (ruleName : String) :
    u.signatureIssue unitLabel fields ruleName ∉ u.issues unitLabel fields res :=
  issue_not_mem_issues (by decide) (fun same => absurd same (by decide)) (fun _ => has) ruleName

end UnitAt

/-! ## One subject among the others -/

/-- Where a unit stands among the others, before and after something is done to it. -/
theorem zipIdx_modify {units : List Record} {index : Nat} {r : Record}
    (h : units[index]? = some r) (f : Record → Record) (start : Nat) :
    ∃ front back : List (Record × Nat), (∀ u ∈ front ++ back, u.2 ≠ start + index) ∧
      units.zipIdx start = front ++ (r, start + index) :: back ∧
      (units.modify index f).zipIdx start = front ++ (f r, start + index) :: back := by
  induction units generalizing index start with
  | nil => cases h
  | cons head rest ih =>
    cases index with
    | zero =>
      obtain rfl : head = r := Option.some.inj h
      refine ⟨[], rest.zipIdx (start + 1), fun u hu => ?_, rfl, rfl⟩
      have later := List.le_snd_of_mem_zipIdx hu
      omega
    | succ index =>
      obtain ⟨front, back, apart, hbefore, hafter⟩ := ih h (start + 1)
      rw [show start + 1 + index = start + (index + 1) by omega] at apart hbefore hafter
      refine ⟨(head, start) :: front, back, fun u hu => ?_, ?_, ?_⟩
      · rcases List.mem_cons.mp hu with rfl | hu
        · show start ≠ start + (index + 1)
          omega
        · exact apart u hu
      · rw [List.zipIdx_cons, hbefore]
        rfl
      · rw [List.modify_succ_cons, List.zipIdx_cons, hafter]
        rfl

/-- Units are checked one by one if the loop is enabled and there are any. -/
theorem checkedUnits?_eq_some_iff {units : Option (List Record)} {loop : Option UnitLoop}
    {unitLabel : String} {checked : List Record} :
    checkedUnits? units loop = some (unitLabel, checked) ↔
      ∃ l, loop = some l ∧ l.enabled = true ∧ unitLabel = l.unitLabel ∧ units = some checked ∧
        checked ≠ [] := by
  unfold checkedUnits?
  cases loop with
  | none => simp
  | some l =>
    cases units with
    | none => simp
    | some units =>
      simp only [Option.ite_none_right_eq_some, Option.some.injEq, Prod.mk.injEq,
        Bool.and_eq_true, Bool.not_eq_true', List.isEmpty_eq_false_iff, exists_eq_left']
      constructor
      · rintro ⟨⟨enabled, nonempty⟩, rfl, rfl⟩
        exact ⟨enabled, rfl, rfl, nonempty⟩
      · rintro ⟨enabled, rfl, rfl, nonempty⟩
        exact ⟨⟨enabled, nonempty⟩, rfl, rfl⟩

/-- Units are still checked one by one after something is done to one of them. -/
theorem checkedUnits?_modify {units : Option (List Record)} {loop : Option UnitLoop}
    {unitLabel : String} {checked : List Record}
    (isChecked : checkedUnits? units loop = some (unitLabel, checked)) (index : Nat)
    (f : Record → Record) : checkedUnits? (units.map fun units => units.modify index f) loop =
      some (unitLabel, checked.modify index f) := by
  obtain ⟨l, rfl, enabled, rfl, rfl, nonempty⟩ := checkedUnits?_eq_some_iff.mp isChecked
  refine checkedUnits?_eq_some_iff.mpr ⟨l, rfl, enabled, rfl, rfl, fun none => nonempty ?_⟩
  rw [← List.length_eq_zero_iff, List.length_modify] at none
  exact List.length_eq_zero_iff.mp none

namespace Subject

/-- The issues of a subject itself. -/
def issues (rules : List RequirementRule) (fields : EvidenceFields) (loop : Option UnitLoop)
    (r : Record) : Subject → List Issue
  | .form => ((Resolution.of rules r).missingFields r).map fun (field, ruleName) =>
      Issue.ofForm field ruleName
  | .unit index =>
      (UnitAt.mk r index).issues ((loop.map UnitLoop.unitLabel).getD "") fields
        (Resolution.of rules r)

/-- A subject is still checked after a value has been put into it. -/
theorem checked?_fill {s : Subject} {loop : Option UnitLoop} {form r : Record}
    {units : Option (List Record)} (checked : s.checked? loop form units = some r) (field : String)
    (value : Json) : s.checked? loop (s.fillForm field value form)
      (s.fillUnits field value units) = some (r.insert field value) := by
  cases s with
  | form =>
    simp only [checked?, Option.ite_none_right_eq_some, Option.some.injEq] at checked
    obtain ⟨noUnits, rfl⟩ := checked
    exact if_pos noUnits
  | unit index =>
    obtain ⟨⟨unitLabel, checkedUnits⟩, isChecked, found⟩ := Option.bind_eq_some_iff.mp checked
    refine Option.bind_eq_some_iff.mpr ⟨_, checkedUnits?_modify isChecked index _, ?_⟩
    show (checkedUnits.modify index fun unit => unit.insert field value)[index]? = _
    rw [List.getElem?_modify_eq, show checkedUnits[index]? = some r from found]
    rfl

/-- What a checked subject contributes to the issues stands between those of other subjects. Putting
a value into it changes its own part alone. -/
theorem validate_split {s : Subject} {loop : Option UnitLoop} {form r : Record}
    {units : Option (List Record)} (checked : s.checked? loop form units = some r)
    (rules : List RequirementRule) (fields : EvidenceFields) (field : String) (value : Json) :
    ∃ front back : List Issue, (∀ i ∈ front ++ back, ¬ i.IsAbout s) ∧
      validate rules fields loop form units =
        front ++ s.issues rules fields loop r ++ back ∧
      validate rules fields loop (s.fillForm field value form) (s.fillUnits field value units) =
        front ++ s.issues rules fields loop (r.insert field value) ++ back := by
  cases s with
  | form =>
    simp only [checked?, Option.isNone_iff_eq_none, Option.ite_none_right_eq_some,
      Option.some.injEq] at checked
    obtain ⟨noUnits, rfl⟩ := checked
    refine ⟨[], [], ?_, ?_, ?_⟩
    · rintro i ⟨⟩
    · simp only [validate, noUnits, List.nil_append, List.append_nil]
      rfl
    · simp only [validate, fillUnits, noUnits, List.nil_append, List.append_nil]
      rfl
  | unit index =>
    obtain ⟨⟨unitLabel, checkedUnits⟩, isChecked, found⟩ := Option.bind_eq_some_iff.mp checked
    have filled := checkedUnits?_modify isChecked index fun unit => unit.insert field value
    obtain ⟨l, rfl, -, rfl, rfl, -⟩ := checkedUnits?_eq_some_iff.mp isChecked
    obtain ⟨front, back, apart, before, after⟩ :=
      zipIdx_modify found (fun unit => unit.insert field value) 0
    rw [Nat.zero_add] at apart before after
    -- the units before the place and those behind it are the same in both runs
    let ofUnit (u : Record × Nat) : List Issue :=
      (UnitAt.mk u.1 u.2).issues l.unitLabel fields (Resolution.of rules u.1)
    refine ⟨front.flatMap ofUnit, back.flatMap ofUnit, ?_, ?_, ?_⟩
    · intro i hi about
      rw [← List.flatMap_append] at hi
      obtain ⟨u, hu, hi⟩ := List.mem_flatMap.mp hi
      have same : some u.2 = some index := (UnitAt.unitIndex_of_mem_issues hi).symm.trans about
      exact apart u hu (Option.some.inj same)
    · simp only [validate, isChecked, UnitAt.enumerate, List.flatMap_map, before,
        List.flatMap_append, List.flatMap_cons, List.append_assoc]
      rfl
    · simp only [validate, fillUnits, filled, UnitAt.enumerate, List.flatMap_map, after,
        List.flatMap_append, List.flatMap_cons, List.append_assoc]
      rfl

variable {rules : List RequirementRule} {fields : EvidenceFields} {loop : Option UnitLoop}
  {r : Record}

theorem isAbout_of_mem_issues {s : Subject} {i : Issue} (h : i ∈ s.issues rules fields loop r) :
    i.IsAbout s := by
  cases s with
  | form =>
    obtain ⟨entry, -, rfl⟩ := List.mem_map.mp h
    rfl
  | unit index => exact UnitAt.unitIndex_of_mem_issues h

/-- What is reported about a subject are its own issues. -/
theorem mem_validate_iff_of_isAbout {s : Subject} {form : Record} {units : Option (List Record)}
    (checked : s.checked? loop form units = some r) {i : Issue} (about : i.IsAbout s) :
    i ∈ validate rules fields loop form units ↔ i ∈ s.issues rules fields loop r := by
  obtain ⟨front, back, apart, split, -⟩ := validate_split checked rules fields "" .null
  rw [split, List.mem_append, List.mem_append]
  constructor
  · rintro ((h | h) | h)
    · exact absurd about (apart i (List.mem_append_left _ h))
    · exact h
    · exact absurd about (apart i (List.mem_append_right _ h))
  · exact fun h => .inl (.inr h)

/-- Every issue is one of a checked subject. -/
theorem mem_validate_iff {form : Record} {units : Option (List Record)} {i : Issue} :
    i ∈ validate rules fields loop form units ↔
      ∃ s r, checked? loop form units s = some r ∧ i ∈ s.issues rules fields loop r := by
  constructor
  · intro h
    unfold validate at h
    cases mode : checkedUnits? units loop with
    | none =>
      rw [mode] at h
      refine ⟨.form, form, ?_, h⟩
      rw [checked?, mode]
      rfl
    | some checked =>
      obtain ⟨unitLabel, checked⟩ := checked
      rw [mode] at h
      obtain ⟨u, hu, hi⟩ := List.mem_flatMap.mp h
      obtain ⟨⟨record, index⟩, isThere, rfl⟩ := List.mem_map.mp hu
      refine ⟨.unit index, record, ?_, ?_⟩
      · rw [checked?, mode]
        exact List.mem_zipIdx_iff_getElem?.mp isThere
      · obtain ⟨l, rfl, -, rfl, -⟩ := checkedUnits?_eq_some_iff.mp mode
        exact hi
  · rintro ⟨s, r, checked, h⟩
    exact (mem_validate_iff_of_isAbout checked (isAbout_of_mem_issues h)).mpr h

theorem fieldId_ne_of_mem_issues {s : Subject} {field : String} (has : r.hasValue field = true)
    {i : Issue} (h : i ∈ s.issues rules fields loop r) (required : i.kind = .requiredField) :
    i.fieldId ≠ field := by
  cases s with
  | form =>
    rintro rfl
    obtain ⟨entry, hentry, rfl⟩ := List.mem_map.mp h
    have lacking := (List.mem_filter.mp hentry).2
    rw [Bool.not_eq_true', show r.hasValue entry.1 = true from has] at lacking
    cases lacking
  | unit index => exact UnitAt.fieldId_ne_of_hasValue has h required

theorem gist_issues_insert_sublist {field : String} {value : Json}
    (unseen : ∀ rule ∈ rules, rule.active = true → ∀ c ∈ rule.conditions, c.field ≠ field)
    (other : field ≠ Record.unitIdField) (missing : r.hasValue field = false)
    (usable : value.isFilled = true) (s : Subject) :
    ((s.issues rules fields loop (r.insert field value)).map Issue.gist).Sublist
      ((s.issues rules fields loop r).map Issue.gist) := by
  unfold issues
  cases s with
  | form =>
    rw [Resolution.of_insert unseen]
    exact ((Resolution.missingFields_insert_sublist usable _).map _).map _
  | unit index =>
    rw [Resolution.of_insert unseen]
    exact UnitAt.gist_issues_insert_sublist usable other missing ..

end Subject

/-- **Filling in a missing value is never a step back.** Let a checked subject of a submission have
no usable value in a field that is not the unit's id and that no condition of an active rule looks
at. After a usable value has been put there,

* the issues, apart from their texts, are some of the former ones in their former order;
* the subject is not reported as lacking the field as a mandatory one, and if the field is the place
  of the location lock or of the signature, not as lacking that either;
* the issues of all other subjects are what they were. -/
theorem filling_in_is_no_step_back {rules : List RequirementRule} {fields : EvidenceFields}
    {loop : Option UnitLoop} {form r : Record} {units : Option (List Record)} {s : Subject}
    (checked : s.checked? loop form units = some r) {field : String} {value : Json}
    (unseen : ∀ rule ∈ rules, rule.active = true → ∀ c ∈ rule.conditions, c.field ≠ field)
    (other : field ≠ Record.unitIdField) (missing : r.hasValue field = false)
    (usable : value.isFilled = true) :
    let before := validate rules fields loop form units
    let after :=
      validate rules fields loop (s.fillForm field value form) (s.fillUnits field value units)
    (after.map Issue.gist).Sublist (before.map Issue.gist) ∧
      (∀ i ∈ after, i.IsAbout s → i.kind = .requiredField → i.fieldId ≠ field) ∧
      (∀ (l : UnitLoop) (index : Nat) (ruleName : String), loop = some l → s = .unit index →
        let unit := UnitAt.mk (r.insert field value) index
        (field = fields.gpsField → unit.locationIssue l.unitLabel fields ruleName ∉ after) ∧
          (field = fields.signatureField →
            unit.signatureIssue l.unitLabel fields ruleName ∉ after)) ∧
      (after.filter fun i => ¬ i.IsAbout s) = before.filter fun i => ¬ i.IsAbout s := by
  intro before after
  obtain ⟨front, back, apart, hbefore, hafter⟩ :=
    Subject.validate_split checked rules fields field value
  have has : Record.hasValue (r.insert field value) field = true := by
    rw [Record.hasValue_insert, if_pos rfl, usable]
  -- whatever is about the subject is in its own part
  have own : ∀ i ∈ after, i.IsAbout s → i ∈ s.issues rules fields loop (r.insert field value) :=
    fun i hi about => (Subject.mem_validate_iff_of_isAbout
      (Subject.checked?_fill checked field value) about).mp hi
  refine ⟨?_, fun i hi about => ?_, ?_, ?_⟩
  · rw [show after = _ from hafter, show before = _ from hbefore]
    simp only [List.map_append]
    refine .append (.append (.refl _) ?_) (.refl _)
    exact Subject.gist_issues_insert_sublist unseen other missing usable s
  · exact Subject.fieldId_ne_of_mem_issues has (own i hi about)
  · rintro l index ruleName rfl rfl
    refine ⟨?_, ?_⟩
    · rintro rfl hi
      exact UnitAt.locationIssue_not_mem has ruleName (own _ hi rfl)
    · rintro rfl hi
      exact UnitAt.signatureIssue_not_mem has ruleName (own _ hi rfl)
  · have none : ∀ r, (s.issues rules fields loop r).filter (fun i => ¬ i.IsAbout s) = [] := by
      intro r
      refine List.filter_eq_nil_iff.mpr fun i hi => ?_
      rw [decide_eq_true_iff, not_not]
      exact Subject.isAbout_of_mem_issues hi
    rw [show after = _ from hafter, show before = _ from hbefore]
    simp only [List.filter_append, none]

/-- Two damaged units with a blank photo of the location lock, a field that is mandatory, counts as
a photo and is the place of the lock. A photo put into the second unit settles two of its three
issues, and the first unit keeps its own. -/
theorem photo_of_lock_filled_in :
    let damaged : Condition :=
      { field := "unit_status", operator := .equals, value := .str "damaged" }
    let rules : List RequirementRule :=
      [{ id := "damage", name := "Damage", conditions := [damaged],
         requiredFields := ["photo_lock"], evidence := some { photos := some 2, gps := true } }]
    let fields : EvidenceFields := { gpsField := "photo_lock" }
    let loop : UnitLoop := { enabled := true }
    let unit : Record := .ofList [("unit_status", .str "damaged"), ("photo_lock", .str " ")]
    let filled : Record := unit.insert "photo_lock" (.str "lock.jpg")
    let before := validate rules fields (some loop) .empty (some [unit, unit])
    let after := validate rules fields (some loop) .empty (some [unit, filled])
    Subject.checked? (some loop) .empty (some [unit, unit]) (.unit 1) = some unit ∧
      before.length = 6 ∧ (after.map Issue.gist).Sublist (before.map Issue.gist) ∧
      ((UnitAt.mk filled 1).locationIssue "Unit" fields "Damage" ∉ after) ∧
      after.map Issue.message =
        ["Unit 1: Photo Lock is required", "Unit 1: at least 2 photo(s) required, found 0",
          "Unit 1: GPS location lock is required",
          "Unit 2: at least 2 photo(s) required, found 1"] := by
  intro damaged rules fields loop unit filled before after
  have checked : Subject.checked? (some loop) .empty (some [unit, unit]) (.unit 1) = some unit :=
    rfl
  have unseen : ∀ rule ∈ rules, rule.active = true →
      ∀ c ∈ rule.conditions, c.field ≠ "photo_lock" := by decide
  have usable : (Json.str "lock.jpg").isFilled = true := by decide
  obtain ⟨sublist, -, settled, -⟩ :=
    @filling_in_is_no_step_back rules fields (some loop) .empty unit (some [unit, unit]) (.unit 1)
      checked "photo_lock" (.str "lock.jpg") unseen (by decide) (by decide) usable
  exact ⟨checked, by decide, sublist, (settled loop 1 "Damage" rfl rfl).1 rfl, by decide⟩

end ReportRules
