import Mathlib.Data.List.Forall2
import ReportRules.Engine
import ReportRules.Proofs.Requirement.Attribution
import ReportRules.Standard

/-!
# ReportRules.Proofs.Engine.Mentioned -- what an engine looks at

The configuration of an engine mentions some fields by name, in the conditions of its active rules,
in their mandatory fields and as places of evidence, and all fields with the photo marker in their
key. A unit's id comes on top. Nothing else of a record is looked at: two submissions that agree on
these fields, the form with the form and each unit with the one in its place, have the same issues,
the same fees and the same audit, down to the texts.

To agree is to hold the same value, not only one that a comparison takes for equal: the two zeros
compare as equal and are written differently, in a unit's id as in any other text.

Default rules are not asked here, so what their conditions mention does not count.
-/

namespace ReportRules

open Calendar (Instant)

/-- Two records hold the same under each of some fields, a value or nothing. -/
def Record.Agree (fields : String → Prop) (a b : Record) : Prop :=
  ∀ field, fields field → a.find? field = b.find? field

/-- The fields that requirement rules, fee rules and the places of evidence mention. -/
inductive Mentioned (requirements : List RequirementRule) (fees : List FeeRule)
    (fields : EvidenceFields) : String → Prop
  | requirementCondition {rule : RequirementRule} {c : Condition} (member : rule ∈ requirements)
      (active : rule.active = true) (condition : c ∈ rule.conditions) :
      Mentioned requirements fees fields c.field
  | requiredField {rule : RequirementRule} {field : String} (member : rule ∈ requirements)
      (active : rule.active = true) (required : field ∈ rule.requiredFields) :
      Mentioned requirements fees fields field
  | feeCondition {rule : FeeRule} {c : Condition} (member : rule ∈ fees)
      (active : rule.active = true) (condition : c ∈ rule.conditions) :
      Mentioned requirements fees fields c.field
  | unitId : Mentioned requirements fees fields Record.unitIdField
  | gps : Mentioned requirements fees fields fields.gpsField
  | signature : Mentioned requirements fees fields fields.signatureField
  | photo {key : String} (marked : Text.contains key fields.photoMarker = true) :
      Mentioned requirements fees fields key

/-! ## Single records -/

section Conditions

variable {set : ConditionSet} {a b : Record}
  (same : ∀ c ∈ set, a.find? c.field = b.find? c.field)

include same

theorem Condition.holds_congr {c : Condition} (hc : c ∈ set) : c.holds a = c.holds b := by
  unfold holds
  rw [same c hc]

theorem ConditionSet.holds_congr : set.holds a = set.holds b := by
  have anyOf : (set.any fun c => c.holds a) = set.any fun c => c.holds b := by
    rw [Bool.eq_iff_iff, List.any_eq_true, List.any_eq_true]
    exact exists_congr fun c => and_congr_right fun hc => by rw [Condition.holds_congr same hc]
  have allOf : (set.all fun c => c.holds a) = set.all fun c => c.holds b := by
    rw [Bool.eq_iff_iff, List.all_eq_true, List.all_eq_true]
    exact forall₂_congr fun c hc => by rw [Condition.holds_congr same hc]
  unfold holds
  rw [anyOf, allOf]

theorem ConditionSet.firstMatch?_congr : set.firstMatch? a = set.firstMatch? b := by
  unfold firstMatch?
  rw [← List.head?_filter, ← List.head?_filter,
    List.filter_congr fun c hc => Condition.holds_congr same hc]

end Conditions

section Records

variable {requirements : List RequirementRule} {fees : List FeeRule} {fields : EvidenceFields}
  {a b : Record} (same : Record.Agree (Mentioned requirements fees fields) a b)

include same

theorem unitId?_congr : a.unitId? = b.unitId? := by
  unfold Record.unitId?
  rw [same _ .unitId]

theorem hasValue_congr {field : String} (mentioned : Mentioned requirements fees fields field) :
    a.hasValue field = b.hasValue field := by
  unfold Record.hasValue
  rw [same field mentioned]

theorem photoCount_congr : a.photoCount fields.photoMarker = b.photoCount fields.photoMarker := by
  have marked := Keyed.filter_entries_congr (p := fun key => Text.contains key fields.photoMarker)
    fun key hkey => same key (.photo hkey)
  unfold Record.photoCount
  rw [marked]

theorem RequirementRule.triggers_congr {rule : RequirementRule} (hrule : rule ∈ requirements) :
    rule.triggers a = rule.triggers b := by
  unfold triggers
  cases active : rule.active with
  | false => rfl
  | true =>
    rw [ConditionSet.holds_congr fun c hc => same _ (.requirementCondition hrule active hc)]

theorem Resolution.of_congr : Resolution.of requirements a = Resolution.of requirements b := by
  unfold Resolution.of
  rw [List.filter_congr fun rule hrule => rule.triggers_congr same hrule]

/-- The mandatory fields are those of active rules, which are mentioned. -/
theorem Resolution.missingFields_congr :
    (Resolution.of requirements a).missingFields a =
      (Resolution.of requirements b).missingFields b := by
  unfold missingFields
  rw [of_congr same]
  refine List.filter_congr ?_
  rintro ⟨field, name⟩ hentry
  have required : field ∈ (Resolution.of requirements b).requiredFields :=
    List.mem_map_of_mem hentry
  obtain ⟨rule, hrule, triggers, hfield⟩ :=
    (mem_requiredFields_iff requirements b field).mp required
  have active : rule.active = true := (Bool.and_eq_true_iff.mp triggers).1
  show (!a.hasValue field) = !b.hasValue field
  rw [hasValue_congr same (.requiredField hrule active hfield)]

/-- Whatever is reported about a unit, of the unit itself it shows the id. -/
theorem UnitAt.issue_congr (index : Nat) (unitLabel field : String) (kind : IssueKind)
    (sentence ruleName : String) :
    (UnitAt.mk a index).issue unitLabel field kind sentence ruleName =
      (UnitAt.mk b index).issue unitLabel field kind sentence ruleName := by
  unfold issue heading
  simp only [unitId?_congr same]

theorem UnitAt.evidenceIssues_congr (index : Nat) (unitLabel : String) (rule : RequirementRule) :
    (UnitAt.mk a index).evidenceIssues unitLabel fields rule =
      (UnitAt.mk b index).evidenceIssues unitLabel fields rule := by
  unfold evidenceIssues photoIssues fieldIssues
  simp only [UnitAt.issue_congr same, photoCount_congr same, hasValue_congr same .gps,
    hasValue_congr same .signature]

theorem UnitAt.issues_congr (index : Nat) (unitLabel : String) :
    (UnitAt.mk a index).issues unitLabel fields (Resolution.of requirements a) =
      (UnitAt.mk b index).issues unitLabel fields (Resolution.of requirements b) := by
  unfold issues
  refine congrArg₂ (· ++ ·) ?_ ?_
  · show List.map _ ((Resolution.of requirements a).missingFields a) =
      List.map _ ((Resolution.of requirements b).missingFields b)
    rw [Resolution.missingFields_congr same]
    exact List.map_congr_left fun entry _ => UnitAt.issue_congr same ..
  · rw [Resolution.of_congr same]
    exact List.flatMap_congr fun rule _ => UnitAt.evidenceIssues_congr same ..

theorem FeeRule.reason_congr {rule : FeeRule} (hrule : rule ∈ fees) (active : rule.active = true) :
    rule.reason a = rule.reason b := by
  unfold reason
  rw [ConditionSet.firstMatch?_congr fun c hc => same _ (.feeCondition hrule active hc)]

theorem FeeRule.holds_congr {rule : FeeRule} (hrule : rule ∈ fees) (active : rule.active = true) :
    rule.conditions.holds a = rule.conditions.holds b :=
  ConditionSet.holds_congr fun _ hc => same _ (.feeCondition hrule active hc)

end Records

/-! ## Submissions -/

/-- Units that agree are in the same places. -/
theorem forall₂_zipIdx {fields : String → Prop} {units units' : List Record}
    (same : List.Forall₂ (Record.Agree fields) units units') (first : Nat) :
    List.Forall₂ (fun u u' => Record.Agree fields u.1 u'.1 ∧ u.2 = u'.2)
      (units.zipIdx first) (units'.zipIdx first) := by
  induction same generalizing first with
  | nil => exact .nil
  | cons head _ ih =>
    rw [List.zipIdx_cons, List.zipIdx_cons]
    exact .cons ⟨head, rfl⟩ (ih (first + 1))

section Submissions

variable {requirements : List RequirementRule} {fees : List FeeRule} {fields : EvidenceFields}

theorem flatMap_issues_congr {units units' : List Record}
    (same : List.Forall₂ (Record.Agree (Mentioned requirements fees fields)) units units')
    (unitLabel : String) :
    (UnitAt.enumerate units).flatMap
        (fun u => u.issues unitLabel fields (Resolution.of requirements u.record)) =
      (UnitAt.enumerate units').flatMap
        fun u => u.issues unitLabel fields (Resolution.of requirements u.record) := by
  unfold UnitAt.enumerate
  rw [List.flatMap_map, List.flatMap_map, ← List.forall₂_eq_eq_eq]
  refine List.rel_flatMap (forall₂_zipIdx same 0) ?_
  rintro ⟨a, index⟩ ⟨b, _⟩ ⟨agree, rfl⟩
  rw [List.forall₂_eq_eq_eq]
  exact UnitAt.issues_congr agree index unitLabel

variable {form form' : Record} {units units' : Option (List Record)}
  (forms : Record.Agree (Mentioned requirements fees fields) form form')
  (same : Option.Rel (List.Forall₂ (Record.Agree (Mentioned requirements fees fields)))
    units units')

include forms same

theorem validate_congr (loop : Option UnitLoop) :
    validate requirements fields loop form units =
      validate requirements fields loop form' units' := by
  have ofForm : ((Resolution.of requirements form).missingFields form).map
        (fun entry => Issue.ofForm entry.1 entry.2) =
      ((Resolution.of requirements form').missingFields form').map
        fun entry => Issue.ofForm entry.1 entry.2 := by
    rw [Resolution.missingFields_congr forms]
  unfold validate checkedUnits?
  cases loop with
  | none => exact ofForm
  | some loop =>
    cases same with
    | none => exact ofForm
    | @some units units' same =>
      have empty : units.isEmpty = units'.isEmpty := by
        rw [Bool.eq_iff_iff, List.isEmpty_iff_length_eq_zero, List.isEmpty_iff_length_eq_zero,
          same.length_eq]
      dsimp only
      rw [empty]
      cases loop.enabled && !units'.isEmpty with
      | false => exact ofForm
      | true => exact flatMap_issues_congr same loop.unitLabel

theorem FeeRule.candidates_congr {rule : FeeRule} (hrule : rule ∈ fees) :
    rule.candidates form units = rule.candidates form' units' := by
  unfold candidates
  cases active : rule.active with
  | false => rfl
  | true =>
    cases rule.scope with
    | perJob =>
      simp only [recommend, rule.holds_congr forms hrule active,
        rule.reason_congr forms hrule active]
    | perUnit =>
      have listed : List.Forall₂ (Record.Agree (Mentioned requirements fees fields))
          (units.getD []) (units'.getD []) := by
        cases same with
        | none => exact .nil
        | some same => exact same
      simp only [Bool.not_true, Bool.false_eq_true, if_false]
      rw [← List.forall₂_eq_eq_eq]
      refine List.rel_map ?_ (List.rel_filter ?_ (forall₂_zipIdx listed 0))
      · rintro ⟨a, index⟩ ⟨b, _⟩ ⟨agree, rfl⟩
        simp only [keyForUnit, unitKey, recommend, unitId?_congr agree,
          rule.reason_congr agree hrule active]
      · rintro ⟨a, index⟩ ⟨b, _⟩ ⟨agree, rfl⟩
        show _ = true ↔ _ = true
        rw [rule.holds_congr agree hrule active]

theorem resolveFees_congr : resolveFees fees form units = resolveFees fees form' units' := by
  unfold resolveFees
  rw [List.flatMap_congr fun rule hrule => rule.candidates_congr forms same hrule]

/-- An audit checks units whenever there is a list of them, so it checks them in both submissions or
in none. -/
theorem Audit.compile_congr (now : Instant) :
    compile requirements fees fields form units now =
      compile requirements fees fields form' units' now := by
  have loop : unitLoop units = unitLoop units' := by
    cases same with
    | none => rfl
    | some _ => rfl
  unfold compile
  rw [Resolution.of_congr forms, resolveFees_congr forms same, loop,
    validate_congr forms same]

end Submissions

/-- **Submitted data counts only through the fields that the configuration mentions.** If the forms
of two submissions agree on the mentioned fields, and if there is no list of units in either or
there are two of the same length whose units agree in their places, then the submissions have the
same issues, the same fees and at every instant the same audit. -/
theorem mentioned_fields_decide (e : Engine) {form form' : Record}
    {units units' : Option (List Record)}
    (forms : Record.Agree (Mentioned e.rules.requirements e.rules.fees e.evidenceFields) form form')
    (same : Option.Rel
      (List.Forall₂
        (Record.Agree (Mentioned e.rules.requirements e.rules.fees e.evidenceFields)))
      units units') :
    e.validate form units = e.validate form' units' ∧
      e.fees form units = e.fees form' units' ∧
      ∀ now, e.audit form units now = e.audit form' units' now :=
  ⟨validate_congr forms same (some e.unitLoop), resolveFees_congr forms same,
    Audit.compile_congr forms same⟩

/-- What is put under a field that does not count leaves a record as good as it was. -/
theorem Record.agree_insert {fields : String → Prop} {key : String} (other : ¬ fields key)
    (a : Record) (value : Json) : Record.Agree fields a (a.insert key value) := by
  intro field hfield
  have different : field ≠ key := fun h => other (h ▸ hfield)
  rw [Keyed.find?_insert, if_neg different]

/-- The built-in rule book does not mention colours. -/
theorem colour_not_mentioned :
    ¬ Mentioned Standard.rules.requirements Standard.rules.fees {} "colour" := by
  have asked : ∀ rule ∈ Standard.rules.requirements,
      (∀ c ∈ rule.conditions, "colour" ≠ c.field) ∧
        ∀ field ∈ rule.requiredFields, "colour" ≠ field := by
    decide
  have charged : ∀ rule ∈ Standard.rules.fees, ∀ c ∈ rule.conditions, "colour" ≠ c.field := by
    decide
  intro h
  generalize key : "colour" = field at h
  cases h with
  | requirementCondition member _ condition => exact (asked _ member).1 _ condition key
  | requiredField member _ required => exact (asked _ member).2 _ required key
  | feeCondition member _ condition => exact charged _ member _ condition key
  | unitId => exact absurd key (by decide)
  | gps => exact absurd key (by decide)
  | signature => exact absurd key (by decide)
  | photo marked =>
    rw [← key] at marked
    exact absurd marked (by decide)

/-- Two damaged units, one with a colour: the same issues, the same fee and the same audit. -/
theorem colour_does_not_count :
    let e : Engine := { rules := Standard.rules }
    let counts := Mentioned e.rules.requirements e.rules.fees e.evidenceFields
    let unit : Record := .ofList [("unit_status", .str "damaged")]
    let red := unit.insert "colour" (.str "red")
    Record.Agree counts unit red ∧ (e.validate Keyed.empty (some [red])).length = 3 ∧
      e.validate Keyed.empty (some [unit]) = e.validate Keyed.empty (some [red]) ∧
      e.fees Keyed.empty (some [unit]) = e.fees Keyed.empty (some [red]) ∧
      e.audit Keyed.empty (some [unit]) ⟨0, 0⟩ = e.audit Keyed.empty (some [red]) ⟨0, 0⟩ := by
  intro e counts unit red
  have agree : Record.Agree counts unit red := Record.agree_insert colour_not_mentioned _ _
  obtain ⟨issues, fees, audit⟩ :=
    mentioned_fields_decide e (fun field _ => rfl) (.some (.cons agree .nil))
  exact ⟨agree, by decide, issues, fees, audit ⟨0, 0⟩⟩

end ReportRules
