import ReportRules.Proofs.Condition.Holds
import ReportRules.Proofs.Requirement.Attribution

/-!
# ReportRules.Proofs.Requirement.Resolved -- what a list of rules asks of a subject

A resolution is four accounts of the same triggered rules, and they settle differently what several
rules say. The rules are listed as they come and the fields are united; but a field keeps the name
of the first rule that lists it, while an id has the evidence of the last rule that declares some.
Ids may repeat, and a rule without evidence takes none away from an earlier one of its id.
-/

namespace ReportRules

/-- A rule is active and its conditions hold on a subject. -/
def RequirementRule.TriggersOn (rule : RequirementRule) (subject : Record) : Prop :=
  rule.active = true ∧ rule.conditions.HoldsOn subject

instance (rule : RequirementRule) (subject : Record) : Decidable (rule.TriggersOn subject) :=
  inferInstanceAs (Decidable (_ ∧ _))

theorem RequirementRule.triggers_eq (rule : RequirementRule) (subject : Record) :
    rule.triggers subject = decide (rule.TriggersOn subject) := by
  rw [Bool.eq_iff_iff, decide_eq_true_iff, triggers, Bool.and_eq_true, ConditionSet.holds_iff]
  rfl

/-- The first rule that lists a field, by its place. -/
theorem map_name_firstToRequire_eq_some_iff {rules : List RequirementRule} {field name : String} :
    (firstToRequire rules field).map RequirementRule.name = some name ↔
      ∃ before rule after, rules = before ++ rule :: after ∧ field ∈ rule.requiredFields ∧
        rule.name = name ∧ ∀ earlier ∈ before, field ∉ earlier.requiredFields := by
  simp only [firstToRequire, Option.map_eq_some_iff, List.find?_eq_some_iff_append,
    decide_eq_true_iff, Bool.not_eq_true', decide_eq_false_iff_not]
  constructor
  · rintro ⟨rule, ⟨lists, before, after, hrules, first⟩, hname⟩
    exact ⟨before, rule, after, hrules, lists, hname, first⟩
  · rintro ⟨before, rule, after, hrules, lists, hname, first⟩
    exact ⟨rule, ⟨lists, before, after, hrules, first⟩, hname⟩

namespace Resolution

variable (rules : List RequirementRule) (subject : Record)

/-! ## One rule more -/

/-- A resolution with what one more rule asks, if it triggers. -/
def extend (r : Resolution) (rule : RequirementRule) : Resolution :=
  if rule.triggers subject then
    { triggered := r.triggered ++ [rule]
      requiredBy := rule.requiredFields.foldl
        (fun names field => names.insertNew field rule.name) r.requiredBy
      evidence :=
        match rule.evidence with
        | some evidence => r.evidence.insert rule.id evidence
        | none => r.evidence }
  else r

theorem of_append_singleton (rule : RequirementRule) :
    Resolution.of (rules ++ [rule]) subject =
      (Resolution.of rules subject).extend subject rule := by
  unfold extend
  split
  · rename_i triggers
    have listed : ((rules ++ [rule]).filter fun rule => rule.triggers subject) =
        (rules.filter fun rule => rule.triggers subject) ++ [rule] := by
      simp [triggers]
    simp only [Resolution.of, listed, requirers, List.foldl_append, List.foldl_cons,
      List.foldl_nil, declaredEvidence, List.filterMap_append]
    cases hevidence : rule.evidence with
    | none => simp [hevidence]
    | some evidence => simp [hevidence, Keyed.ofList_append_singleton]
  · rename_i quiet
    simp [Resolution.of, quiet]

/-- One pass over the rules makes all four accounts. -/
theorem of_eq_foldl :
    Resolution.of rules subject =
      rules.foldl (fun r rule => r.extend subject rule) ⟨[], .empty, .empty⟩ := by
  induction rules using List.reverseRecOn with
  | nil => rfl
  | append_singleton rules last ih =>
    rw [of_append_singleton, ih, List.foldl_append, List.foldl_cons, List.foldl_nil]

/-! ## The four accounts -/

theorem triggered_of :
    (Resolution.of rules subject).triggered = rules.filter fun rule => rule.TriggersOn subject := by
  simp only [Resolution.of, RequirementRule.triggers_eq]

theorem find?_requiredBy_eq_some_iff {field name : String} :
    (Resolution.of rules subject).requiredBy.find? field = some name ↔
      ∃ before rule after, (Resolution.of rules subject).triggered = before ++ rule :: after ∧
        field ∈ rule.requiredFields ∧ rule.name = name ∧
        ∀ earlier ∈ before, field ∉ earlier.requiredFields := by
  show (requirers _).find? field = some name ↔ _
  rw [find?_requirers, map_name_firstToRequire_eq_some_iff]
  rfl

theorem find?_evidence_eq_some_iff {id : String} {evidence : EvidenceMinimum} :
    (Resolution.of rules subject).evidence.find? id = some evidence ↔
      ∃ before rule after, (Resolution.of rules subject).triggered = before ++ rule :: after ∧
        rule.id = id ∧ rule.evidence = some evidence ∧
        ∀ later ∈ after, later.id = id → later.evidence = none :=
  Keyed.find?_gather_eq_some_iff

theorem isSome_find?_evidence_iff {id : String} :
    ((Resolution.of rules subject).evidence.find? id).isSome = true ↔
      ∃ rule ∈ (Resolution.of rules subject).triggered,
        rule.id = id ∧ rule.evidence.isSome = true := by
  have missing : (Resolution.of rules subject).evidence.find? id = none ↔
      ∀ rule ∈ (Resolution.of rules subject).triggered, rule.id = id → rule.evidence = none :=
    Keyed.find?_gather_eq_none_iff
  rw [← not_iff_not, Option.not_isSome_iff_eq_none, missing]
  simp only [not_exists, not_and, Option.not_isSome_iff_eq_none]

end Resolution

/-- **What rules ask of a unit, or of the whole form.** The triggered rules are those that are
active and have conditions that hold on the subject, in their order. The mandatory fields, each
listed once, are those that triggered rules list, and each is put down to the *first* of them. The
evidence stands under the ids of the triggered rules that declare some, and of several with one id
it is that of the *last*. -/
theorem requirements_of_triggered_rules (rules : List RequirementRule) (form : Record)
    (unit : Option Record) :
    let subject := unit.getD form
    let r := resolveRequirements rules form unit
    r.triggered = rules.filter (fun rule =>
        decide (rule.active = true ∧ rule.conditions.HoldsOn subject)) ∧
      r.requiredFields.Pairwise (· < ·) ∧
      (∀ field, field ∈ r.requiredFields ↔ ∃ rule ∈ r.triggered, field ∈ rule.requiredFields) ∧
      (∀ field, (r.requiredBy.find? field).isSome = true ↔ field ∈ r.requiredFields) ∧
      (∀ field name, r.requiredBy.find? field = some name ↔
        ∃ before rule after, r.triggered = before ++ rule :: after ∧
          field ∈ rule.requiredFields ∧ rule.name = name ∧
          ∀ earlier ∈ before, field ∉ earlier.requiredFields) ∧
      (∀ id, (r.evidence.find? id).isSome = true ↔
        ∃ rule ∈ r.triggered, rule.id = id ∧ rule.evidence.isSome = true) ∧
      (∀ id evidence, r.evidence.find? id = some evidence ↔
        ∃ before rule after, r.triggered = before ++ rule :: after ∧
          rule.id = id ∧ rule.evidence = some evidence ∧
          ∀ later ∈ after, later.id = id → later.evidence = none) := by
  intro subject r
  refine ⟨Resolution.triggered_of rules subject, ?_, ?_, fun _ => r.requiredBy.mem_keys_iff.symm,
    fun _ _ => Resolution.find?_requiredBy_eq_some_iff rules subject,
    fun _ => Resolution.isSome_find?_evidence_iff rules subject,
    fun _ _ => Resolution.find?_evidence_eq_some_iff rules subject⟩
  · exact List.pairwise_map.mpr r.requiredBy.ascending
  · intro field
    show field ∈ (Resolution.of rules subject).requiredFields ↔ _
    rw [Resolution.mem_requiredFields_iff]
    simp only [r, resolveRequirements, Resolution.of, List.mem_filter, and_assoc, subject]

/-- Two rules of one id that both list the notes: the first is named for them, and the evidence of
the second counts. -/
example :
    let damaged : ConditionSet := [{ field := "damaged", operator := .equals, value := .bool true }]
    let first : RequirementRule :=
      { id := "damage", name := "Notes", conditions := damaged, requiredFields := ["notes"],
        evidence := some { photos := some 1 } }
    let second : RequirementRule :=
      { id := "damage", name := "Notes and tag", conditions := damaged,
        requiredFields := ["tag", "notes"], evidence := some { photos := some 3 } }
    let r := resolveRequirements [first, second] (.ofList [("damaged", .bool true)]) none
    r.requiredBy.entries = [("notes", "Notes"), ("tag", "Notes and tag")] ∧
      (r.evidence.find? "damage").bind EvidenceMinimum.photos = some 3 := by
  decide

end ReportRules
