import Mathlib.Data.List.Nodup
import ReportRules.Audit

/-!
# ReportRules.Proofs.Audit.Triggering -- which rules an audit reports as triggered

An audit tells twice which rules triggered: by a flag on every rule, and by a list of the rules that
did. The list is made of the rules themselves. The flag is looked up: a rule is marked when a rule
with its id is in that list, and nothing makes ids distinct. So the two tell the same exactly on
forms on which rules that share an id trigger together, and `inactive_rule_marked` is an audit that
marks a rule that is switched off.
-/

namespace ReportRules

open Calendar (Instant)

/-- On this form, rules that share an id trigger together. -/
def TriggerTogether (rules : List RequirementRule) (form : Record) : Prop :=
  ∀ rule ∈ rules, ∀ other ∈ rules, other.id = rule.id → other.triggers form = rule.triggers form

theorem triggerTogether_of_nodup {rules : List RequirementRule}
    (distinct : (rules.map RequirementRule.id).Nodup) (form : Record) :
    TriggerTogether rules form := by
  intro rule hrule other hother hid
  rw [List.inj_on_of_nodup_map distinct hother hrule hid]

theorem Resolution.wasTriggered_iff (rules : List RequirementRule) (form : Record) (id : String) :
    (Resolution.of rules form).wasTriggered id = true ↔
      ∃ other ∈ rules, other.id = id ∧ other.triggers form = true := by
  simp only [wasTriggered, Resolution.of, List.any_eq_true, List.mem_filter, beq_iff_eq]
  constructor
  · rintro ⟨other, ⟨hother, triggers⟩, hid⟩
    exact ⟨other, hother, hid, triggers⟩
  · rintro ⟨other, hother, hid, triggers⟩
    exact ⟨other, ⟨hother, triggers⟩, hid⟩

/-- A rule that triggers is marked. An id shared with another rule can spoil the converse. -/
theorem wasTriggered_of_triggers {rules : List RequirementRule} {form : Record}
    {rule : RequirementRule} (hrule : rule ∈ rules) (triggers : rule.triggers form = true) :
    (Resolution.of rules form).wasTriggered rule.id = true :=
  (Resolution.wasTriggered_iff rules form rule.id).mpr ⟨rule, hrule, rfl, triggers⟩

theorem triggerTogether_iff (rules : List RequirementRule) (form : Record) :
    TriggerTogether rules form ↔
      ∀ rule ∈ rules, (Resolution.of rules form).wasTriggered rule.id = rule.triggers form := by
  constructor
  · intro together rule hrule
    rw [Bool.eq_iff_iff, Resolution.wasTriggered_iff]
    constructor
    · rintro ⟨other, hother, hid, triggers⟩
      rwa [← together rule hrule other hother hid]
    · exact fun triggers => ⟨rule, hrule, rfl, triggers⟩
  · intro marked rule hrule other hother hid
    rw [← marked rule hrule, ← marked other hother, hid]

/-- The two lists of ids are those of two selections of the rules, the flagged ones and the
triggered ones. Every triggered rule is flagged, so the lists are the same only if no other is. -/
theorem filter_wasTriggered_iff (rules : List RequirementRule) (form : Record) :
    (rules.filter fun rule => (Resolution.of rules form).wasTriggered rule.id).map
          RequirementRule.id =
        (rules.filter fun rule => rule.triggers form).map RequirementRule.id ↔
      TriggerTogether rules form := by
  rw [triggerTogether_iff]
  constructor
  · intro same rule hrule
    have fewer : (rules.filter fun rule => rule.triggers form).Sublist
        (rules.filter fun rule => (Resolution.of rules form).wasTriggered rule.id) := by
      have both : (rules.filter fun rule => rule.triggers form) =
          (rules.filter fun rule => (Resolution.of rules form).wasTriggered rule.id).filter
            fun rule => rule.triggers form := by
        rw [List.filter_filter]
        refine List.filter_congr fun rule hrule => ?_
        cases triggers : rule.triggers form with
        | true => simp [wasTriggered_of_triggers hrule triggers]
        | false => rfl
      rw [both]
      exact List.filter_sublist
    have equal := fewer.eq_of_length (by simpa using (congrArg List.length same).symm)
    have member := congrArg (rule ∈ ·) equal
    rw [Bool.eq_iff_iff]
    simpa [hrule] using member.symm
  · intro marked
    rw [List.filter_congr marked]

theorem RequirementRule.triggers_iff (rule : RequirementRule) (form : Record) :
    rule.triggers form = true ↔ rule.active = true ∧ rule.conditions.holds form = true := by
  rw [triggers, Bool.and_eq_true]

namespace Audit

section

variable (rules : List RequirementRule) (fees : List FeeRule) (fields : EvidenceFields)
  (form : Record) (units : Option (List Record)) (now : Instant)

/-- The flag of an entry is what the look-up says about the id of its rule. -/
theorem triggered_of_getElem? {i : Nat} {rule : RequirementRule} {e : RuleEvaluation}
    (hrule : rules[i]? = some rule)
    (he : (compile rules fees fields form units now).evaluations[i]? = some e) :
    e.triggered = (Resolution.of rules form).wasTriggered rule.id := by
  simp only [compile, List.getElem?_map, hrule, Option.map_some, Option.some_inj] at he
  rw [← he]
  rfl

theorem getElem?_evaluations {i : Nat} {rule : RequirementRule} (hrule : rules[i]? = some rule) :
    (compile rules fees fields form units now).evaluations[i]? =
      some (rule.evaluation (Resolution.of rules form) now) := by
  simp only [compile, List.getElem?_map, hrule, Option.map_some]

theorem triggeredRuleIds_compile :
    (compile rules fees fields form units now).triggeredRuleIds =
      (rules.filter fun rule => (Resolution.of rules form).wasTriggered rule.id).map
        RequirementRule.id := by
  simp only [triggeredRuleIds, compile, List.filter_map, List.map_map]
  rfl

end

/-- **What an audit reports about its rules.** There is one entry for each rule, in order, and it is
marked exactly when an active rule *with the same id* has conditions that hold on the form. So every
entry tells about its own rule, and the ids of the marked entries are those of the triggered rules,
in each case exactly on forms on which rules that share an id trigger together. Rules with ids of
their own always do. -/
theorem evaluations_exact_iff (rules : List RequirementRule) (fees : List FeeRule)
    (fields : EvidenceFields) (form : Record) (units : Option (List Record)) (now : Instant) :
    let a := compile rules fees fields form units now
    (a.evaluations.map fun e => (e.ruleId, e.ruleName, e.evaluatedAt)) =
        rules.map (fun rule => (rule.id, rule.name, now)) ∧
      (∀ (i : Nat) (rule : RequirementRule) (e : RuleEvaluation),
        rules[i]? = some rule → a.evaluations[i]? = some e →
          (e.triggered = true ↔ ∃ other ∈ rules, other.id = rule.id ∧
            other.active = true ∧ other.conditions.holds form = true)) ∧
      ((∀ (i : Nat) (rule : RequirementRule) (e : RuleEvaluation),
          rules[i]? = some rule → a.evaluations[i]? = some e →
            (e.triggered = true ↔ rule.active = true ∧ rule.conditions.holds form = true)) ↔
        TriggerTogether rules form) ∧
      (a.triggeredRuleIds = a.triggered.map TriggeredRequirement.ruleId ↔
        TriggerTogether rules form) ∧
      ((rules.map RequirementRule.id).Nodup → TriggerTogether rules form) := by
  intro a
  refine ⟨?_, ?_, ?_, ?_, fun distinct => triggerTogether_of_nodup distinct form⟩
  · simp only [a, compile, List.map_map]
    rfl
  · intro i rule e hrule he
    rw [triggered_of_getElem? rules fees fields form units now hrule he,
      Resolution.wasTriggered_iff]
    simp only [RequirementRule.triggers_iff]
  · rw [triggerTogether_iff]
    constructor
    · intro own rule hrule
      obtain ⟨i, hi⟩ := List.mem_iff_getElem?.mp hrule
      have he := getElem?_evaluations rules fees fields form units now hi
      rw [Bool.eq_iff_iff, RequirementRule.triggers_iff]
      exact own i rule _ hi he
    · intro marked i rule e hrule he
      rw [triggered_of_getElem? rules fees fields form units now hrule he,
        marked rule (List.mem_of_getElem? hrule), RequirementRule.triggers_iff]
  · have listed : a.triggered.map TriggeredRequirement.ruleId =
        (rules.filter fun rule => rule.triggers form).map RequirementRule.id := by
      simp only [a, compile, Resolution.of, List.map_map]
      rfl
    rw [listed, triggeredRuleIds_compile]
    exact filter_wasTriggered_iff rules form

end Audit

/-- A rule that asks for notes where something is damaged. -/
def notesWhenDamaged : RequirementRule :=
  { id := "damage", name := "Notes when damaged",
    conditions := [{ field := "damaged", operator := .equals, value := .bool true }],
    requiredFields := ["notes"] }

/-- Of two rules with one id, the second is switched off. On a damaged form both are marked, and the
marked ids are not those of the rules that triggered. -/
theorem Audit.inactive_rule_marked :
    let retired : RequirementRule := { notesWhenDamaged with active := false }
    let form : Record := .ofList [("damaged", .bool true)]
    let a := compile [notesWhenDamaged, retired] [] {} form none ⟨0, 0⟩
    retired.active = false ∧ a.evaluations.map RuleEvaluation.triggered = [true, true] ∧
      a.triggeredRuleIds = ["damage", "damage"] ∧
      a.triggered.map TriggeredRequirement.ruleId = ["damage"] := by
  decide

end ReportRules
