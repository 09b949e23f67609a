import Mathlib.Data.List.Forall2
import Mathlib.Data.List.Perm.Basic
import ReportRules.Proofs.Validation.Shortfalls

/-!
# ReportRules.Proofs.Validation.Order -- the order of rules does not decide

Rules are listed in some order, and conditions are within each rule. Rearranging both changes
neither what is mandatory nor what is missing. The parts of a resolution depend on the order in
different ways: the mandatory fields are a set and do not, the triggered rules keep the order they
are listed in, the name beside a mandatory field is that of the first rule that lists it, and of two
rules with one id the later one's evidence counts. A verdict reads the names, but only to say whom a
missing field is blamed on. So without this blame the issues of a submission are the same, each as
often as before.
-/

namespace ReportRules

/-! ## Rearranged rules -/

/-- Two rules that differ at most in the order of their conditions. -/
structure RequirementRule.Alike (a b : RequirementRule) : Prop where
  id : a.id = b.id
  name : a.name = b.name
  active : a.active = b.active
  conditions : a.conditions.Perm b.conditions
  requiredFields : a.requiredFields = b.requiredFields
  evidence : a.evidence = b.evidence

/-- The same rules in any order, each with its conditions in any order. -/
def Rearranged (rules rules' : List RequirementRule) : Prop :=
  ∃ listed, rules.Perm listed ∧ List.Forall₂ RequirementRule.Alike listed rules'

/-- A condition set holds or not whatever the order of its conditions is: the mark for any-of counts
wherever it stands. -/
theorem ConditionSet.holds_perm {set set' : ConditionSet} (same : List.Perm set set')
    (subject : Record) : set.holds subject = set'.holds subject := by
  have empty : set.isEmpty = set'.isEmpty := by
    rw [Bool.eq_iff_iff, List.isEmpty_iff_length_eq_zero, List.isEmpty_iff_length_eq_zero,
      same.length_eq]
  have logic : ConditionSet.logic set = ConditionSet.logic set' := by
    unfold ConditionSet.logic
    rw [same.any_eq]
  unfold holds
  rw [empty, logic, same.any_eq, same.all_eq]

theorem RequirementRule.Alike.triggers {a b : RequirementRule} (alike : a.Alike b)
    (subject : Record) : a.triggers subject = b.triggers subject := by
  unfold RequirementRule.triggers
  rw [alike.active, ConditionSet.holds_perm alike.conditions]

namespace Rearranged

variable {rules rules' : List RequirementRule} (same : Rearranged rules rules')

include same

/-- The triggered ones of rearranged rules are the triggered rules, rearranged. -/
theorem triggeredOn (subject : Record) :
    Rearranged (triggeredOn rules subject) (ReportRules.triggeredOn rules' subject) := by
  obtain ⟨listed, perm, alike⟩ := same
  refine ⟨listed.filter fun rule => rule.triggers subject, perm.filter _, ?_⟩
  refine List.rel_filter ?_ alike
  intro a b hab
  show a.triggers subject = true ↔ b.triggers subject = true
  rw [hab.triggers]

/-- What depends on a rule and not on the order of its conditions is read off rearranged rules in
another order. -/
theorem map_perm {β : Type} {f : RequirementRule → β} (hf : ∀ {a b}, a.Alike b → f a = f b) :
    (rules.map f).Perm (rules'.map f) := by
  obtain ⟨listed, perm, alike⟩ := same
  have mapped : listed.map f = rules'.map f := by
    rw [← List.forall₂_eq_eq_eq]
    exact List.rel_map (fun _ _ hab => hf hab) alike
  exact mapped ▸ perm.map f

theorem flatMap_perm {β : Type} {f : RequirementRule → List β}
    (hf : ∀ {a b}, a.Alike b → f a = f b) :
    (rules.flatMap f).Perm (rules'.flatMap f) := by
  rw [List.flatMap_def, List.flatMap_def]
  exact (same.map_perm hf).flatten

end Rearranged

/-! ## What is mandatory -/

section

variable {rules rules' : List RequirementRule} (same : Rearranged rules rules')

include same

/-- Every triggered rule adds its own mandatory fields. -/
theorem mem_required_of_rearranged (subject : Record) (field : String) :
    field ∈ (triggeredOn rules subject).flatMap RequirementRule.requiredFields ↔
      field ∈ (triggeredOn rules' subject).flatMap RequirementRule.requiredFields :=
  ((same.triggeredOn subject).flatMap_perm RequirementRule.Alike.requiredFields).mem_iff

theorem lackingFields_of_rearranged (subject : Record) :
    lackingFields rules subject = lackingFields rules' subject := by
  -- both lists ascend strictly, so it is enough that they have the same members
  refine List.Pairwise.eq_of_mem_iff (pairwise_lackingFields rules subject)
    (pairwise_lackingFields rules' subject) fun field => ?_
  simp only [lackingFields, List.mem_mergeSort, List.mem_dedup, List.mem_filter,
    mem_required_of_rearranged same subject field]

theorem requiredFields_of_rearranged (subject : Record) :
    (Resolution.of rules subject).requiredFields =
      (Resolution.of rules' subject).requiredFields := by
  have ascending : ∀ r : Resolution, r.requiredFields.Pairwise (· < ·) :=
    fun r => List.pairwise_map.mpr r.requiredBy.ascending
  have listed : ∀ (rules : List RequirementRule) (field : String),
      field ∈ (Resolution.of rules subject).requiredFields ↔
        field ∈ (triggeredOn rules subject).flatMap RequirementRule.requiredFields := by
    intro rules field
    simp only [Resolution.mem_requiredFields_iff, triggeredOn, List.mem_flatMap, List.mem_filter,
      and_assoc]
  refine List.Pairwise.eq_of_mem_iff (ascending _) (ascending _) fun field => ?_
  rw [listed, listed, mem_required_of_rearranged same]

/-- Under distinct ids no rule's evidence takes the place of another's. -/
theorem declaredEvidence_of_rearranged (distinct : (rules.map RequirementRule.id).Nodup) :
    Resolution.declaredEvidence rules = Resolution.declaredEvidence rules' := by
  let declared (rules : List RequirementRule) : List (String × EvidenceMinimum) :=
    rules.filterMap fun rule => rule.evidence.map fun evidence => (rule.id, evidence)
  have keys : ∀ rules : List RequirementRule, (rules.map RequirementRule.id).Nodup →
      ((declared rules).map Prod.fst).Nodup := by
    intro rules distinct
    refine List.pairwise_map.mpr (List.pairwise_filterMap.mpr ?_)
    refine (List.pairwise_map.mp distinct).imp ?_
    rintro a b different entry ha entry' hb
    obtain ⟨_, -, rfl⟩ := Option.map_eq_some_iff.mp ha
    obtain ⟨_, -, rfl⟩ := Option.map_eq_some_iff.mp hb
    exact different
  have perm : (declared rules).Perm (declared rules') := by
    simp only [declared, List.filterMap_eq_flatMap_toList]
    refine same.flatMap_perm fun {a b} alike => ?_
    rw [alike.id, alike.evidence]
  have distinct' : (rules'.map RequirementRule.id).Nodup :=
    (same.map_perm RequirementRule.Alike.id).nodup_iff.mp distinct
  -- with distinct keys a map finds what is among its entries, in whatever order they are
  refine Keyed.ext_find? fun key => Option.ext fun evidence => ?_
  show (Keyed.ofList (declared rules)).find? key = some evidence ↔
    (Keyed.ofList (declared rules')).find? key = some evidence
  rw [Keyed.find?_ofList_eq_some_iff (keys rules distinct),
    Keyed.find?_ofList_eq_some_iff (keys rules' distinct'), perm.mem_iff]

end

/-! ## What is missing -/

/-- An issue, without the rule that a missing mandatory field is blamed on. -/
def Issue.withoutBlame (i : Issue) : Issue :=
  if i.kind = .requiredField then { i with ruleName := none } else i

section

variable {rules rules' : List RequirementRule} (same : Rearranged rules rules')

include same

/-- Two rules that are alike ask for the same evidence under the same name. -/
theorem UnitAt.shortfalls_of_rearranged (u : UnitAt) (unitLabel : String)
    (fields : EvidenceFields) :
    ((u.shortfalls unitLabel fields rules).map Issue.withoutBlame).Perm
      ((u.shortfalls unitLabel fields rules').map Issue.withoutBlame) := by
  have ofField : Issue.withoutBlame ∘ u.fieldShortfall unitLabel rules =
      Issue.withoutBlame ∘ u.fieldShortfall unitLabel rules' := rfl
  have ofEvidence : ∀ {a b : RequirementRule}, a.Alike b →
      u.evidenceShortfalls unitLabel fields a = u.evidenceShortfalls unitLabel fields b := by
    intro a b alike
    simp only [evidenceShortfalls, evidenceShortfall, alike.evidence, alike.name]
  unfold UnitAt.shortfalls
  rw [List.map_append, List.map_append, lackingFields_of_rearranged same, List.map_map,
    List.map_map, ofField]
  exact (((same.triggeredOn u.record).flatMap_perm ofEvidence).map _).append_left _

theorem shortfalls_of_rearranged (fields : EvidenceFields) (loop : Option UnitLoop)
    (form : Record) (units : Option (List Record)) :
    ((shortfalls rules fields loop form units).map Issue.withoutBlame).Perm
      ((shortfalls rules' fields loop form units).map Issue.withoutBlame) := by
  have ofForm : (((lackingFields rules form).map (formShortfall rules form)).map
        Issue.withoutBlame).Perm
      (((lackingFields rules' form).map (formShortfall rules' form)).map Issue.withoutBlame) := by
    rw [lackingFields_of_rearranged same, List.map_map, List.map_map]
    exact List.Perm.of_eq rfl
  unfold shortfalls
  split
  · rename_i loop units
    dsimp only
    split
    · rw [List.map_flatMap, List.map_flatMap]
      exact .flatMap (.refl _) fun u _ => (UnitAt.mk u.1 u.2).shortfalls_of_rearranged same _ _
    · exact ofForm
  · exact ofForm

end

/-- **The order of rules does not decide what is required.** Rearranged rules, each with its
conditions rearranged, make the same fields of a subject mandatory and trigger on it in another
order; the evidence that they declare is the same map if no two rules have one id. Whatever the
evidence fields, the unit loop, the form and the units are, the submission has the same issues, each
as often, apart from the names that missing mandatory fields are blamed on. -/
theorem order_of_rules_does_not_decide {rules rules' : List RequirementRule}
    (same : Rearranged rules rules') :
    (∀ subject : Record,
      let r := Resolution.of rules subject
      let r' := Resolution.of rules' subject
      r.requiredFields = r'.requiredFields ∧ Rearranged r.triggered r'.triggered ∧
        ((rules.map RequirementRule.id).Nodup → r.evidence = r'.evidence)) ∧
    ∀ (fields : EvidenceFields) (loop : Option UnitLoop) (form : Record)
      (units : Option (List Record)),
      ((validate rules fields loop form units).map Issue.withoutBlame).Perm
        ((validate rules' fields loop form units).map Issue.withoutBlame) := by
  refine ⟨fun subject => ⟨?_, same.triggeredOn subject, fun distinct => ?_⟩, ?_⟩
  · exact requiredFields_of_rearranged same subject
  · have ofTriggered : ((triggeredOn rules subject).map RequirementRule.id).Nodup :=
      distinct.sublist (List.filter_sublist.map _)
    exact declaredEvidence_of_rearranged (same.triggeredOn subject) ofTriggered
  · intro fields loop form units
    rw [validate_eq_shortfalls, validate_eq_shortfalls]
    exact shortfalls_of_rearranged same fields loop form units

/-- A damaged unit asked for notes by one rule, and for notes and photos by another one whose two
conditions are met either way. The notes are blamed on whichever rule comes first; apart from that
the two issues are the same. -/
theorem blame_follows_the_order :
    let damaged : Condition := { field := "damaged", operator := .equals, value := .bool true }
    let leaking : Condition :=
      { field := "leaking", operator := .equals, value := .bool true, logic := some .or }
    let notes : RequirementRule :=
      { id := "n", name := "Notes", conditions := [damaged], requiredFields := ["notes"] }
    let photos (conditions : ConditionSet) : RequirementRule :=
      { id := "p", name := "Photos", conditions, requiredFields := ["notes"],
        evidence := some { photos := some 2 } }
    let rules := [notes, photos [damaged, leaking]]
    let rules' := [photos [leaking, damaged], notes]
    let unit : Record := .ofList [("damaged", .bool true)]
    let issues (rules : List RequirementRule) : List Issue :=
      validate rules {} (some { enabled := true }) .empty (some [unit])
    Rearranged rules rules' ∧ (rules.map RequirementRule.id).Nodup ∧
      (Resolution.of rules unit).evidence = (Resolution.of rules' unit).evidence ∧
      (issues rules).map Issue.ruleName = [some "Notes", some "Photos"] ∧
      (issues rules').map Issue.ruleName = [some "Photos", some "Photos"] ∧
      ((issues rules).map Issue.withoutBlame).Perm ((issues rules').map Issue.withoutBlame) := by
  intro damaged leaking notes photos rules rules' unit issues
  have same : Rearranged rules rules' := by
    refine ⟨[photos [damaged, leaking], notes], .swap _ _ _, .cons ?_ (.cons ?_ .nil)⟩
    · exact ⟨rfl, rfl, rfl, .swap _ _ _, rfl, rfl⟩
    · exact ⟨rfl, rfl, rfl, .refl _, rfl, rfl⟩
  have distinct : (rules.map RequirementRule.id).Nodup := by decide
  obtain ⟨resolutions, verdicts⟩ := order_of_rules_does_not_decide same
  exact ⟨same, distinct, (resolutions unit).2.2 distinct, by decide, by decide, verdicts _ _ _ _⟩

end ReportRules
