import ReportRules.Proofs.Keyed
import ReportRules.Requirement

/-!
# ReportRules.Proofs.Requirement.Attribution -- which rule made a field mandatory

`Resolution.requirers` goes through the triggered rules and puts down a name under every field that
has none yet. What it holds in the end is said without the map: a field is mandatory exactly when a
triggered rule lists it, and it stands under the name of the first rule that does.
-/

namespace ReportRules

/-- The first of some rules that lists a field. -/
def firstToRequire (rules : List RequirementRule) (field : String) : Option RequirementRule :=
  rules.find? fun rule => decide (field ∈ rule.requiredFields)

theorem firstToRequire_isSome_iff (rules : List RequirementRule) (field : String) :
    (firstToRequire rules field).isSome = true ↔ ∃ rule ∈ rules, field ∈ rule.requiredFields := by
  simp [firstToRequire, List.find?_isSome]

namespace Resolution

/-- One rule's fields: those without a name get its name, the others keep theirs. -/
theorem find?_foldl_insertNew (fields : List String) (name : String) (names : Keyed String)
    (field : String) :
    (fields.foldl (fun names field => names.insertNew field name) names).find? field =
      (names.find? field).or (if field ∈ fields then some name else none) := by
  induction fields generalizing names with
  | nil => simp
  | cons f rest ih =>
    rw [List.foldl_cons, ih, Keyed.find?_insertNew, Option.or_assoc]
    congr 1
    by_cases hf : field = f
    · simp [hf]
    · simp [hf]

/-- Names that are there before any rule is looked at go before all rules. -/
theorem find?_foldl_requirers (triggered : List RequirementRule) (names : Keyed String)
    (field : String) :
    (triggered.foldl
        (fun names rule =>
          rule.requiredFields.foldl (fun names field => names.insertNew field rule.name) names)
        names).find? field =
      (names.find? field).or ((firstToRequire triggered field).map RequirementRule.name) := by
  induction triggered generalizing names with
  | nil => simp [firstToRequire]
  | cons rule rest ih =>
    rw [List.foldl_cons, ih, find?_foldl_insertNew, Option.or_assoc]
    congr 1
    by_cases hf : field ∈ rule.requiredFields
    · simp [firstToRequire, hf]
    · simp [firstToRequire, hf]

theorem find?_requirers (triggered : List RequirementRule) (field : String) :
    (requirers triggered).find? field =
      (firstToRequire triggered field).map RequirementRule.name := by
  unfold requirers
  rw [find?_foldl_requirers, Keyed.find?_empty, Option.none_or]

/-- The mandatory fields are those that triggered rules list. -/
theorem mem_requiredFields_iff (rules : List RequirementRule) (subject : Record)
    (field : String) :
    field ∈ (Resolution.of rules subject).requiredFields ↔
      ∃ rule ∈ rules, rule.triggers subject = true ∧ field ∈ rule.requiredFields := by
  unfold requiredFields
  rw [Keyed.mem_keys_iff]
  simp only [Resolution.of, find?_requirers, Option.isSome_map, firstToRequire_isSome_iff,
    List.mem_filter, and_assoc]

end Resolution

end ReportRules
