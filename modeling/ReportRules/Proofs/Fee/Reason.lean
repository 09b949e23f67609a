import Mathlib.Data.List.Forall2
import ReportRules.Proofs.Condition.Holds
import ReportRules.Proofs.Fee.Position

/-!
# ReportRules.Proofs.Fee.Reason -- why a fee is proposed

That a rule proposes its fee is decided by its whole set of conditions, in the mode that the set is
in. The reason is found by a second walk, which looks for the first condition that holds and knows
nothing of modes. The walks are over the same record, and a set does not hold unless one of its
conditions does: an empty set never holds, any-of needs one, and all-of has a first one. So the
second walk always finds something, and the sentence for the case that it does not is never given.
-/

namespace ReportRules

/-! ## The first condition that holds -/

namespace ConditionSet

variable {set : ConditionSet} {r : Record}

/-- A condition is the first one of a set that holds on a record. -/
def FirstToHold (set : ConditionSet) (r : Record) (c : Condition) : Prop :=
  c.holds r = true ∧ ∃ before after, set = before ++ c :: after ∧ ∀ d ∈ before, d.holds r = false

theorem firstMatch?_eq_some_iff {c : Condition} :
    set.firstMatch? r = some c ↔ set.FirstToHold r c := by
  simp only [firstMatch?, FirstToHold, List.find?_eq_some_iff_append, Bool.not_eq_true']

/-- Whatever its mode, a set that holds has a condition that does. -/
theorem HoldsOn.exists_holds (h : set.HoldsOn r) : ∃ c ∈ set, c.holds r = true := by
  cases h with
  | anyOf _ _ hc holds => exact ⟨_, hc, holds⟩
  | allOf nonempty _ holds =>
    obtain ⟨c, hc⟩ := List.exists_mem_of_ne_nil set nonempty
    exact ⟨c, hc, holds c hc⟩

theorem exists_firstToHold (h : set.holds r = true) : ∃ c, set.FirstToHold r c := by
  obtain ⟨c, hc, holds⟩ := (holds_iff.mp h).exists_holds
  have found : (set.firstMatch? r).isSome = true := List.find?_isSome.mpr ⟨c, hc, holds⟩
  obtain ⟨first, hfirst⟩ := Option.isSome_iff_exists.mp found
  exact ⟨first, firstMatch?_eq_some_iff.mp hfirst⟩

/-- In a set without a mark every condition holds, so no condition comes before the first one that
does. -/
theorem FirstToHold.head?_of_unmarked {c : Condition} (first : set.FirstToHold r c)
    (h : set.holds r = true) (unmarked : ∀ d ∈ set, d.logic ≠ some .or) : set.head? = some c := by
  obtain ⟨-, before, after, rfl, fails⟩ := first
  rw [holds_of_unmarked unmarked, Bool.and_eq_true, List.all_eq_true] at h
  cases before with
  | nil => rfl
  | cons d rest =>
    have holds := h.2 d (List.mem_append_left _ List.mem_cons_self)
    rw [fails d List.mem_cons_self] at holds
    cases holds

end ConditionSet

/-- A description has the field, the comparison in words and the constant, with a space between
them. -/
theorem Condition.toList_describe (c : Condition) :
    c.describe.toList =
      c.field.toList ++ ' ' :: (c.operator.words.toList ++ ' ' :: c.value.plainText.toList) := by
  have space : (" " : String).toList = [' '] := rfl
  simp only [describe, String.toList_append, space, List.append_assoc, List.cons_append,
    List.nil_append]

/-- The words of a condition stand apart: a description has two spaces at least. -/
theorem Condition.two_le_count_describe (c : Condition) : 2 ≤ c.describe.toList.count ' ' := by
  simp only [toList_describe, List.count_append, List.count_cons_self]
  omega

/-- No condition is described by the sentence for a proposal without a reason. -/
theorem Condition.describe_ne (c : Condition) : c.describe ≠ "conditions met" := by
  intro same
  have spaces := c.two_le_count_describe
  rw [same] at spaces
  exact absurd spaces (by decide)

/-! ## The reason of a recommendation -/

theorem FeeRule.reason_of_firstToHold {rule : FeeRule} {subject : Record} {c : Condition}
    (first : rule.conditions.FirstToHold subject c) : rule.reason subject = c.describe := by
  rw [FeeRule.reason, ConditionSet.firstMatch?_eq_some_iff.mpr first]

/-- The record that a rule looked at for a recommendation: the form, or the unit at the position
that the recommendation carries. -/
inductive FeeRule.LooksAt (rule : FeeRule) (form : Record) (units : Option (List Record))
    (r : Recommendation) : Record → Prop
  | job (scope : rule.scope = .perJob) (whole : r.unitIndex = none) : LooksAt rule form units r form
  | unit {i : Nat} {unit : Record} (scope : rule.scope = .perUnit) (place : r.unitIndex = some i)
      (found : (units.getD [])[i]? = some unit) : LooksAt rule form units r unit

namespace Proposal

variable {rules : List FeeRule} {form : Record} {units : Option (List Record)} {p : Proposal}

theorem looksAt_subject (hp : p ∈ proposals rules form units) :
    p.rule.LooksAt form units (p.recommendation form) (p.subject form) := by
  obtain ⟨rule, unit⟩ := p
  obtain ⟨-, -, -, ⟨scope, hunit⟩ | ⟨scope, u, hunit, listed⟩⟩ := mem_proposals_iff.mp hp
  · obtain rfl : unit = none := hunit
    exact .job scope rfl
  · obtain rfl : unit = some u := hunit
    exact .unit scope rfl listed

/-- A proposal is made where the conditions of its rule hold, so there is a first one that does. -/
theorem exists_reason (hp : p ∈ proposals rules form units) :
    ∃ c, p.rule.conditions.FirstToHold (p.subject form) c ∧
      (p.recommendation form).reason = c.describe ∧
      ((∀ d ∈ p.rule.conditions, d.logic ≠ some .or) → p.rule.conditions.head? = some c) := by
  obtain ⟨-, -, holds, -⟩ := mem_proposals_iff.mp hp
  obtain ⟨c, first⟩ := ConditionSet.exists_firstToHold holds
  exact ⟨c, first, FeeRule.reason_of_firstToHold first, first.head?_of_unmarked holds⟩

end Proposal

/-- **The reason is the first condition that holds.** Recommendation by recommendation, the reason
describes the first condition, in the order of the rule that made it, that holds on the record which
the rule looked at. Where no condition of the rule is marked `or`, this is the rule's first
condition. No recommendation has the sentence for the case that no condition holds. -/
theorem reason_is_first_condition_to_hold (rules : List FeeRule) (form : Record)
    (units : Option (List Record)) :
    List.Forall₂
        (fun p r => p.rule ∈ rules ∧ p.rule.active = true ∧ r.ruleId = p.rule.id ∧
          r.feeId = p.rule.feeId ∧
          ∃ subject c, p.rule.LooksAt form units r subject ∧
            p.rule.conditions.FirstToHold subject c ∧ r.reason = c.describe ∧
            ((∀ d ∈ p.rule.conditions, d.logic ≠ some .or) → p.rule.conditions.head? = some c))
        (kept (proposals rules form units)) (resolveFees rules form units) ∧
      ∀ r ∈ resolveFees rules form units, r.reason ≠ "conditions met" := by
  have proposed : ∀ p ∈ kept (proposals rules form units), p ∈ proposals rules form units :=
    fun p hp => (kept_sublist _).subset hp
  rw [resolveFees_eq_map_kept, List.forall₂_map_right_iff, List.forall₂_same]
  constructor
  · intro p hp
    obtain ⟨among, active, -⟩ := mem_proposals_iff.mp (proposed p hp)
    obtain ⟨c, reason⟩ := Proposal.exists_reason (proposed p hp)
    exact ⟨among, active, rfl, rfl, p.subject form, c, Proposal.looksAt_subject (proposed p hp),
      reason⟩
  · intro r hr
    obtain ⟨p, hp, rfl⟩ := List.mem_map.mp hr
    obtain ⟨c, -, reason, -⟩ := Proposal.exists_reason (proposed p hp)
    rw [reason]
    exact c.describe_ne

/-- In a set with a mark the reason need not be the rule's first condition, nor the marked one. -/
example :
    let inUse : Condition := { field := "status", operator := .equals, value := .str "in use" }
    let late : Condition := { field := "days", operator := .greaterThan, value := .int 30 }
    let lost : Condition :=
      { field := "status", operator := .equals, value := .str "lost", logic := some .or }
    let rule : FeeRule :=
      { id := "overdue-fee", feeId := "overdue", feeName := "Overdue", feeAmount := 20,
        conditions := [inUse, late, lost] }
    (resolveFees [rule] (.ofList [("status", .str "lost"), ("days", .int 45)]) none).map
        Recommendation.reason = ["days is greater than 30"] := by
  decide

end ReportRules
