import ReportRules.Condition.Holds

/-!
# ReportRules.Proofs.Condition.Holds -- the two ways for a set of conditions to hold

One condition marked `or` makes it enough that any condition of the set holds, and the one that
holds need not be the marked one. Without a mark all have to hold, and there has to be one at all.
-/

namespace ReportRules

namespace ConditionSet

variable {set : ConditionSet} {r : Record}

/-- A set of conditions holds on a record. -/
inductive HoldsOn (set : ConditionSet) (r : Record) : Prop
  | anyOf {mark c : Condition} (marked : mark ∈ set) (isOr : mark.logic = some .or) (hc : c ∈ set)
      (holds : c.holds r = true) : HoldsOn set r
  | allOf (nonempty : set ≠ []) (unmarked : ∀ c ∈ set, c.logic ≠ some .or)
      (holds : ∀ c ∈ set, c.holds r = true) : HoldsOn set r

theorem logic_eq_or_iff : logic set = .or ↔ ∃ c ∈ set, c.logic = some .or := by
  simp [logic, Condition.isOr]

theorem logic_eq_and_iff : logic set = .and ↔ ∀ c ∈ set, c.logic ≠ some .or := by
  have other : logic set = .and ↔ ¬ logic set = .or := by cases logic set <;> decide
  rw [other, logic_eq_or_iff]
  grind

/-- With a mark in the set, one condition that holds is enough. -/
theorem holds_of_marked {mark : Condition} (marked : mark ∈ set) (isOr : mark.logic = some .or) :
    set.holds r = set.any fun c => c.holds r := by
  have filled : ¬ set.isEmpty = true := fun h => by
    rw [List.isEmpty_iff.mp h] at marked
    cases marked
  have mode : logic set = .or := logic_eq_or_iff.mpr ⟨mark, marked, isOr⟩
  rw [ConditionSet.holds, if_neg filled, mode]

/-- Without one, every condition has to hold, and there has to be one. -/
theorem holds_of_unmarked (unmarked : ∀ c ∈ set, c.logic ≠ some .or) :
    set.holds r = (!set.isEmpty && set.all fun c => c.holds r) := by
  rw [ConditionSet.holds, logic_eq_and_iff.mpr unmarked]
  cases set.isEmpty <;> rfl

/-- A set of one condition holds where the condition does. -/
theorem holds_singleton {c : Condition} (unmarked : c.logic = none) :
    ConditionSet.holds [c] r = c.holds r := by
  have plain : ∀ d ∈ [c], d.logic ≠ some .or := by simp [unmarked]
  rw [holds_of_unmarked plain]
  simp

theorem holds_iff : set.holds r = true ↔ set.HoldsOn r := by
  by_cases anyMark : ∃ c ∈ set, c.logic = some .or
  · obtain ⟨mark, marked, isOr⟩ := anyMark
    rw [holds_of_marked marked isOr, List.any_eq_true]
    constructor
    · rintro ⟨c, hc, holds⟩
      exact .anyOf marked isOr hc holds
    · rintro (⟨-, -, hc, holds⟩ | ⟨-, unmarked, -⟩)
      · exact ⟨_, hc, holds⟩
      · exact absurd isOr (unmarked mark marked)
  · have unmarked : ∀ c ∈ set, c.logic ≠ some .or := fun c hc isOr => anyMark ⟨c, hc, isOr⟩
    rw [holds_of_unmarked unmarked, Bool.and_eq_true, Bool.not_eq_true', List.all_eq_true]
    constructor
    · rintro ⟨filled, holds⟩
      exact .allOf (List.isEmpty_eq_false_iff.mp filled) unmarked holds
    · rintro (⟨marked, isOr, -, -⟩ | ⟨nonempty, -, holds⟩)
      · exact absurd isOr (unmarked _ marked)
      · exact ⟨List.isEmpty_eq_false_iff.mpr nonempty, holds⟩

instance : Decidable (set.HoldsOn r) :=
  decidable_of_iff _ holds_iff

end ConditionSet

end ReportRules
