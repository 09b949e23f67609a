import ReportRules.Proofs.Condition.Holds
import ReportRules.Proofs.Decimal.Order

/-!
# ReportRules.Proofs.Condition.Membership -- looking a field up in a list of values

A condition that looks a field up in a list agrees with a set that compares the field with each value
of the list and is marked for any-of. What the two share is only the comparison: the one walks the
list with the field on the right-hand side, the other evaluates a condition per value with the field
on the left. So the agreement rests on equality of values being symmetric, at the top, where numbers
are compared as doubles, and inside arrays and objects, where an integer and a double always differ.
-/

namespace ReportRules

/-! ## Equality is symmetric -/

theorem Number.same_comm (m n : Number) : m.same n = n.same m := by
  cases m with
  | int m =>
    cases n with
    | int n => exact Bool.beq_comm
    | float y => rfl
  | float x =>
    cases n with
    | int n => rfl
    | float y => exact Decimal.beq_comm x y

namespace Json

mutual
theorem same_comm : (a b : Json) → same a b = same b a
  | .null, b => by cases b <;> rfl
  | .bool _, b => by
    cases b with
    | bool _ => exact Bool.beq_comm
    | null | num _ | str _ | arr _ | obj _ => rfl
  | .num m, b => by
    cases b with
    | num n => exact m.same_comm n
    | null | bool _ | str _ | arr _ | obj _ => rfl
  | .str _, b => by
    cases b with
    | str _ => exact Bool.beq_comm
    | null | bool _ | num _ | arr _ | obj _ => rfl
  | .arr xs, b => by
    cases b with
    | arr ys => exact sameItems_comm xs ys
    | null | bool _ | num _ | str _ | obj _ => rfl
  | .obj xs, b => by
    cases b with
    | obj ys => exact sameMembers_comm xs ys
    | null | bool _ | num _ | str _ | arr _ => rfl

theorem sameItems_comm : (xs ys : List Json) → sameItems xs ys = sameItems ys xs
  | [], [] | [], _ :: _ | _ :: _, [] => rfl
  | x :: xs, y :: ys => by
    unfold sameItems
    rw [same_comm x y, sameItems_comm xs ys]

theorem sameMembers_comm :
    (xs ys : List (String × Json)) → sameMembers xs ys = sameMembers ys xs
  | [], [] | [], _ :: _ | _ :: _, [] => rfl
  | (k, x) :: xs, (l, y) :: ys => by
    have keys : (k == l) = (l == k) := Bool.beq_comm
    unfold sameMembers
    rw [keys, same_comm x y, sameMembers_comm xs ys]
end

theorem equals_comm (a b : Json) : a.equals b = b.equals a := by
  cases a with
  | num m =>
    cases b with
    | num n => exact Decimal.beq_comm m.toFloat n.toFloat
    | null | bool _ | str _ | arr _ | obj _ => rfl
  | null | bool _ | str _ | arr _ | obj _ => cases b <;> exact same_comm _ _

end Json

/-! ## Comparisons with a list of values -/

/-- What a condition compares, apart from its mark. -/
def Condition.comparison (c : Condition) : String × Operator × Json :=
  (c.field, c.operator, c.value)

namespace ConditionSet

/-- A set that compares one field with the values of a list, one condition for each, in their order
and with whatever marks. -/
def Compares (set : ConditionSet) (field : String) (operator : Operator) (values : List Json) :
    Prop :=
  set.map Condition.comparison = values.map fun value => (field, operator, value)

namespace Compares

variable {set : ConditionSet} {field : String} {operator : Operator} {values : List Json}
  (h : set.Compares field operator values) (r : Record)

include h

/-- The comparisons come out as those of the field with the values. -/
theorem map_holds :
    (set.map fun c => c.holds r) =
      values.map fun value => operator.matches (r.find? field) value := by
  let holds (c : String × Operator × Json) : Bool := c.2.1.matches (r.find? c.1) c.2.2
  calc (set.map fun c => c.holds r) = (set.map Condition.comparison).map holds := by
        rw [List.map_map]
        rfl
    _ = values.map fun value => operator.matches (r.find? field) value := by
        rw [h, List.map_map]
        rfl

theorem any_holds :
    (set.any fun c => c.holds r) =
      values.any fun value => operator.matches (r.find? field) value := by
  have outcomes := congrArg (List.any · id) (h.map_holds r)
  simpa only [List.any_map, Function.id_comp] using outcomes

theorem all_holds :
    (set.all fun c => c.holds r) =
      values.all fun value => operator.matches (r.find? field) value := by
  have outcomes := congrArg (List.all · id) (h.map_holds r)
  simpa only [List.all_map, Function.id_comp] using outcomes

omit r in
theorem isEmpty_eq : set.isEmpty = values.isEmpty := by
  have lengths := congrArg List.length h
  rw [List.length_map, List.length_map] at lengths
  rw [Bool.eq_iff_iff, List.isEmpty_iff_length_eq_zero, lengths, List.isEmpty_iff_length_eq_zero]

end Compares

end ConditionSet

/-! ## Lists of values -/

/-- An element is looked for with the sides exchanged, which does not matter. -/
theorem Operator.matches_inList (actual : Option Json) (items : List Json) :
    inList.matches actual (.arr items) = items.any fun item => equals.matches actual item := by
  cases actual with
  | none => exact (List.any_eq_false.mpr fun _ _ => Bool.false_ne_true).symm
  | some value =>
    show (items.any fun item => item.equals value) = items.any fun item => value.equals item
    simp only [Json.equals_comm]

theorem Operator.matches_notEquals (actual : Option Json) (expected : Json) :
    notEquals.matches actual expected = !equals.matches actual expected := by
  cases actual <;> rfl

/-- **Looking a field up in a list is comparing it with the values one by one.** Let a condition look
a field up in a list. It holds exactly when the set does that asks for the field to equal one of the
values, a condition for each and at least one of them marked for any-of; without values this is the
empty set, which never holds. The set without marks that asks for the field to differ from each of
the values holds exactly when there are values and the condition does not hold. -/
theorem inList_agrees_with_comparisons {c : Condition} {items : List Json}
    (looksUp : c.operator = .inList) (among : c.value = .arr items) {anyOf noneOf : ConditionSet}
    (equal : anyOf.Compares c.field .equals items)
    (marked : items ≠ [] → ∃ mark ∈ anyOf, mark.logic = some .or)
    (unequal : noneOf.Compares c.field .notEquals items)
    (unmarked : ∀ m ∈ noneOf, m.logic ≠ some .or) (r : Record) :
    (c.holds r = true ↔ anyOf.holds r = true) ∧
      (noneOf.holds r = true ↔ items ≠ [] ∧ c.holds r = false) := by
  have found : c.holds r = items.any fun item => Operator.equals.matches (r.find? c.field) item := by
    unfold Condition.holds
    rw [looksUp, among, Operator.matches_inList]
  constructor
  · suffices agree : c.holds r = anyOf.holds r by rw [agree]
    rw [found]
    by_cases nothing : items = []
    · subst nothing
      have none : anyOf.isEmpty = true := equal.isEmpty_eq
      rw [List.isEmpty_iff.mp none]
      rfl
    · obtain ⟨mark, isMember, isOr⟩ := marked nothing
      rw [ConditionSet.holds_of_marked isMember isOr, equal.any_holds]
  · have refuted : (items.all fun item => Operator.notEquals.matches (r.find? c.field) item) =
        !c.holds r := by
      rw [found, List.not_any_eq_all_not]
      simp only [Operator.matches_notEquals]
    rw [ConditionSet.holds_of_unmarked unmarked, unequal.isEmpty_eq, unequal.all_holds, refuted,
      Bool.and_eq_true, Bool.not_eq_true', List.isEmpty_eq_false_iff, Bool.not_eq_true']

/-- An integer is found in a list that has it as a double, beside an array that has it as an integer.
An array that has the double is not found there, for inside of arrays the two are different. -/
theorem integer_found_as_double :
    let items : List Json := [.arr [.int 1], .num (.float 1), .str "one"]
    let c : Condition := { field := "grade", operator := .inList, value := .arr items }
    let anyOf : ConditionSet :=
      [{ field := "grade", operator := .equals, value := .arr [.int 1] },
        { field := "grade", operator := .equals, value := .num (.float 1) },
        { field := "grade", operator := .equals, value := .str "one", logic := some .or }]
    let noneOf : ConditionSet :=
      items.map fun value => { field := "grade", operator := .notEquals, value }
    let whole : Record := .ofList [("grade", .int 1)]
    let nested : Record := .ofList [("grade", .arr [.num (.float 1)])]
    c.holds whole = true ∧ anyOf.holds whole = true ∧ noneOf.holds whole = false ∧
      c.holds nested = false ∧ anyOf.holds nested = false ∧ noneOf.holds nested = true := by
  intro items c anyOf noneOf whole nested
  have agree := @inList_agrees_with_comparisons c items rfl rfl anyOf noneOf rfl
    (fun _ => ⟨_, List.mem_of_getElem? (i := 2) rfl, rfl⟩) rfl (by decide)
  have found : c.holds whole = true := by decide +kernel
  have notFound : c.holds nested = false := by decide +kernel
  obtain ⟨foundByOne, refuted⟩ := agree whole
  obtain ⟨foundByNone, confirmed⟩ := agree nested
  refine ⟨found, foundByOne.mp found, ?_, notFound, ?_, confirmed.mpr ⟨by decide, notFound⟩⟩
  · refine Bool.eq_false_iff.mpr fun h => ?_
    rw [(refuted.mp h).2] at found
    cases found
  · refine Bool.eq_false_iff.mpr fun h => ?_
    rw [foundByNone.mpr h] at notFound
    cases notFound

end ReportRules
