import Mathlib.Data.List.Basic
import ReportRules.Json.Printer

/-!
# ReportRules.Proofs.Json.Trimmed -- values without members that hold their default

A stored rule book need not spell out everything: a member that holds its declared default may be
left out. Which members these are depends on the kind of object that they stand in, so a value is
looked at together with a `Part`. Values that are no rules, such as the constant of a condition, are
`plain`, and nothing may be left out of them, whatever the names of their members are.

`Trimmed p j j'` says that `j'` is `j` without some of these members. An object is a map, so the
members that are left may stand in any order. In particular a plain value is trimmed to the same
value written in another order, and `Json.ordered` is such a value.
-/

namespace ReportRules.Json

/-- The kinds of objects in a stored rule book. -/
inductive Part
  /-- An object that is no rule and no part of one. -/
  | plain
  | book
  | requirement
  | feeRule
  | defaultRule
  | condition
  | evidence
  deriving Repr, DecidableEq

namespace Part

/-- The kind of the objects in a member; the elements of an array are of the kind of the array. -/
def within : Part → String → Part
  | .book, "auto_requirements" => .requirement
  | .book, "fee_suggestions" => .feeRule
  | .book, "default_values" => .defaultRule
  | .requirement, "conditions" | .feeRule, "conditions" | .defaultRule, "conditions" => .condition
  | .requirement, "evidence_requirements" => .evidence
  | _, _ => .plain

/-- The value with which a member may be left out. The conditions of a default rule have none: a
rule with an empty list of conditions never applies, and one without conditions always does. -/
def default? : Part → String → Option Json
  | .book, "auto_requirements" | .book, "fee_suggestions" | .book, "default_values" =>
    some (.arr [])
  | .requirement, "conditions" | .requirement, "required_fields" | .feeRule, "conditions" =>
    some (.arr [])
  | .requirement, "is_active" | .feeRule, "is_active" => some (.bool true)
  | .feeRule, "scope" => some (.str "per_job")
  | .feeRule, "auto_add" | .feeRule, "prevent_duplicates" => some (.bool false)
  | .evidence, "gps_required" | .evidence, "signature_required" => some (.bool false)
  | .condition, "value" => some .null
  | _, _ => none

end Part

mutual
/-- A value without some of the members that hold their default, in any order. -/
inductive Trimmed : Part → Json → Json → Prop
  | null {p : Part} : Trimmed p .null .null
  | bool {p : Part} (b : Bool) : Trimmed p (.bool b) (.bool b)
  | num {p : Part} (n : Number) : Trimmed p (.num n) (.num n)
  | str {p : Part} (s : String) : Trimmed p (.str s) (.str s)
  | arr {p : Part} {xs ys : List Json} (items : TrimmedItems p xs ys) :
      Trimmed p (.arr xs) (.arr ys)
  | obj {p : Part} {ms ns ns' : List (String × Json)} (members : TrimmedMembers p ms ns)
      (order : ns.Perm ns') : Trimmed p (.obj ms) (.obj ns')

/-- The same for the elements of an array. -/
inductive TrimmedItems : Part → List Json → List Json → Prop
  | nil {p : Part} : TrimmedItems p [] []
  | cons {p : Part} {x y : Json} {xs ys : List Json} (first : Trimmed p x y)
      (rest : TrimmedItems p xs ys) : TrimmedItems p (x :: xs) (y :: ys)

/-- The same for the members of an object, still in their order. -/
inductive TrimmedMembers : Part → List (String × Json) → List (String × Json) → Prop
  | nil {p : Part} : TrimmedMembers p [] []
  | keep {p : Part} {key : String} {x y : Json} {ms ns : List (String × Json)}
      (first : Trimmed (p.within key) x y) (rest : TrimmedMembers p ms ns) :
      TrimmedMembers p ((key, x) :: ms) ((key, y) :: ns)
  | drop {p : Part} {key : String} {x : Json} {ms ns : List (String × Json)}
      (default : p.default? key = some x) (rest : TrimmedMembers p ms ns) :
      TrimmedMembers p ((key, x) :: ms) ns
end

mutual
/-- Nothing needs to be left out. -/
theorem Trimmed.refl (p : Part) : ∀ j : Json, Trimmed p j j
  | .null => .null
  | .bool b => .bool b
  | .num n => .num n
  | .str s => .str s
  | .arr items => .arr (TrimmedItems.refl p items)
  | .obj members => .obj (TrimmedMembers.refl p members) (.refl _)

theorem TrimmedItems.refl (p : Part) : ∀ items : List Json, TrimmedItems p items items
  | [] => .nil
  | x :: rest => .cons (Trimmed.refl p x) (TrimmedItems.refl p rest)

theorem TrimmedMembers.refl (p : Part) :
    ∀ members : List (String × Json), TrimmedMembers p members members
  | [] => .nil
  | (key, x) :: rest => .keep (Trimmed.refl (p.within key) x) (TrimmedMembers.refl p rest)
end

mutual
/-- What may be done to a plain value may be done to any. -/
theorem Trimmed.of_plain {p : Part} {j j' : Json} : Trimmed .plain j j' → Trimmed p j j'
  | .null => .null
  | .bool b => .bool b
  | .num n => .num n
  | .str s => .str s
  | .arr items => .arr (TrimmedItems.of_plain items)
  | .obj members order => .obj (TrimmedMembers.of_plain members) order

theorem TrimmedItems.of_plain {p : Part} {xs ys : List Json} :
    TrimmedItems .plain xs ys → TrimmedItems p xs ys
  | .nil => .nil
  | .cons first rest => .cons (Trimmed.of_plain first) (TrimmedItems.of_plain rest)

theorem TrimmedMembers.of_plain {p : Part} {ms ns : List (String × Json)} :
    TrimmedMembers .plain ms ns → TrimmedMembers p ms ns
  | .nil => .nil
  | .keep first rest => .keep (Trimmed.of_plain first) (TrimmedMembers.of_plain rest)
  | .drop default _ => nomatch default
end

/-- Whether a value has no values in it. -/
def isScalar : Json → Bool
  | .null | .bool _ | .num _ | .str _ => true
  | .arr _ | .obj _ => false

/-- A value without values in it is left as it is. -/
theorem Trimmed.eq_of_isScalar {p : Part} {j j' : Json} (h : Trimmed p j j')
    (scalar : j.isScalar = true) : j' = j := by
  cases h with
  | null | bool b | num n | str s => rfl
  | arr items | obj members order => cases scalar

/-! ## Members -/

theorem TrimmedMembers.keys_sublist {p : Part} {ms ns : List (String × Json)}
    (h : TrimmedMembers p ms ns) : (ns.map Prod.fst).Sublist (ms.map Prod.fst) := by
  induction ms generalizing ns with
  | nil =>
    cases h
    exact List.Sublist.slnil
  | cons m ms ih =>
    cases h with
    | keep first rest => exact (ih rest).cons_cons _
    | drop default rest => exact (ih rest).cons _

theorem TrimmedMembers.of_append {p : Part} {ms ms' ns : List (String × Json)}
    (h : TrimmedMembers p (ms ++ ms') ns) :
    ∃ front back, ns = front ++ back ∧ TrimmedMembers p ms front ∧ TrimmedMembers p ms' back := by
  induction ms generalizing ns with
  | nil => exact ⟨[], ns, rfl, .nil, h⟩
  | cons m ms ih =>
    cases h with
    | @keep _ key x y _ ns first rest =>
      obtain ⟨front, back, rfl, hfront, hback⟩ := ih rest
      exact ⟨(key, y) :: front, back, rfl, .keep first hfront, hback⟩
    | drop default rest =>
      obtain ⟨front, back, rfl, hfront, hback⟩ := ih rest
      exact ⟨front, back, rfl, .drop default hfront, hback⟩

/-! ## Members in order -/

mutual
/-- Whether no object has two members with the same key. -/
def Distinct : Json → Prop
  | .arr items => DistinctItems items
  | .obj members => (members.map Prod.fst).Nodup ∧ DistinctMembers members
  | .null | .bool _ | .num _ | .str _ => True

/-- The same for the elements of an array. -/
def DistinctItems : List Json → Prop
  | [] => True
  | x :: rest => Distinct x ∧ DistinctItems rest

/-- The same for the values of members. -/
def DistinctMembers : List (String × Json) → Prop
  | [] => True
  | (_, x) :: rest => Distinct x ∧ DistinctMembers rest
end

theorem distinct_of_isScalar {j : Json} (scalar : j.isScalar = true) : j.Distinct := by
  cases j with
  | null | bool b | num n | str s => trivial
  | arr items | obj members => cases scalar

theorem distinctItems_iff {items : List Json} :
    DistinctItems items ↔ ∀ x ∈ items, x.Distinct := by
  induction items with
  | nil => exact ⟨fun _ _ h => (List.not_mem_nil h).elim, fun _ => trivial⟩
  | cons x rest ih => rw [List.forall_mem_cons, ← ih]; rfl

theorem distinctMembers_iff {members : List (String × Json)} :
    DistinctMembers members ↔ ∀ m ∈ members, m.2.Distinct := by
  induction members with
  | nil => exact ⟨fun _ _ h => (List.not_mem_nil h).elim, fun _ => trivial⟩
  | cons m rest ih => rw [List.forall_mem_cons, ← ih]; rfl

theorem perm_insertEntry {key : String} {entries : List (String × Json)}
    (absent : key ∉ entries.map Prod.fst) (x : Json) :
    ((key, x) :: entries).Perm (Keyed.insertEntry key x entries) := by
  induction entries with
  | nil => exact .refl _
  | cons head rest ih =>
    obtain ⟨k, y⟩ := head
    rw [List.map_cons, List.mem_cons, not_or] at absent
    rw [Keyed.insertEntry, if_neg absent.1]
    split
    · exact .refl _
    · exact (List.Perm.swap _ _ _).trans ((ih absent.2).cons _)

theorem orderedMembers_perm {members : List (String × Json)}
    (distinct : (members.map Prod.fst).Nodup) :
    (members.map fun m => (m.1, m.2.ordered)).Perm (orderedMembers members) := by
  induction members with
  | nil => exact .refl _
  | cons m rest ih =>
    obtain ⟨key, x⟩ := m
    obtain ⟨absent, distinct⟩ := List.nodup_cons.mp distinct
    have same := ih distinct
    rw [orderedMembers]
    refine (same.cons (key, x.ordered)).trans (perm_insertEntry ?_ _)
    -- the members behind it have the same keys after they are ordered, so the key is new there
    intro present
    refine absent ?_
    have := ((same.map Prod.fst).mem_iff).mpr present
    rwa [List.map_map] at this

mutual
/-- Ascending order is one of the orders in which an object may be written. -/
theorem trimmed_ordered (p : Part) : ∀ {j : Json}, j.Distinct → Trimmed p j j.ordered
  | .null, _ => .null
  | .bool b, _ => .bool b
  | .num n, _ => .num n
  | .str s, _ => .str s
  | .arr _, h => .arr (trimmed_orderedItems p h)
  | .obj _, h => .obj (trimmed_orderedValues p h.2) (orderedMembers_perm h.1)

theorem trimmed_orderedItems (p : Part) :
    ∀ {items : List Json}, DistinctItems items → TrimmedItems p items (orderedItems items)
  | [], _ => .nil
  | _ :: _, h => .cons (trimmed_ordered p h.1) (trimmed_orderedItems p h.2)

theorem trimmed_orderedValues (p : Part) :
    ∀ {members : List (String × Json)}, DistinctMembers members →
      TrimmedMembers p members (members.map fun m => (m.1, m.2.ordered))
  | [], _ => .nil
  | (key, _) :: _, h => .keep (trimmed_ordered (p.within key) h.1) (trimmed_orderedValues p h.2)
end

end ReportRules.Json
