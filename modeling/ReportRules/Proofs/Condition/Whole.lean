import ReportRules.Condition.Holds
import ReportRules.Proofs.Decimal.Nearest
import ReportRules.Proofs.Json.Numbers

/-!
# ReportRules.Proofs.Condition.Whole -- comparing integers

Numbers are compared as doubles, integers too. An integer of 64 bits may have more figures than a
double, so what is compared are the nearest doubles. Cutting figures keeps the order, so an ordered
comparison never holds against it, but it fails on integers that have one nearest double.
-/

namespace ReportRules

namespace Decimal

variable {a b : Int}

/-- Below `2 ^ 53` no other integer has the same nearest double. -/
theorem eq_of_nearestInt_eq (short : a.natAbs < 2 ^ 53) (same : nearestInt a = nearestInt b) :
    a = b := by
  have kept : nearestInt a = a := nearestInt_of_le short.le
  by_cases short' : b.natAbs ≤ 2 ^ 53
  · rwa [kept, nearestInt_of_le short'] at same
  · -- beyond, cutting does not lead back
    rcases Int.le_total 0 b with above | below
    · have least : nearestInt (2 ^ 53) ≤ nearestInt b := nearestInt_mono (by omega)
      rw [nearestInt_of_le (n := 2 ^ 53) (by decide)] at least
      omega
    · have most : nearestInt b ≤ nearestInt (-2 ^ 53) := nearestInt_mono (by omega)
      rw [nearestInt_of_le (n := -2 ^ 53) (by decide)] at most
      omega

theorem eq_or_nearestInt_ne (short : a.natAbs < 2 ^ 53 ∨ b.natAbs < 2 ^ 53 ∨
    a.natAbs ≤ 2 ^ 53 ∧ b.natAbs ≤ 2 ^ 53) : a = b ∨ nearestInt a ≠ nearestInt b := by
  refine or_iff_not_imp_right.mpr fun same => ?_
  have same := not_not.mp same
  rcases short with short | short | ⟨short, short'⟩
  · exact eq_of_nearestInt_eq short same
  · exact (eq_of_nearestInt_eq short same.symm).symm
  · rwa [nearestInt_of_le short, nearestInt_of_le short'] at same

theorem lt_of_nearestInt_lt (h : nearestInt a < nearestInt b) : a < b :=
  lt_of_not_ge fun ge => absurd (nearestInt_mono ge) (not_le.mpr h)

theorem nearestInt_lt_iff (apart : a = b ∨ nearestInt a ≠ nearestInt b) :
    nearestInt a < nearestInt b ↔ a < b := by
  refine ⟨lt_of_nearestInt_lt, fun less => ?_⟩
  exact lt_of_le_of_ne (nearestInt_mono less.le) (apart.resolve_left less.ne)

variable (fits : (Number.int a).Fits) (fits' : (Number.int b).Fits)

include fits fits'

theorem compare_ofInt : (Float.ofInt a).toModel.unpack.compare (Float.ofInt b).toModel.unpack =
    some (compare (nearestInt a) (nearestInt b)) :=
  (holds_ofInt fits.1 fits.2).compare_eq (holds_ofInt fits'.1 fits'.2)

theorem ofInt_beq_iff : (Float.ofInt a == Float.ofInt b) = true ↔ nearestInt a = nearestInt b := by
  rw [beq_eq_compare, compare_ofInt fits fits', beq_iff_eq, Option.some_inj, compare_eq_iff_eq]

theorem ofInt_lt_iff : Float.ofInt a < Float.ofInt b ↔ nearestInt a < nearestInt b := by
  rw [lt_iff_compare, compare_ofInt fits fits', Option.some_inj, compare_lt_iff_lt]

end Decimal

open Decimal (nearestInt)

/-- The comparisons of one integer with another agree with the order of the integers. -/
structure AgreesWithOrder (holds : Operator → Bool) (a b : Int) : Prop where
  equals : holds .equals = true ↔ a = b
  notEquals : holds .notEquals = true ↔ a ≠ b
  lessThan : holds .lessThan = true ↔ a < b
  greaterThan : holds .greaterThan = true ↔ b < a

/-- When the nearest doubles are compared, the order of the integers is lost where two have one. -/
theorem agreesWithOrder_iff {holds : Operator → Bool} {a b : Int}
    (equals : holds .equals = true ↔ nearestInt a = nearestInt b)
    (notEquals : holds .notEquals = true ↔ holds .equals = false)
    (less : holds .lessThan = true ↔ nearestInt a < nearestInt b)
    (greater : holds .greaterThan = true ↔ nearestInt b < nearestInt a) :
    AgreesWithOrder holds a b ↔ a = b ∨ nearestInt a ≠ nearestInt b := by
  constructor
  · intro agrees
    by_contra lost
    obtain ⟨different, same⟩ := not_or.mp lost
    rcases lt_or_gt_of_ne different with below | above
    · exact same (less.mp (agrees.lessThan.mpr below)).ne
    · exact same (greater.mp (agrees.greaterThan.mpr above)).ne'
  · intro apart
    have same : nearestInt a = nearestInt b ↔ a = b :=
      ⟨fun h => apart.resolve_right (not_not_intro h), congrArg nearestInt⟩
    exact
      { equals := equals.trans same
        notEquals := by rw [notEquals, ← Bool.not_eq_true, equals, same]
        lessThan := less.trans (Decimal.nearestInt_lt_iff apart)
        greaterThan := greater.trans (Decimal.nearestInt_lt_iff (apart.imp Eq.symm Ne.symm)) }

namespace Condition

variable {c : Condition} {r : Record} {a b : Int} (actual : r.find? c.field = some (.int a))
  (expected : c.value = .int b)

include actual expected

theorem holds_of_integers (operator : Operator) :
    { c with operator }.holds r = operator.matches (some (.int a)) (.int b) := by
  show operator.matches (r.find? c.field) c.value = _
  rw [actual, expected]

theorem notEquals_integer_iff :
    { c with operator := .notEquals }.holds r = true ↔
      { c with operator := .equals }.holds r = false := by
  rw [holds_of_integers actual expected, holds_of_integers actual expected]
  exact iff_of_eq (Bool.not_eq_true' _)

variable (fits : (Number.int a).Fits) (fits' : (Number.int b).Fits)

include fits fits'

/-- Two integers are found equal exactly when they have one nearest double. -/
theorem equals_integer_iff :
    { c with operator := .equals }.holds r = true ↔ nearestInt a = nearestInt b := by
  rw [holds_of_integers actual expected]
  exact Decimal.ofInt_beq_iff fits fits'

theorem lessThan_integer_iff :
    { c with operator := .lessThan }.holds r = true ↔ nearestInt a < nearestInt b := by
  rw [holds_of_integers actual expected, ← Decimal.ofInt_lt_iff fits fits']
  exact decide_eq_true_iff

theorem greaterThan_integer_iff :
    { c with operator := .greaterThan }.holds r = true ↔ nearestInt b < nearestInt a := by
  rw [holds_of_integers actual expected, ← Decimal.ofInt_lt_iff fits' fits]
  exact decide_eq_true_iff

end Condition

/-- **Comparing integers.** Let a field hold an integer and let conditions compare it with another
one. It is less, or greater, exactly when its nearest double is, and then the integer is, too.
Unequal is the opposite of equal. All four agree with the order of the integers exactly when the two
are equal or have different nearest doubles, and so they do if one of the two is below `2 ^ 53` in
size or neither is above. -/
theorem comparisons_of_integers {c : Condition} {r : Record} {a b : Int}
    (actual : r.find? c.field = some (.int a)) (expected : c.value = .int b)
    (fits : (Number.int a).Fits) (fits' : (Number.int b).Fits) :
    let holds (operator : Operator) : Bool := { c with operator }.holds r
    (holds .lessThan = true ↔ nearestInt a < nearestInt b) ∧
      (holds .lessThan = true → a < b) ∧
      (holds .greaterThan = true ↔ nearestInt b < nearestInt a) ∧
      (holds .greaterThan = true → b < a) ∧
      (holds .notEquals = true ↔ holds .equals = false) ∧
      (AgreesWithOrder holds a b ↔ a = b ∨ nearestInt a ≠ nearestInt b) ∧
      (a.natAbs < 2 ^ 53 ∨ b.natAbs < 2 ^ 53 ∨ a.natAbs ≤ 2 ^ 53 ∧ b.natAbs ≤ 2 ^ 53 →
        AgreesWithOrder holds a b) := by
  intro holds
  have equals := Condition.equals_integer_iff actual expected fits fits'
  have notEquals := Condition.notEquals_integer_iff actual expected
  have less := Condition.lessThan_integer_iff actual expected fits fits'
  have greater := Condition.greaterThan_integer_iff actual expected fits fits'
  have agrees : AgreesWithOrder holds a b ↔ a = b ∨ nearestInt a ≠ nearestInt b :=
    agreesWithOrder_iff equals notEquals less greater
  exact ⟨less, fun h => Decimal.lt_of_nearestInt_lt (less.mp h), greater,
    fun h => Decimal.lt_of_nearestInt_lt (greater.mp h), notEquals, agrees,
    fun short => agrees.mpr (Decimal.eq_or_nearestInt_ne short)⟩

/-- Beyond `2 ^ 53` only every second integer is a double. The one between is rounded down, and so it
differs from its successor. -/
theorem successor_is_greater :
    let r : Record := .ofList [("id", .int 9007199254740994)]
    let c : Condition := { field := "id", operator := .equals, value := .int 9007199254740993 }
    AgreesWithOrder (fun operator => { c with operator }.holds r) 9007199254740994
      9007199254740993 := by
  intro r c
  obtain ⟨-, -, -, -, -, agrees, -⟩ := @comparisons_of_integers c r 9007199254740994
    9007199254740993 rfl rfl (by decide) (by decide)
  exact agrees.mpr (.inr (by decide +kernel))

/-- It does not differ from its predecessor, which is not found to be less. -/
theorem predecessor_is_not_less :
    let r : Record := .ofList [("id", .int 9007199254740992)]
    let c : Condition := { field := "id", operator := .lessThan, value := .int 9007199254740993 }
    (Number.int 9007199254740992).Fits ∧ (Number.int 9007199254740993).Fits ∧
      r.find? c.field = some (.int 9007199254740992) ∧
      ¬ AgreesWithOrder (fun operator => { c with operator }.holds r) 9007199254740992
        9007199254740993 := by
  intro r c
  have notLess : c.holds r = false := by decide +kernel
  refine ⟨by decide, by decide, rfl, fun agrees => ?_⟩
  have less : c.holds r = true := agrees.lessThan.mpr (by decide)
  rw [notLess] at less
  cases less

end ReportRules
