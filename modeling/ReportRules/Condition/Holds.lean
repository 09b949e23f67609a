import ReportRules.Condition.Reading

/-!
# ReportRules.Condition.Holds -- when a condition holds on a record

A condition compares one field of a record with a constant. A set of conditions holds when all of
its conditions do; a single condition marked `or` makes it enough that any one does. A set without
conditions never holds.

Evaluation never fails: what cannot be compared does not match.
-/

namespace ReportRules

/-- The comparison that a condition makes. -/
inductive Operator
  | equals
  | notEquals
  | greaterThan
  | lessThan
  | contains
  | inList
  /-- A comparison outside the known ones; it never matches. -/
  | unknown
  deriving Repr, DecidableEq

/-- How a condition is combined with the others of its set. -/
inductive Logic
  | or
  | and
  deriving Repr, DecidableEq

/-- A comparison of one field with a constant. -/
structure Condition where
  field : String
  operator : Operator
  value : Json
  logic : Option Logic := none

/-- Conditions that are evaluated together. -/
abbrev ConditionSet :=
  List Condition

/-- The comparison in words. -/
def Operator.words : Operator → String
  | .equals => "equals"
  | .notEquals => "does not equal"
  | .greaterThan => "is greater than"
  | .lessThan => "is less than"
  | .contains => "contains"
  | .inList => "is one of"
  | .unknown => "matches"

/-- Whether a comparison of an actual value, absent if the field is, with an expected one holds. -/
def Operator.matches : Operator → Option Json → Json → Bool
  | .equals, some actual, expected => actual.equals expected
  | .equals, none, _ => false
  | .notEquals, some actual, expected => !actual.equals expected
  | .notEquals, none, _ => true
  | .greaterThan, actual, expected =>
    match actual.bind Json.reading?, expected.reading? with
    | some a, some e => e < a
    | _, _ => false
  | .lessThan, actual, expected =>
    match actual.bind Json.reading?, expected.reading? with
    | some a, some e => a < e
    | _, _ => false
  | .contains, actual, expected =>
    Text.contains ((actual.map Json.plainText).getD "") expected.plainText
  | .inList, some actual, .arr items => items.any fun item => item.equals actual
  | .inList, _, _ => false
  | .unknown, _, _ => false

namespace Condition

/-- Whether a condition holds on a record. -/
def holds (c : Condition) (r : Record) : Bool :=
  c.operator.matches (r.find? c.field) c.value

/-- Whether a condition switches its set to any-of. -/
def isOr (c : Condition) : Bool :=
  c.logic == some .or

/-- A condition in words. -/
def describe (c : Condition) : String :=
  c.field ++ " " ++ c.operator.words ++ " " ++ c.value.plainText

end Condition

namespace ConditionSet

/-- How the conditions of a set are combined. -/
def logic (set : ConditionSet) : Logic :=
  if set.any Condition.isOr then .or else .and

/-- Whether a set holds on a record. -/
def holds (set : ConditionSet) (r : Record) : Bool :=
  if set.isEmpty then false
  else
    match logic set with
    | .or => set.any fun c => c.holds r
    | .and => set.all fun c => c.holds r

/-- The first condition of a set that holds on a record. -/
def firstMatch? (set : ConditionSet) (r : Record) : Option Condition :=
  set.find? fun c => c.holds r

end ConditionSet

end ReportRules
