import ReportRules.Json.Decoder
import ReportRules.Text.Blank

/-!
# ReportRules.Record -- what a form captured

A record maps the field ids of a form to JSON values. The same type holds the data of a whole job,
of one serviced unit, of an earlier visit and of a set of default values.

A field *has a value* when it is present and its value is usable: `null`, blank text and empty
collections are as good as nothing.
-/

namespace ReportRules

/-- The captured values of a form, by field id. -/
abbrev Record :=
  Keyed Json

/-- Whether a value is usable. -/
def Json.isFilled : Json → Bool
  | .null => false
  | .str s => !Text.isBlankText s
  | .arr items => !items.isEmpty
  | .obj members => !members.isEmpty
  | .bool _ | .num _ => true

namespace Record

/-- The field under which a unit carries its id. -/
def unitIdField : String :=
  "unit_id"

/-- The id of the unit that a record describes: a text that is not empty, or a number as text. -/
def unitId? (r : Record) : Option String :=
  match r.find? unitIdField with
  | some (.str s) => if s.isEmpty then none else some s
  | some (.num n) => some n.text
  | _ => none

/-- Whether a field has a value. -/
def hasValue (r : Record) (field : String) : Bool :=
  match r.find? field with
  | some value => value.isFilled
  | none => false

/-- A record as a JSON object. -/
def toJson (r : Record) : Json :=
  .obj r.entries

/-- The record of an object's members. -/
def ofMembers (members : List (String × Json)) : Record :=
  Keyed.ofList members

end Record

end ReportRules
