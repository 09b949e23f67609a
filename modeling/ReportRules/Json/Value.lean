import ReportRules.Decimal.Layout

/-!
# ReportRules.Json.Value -- JSON values

A number is an integer of 64 bits, signed or unsigned, or a double, and it stays what it was
written as: `1` and `1.0` are different values. An object is a list of members; values that were
read from a text have theirs in ascending key order.

`Json.same` is the equality the rules compare with. It differs from equality of terms on doubles
only, where it is the comparison of numbers: the two zeros are the same.
-/

namespace ReportRules

/-- A JSON number, as an integer or as a double. -/
inductive Number
  | int (n : Int)
  | float (x : Float)
  deriving DecidableEq

namespace Number

/-- The double nearest to a number. -/
def toFloat : Number → Float
  | .int n => Float.ofInt n
  | .float x => x

/-- A number as JSON text. -/
def text : Number → String
  | .int n => Text.intText n
  | .float x => Decimal.Layout.json.text x

/-- Whether two numbers are of the same kind and equal. -/
def same : Number → Number → Bool
  | .int m, .int n => m == n
  | .float x, .float y => x == y
  | _, _ => false

end Number

/-- A JSON value. -/
inductive Json
  | null
  | bool (b : Bool)
  | num (n : Number)
  | str (s : String)
  | arr (items : List Json)
  | obj (members : List (String × Json))

namespace Json

instance : Inhabited Json :=
  ⟨.null⟩

/-- An integer as a JSON value. -/
def int (n : Int) : Json :=
  .num (.int n)

/-- A natural number as a JSON value. -/
def nat (n : Nat) : Json :=
  .num (.int n)

/-- A double as a JSON value; the infinities and NaN have no JSON form and become `null`. -/
def float (x : Float) : Json :=
  if x.isFinite then .num (.float x) else .null

/-- Whether a value is `null`. -/
def isNull : Json → Bool
  | .null => true
  | _ => false

mutual
/-- Whether two values are the same value. -/
def same : Json → Json → Bool
  | .null, .null => true
  | .bool a, .bool b => a == b
  | .num m, .num n => m.same n
  | .str s, .str t => s == t
  | .arr xs, .arr ys => sameItems xs ys
  | .obj xs, .obj ys => sameMembers xs ys
  | _, _ => false

/-- Whether two lists have the same values in the same places. -/
def sameItems : List Json → List Json → Bool
  | [], [] => true
  | x :: xs, y :: ys => same x y && sameItems xs ys
  | _, _ => false

/-- Whether two lists have the same members in the same places. -/
def sameMembers : List (String × Json) → List (String × Json) → Bool
  | [], [] => true
  | (k, x) :: xs, (l, y) :: ys => k == l && same x y && sameMembers xs ys
  | _, _ => false
end

end Json

end ReportRules
