import ReportRules.Decimal.Numeral
import ReportRules.Record

/-!
# ReportRules.Condition.Reading -- values read as numbers and as texts

Conditions compare values that need not be of one kind. For an ordered comparison both sides are
read as numbers (`Json.reading?`), and a side without a numeric reading makes the comparison fail.
To look for one value inside another, both are read as texts (`Json.plainText`).
-/

namespace ReportRules.Json

/-! ## Values as numbers -/

/-- Letters other than the mark of an exponent; a text with one of them is no numeral, however
much it looks like one. -/
def isForeignLetter (c : Char) : Bool :=
  c.isAlpha && c != 'e' && c != 'E'

/-- The number that a text writes. Blank text reads as zero. -/
def textReading? (s : String) : Option Float :=
  let cs := Text.trimChars s.toList
  if cs.isEmpty then some 0
  else if cs.any isForeignLetter then none
  else (Decimal.Numeral.read? cs).map Decimal.Numeral.toFloat

/-- The numeric reading of a value that is neither an array nor an object. -/
def scalarReading? : Json → Option Float
  | .null => some 0
  | .bool b => some (if b then 1 else 0)
  | .num n => some n.toFloat
  | .str s => textReading? s
  | .arr _ | .obj _ => none

/-- The numeric reading of a value. An empty array reads as zero, and an array with a single
element that is neither an array nor an object reads as that element. -/
def reading? : Json → Option Float
  | .arr [] => some 0
  | .arr [item] => scalarReading? item
  | .arr _ => none
  | value => scalarReading? value

/-! ## Values as texts -/

/-- A number as it appears in sentences: a double that is whole and smaller than `10^15` is written
like an integer. -/
def numberPlainText : Number → String
  | .int n => Text.intText n
  | .float x =>
    match Decimal.wholeBelow? (Decimal.tenTo 15) x with
    | some n => Text.intText n
    | none => Decimal.Layout.plain.text x

mutual
/-- A value as text: `null` is empty, the elements of an array are separated by commas, and what an
object holds does not show. -/
def plainText : Json → String
  | .null => ""
  | .bool true => "true"
  | .bool false => "false"
  | .num n => numberPlainText n
  | .str s => s
  | .arr items => ",".intercalate (plainTexts items)
  | .obj _ => "[object Object]"

/-- The texts of a list of values. -/
def plainTexts : List Json → List String
  | [] => []
  | x :: rest => plainText x :: plainTexts rest
end

/-! ## Equality between values -/

/-- Whether two values count as equal in a condition. Two numbers are compared as doubles, whatever
they were written as; everything else has to be the same value. -/
def equals : Json → Json → Bool
  | .num m, .num n => m.toFloat == n.toFloat
  | a, b => same a b

end ReportRules.Json
