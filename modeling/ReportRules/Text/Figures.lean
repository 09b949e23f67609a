/-!
# ReportRules.Text.Figures -- natural numbers in ASCII decimal figures

Reading a run of figures and writing one. `isFigure` accepts `0` to `9` only; the decimal digits of
other scripts are not figures.
-/

namespace ReportRules.Text

/-- One of the ten ASCII decimal figures. -/
def isFigure (c : Char) : Bool :=
  '0' ≤ c && c ≤ '9'

/-- The value of a figure; characters that are no figures are worth nothing in particular. -/
def figureValue (c : Char) : Nat :=
  c.toNat - '0'.toNat

/-- The number a run of figures writes, most significant figure first. -/
def figuresValue (cs : List Char) : Nat :=
  cs.foldl (fun n c => 10 * n + figureValue c) 0

/-- The number that a text writes in figures; a plus sign in front and leading zeros do not
count. -/
def natural? (cs : List Char) : Option Nat :=
  let run := if cs.head? = some '+' then cs.tail else cs
  if run.isEmpty || !run.all isFigure then none else some (figuresValue run)

/-- The figures of a number, without leading zeros; zero is written `0`. -/
def figures (n : Nat) : List Char :=
  Nat.toDigits 10 n

/-- The figures of a number, padded on the left with zeros to at least `width`. -/
def paddedFigures (width n : Nat) : List Char :=
  List.leftpad width '0' (figures n)

/-- A natural number as text. -/
def natText (n : Nat) : String :=
  String.ofList (figures n)

/-- An integer as text, with a leading minus sign when it is negative. -/
def intText : Int → String
  | .ofNat n => natText n
  | .negSucc n => "-" ++ natText (n + 1)

/-- The value of a hexadecimal digit of either case. -/
def hexValue? (c : Char) : Option Nat :=
  if isFigure c then some (figureValue c)
  else if 'a' ≤ c && c ≤ 'f' then some (c.toNat - 'a'.toNat + 10)
  else if 'A' ≤ c && c ≤ 'F' then some (c.toNat - 'A'.toNat + 10)
  else none

/-- The number written by hexadecimal digits, if every character is one. -/
def hexNumber? (cs : List Char) : Option Nat :=
  cs.foldlM (fun n c => (hexValue? c).map (16 * n + ·)) 0

end ReportRules.Text
