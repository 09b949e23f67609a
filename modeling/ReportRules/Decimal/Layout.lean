import ReportRules.Decimal.Shortest

/-!
# ReportRules.Decimal.Layout -- how the figures of a double are set

Two layouts write a double with its shortest figures: `Layout.json` for numbers in JSON and
`Layout.plain` for numbers inside sentences. `fixedText` writes a fixed count of places instead.
-/

namespace ReportRules.Decimal

/-- The decisions of a number format that are not figures. -/
structure Layout where
  /-- The choice between two equally near and equally short candidates. -/
  tie : Tie
  /-- The exponents of the first figure that are written without an exponent; `none` means all. -/
  positional : Option (Int × Int)
  /-- Written after a whole number in positional notation. -/
  wholeMark : String

/-- Numbers in JSON: positional from `10^-5` to below `10^16`, always recognisable as a double. -/
def Layout.json : Layout :=
  ⟨.toEven, some (-5, 15), ".0"⟩

/-- Numbers in sentences: always positional, and whole numbers are written like integers. -/
def Layout.plain : Layout :=
  ⟨.away, none, ""⟩

/-- Figures in positional notation. -/
def Digits.positionalText (d : Digits) (wholeMark : String) : String :=
  if d.exponent < 0 then
    "0." ++ String.ofList (List.replicate (-d.exponent - 1).toNat '0' ++ d.figures)
  else
    let places := d.exponent.toNat + 1
    if d.figures.length ≤ places then
      String.ofList (d.figures ++ List.replicate (places - d.figures.length) '0') ++ wholeMark
    else
      String.ofList (d.figures.take places) ++ "." ++ String.ofList (d.figures.drop places)

/-- Figures in exponent notation, one figure before the point and a signed exponent. -/
def Digits.exponentText (d : Digits) : String :=
  let mantissa :=
    match d.figures with
    | [] => "0"
    | [c] => String.ofList [c]
    | c :: rest => String.ofList [c] ++ "." ++ String.ofList rest
  let sign := if d.exponent < 0 then "-" else "+"
  mantissa ++ "e" ++ sign ++ Text.natText d.exponent.natAbs

/-- Figures as a layout sets them. -/
def Layout.digitsText (layout : Layout) (d : Digits) : String :=
  let plain := match layout.positional with
    | none => true
    | some (low, high) => low ≤ d.exponent && d.exponent ≤ high
  if plain then d.positionalText layout.wholeMark else d.exponentText

/-- The text of a value that has no decimal figures. -/
def unboundedText (x : Float) : String :=
  if x == x then (if x < 0 then "-inf" else "inf") else "NaN"

/-- A double as a layout writes it. -/
def Layout.text (layout : Layout) (x : Float) : String :=
  match Binary.ofFloat? x with
  | none => unboundedText x
  | some b =>
    let sign := if b.negative then "-" else ""
    if b.significand = 0 then sign ++ "0" ++ layout.wholeMark
    else sign ++ layout.digitsText (b.shortest layout.tie)

/-- The integer nearest to `top / bottom`, the even one of two equally near. -/
def roundToEven (top bottom : Nat) : Nat :=
  let quotient := top / bottom
  let twice := 2 * (top % bottom)
  if twice < bottom then quotient
  else if bottom < twice then quotient + 1
  else if quotient % 2 = 0 then quotient else quotient + 1

/-- A double with exactly `places` decimal places (at least one), rounded from its exact value, a
half going to the even neighbour. -/
def fixedText (places : Nat) (x : Float) : String :=
  match Binary.ofFloat? x with
  | none => unboundedText x
  | some b =>
    let sign := if b.negative then "-" else ""
    let scaled := roundToEven (b.numerator * tenTo places) b.denominator
    let (whole, part) := (scaled / tenTo places, scaled % tenTo places)
    sign ++ Text.natText whole ++ "." ++ String.ofList (Text.paddedFigures places part)

end ReportRules.Decimal
