import ReportRules.Decimal.Binary
import ReportRules.Text.Figures

/-!
# ReportRules.Decimal.Shortest -- the fewest figures that read back as the same double

A double stands for every real number that rounds to it: an interval around its exact value, whose
ends belong to it exactly when the significand is even. `shortest` looks for the coarsest decimal
grid with a point in that interval. On each grid only the two neighbours of the exact value can be
in it unless none is, so two tests per grid decide; of two hits the nearer one is taken.
-/

namespace ReportRules.Decimal

/-- What to do with a number exactly half-way between two neighbours of a decimal grid. -/
inductive Tie
  /-- Take the neighbour whose last figure is even. -/
  | toEven
  /-- Take the neighbour away from zero. -/
  | away
  deriving Repr, DecidableEq

/-- Decimal figures `d₀ d₁ d₂ …` standing for `d₀.d₁d₂… · 10^exponent`. -/
structure Digits where
  figures : List Char
  exponent : Int
  deriving Repr, DecidableEq

/-- Drop the zeros at the end of a run of figures. -/
def dropTrailingZeros (cs : List Char) : List Char :=
  (cs.reverse.dropWhile (· == '0')).reverse

/-- The figures of `n · 10^k`. -/
def Digits.ofScaled (n : Nat) (k : Int) : Digits :=
  let figures := Text.figures n
  ⟨dropTrailingZeros figures, k + (figures.length - 1 : Nat)⟩

namespace Binary

/-- The power of ten `E` with `10^E ≤ |b| < 10^(E+1)`, for a number other than zero. -/
def decimalExponent (b : Binary) : Int :=
  let top := b.numerator
  let bottom := b.denominator
  if bottom ≤ top then (Text.figures (top / bottom)).length - 1
  else
    let places := (Text.figures (bottom / top)).length
    if top * tenTo (places - 1) = bottom then 1 - (places : Int) else -(places : Int)

/-- Four times the significand, and the ends of the rounding interval on that scale: half a unit on
both sides, a quarter below where the next smaller double lies at half the distance. -/
def roundingEnds (b : Binary) : Nat × Nat :=
  let middle := 4 * b.significand
  if b.significand = twoTo 52 ∧ -1074 < b.exponent then (middle - 1, middle + 2)
  else (middle - 2, middle + 2)

/-- Whether the point `n · 10^k` lies in the rounding interval, and how far from the value, both on
the scale of `roundingEnds` brought over a common denominator. -/
def gridDistance? (b : Binary) (n : Nat) (k : Int) : Option Nat :=
  let unitTop := twoTo (b.exponent - 2).toNat * tenTo (-k).toNat
  let unitBottom := twoTo (2 - b.exponent).toNat * tenTo k.toNat
  let point := n * unitBottom
  let low := b.roundingEnds.1 * unitTop
  let high := b.roundingEnds.2 * unitTop
  let inside :=
    if b.significand % 2 = 0 then low ≤ point ∧ point ≤ high else low < point ∧ point < high
  if inside then
    let middle := 4 * b.significand * unitTop
    some (max middle point - min middle point)
  else none

/-- The best point in the rounding interval on the grid of `count` figures, if there is one. -/
def onGrid? (b : Binary) (tie : Tie) (count : Nat) : Option Digits :=
  let k := b.decimalExponent - ((count : Int) - 1)
  let below := b.numerator * tenTo (-k).toNat / (b.denominator * tenTo k.toNat)
  match b.gridDistance? below k, b.gridDistance? (below + 1) k with
  | none, none => none
  | some _, none => some (.ofScaled below k)
  | none, some _ => some (.ofScaled (below + 1) k)
  | some down, some up =>
    let takeUp :=
      if down = up then
        match tie with
        | .toEven => below % 2 == 1
        | .away => true
      else decide (up < down)
    some (.ofScaled (if takeUp then below + 1 else below) k)

/-- The fewest figures that read back as `b`, and of those the nearest ones. Seventeen figures are
always enough for a double. -/
def shortest (b : Binary) (tie : Tie) : Digits :=
  ((List.range 17).findSome? fun i => b.onGrid? tie (i + 1)).getD ⟨['0'], 0⟩

end Binary

end ReportRules.Decimal
