/-!
# ReportRules.Decimal.Binary -- what a double stands for, exactly

Numbers are bounded, read and written in two bases, two and ten. The powers of both are powers of
natural numbers and compute.

A finite double is taken apart into a sign, a natural significand and a power of two. Every decimal
text of this library, and every test whether a double is a whole number, is computed from these
three numbers in exact integer arithmetic.
-/

namespace ReportRules.Decimal

/-- A power of two. -/
abbrev twoTo (n : Nat) : Nat :=
  Nat.pow 2 n

/-- A power of ten. -/
abbrev tenTo (n : Nat) : Nat :=
  Nat.pow 10 n

/-- The number `(-1)^negative · significand · 2^exponent`. -/
structure Binary where
  negative : Bool
  significand : Nat
  exponent : Int
  deriving Repr, DecidableEq

namespace Binary

/-- The parts of a finite double; `none` for the infinities and for NaN. -/
def ofFloat? (x : Float) : Option Binary :=
  let bits := x.toBits.toNat
  let fraction : Nat := bits % twoTo 52
  let biased : Nat := bits / twoTo 52 % twoTo 11
  let negative := bits / twoTo 63 % 2 == 1
  if biased == 2047 then none
  else if biased == 0 then some ⟨negative, fraction, -1074⟩
  else some ⟨negative, twoTo 52 + fraction, (biased : Int) - 1075⟩

/-- The numerator of the absolute value, over `denominator`. -/
def numerator (b : Binary) : Nat :=
  b.significand * twoTo b.exponent.toNat

/-- The denominator of the absolute value, a power of two. -/
def denominator (b : Binary) : Nat :=
  twoTo (-b.exponent).toNat

/-- The integer that the number is, if it is one. Both zeros are the integer zero. -/
def whole? (b : Binary) : Option Int :=
  if b.numerator % b.denominator = 0 then
    let size : Int := (b.numerator / b.denominator : Nat)
    some (if b.negative then -size else size)
  else none

end Binary

/-- The integer a double holds, provided it is whole and smaller than `bound` in absolute value. -/
def wholeBelow? (bound : Nat) (x : Float) : Option Int := do
  let n ← (← Binary.ofFloat? x).whole?
  if n.natAbs < bound then some n else none

end ReportRules.Decimal
