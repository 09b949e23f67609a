import ReportRules.Text.Figures

/-!
# ReportRules.Decimal.Numeral -- decimal numerals and the doubles they name

A numeral is `[+-]? (figures [. figures?] | . figures) ([eE] [+-]? figures)?` in ASCII figures.
`Numeral.read?` accepts exactly this grammar, over the whole of the given text, and
`Numeral.toFloat` is the double nearest to the number it names: infinite beyond the largest double,
zero below half the smallest.
-/

namespace ReportRules.Decimal

/-- The number `(-1)^negative · significand · 10^exponent`. -/
structure Numeral where
  negative : Bool
  significand : Nat
  exponent : Int
  deriving Repr, DecidableEq

namespace Numeral

/-- The double nearest to a numeral. The two outer branches answer without forming a huge power of
ten: a number of at least `10^310` exceeds every double, one below `10^-330` is nearest to zero. -/
def toFloat (n : Numeral) : Float :=
  let size : Float :=
    if n.significand = 0 then 0
    else
      let reach := n.exponent + (Text.figures n.significand).length
      if 310 < reach then 1 / 0
      else if reach < -330 then 0
      else Float.ofScientific n.significand (n.exponent < 0) n.exponent.natAbs
  if n.negative then -size else size

/-- A leading sign, and what follows it. -/
def takeSign : List Char → Bool × List Char
  | '-' :: rest => (true, rest)
  | '+' :: rest => (false, rest)
  | rest => (false, rest)

/-- The exponent part of a numeral: nothing, or a mark, an optional sign and figures. -/
def readExponent? : List Char → Option Int
  | [] => some 0
  | c :: rest =>
    if c == 'e' || c == 'E' then
      let (negative, figures) := takeSign rest
      if figures.isEmpty || !figures.all Text.isFigure then none
      else
        let size : Int := Text.figuresValue figures
        some (if negative then -size else size)
    else none

/-- A numeral without its sign: figures before and after a point, one of the two runs non-empty,
and the exponent part. -/
def readUnsigned? (negative : Bool) (cs : List Char) : Option Numeral := do
  let before := cs.takeWhile Text.isFigure
  let (after, rest) :=
    match cs.dropWhile Text.isFigure with
    | '.' :: more => (more.takeWhile Text.isFigure, more.dropWhile Text.isFigure)
    | rest => ([], rest)
  if before.isEmpty && after.isEmpty then none
  else
    let exponent ← readExponent? rest
    some ⟨negative, Text.figuresValue (before ++ after), exponent - after.length⟩

/-- The numeral that a whole text writes, if it writes one. -/
def read? (cs : List Char) : Option Numeral :=
  let (negative, rest) := takeSign cs
  readUnsigned? negative rest

end Numeral

end ReportRules.Decimal
