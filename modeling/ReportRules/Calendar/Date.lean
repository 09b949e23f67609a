import ReportRules.Text.Figures

/-!
# ReportRules.Calendar.Date -- days of the proleptic Gregorian calendar

Days are numbered from 1970-01-01, which is day 0. The numbering counts years from March to
February, so that the leap day is the last one of its year: four hundred such years have
`daysPerCycle` days, and the months from March on have 153 days in every five.

A date exists when it is the date of its own day number; 30 February has the number of 1 or
2 March, so it does not.
-/

namespace ReportRules.Calendar

/-- A day, given by year, month and day of the month. Years count through zero. -/
structure Date where
  year : Int
  month : Nat
  day : Nat
  deriving Repr, DecidableEq

/-- The days of four hundred years. -/
def daysPerCycle : Int :=
  146097

/-- The number of 0000-03-01, counted backwards from 1970-01-01. -/
def cycleStart : Int :=
  719468

namespace Date

/-- The number of a day. -/
def dayNumber (d : Date) : Int :=
  let marchYear := if d.month ≤ 2 then d.year - 1 else d.year
  let cycle := marchYear.fdiv 400
  let yearOfCycle := marchYear - cycle * 400
  let marchMonth : Int := if d.month > 2 then d.month - 3 else d.month + 9
  let dayOfYear := (153 * marchMonth + 2) / 5 + d.day - 1
  let dayOfCycle := yearOfCycle * 365 + yearOfCycle / 4 - yearOfCycle / 100 + dayOfYear
  cycle * daysPerCycle + dayOfCycle - cycleStart

/-- The day with a number. -/
def ofDayNumber (n : Int) : Date :=
  let shifted := n + cycleStart
  let cycle := shifted.fdiv daysPerCycle
  let dayOfCycle := shifted - cycle * daysPerCycle
  let yearOfCycle :=
    (dayOfCycle - dayOfCycle / 1460 + dayOfCycle / 36524 - dayOfCycle / 146096) / 365
  let dayOfYear := dayOfCycle - (365 * yearOfCycle + yearOfCycle / 4 - yearOfCycle / 100)
  let marchMonth := (5 * dayOfYear + 2) / 153
  let day := dayOfYear - (153 * marchMonth + 2) / 5 + 1
  let month := if marchMonth < 10 then marchMonth + 3 else marchMonth - 9
  let year := yearOfCycle + cycle * 400 + (if month ≤ 2 then 1 else 0)
  ⟨year, month.toNat, day.toNat⟩

/-- Whether a date is one of the calendar. -/
def Exists (d : Date) : Prop :=
  ofDayNumber d.dayNumber = d

instance (d : Date) : Decidable d.Exists :=
  inferInstanceAs (Decidable (_ = _))

/-- The years that dates are taken from. -/
def InRange (d : Date) : Prop :=
  -262143 ≤ d.year ∧ d.year ≤ 262142

instance (d : Date) : Decidable d.InRange :=
  inferInstanceAs (Decidable (_ ∧ _))

/-- A year with at least four figures; a sign is written outside the years 0 to 9999. -/
def yearText (year : Int) : String :=
  let figures := String.ofList (Text.paddedFigures 4 year.natAbs)
  if year < 0 then "-" ++ figures
  else if 9999 < year then "+" ++ figures
  else figures

/-- A date as year, month and day. -/
def text (d : Date) : String :=
  yearText d.year ++ "-" ++ String.ofList (Text.paddedFigures 2 d.month) ++ "-" ++
    String.ofList (Text.paddedFigures 2 d.day)

end Date

end ReportRules.Calendar
