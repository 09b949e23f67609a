import ReportRules.Calendar.Date

/-!
# ReportRules.Calendar.Instant -- points in time

An instant counts whole seconds from 1970-01-01 at midnight UTC, and nanoseconds within the second.
A leap second has no number of its own: it is the second before it with a thousand million
nanoseconds more, so the nanoseconds of an instant go up to two thousand million.
-/

namespace ReportRules.Calendar

/-- The nanoseconds of a second. -/
def nanosPerSecond : Nat :=
  1000000000

/-- The seconds of a day. -/
def secondsPerDay : Nat :=
  86400

/-- A point in time. -/
structure Instant where
  seconds : Int
  nanos : Nat
  deriving Repr, DecidableEq

namespace Instant

/-- The number of the UTC day. -/
def dayNumber (t : Instant) : Int :=
  t.seconds.fdiv secondsPerDay

/-- The date in UTC. -/
def date (t : Instant) : Date :=
  .ofDayNumber t.dayNumber

/-- The second within the UTC day. -/
def secondOfDay (t : Instant) : Nat :=
  (t.seconds.fmod secondsPerDay).toNat

/-- Whether the instant lies in a leap second. -/
def inLeapSecond (t : Instant) : Bool :=
  nanosPerSecond ≤ t.nanos

/-- The first instant of a day. -/
def ofDate (d : Date) : Instant :=
  ⟨d.dayNumber * secondsPerDay, 0⟩

/-- The instant a number of seconds later. -/
def addSeconds (t : Instant) (seconds : Int) : Instant :=
  { t with seconds := t.seconds + seconds }

/-- A leap second that one of two instants lies in counts for the time between them when the other
one is later in the day. -/
def leapCorrection (later earlier : Instant) : Int :=
  if earlier.secondOfDay < later.secondOfDay then (if earlier.inLeapSecond then 1 else 0)
  else if later.secondOfDay < earlier.secondOfDay then (if later.inLeapSecond then -1 else 0)
  else 0

/-- The nanoseconds from one instant to another. -/
def nanosSince (later earlier : Instant) : Int :=
  (later.seconds - earlier.seconds + leapCorrection later earlier) * nanosPerSecond +
    ((later.nanos : Int) - earlier.nanos)

/-- The whole days from one instant to another, fractions of a day dropped on both sides of zero. -/
def daysSince (later earlier : Instant) : Int :=
  (nanosSince later earlier).tdiv (secondsPerDay * nanosPerSecond)

/-! ## Texts -/

/-- The time of day in UTC; a leap second is the sixtieth one. -/
def timeText (t : Instant) : String :=
  let s := t.secondOfDay
  let second := s % 60 + (if t.inLeapSecond then 1 else 0)
  let two (n : Nat) : String := String.ofList (Text.paddedFigures 2 n)
  two (s / 3600) ++ ":" ++ two (s / 60 % 60) ++ ":" ++ two second

/-- The nanoseconds within the second, those of a leap second counted anew. -/
def subsecond (t : Instant) : Nat :=
  t.nanos % nanosPerSecond

/-- Decimal places of a second, behind a point. -/
def placesText (places value : Nat) : String :=
  "." ++ String.ofList (Text.paddedFigures places value)

/-- Date and time in UTC with three decimal places of the second, the rest cut off. -/
def millisText (t : Instant) : String :=
  t.date.text ++ "T" ++ t.timeText ++ placesText 3 (t.subsecond / 1000000) ++ "Z"

/-- The decimal places of the second that are needed: none, three, six or nine. -/
def fractionText (t : Instant) : String :=
  let n := t.subsecond
  if n = 0 then ""
  else if n % 1000000 = 0 then placesText 3 (n / 1000000)
  else if n % 1000 = 0 then placesText 6 (n / 1000)
  else placesText 9 n

/-- Date and time in UTC with as many decimal places of the second as are needed, and with the given
name for the zone. -/
def textIn (zone : String) (t : Instant) : String :=
  t.date.text ++ "T" ++ t.timeText ++ t.fractionText ++ zone

/-- Date and time in UTC. -/
def text : Instant → String :=
  textIn "Z"

/-- Date and time in UTC, with the zone written as an offset. -/
def offsetText : Instant → String :=
  textIn "+00:00"

end Instant

end ReportRules.Calendar
