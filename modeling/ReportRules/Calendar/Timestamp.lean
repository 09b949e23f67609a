import ReportRules.Calendar.Instant
import ReportRules.Decimal.Binary
import ReportRules.Text.Blank

/-!
# ReportRules.Calendar.Timestamp -- instants and dates read from text

Three notations are read. `Timestamp.strict?` takes RFC 3339 to the letter: `2025-10-15T14:30:05Z`
with any number of decimal places and `Z` or an offset. `Timestamp.relaxed` takes the same parts
with white space between them, years of any length behind a sign, and `UTC` for the offset; it
says what is wrong with a text it refuses. `Timestamp.plainDate?` takes a date alone.

All three read from left to right and check the range of each part as soon as it is read.
-/

namespace ReportRules.Calendar

/-- Why a text is not a timestamp. -/
inductive TimeFault
  | invalid
  | tooShort
  | tooLong
  | outOfRange
  | impossible
  deriving Repr, DecidableEq

/-- The sentence that reports why a text is not a timestamp. -/
def TimeFault.message : TimeFault → String
  | .invalid => "input contains invalid characters"
  | .tooShort => "premature end of input"
  | .tooLong => "trailing input"
  | .outOfRange => "input is out of range"
  | .impossible => "no possible date and time matching input"

namespace Timestamp

/-- A part read off the front of a text, and the text behind it. -/
abbrev Part (α : Type) :=
  α × List Char

/-- A way to read a part. -/
abbrev Reader (α : Type) :=
  List Char → Except TimeFault (Part α)

/-! ## Parts -/

/-- A number of at least one figure and at most `width` figures, if there is a width. -/
def readFigures (width : Option Nat) (cs : List Char) : Except TimeFault (Part Nat) :=
  let run := cs.takeWhile Text.isFigure
  let taken := match width with
    | some w => run.take w
    | none => run
  match taken, cs with
  | [], [] => .error .tooShort
  | [], _ => .error .invalid
  | _, _ =>
    if Decimal.twoTo 63 ≤ Text.figuresValue taken then .error .outOfRange
    else .ok (Text.figuresValue taken, cs.drop taken.length)

/-- A number of exactly `width` figures. -/
def readExactly (width : Nat) (cs : List Char) : Except TimeFault (Part Nat) :=
  let taken := (cs.takeWhile Text.isFigure).take width
  if taken.length = width then .ok (Text.figuresValue taken, cs.drop width)
  else if (String.ofList cs).utf8ByteSize < width then .error .tooShort
  else .error .invalid

/-- A character that has to come next. -/
def readChar (c : Char) : List Char → Except TimeFault (Part Unit)
  | [] => .error .tooShort
  | d :: rest => if d == c then .ok ((), rest) else .error .invalid

/-- A value that has to lie in a range. -/
def inRange (low high : Int) (value : Int) : Except TimeFault Unit :=
  if low ≤ value ∧ value ≤ high then .ok () else .error .outOfRange

/-- The decimal places of a second as nanoseconds; places after the ninth do not count. -/
def readFraction : List Char → Except TimeFault (Part Nat)
  | '.' :: rest =>
    match readFigures (some 9) rest with
    | .error fault => .error fault
    | .ok (value, more) =>
      let places := rest.length - more.length
      .ok (value * Decimal.tenTo (9 - places), more.dropWhile Text.isFigure)
  | cs => .ok (0, cs)

/-- Two figures in a row. -/
def readTwoFigures : List Char → Except TimeFault (Nat × Nat × List Char)
  | [] => .error .tooShort
  | [c] => if c.utf8Size < 2 then .error .tooShort else .error .invalid
  | c :: d :: rest =>
    if Text.isFigure c && Text.isFigure d then .ok (Text.figureValue c, Text.figureValue d, rest)
    else .error .invalid

/-- An offset from UTC in seconds: `Z`, or a sign, hours and minutes. `separator` reads what stands
between hours and minutes. -/
def readOffset (separator : Reader Unit) : List Char → Except TimeFault (Part Int)
  | [] => .error .tooShort
  | c :: rest => do
    if c == 'Z' || c == 'z' then .ok (0, rest)
    else if c == '+' || c == '-' || c == '−' then
      let (h₁, h₂, rest) ← readTwoFigures rest
      let ((), rest) ← separator rest
      let (m₁, m₂, rest) ← readTwoFigures rest
      if 5 < m₁ then .error .outOfRange
      else
        let size : Int := (10 * h₁ + h₂ : Nat) * 3600 + (10 * m₁ + m₂ : Nat) * 60
        .ok (if c == '+' then size else -size, rest)
    else .error .invalid

/-! ## Putting the parts together -/

/-- The parts of a timestamp. Second 60 is a leap second. -/
structure Fields where
  date : Date
  hour : Nat
  minute : Nat
  second : Nat
  nanos : Nat
  offset : Int

/-- The instant that the parts name. The date has to exist, the offset has to be shorter than a
day, and the date in UTC has to be in range too. -/
def Fields.instant (f : Fields) : Except TimeFault Instant :=
  if ¬(f.date.InRange ∧ f.date.Exists) then .error .outOfRange
  else if secondsPerDay ≤ f.offset.natAbs then .error .outOfRange
  else
    let leap := f.second = 60
    let second := if leap then 59 else f.second
    let local_ := f.date.dayNumber * secondsPerDay + (f.hour * 3600 + f.minute * 60 + second : Nat)
    let instant : Instant :=
      ⟨local_ - f.offset, f.nanos + (if leap then nanosPerSecond else 0)⟩
    if instant.date.InRange then .ok instant else .error .impossible

/-- Hour, minute and second are those of a day. -/
def readClock (number : Reader Nat) (colon : Reader Unit) (cs : List Char) :
    Except TimeFault (Part (Nat × Nat × Nat)) := do
  let (hour, cs) ← number cs
  inRange 0 23 hour
  let ((), cs) ← colon cs
  let (minute, cs) ← number cs
  inRange 0 59 minute
  let ((), cs) ← colon cs
  let (second, cs) ← number cs
  inRange 0 60 second
  .ok ((hour, minute, second), cs)

/-- Date and time are separated by one character. -/
def readSeparator : List Char → Except TimeFault (Part Unit)
  | [] => .error .tooShort
  | c :: rest => if c == 't' || c == 'T' || c == ' ' then .ok ((), rest) else .error .invalid

/-! ## The three notations -/

/-- A timestamp exactly as RFC 3339 has it. -/
def strict (s : String) : Except TimeFault Instant := do
  let (year, cs) ← readExactly 4 s.toList
  let ((), cs) ← readChar '-' cs
  let (month, cs) ← readExactly 2 cs
  inRange 1 12 month
  let ((), cs) ← readChar '-' cs
  let (day, cs) ← readExactly 2 cs
  inRange 1 31 day
  let ((), cs) ← readSeparator cs
  let ((hour, minute, second), cs) ← readClock (readExactly 2) (readChar ':') cs
  let (nanos, cs) ← readFraction cs
  let (offset, cs) ← readOffset (readChar ':') cs
  if cs.isEmpty then
    ({ date := ⟨year, month, day⟩, hour, minute, second, nanos, offset } : Fields).instant
  else .error .tooLong

/-- A timestamp exactly as RFC 3339 has it, if the text is one. -/
def strict? (s : String) : Option Instant :=
  (strict s).toOption

/-- A number behind optional white space. -/
def readSpaced (width : Nat) (cs : List Char) : Except TimeFault (Part Nat) :=
  readFigures (some width) (Text.trimStartChars cs)

/-- A year behind optional white space: up to four figures, or a sign and any number of them. -/
def readYear (cs : List Char) : Except TimeFault (Part Int) := do
  let (year, rest) ← (match Text.trimStartChars cs with
    | '-' :: rest => do
      let (n, rest) ← readFigures none rest
      .ok (-(n : Int), rest)
    | '+' :: rest => do
      let (n, rest) ← readFigures none rest
      .ok ((n : Int), rest)
    | rest => do
      let (n, rest) ← readFigures (some 4) rest
      .ok ((n : Int), rest) : Except TimeFault (Part Int))
  inRange (-(Decimal.twoTo 31 : Int)) (Decimal.twoTo 31 - 1) year
  .ok (year, rest)

/-- Year, month and day, read with the given separator. -/
def readDate (hyphen : Reader Unit) (cs : List Char) : Except TimeFault (Part Date) := do
  let (year, cs) ← readYear cs
  let ((), cs) ← hyphen cs
  let (month, cs) ← readSpaced 2 cs
  inRange 1 12 month
  let ((), cs) ← hyphen cs
  let (day, cs) ← readSpaced 2 cs
  inRange 1 31 day
  .ok (⟨year, month, day⟩, cs)

/-- A separator behind optional white space. -/
def readSpacedChar (c : Char) (cs : List Char) : Except TimeFault (Part Unit) :=
  readChar c (Text.trimStartChars cs)

/-- The text `UTC` in any case, or an offset whose hours and minutes may be separated by colons and
white space. -/
def readZone : List Char → Except TimeFault (Part Int)
  | u :: t :: c :: rest =>
    if u.toLower == 'u' && t.toLower == 't' && c.toLower == 'c' then .ok (0, rest)
    else offset (u :: t :: c :: rest)
  | cs => offset cs
where
  /-- An offset with a loose separator. -/
  offset (cs : List Char) : Except TimeFault (Part Int) :=
    readOffset (fun rest => .ok ((), rest.dropWhile fun c => c == ':' || Text.isBlank c)) cs

/-- A timestamp in the relaxed form of RFC 3339. -/
def relaxed (s : String) : Except TimeFault Instant := do
  let (date, cs) ← readDate (readSpacedChar '-') s.toList
  let ((), cs) ← readSeparator cs
  let ((hour, minute, second), cs) ← readClock (readSpaced 2) (readSpacedChar ':') cs
  let (nanos, cs) ← readFraction cs
  let (offset, cs) ← readZone (Text.trimStartChars cs)
  if (Text.trimStartChars cs).isEmpty then
    ({ date, hour, minute, second, nanos, offset } : Fields).instant
  else .error .tooLong

/-- A date alone, as the first instant of that day in UTC. -/
def plainDate? (s : String) : Option Instant :=
  match readDate (readChar '-') s.toList with
  | .ok (date, []) => if date.InRange ∧ date.Exists then some (.ofDate date) else none
  | _ => none

end Timestamp

end ReportRules.Calendar
