import ReportRules.Calendar.Timestamp
import ReportRules.Proofs.Calendar.Instant
import ReportRules.Proofs.Decimal.Grammar
import ReportRules.Proofs.Outcome
import ReportRules.Proofs.Text.Blank

/-!
# ReportRules.Proofs.Calendar.Timestamp -- what is written for an instant reads back

Every part of a timestamp is written with a fixed number of figures, and each reader takes exactly
the figures that were written and leaves the text behind them alone. So the readers can be run one
after the other over the parts that a date or an instant is written from. A date alone is refused by
the reader of timestamps at the place where the time of day is missing, which is how the two
notations are told apart.
-/

namespace ReportRules.Calendar

open Outcome (bind_eq_ok_iff bind_of_ok)
open Text (Ends figuresValue isFigure paddedFigures)

namespace Timestamp

/-! ## Runs of figures -/

/-- A run that is as long as the reader's width is taken off the front of any text. -/
theorem taken_of_length_eq {width : Nat} {run : List Char} (figures : ∀ c ∈ run, isFigure c = true)
    (fills : run.length = width) (rest : List Char) :
    ((run ++ rest).takeWhile isFigure).take width = run := by
  rw [List.takeWhile_append_of_pos figures, ← fills, List.take_left]

/-- A shorter run is taken off a text that does not go on with a figure. -/
theorem taken_of_length_le {width : Nat} {run rest : List Char}
    (figures : ∀ c ∈ run, isFigure c = true) (ends : Ends isFigure rest)
    (short : run.length ≤ width) : ((run ++ rest).takeWhile isFigure).take width = run := by
  rw [Text.takeWhile_run figures ends, List.take_of_length_le short]

theorem readExactly_run {width : Nat} {run rest : List Char}
    (taken : ((run ++ rest).takeWhile isFigure).take width = run) (fills : run.length = width) :
    readExactly width (run ++ rest) = .ok (figuresValue run, rest) := by
  unfold readExactly
  dsimp only
  rw [taken, if_pos fills, ← fills, List.drop_left]

theorem readFigures_run {width : Nat} {run rest : List Char}
    (taken : ((run ++ rest).takeWhile isFigure).take width = run) (present : run ≠ [])
    (small : figuresValue run < Decimal.twoTo 63) :
    readFigures (some width) (run ++ rest) = .ok (figuresValue run, rest) := by
  unfold readFigures
  dsimp only
  rw [taken, if_neg (Nat.not_le.mpr small), List.drop_left]
  split
  · exact absurd rfl present
  · exact absurd rfl present
  · rfl

/-! ## Padded numbers -/

section

variable {width n : Nat} (present : 0 < width) (fits : n < Decimal.tenTo width)

include present fits

/-- A number is read back from its padded figures, whatever follows them. -/
theorem readExactly_padded (rest : List Char) :
    readExactly width (paddedFigures width n ++ rest) = .ok (n, rest) := by
  have fills := Text.length_paddedFigures present fits
  have taken := taken_of_length_eq (fun _ => Text.isFigure_of_mem_paddedFigures) fills rest
  rw [readExactly_run taken fills, Text.figuresValue_paddedFigures]

theorem paddedFigures_ne_nil : paddedFigures width n ≠ [] := by
  have fills := Text.length_paddedFigures present fits
  exact List.ne_nil_of_length_pos (by omega)

theorem readFigures_padded (small : n < Decimal.twoTo 63) (rest : List Char) :
    readFigures (some width) (paddedFigures width n ++ rest) = .ok (n, rest) := by
  have fills := Text.length_paddedFigures present fits
  have taken := taken_of_length_eq (fun _ => Text.isFigure_of_mem_paddedFigures) fills rest
  rw [readFigures_run taken (paddedFigures_ne_nil present fits), Text.figuresValue_paddedFigures]
  rwa [Text.figuresValue_paddedFigures]

/-- Up to nine places of a second are read back as nanoseconds. -/
theorem readFraction_padded (places : width ≤ 9) {rest : List Char} (ends : Ends isFigure rest) :
    readFraction ('.' :: (paddedFigures width n ++ rest)) =
      .ok (n * Decimal.tenTo (9 - width), rest) := by
  have figures : ∀ c ∈ paddedFigures width n, isFigure c = true :=
    fun _ => Text.isFigure_of_mem_paddedFigures
  have fills := Text.length_paddedFigures present fits
  have short : (paddedFigures width n).length ≤ 9 := fills.le.trans places
  have taken := taken_of_length_le figures ends short
  have small : n < Decimal.twoTo 63 :=
    calc n < Decimal.tenTo width := fits
      _ ≤ Decimal.tenTo 9 := Nat.pow_le_pow_right (by decide) places
      _ < Decimal.twoTo 63 := by decide
  have read := readFigures_run taken (paddedFigures_ne_nil present fits)
    (by rwa [Text.figuresValue_paddedFigures])
  rw [Text.figuresValue_paddedFigures] at read
  have stays : rest.dropWhile isFigure = rest := Text.dropWhile_run (List.forall_mem_nil _) ends
  simp only [readFraction, read, List.length_append, fills, Nat.add_sub_cancel, stays]

end

/-! ## Dates -/

theorem inRange_ok {low high value : Int} (h : low ≤ value ∧ value ≤ high) :
    inRange low high value = .ok () :=
  if_pos h

end Timestamp

/-- A date whose year has four figures, and whose month and day have at most two. -/
structure Date.Plain (d : Date) : Prop where
  year : 0 ≤ d.year ∧ d.year ≤ 9999
  month : 1 ≤ d.month ∧ d.month ≤ 12
  day : 1 ≤ d.day ∧ d.day ≤ 31

theorem Date.Plain.inRange {d : Date} (h : d.Plain) : d.InRange := by
  have := h.year
  unfold Date.InRange
  omega

/-- A plain date is written as three padded numbers. -/
theorem Date.Plain.toList_text {d : Date} (h : d.Plain) :
    d.text.toList = paddedFigures 4 d.year.toNat ++
      '-' :: (paddedFigures 2 d.month ++ '-' :: paddedFigures 2 d.day) := by
  have year : yearText d.year = String.ofList (paddedFigures 4 d.year.toNat) := by
    have size : d.year.natAbs = d.year.toNat := by
      have := h.year
      omega
    unfold yearText
    rw [size, if_neg (by have := h.year; omega), if_neg (by have := h.year; omega)]
  unfold text
  rw [year]
  simp [String.toList_append]

theorem Date.Plain.toNat_year {d : Date} (h : d.Plain) : (d.year.toNat : Int) = d.year :=
  Int.toNat_of_nonneg h.year.1

theorem Date.Plain.toNat_year_lt {d : Date} (h : d.Plain) : d.year.toNat < Decimal.tenTo 4 := by
  have := h.year
  change d.year.toNat < 10000
  omega

theorem Date.Plain.inRange_month {d : Date} (h : d.Plain) :
    Timestamp.inRange 1 12 d.month = .ok () :=
  Timestamp.inRange_ok (by exact_mod_cast h.month)

theorem Date.Plain.inRange_day {d : Date} (h : d.Plain) :
    Timestamp.inRange 1 31 d.day = .ok () :=
  Timestamp.inRange_ok (by exact_mod_cast h.day)

theorem Date.Plain.month_lt {d : Date} (h : d.Plain) : d.month < Decimal.tenTo 2 :=
  h.month.2.trans_lt (by decide)

theorem Date.Plain.day_lt {d : Date} (h : d.Plain) : d.day < Decimal.tenTo 2 :=
  h.day.2.trans_lt (by decide)

theorem visible_padded (width n : Nat) : ∀ c ∈ paddedFigures width n, Text.isBlank c = false :=
  fun _ hc => Text.isBlank_of_isFigure (Text.isFigure_of_mem_paddedFigures hc)

theorem Date.Plain.visible_text {d : Date} (h : d.Plain) :
    ∀ c ∈ d.text.toList, Text.isBlank c = false := by
  rw [h.toList_text]
  simp only [List.forall_mem_append, List.forall_mem_cons]
  exact ⟨visible_padded _ _, rfl, visible_padded _ _, rfl, visible_padded _ _⟩

namespace Timestamp

theorem trimStartChars_padded {width n : Nat} (present : 0 < width) (fits : n < Decimal.tenTo width)
    (rest : List Char) :
    Text.trimStartChars (paddedFigures width n ++ rest) = paddedFigures width n ++ rest :=
  Text.trimStartChars_of_visible (visible_padded width n) (paddedFigures_ne_nil present fits) rest

theorem readSpaced_padded {n : Nat} (fits : n < Decimal.tenTo 2) (rest : List Char) :
    readSpaced 2 (paddedFigures 2 n ++ rest) = .ok (n, rest) := by
  have small : n < Decimal.twoTo 63 := fits.trans (by decide)
  unfold readSpaced
  rw [trimStartChars_padded (by decide) fits, readFigures_padded (by decide) fits small]

/-- A year of four figures is read without a sign. -/
theorem readYear_padded {n : Nat} (fits : n < Decimal.tenTo 4) (rest : List Char) :
    readYear (paddedFigures 4 n ++ rest) = .ok ((n : Int), rest) := by
  have small : n < Decimal.twoTo 63 := fits.trans (by decide)
  have read : readFigures (some 4) (paddedFigures 4 n ++ rest) = .ok (n, rest) :=
    readFigures_padded (by decide) fits small rest
  -- the text begins with a figure, so neither branch for a sign is taken
  have unsigned : ∀ more, paddedFigures 4 n ++ rest ≠ '-' :: more ∧
      paddedFigures 4 n ++ rest ≠ '+' :: more := by
    intro more
    obtain ⟨c, others, hfigures⟩ :=
      List.exists_cons_of_ne_nil (paddedFigures_ne_nil (by decide : 0 < 4) fits)
    have figure : isFigure c = true :=
      Text.isFigure_of_mem_paddedFigures (hfigures ▸ List.mem_cons_self)
    rw [hfigures]
    exact Decimal.Numeral.no_sign_of_isFigure figure _ more
  have fourFigures : n < 10000 := fits
  have bounds : -(Decimal.twoTo 31 : Int) ≤ n ∧ (n : Int) ≤ Decimal.twoTo 31 - 1 := by
    change -2147483648 ≤ (n : Int) ∧ (n : Int) ≤ 2147483648 - 1
    omega
  unfold readYear
  rw [trimStartChars_padded (by decide) fits]
  refine bind_eq_ok_iff.mpr ⟨((n : Int), rest), ?_, bind_eq_ok_iff.mpr ⟨(), inRange_ok bounds, rfl⟩⟩
  split
  · rename_i more sign
    exact absurd sign (unsigned more).1
  · rename_i more sign
    exact absurd sign (unsigned more).2
  · exact bind_eq_ok_iff.mpr ⟨_, read, rfl⟩

/-- A plain date is read as itself. -/
theorem readDate_text {d : Date} (h : d.Plain) :
    readDate (readChar '-') d.text.toList = .ok (d, []) := by
  have lastDay : readSpaced 2 (paddedFigures 2 d.day) = .ok (d.day, []) := by
    simpa using readSpaced_padded h.day_lt []
  rw [h.toList_text]
  unfold readDate
  refine bind_eq_ok_iff.mpr ⟨_, readYear_padded h.toNat_year_lt _, ?_⟩
  refine bind_eq_ok_iff.mpr ⟨_, rfl, ?_⟩
  refine bind_eq_ok_iff.mpr ⟨_, readSpaced_padded h.month_lt _, ?_⟩
  refine bind_eq_ok_iff.mpr ⟨_, h.inRange_month, ?_⟩
  refine bind_eq_ok_iff.mpr ⟨_, rfl, ?_⟩
  refine bind_eq_ok_iff.mpr ⟨_, lastDay, ?_⟩
  refine bind_eq_ok_iff.mpr ⟨_, h.inRange_day, ?_⟩
  rw [h.toNat_year]

/-- A plain date that exists is read as the first instant of its day. -/
theorem plainDate?_text {d : Date} (h : d.Plain) (real : d.Exists) :
    plainDate? d.text = some (.ofDate d) := by
  unfold plainDate?
  rw [readDate_text h]
  exact if_pos ⟨h.inRange, real⟩

/-! ## Instants -/

/-- What the reader of timestamps expects behind a date. -/
def readBehindDate (date : Date) (cs : List Char) : Except TimeFault Instant := do
  let ((), cs) ← readSeparator cs
  let ((hour, minute, second), cs) ← readClock (readExactly 2) (readChar ':') cs
  let (nanos, cs) ← readFraction cs
  let (offset, cs) ← readOffset (readChar ':') cs
  if cs.isEmpty then ({ date, hour, minute, second, nanos, offset } : Fields).instant
  else .error .tooLong

theorem strict_eq_readBehindDate {d : Date} (h : d.Plain) {s : String} {rest : List Char}
    (begins : s.toList = d.text.toList ++ rest) : strict s = readBehindDate d rest := by
  rw [h.toList_text] at begins
  simp only [List.append_assoc, List.cons_append] at begins
  unfold strict
  rw [begins, bind_of_ok (readExactly_padded (by decide) h.toNat_year_lt _)]
  dsimp only
  refine (bind_of_ok rfl _).trans ?_
  refine (bind_of_ok (readExactly_padded (by decide) h.month_lt _) _).trans ?_
  refine (bind_of_ok h.inRange_month _).trans ?_
  refine (bind_of_ok rfl _).trans ?_
  refine (bind_of_ok (readExactly_padded (by decide) h.day_lt _) _).trans ?_
  refine (bind_of_ok h.inRange_day _).trans ?_
  rw [h.toNat_year]
  rfl

/-- A date alone is no timestamp. -/
theorem strict_text {d : Date} (h : d.Plain) : strict d.text = .error .tooShort := by
  rw [strict_eq_readBehindDate h (List.append_nil _).symm]
  rfl

/-- A time of day in figures is read as hour, minute and second. -/
theorem readClock_padded {hour minute second : Nat} (hhour : hour < 24) (hminute : minute < 60)
    (hsecond : second < 61) (rest : List Char) :
    readClock (readExactly 2) (readChar ':')
        (paddedFigures 2 hour ++ ':' :: (paddedFigures 2 minute ++
          ':' :: (paddedFigures 2 second ++ rest))) = .ok ((hour, minute, second), rest) := by
  have two {n : Nat} (fits : n < 100) (rest : List Char) :
      readExactly 2 (paddedFigures 2 n ++ rest) = .ok (n, rest) :=
    readExactly_padded (by decide) fits rest
  unfold readClock
  refine (bind_of_ok (two (by omega) _) _).trans ?_
  refine (bind_of_ok (inRange_ok (by omega)) _).trans ?_
  refine (bind_of_ok rfl _).trans ?_
  refine (bind_of_ok (two (by omega) _) _).trans ?_
  refine (bind_of_ok (inRange_ok (by omega)) _).trans ?_
  refine (bind_of_ok rfl _).trans ?_
  refine (bind_of_ok (two (by omega) _) _).trans ?_
  exact bind_of_ok (inRange_ok (by omega)) _

end Timestamp

/-- An instant with a plain date, written with its milliseconds. -/
theorem Instant.toList_millisText {t : Instant} (regular : t.inLeapSecond = false) :
    t.millisText.toList = t.date.text.toList ++
      'T' :: (paddedFigures 2 (t.secondOfDay / 3600) ++
        ':' :: (paddedFigures 2 (t.secondOfDay / 60 % 60) ++
          ':' :: (paddedFigures 2 (t.secondOfDay % 60) ++
            '.' :: (paddedFigures 3 (t.nanos / 1000000) ++ ['Z'])))) := by
  have subsecond : t.subsecond = t.nanos := Nat.mod_eq_of_lt (nanos_lt regular)
  unfold millisText timeText placesText
  rw [subsecond, regular]
  simp [String.toList_append]

theorem Instant.visible_millisText {t : Instant} (h : t.date.Plain)
    (regular : t.inLeapSecond = false) : ∀ c ∈ t.millisText.toList, Text.isBlank c = false := by
  rw [toList_millisText regular]
  simp only [List.forall_mem_append, List.forall_mem_cons]
  exact ⟨h.visible_text, rfl, visible_padded _ _, rfl, visible_padded _ _, rfl, visible_padded _ _,
    rfl, visible_padded _ _, rfl, List.forall_mem_nil _⟩

/-- In the years that have four figures, the date of an instant is a plain one. -/
theorem Instant.plain_date {t : Instant} (year : 0 ≤ t.date.year ∧ t.date.year ≤ 9999) :
    t.date.Plain :=
  ⟨year, Date.month_ofDayNumber t.dayNumber, Date.day_ofDayNumber t.dayNumber⟩

namespace Timestamp

/-- The parts of an instant in UTC name that instant again. -/
theorem instant_ofParts {t : Instant} (range : t.date.InRange) (nanos : Nat) :
    Fields.instant ⟨t.date, t.secondOfDay / 3600, t.secondOfDay / 60 % 60, t.secondOfDay % 60,
      nanos, 0⟩ = .ok { t with nanos } := by
  have real : t.date.Exists := Date.exists_ofDayNumber t.dayNumber
  -- the second is never the sixtieth, so none is added for a leap second
  have usual : ¬ t.secondOfDay % 60 = 60 := by omega
  have seconds : t.date.dayNumber * secondsPerDay +
      ((t.secondOfDay / 3600 * 3600 + t.secondOfDay / 60 % 60 * 60 + t.secondOfDay % 60 : Nat) : Int)
        - 0 = t.seconds := by
    rw [t.seconds_eq, Instant.date, Date.dayNumber_ofDayNumber]
    unfold secondsPerDay
    omega
  unfold Fields.instant
  rw [if_neg (not_not_intro ⟨range, real⟩), if_neg (by decide : ¬ secondsPerDay ≤ Int.natAbs 0)]
  simp only [if_neg usual, seconds, Nat.add_zero]
  exact if_pos range

/-- The text of an instant with milliseconds is read as that instant, without what the text leaves
out. -/
theorem strict_millisText {t : Instant} (h : t.date.Plain) (regular : t.inLeapSecond = false) :
    strict t.millisText = .ok t.toMillis := by
  have second := t.secondOfDay_lt
  have small := Instant.nanos_lt regular
  unfold nanosPerSecond at small
  have millis : t.nanos / 1000000 < 1000 := by omega
  have places : readFraction ('.' :: (paddedFigures 3 (t.nanos / 1000000) ++ ['Z'])) =
      .ok (t.nanos / 1000000 * 1000000, ['Z']) :=
    readFraction_padded (by decide) millis (by decide) (Text.ends_cons rfl _)
  rw [strict_eq_readBehindDate h (Instant.toList_millisText regular)]
  unfold readBehindDate
  refine (bind_of_ok rfl _).trans ?_
  refine (bind_of_ok (readClock_padded (by omega) (by omega) (by omega) _) _).trans ?_
  refine (bind_of_ok places _).trans ?_
  refine (bind_of_ok rfl _).trans ?_
  exact instant_ofParts h.inRange _

end Timestamp

end ReportRules.Calendar
