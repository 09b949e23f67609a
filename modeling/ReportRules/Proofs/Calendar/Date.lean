import ReportRules.Calendar.Date

/-!
# ReportRules.Proofs.Calendar.Date -- the date of a day names that day

Days are numbered without gaps, so each has a date, and `dayNumber` finds the day of a date again.
Both go through the same parts of a day: the cycle of four hundred years, the year in the cycle, the
month counted from March, and the day of the month. A year of the cycle is found by a division that
has to leave out the leap days; that it hits the right year is the one step that needs a look at the
centuries (`daysBefore_yearOf`).
-/

namespace ReportRules.Calendar.Date

/-! ## Years of a cycle -/

/-- The days of a cycle before one of its years. -/
def daysBefore (year : Int) : Int :=
  365 * year + year / 4 - year / 100

/-- The year of a cycle that one of its days is in. -/
def yearOf (day : Int) : Int :=
  (day - day / 1460 + day / 36524 - day / 146096) / 365

/-- A day of a cycle is one of the 366 from the first day of its year. -/
theorem daysBefore_yearOf {day : Int} (first : 0 ≤ day) (last : day < daysPerCycle) :
    (0 ≤ yearOf day ∧ yearOf day < 400) ∧
      daysBefore (yearOf day) ≤ day ∧ day ≤ daysBefore (yearOf day) + 365 := by
  have last : day < 146097 := last
  -- the leap days left out by the century of the day and those left out by the century of the year
  -- are constants in each of the cases, and what remains is linear
  have century : day / 36524 = 0 ∨ day / 36524 = 1 ∨ day / 36524 = 2 ∨ day / 36524 = 3 ∨
      day / 36524 = 4 := by omega
  have final : day / 146096 = 0 ∨ day / 146096 = 1 := by omega
  have hundred : yearOf day / 100 = 0 ∨ yearOf day / 100 = 1 ∨ yearOf day / 100 = 2 ∨
      yearOf day / 100 = 3 := by
    unfold yearOf
    omega
  have found : yearOf day = (day - day / 1460 + day / 36524 - day / 146096) / 365 := rfl
  unfold daysBefore
  generalize yearOf day = year at found hundred ⊢
  rcases century with century | century | century | century | century <;>
    rcases final with final | final <;>
      rcases hundred with hundred | hundred | hundred | hundred <;>
        rw [century, final] at found <;> rw [hundred] <;> omega

/-! ## Days taken apart -/

/-- The parts of a day: its cycle, the year in the cycle, the month counted from March, and the day
of the month. -/
structure Parts (n cycle year month day : Int) : Prop where
  year_range : 0 ≤ year ∧ year < 400
  month_range : 0 ≤ month ∧ month ≤ 11
  day_range : 1 ≤ day ∧ day ≤ 31
  count : n + cycleStart =
    cycle * daysPerCycle + daysBefore year + (153 * month + 2) / 5 + (day - 1)

/-- The date that the parts of a day make; January and February are in the next year. -/
def ofParts (cycle year month day : Int) : Date :=
  let calendarMonth := if month < 10 then month + 3 else month - 9
  ⟨year + cycle * 400 + (if calendarMonth ≤ 2 then 1 else 0), calendarMonth.toNat, day.toNat⟩

theorem exists_parts (n : Int) :
    ∃ cycle year month day, Parts n cycle year month day ∧
      ofDayNumber n = ofParts cycle year month day := by
  have whole : (n + cycleStart).fdiv daysPerCycle = (n + cycleStart) / daysPerCycle :=
    Int.fdiv_eq_ediv_of_nonneg _ (by decide)
  have left : 0 ≤ n + cycleStart - (n + cycleStart) / daysPerCycle * daysPerCycle ∧
      n + cycleStart - (n + cycleStart) / daysPerCycle * daysPerCycle < daysPerCycle := by
    unfold daysPerCycle
    omega
  have date : ofDayNumber n =
      let cycle := (n + cycleStart).fdiv daysPerCycle
      let rest := n + cycleStart - cycle * daysPerCycle
      let ofYear := rest - daysBefore (yearOf rest)
      let month := (5 * ofYear + 2) / 153
      ofParts cycle (yearOf rest) month (ofYear - (153 * month + 2) / 5 + 1) := rfl
  rw [whole] at date
  generalize hcycle : (n + cycleStart) / daysPerCycle = cycle at left date
  generalize hrest : n + cycleStart - cycle * daysPerCycle = rest at left date
  obtain ⟨inCycle, low, high⟩ := daysBefore_yearOf left.1 left.2
  dsimp only at date
  rw [hrest] at date
  generalize hofYear : rest - daysBefore (yearOf rest) = ofYear at date
  refine ⟨_, _, _, _, ⟨inCycle, ?_, ?_, ?_⟩, date⟩ <;> omega

theorem dayNumber_ofParts {n cycle year month day : Int} (h : Parts n cycle year month day) :
    (ofParts cycle year month day).dayNumber = n := by
  obtain ⟨inCycle, inYear, inMonth, count⟩ := h
  generalize hdate : ofParts cycle year month day = date
  have marchYear : (if date.month ≤ 2 then date.year - 1 else date.year) = year + cycle * 400 := by
    subst hdate
    unfold ofParts
    grind
  have marchMonth : (if date.month > 2 then (date.month : Int) - 3 else date.month + 9) = month := by
    subst hdate
    unfold ofParts
    grind
  have dayOfMonth : (date.day : Int) = day := by
    subst hdate
    exact Int.toNat_of_nonneg (by omega)
  have sameCycle : (year + cycle * 400).fdiv 400 = cycle := by
    rw [Int.fdiv_eq_ediv_of_nonneg _ (by decide)]
    omega
  have sameYear : year + cycle * 400 - cycle * 400 = year := by omega
  unfold daysBefore at count
  unfold dayNumber
  simp only [marchYear, marchMonth, dayOfMonth, sameCycle, sameYear]
  omega

/-- The date of a day has the number of that day. -/
@[simp]
theorem dayNumber_ofDayNumber (n : Int) : (ofDayNumber n).dayNumber = n := by
  obtain ⟨cycle, year, month, day, parts, date⟩ := exists_parts n
  rw [date, dayNumber_ofParts parts]

/-- Only dates that exist are dates of days. -/
theorem exists_ofDayNumber (n : Int) : (ofDayNumber n).Exists := by
  unfold Exists
  rw [dayNumber_ofDayNumber]

theorem month_ofDayNumber (n : Int) : 1 ≤ (ofDayNumber n).month ∧ (ofDayNumber n).month ≤ 12 := by
  obtain ⟨cycle, year, month, day, parts, date⟩ := exists_parts n
  obtain ⟨low, high⟩ := parts.month_range
  rw [date]
  unfold ofParts
  dsimp only
  split <;> omega

theorem day_ofDayNumber (n : Int) : 1 ≤ (ofDayNumber n).day ∧ (ofDayNumber n).day ≤ 31 := by
  obtain ⟨cycle, year, month, day, parts, date⟩ := exists_parts n
  obtain ⟨low, high⟩ := parts.day_range
  rw [date]
  change 1 ≤ day.toNat ∧ day.toNat ≤ 31
  omega

end ReportRules.Calendar.Date
