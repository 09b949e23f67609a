import ReportRules.Calendar.Instant
import ReportRules.Proofs.Calendar.Date

/-!
# ReportRules.Proofs.Calendar.Instant -- the time between two instants

Outside of leap seconds the time between two instants is the difference of two readings of one clock
(`Instant.clock`). A whole number of days is cut off from it towards zero, so an age of at most `n`
days takes in all of the day after `n` days when `n` is not negative, and none of it when it is
(`daysSince_le_iff`).
-/

namespace ReportRules.Calendar

/-- The nanoseconds of a day of twenty-four hours. -/
def nanosPerDay : Int :=
  24 * 60 * 60 * nanosPerSecond

namespace Instant

/-! ## The clock -/

/-- The nanoseconds of an instant since 1970, without those in leap seconds before it. -/
def clock (t : Instant) : Int :=
  t.seconds * nanosPerSecond + t.nanos

/-- An instant is the same as another one or before it. -/
def NotAfter (t u : Instant) : Prop :=
  t.seconds < u.seconds ∨ t.seconds = u.seconds ∧ t.nanos ≤ u.nanos

theorem nanos_lt {t : Instant} (regular : t.inLeapSecond = false) : t.nanos < nanosPerSecond :=
  Nat.not_le.mp (of_decide_eq_false regular)

theorem NotAfter.clock_le {t u : Instant} (h : t.NotAfter u) (regular : t.inLeapSecond = false) :
    t.clock ≤ u.clock := by
  have := nanos_lt regular
  unfold clock
  unfold nanosPerSecond at *
  rcases h with h | ⟨h, h'⟩ <;> omega

theorem leapCorrection_eq_zero {later earlier : Instant} (hlater : later.inLeapSecond = false)
    (hearlier : earlier.inLeapSecond = false) : leapCorrection later earlier = 0 := by
  simp [leapCorrection, hlater, hearlier]

theorem nanosSince_eq_clock_sub {later earlier : Instant} (hlater : later.inLeapSecond = false)
    (hearlier : earlier.inLeapSecond = false) :
    later.nanosSince earlier = later.clock - earlier.clock := by
  unfold nanosSince clock nanosPerSecond
  rw [leapCorrection_eq_zero hlater hearlier]
  omega

/-! ## Whole days -/

theorem daysSince_eq_tdiv (later earlier : Instant) :
    later.daysSince earlier = (later.nanosSince earlier).tdiv nanosPerDay := rfl

/-- A time between two instants counts as at most a number of days. -/
def WithinDays (days elapsed : Int) : Prop :=
  0 ≤ days ∧ elapsed < (days + 1) * nanosPerDay ∨ days < 0 ∧ elapsed ≤ days * nanosPerDay

instance (days elapsed : Int) : Decidable (WithinDays days elapsed) :=
  inferInstanceAs (Decidable (_ ∨ _))

theorem tdiv_nanosPerDay_le_iff (elapsed days : Int) :
    elapsed.tdiv nanosPerDay ≤ days ↔ WithinDays days elapsed := by
  unfold WithinDays nanosPerDay nanosPerSecond
  rcases Int.le_total 0 elapsed with future | past
  · rw [Int.tdiv_eq_ediv_of_nonneg future]
    omega
  · -- the quotient of a negative time is that of its size with the sign put back
    rw [← Int.neg_neg elapsed, Int.neg_tdiv,
      Int.tdiv_eq_ediv_of_nonneg (Int.neg_nonneg_of_nonpos past)]
    omega

theorem daysSince_le_iff {later earlier : Instant} (hlater : later.inLeapSecond = false)
    (hearlier : earlier.inLeapSecond = false) {days : Int} :
    later.daysSince earlier ≤ days ↔ WithinDays days (later.clock - earlier.clock) := by
  rw [daysSince_eq_tdiv, nanosSince_eq_clock_sub hlater hearlier, tdiv_nanosPerDay_le_iff]

/-- As time goes on, what is no longer within a number of days does not come back into it. -/
theorem WithinDays.mono {days elapsed less : Int} (h : WithinDays days elapsed)
    (hle : less ≤ elapsed) : WithinDays days less :=
  h.imp (And.imp_right (Int.lt_of_le_of_lt hle)) (And.imp_right (Int.le_trans hle))

/-! ## The day and the second of an instant -/

theorem secondOfDay_lt (t : Instant) : t.secondOfDay < 86400 := by
  unfold secondOfDay
  rw [Int.fmod_eq_emod_of_nonneg _ (by decide)]
  unfold secondsPerDay
  omega

theorem seconds_eq (t : Instant) : t.seconds = t.dayNumber * 86400 + t.secondOfDay := by
  unfold dayNumber secondOfDay
  rw [Int.fdiv_eq_ediv_of_nonneg _ (by decide), Int.fmod_eq_emod_of_nonneg _ (by decide)]
  unfold secondsPerDay
  omega

/-- The first instant of the UTC day. -/
def midnight (t : Instant) : Instant :=
  ⟨t.dayNumber * secondsPerDay, 0⟩

/-- The instant without what is beyond its milliseconds. -/
def toMillis (t : Instant) : Instant :=
  { t with nanos := t.nanos / 1000000 * 1000000 }

theorem ofDate_date (t : Instant) : ofDate t.date = t.midnight := by
  unfold ofDate date
  rw [Date.dayNumber_ofDayNumber]
  rfl

/-! ## Two ages -/

theorem midnight_regular (t : Instant) : t.midnight.inLeapSecond = false := rfl

theorem secondOfDay_midnight (t : Instant) : t.midnight.secondOfDay = 0 := by
  unfold midnight secondOfDay
  rw [Int.mul_fmod_left]
  rfl

theorem toMillis_regular {t : Instant} (regular : t.inLeapSecond = false) :
    t.toMillis.inLeapSecond = false := by
  have := nanos_lt regular
  unfold nanosPerSecond at this
  refine decide_eq_false ?_
  change ¬ 1000000000 ≤ t.nanos / 1000000 * 1000000
  omega

/-- Nothing stands between an instant and the midnight of a day in the reckoning of leap seconds. -/
theorem nanosSince_midnight (u t : Instant) :
    u.nanosSince t.midnight = u.clock - t.midnight.clock := by
  have none : leapCorrection u t.midnight = 0 := by
    simp [leapCorrection, secondOfDay_midnight, midnight_regular]
  unfold nanosSince clock nanosPerSecond
  rw [none]
  omega

theorem leapCorrection_toMillis {t : Instant} (regular : t.inLeapSecond = false) (u : Instant) :
    leapCorrection u t.toMillis = 0 ∨
      leapCorrection u t.toMillis = -1 ∧ u.secondOfDay < t.secondOfDay ∧
        nanosPerSecond ≤ u.nanos := by
  have same : t.toMillis.secondOfDay = t.secondOfDay := rfl
  unfold leapCorrection
  rw [toMillis_regular regular, same]
  split
  · exact .inl rfl
  · split
    · rename_i earlier
      split
      · rename_i leap
        exact .inr ⟨rfl, earlier, of_decide_eq_true leap⟩
      · exact .inl rfl
    · exact .inl rfl

/-- The age of a midnight is that of an instant of its day, or by one day higher. -/
theorem daysSince_midnight {t u : Instant} (regular : t.inLeapSecond = false)
    (proper : u.nanos < 2 * nanosPerSecond) (h : t.NotAfter u) :
    u.daysSince t.midnight = u.daysSince t.toMillis ∨
      u.daysSince t.midnight = u.daysSince t.toMillis + 1 := by
  have small := nanos_lt regular
  have day := t.seconds_eq
  have second := t.secondOfDay_lt
  have day' := u.seconds_eq
  have second' := u.secondOfDay_lt
  have correction := leapCorrection_toMillis regular u
  have sinceMidnight : u.nanosSince t.midnight =
      (u.seconds - t.dayNumber * 86400) * 1000000000 + u.nanos := by
    rw [nanosSince_midnight]
    change u.seconds * 1000000000 + u.nanos - (t.dayNumber * 86400 * 1000000000 + 0) = _
    omega
  have sinceMillis : u.nanosSince t.toMillis =
      (u.seconds - t.seconds + leapCorrection u t.toMillis) * 1000000000 +
        (u.nanos - (t.nanos / 1000000 * 1000000 : Nat)) := rfl
  unfold nanosPerSecond at small proper correction
  -- both ages are of the past, where cutting off is rounding down
  have past : 0 ≤ u.nanosSince t.midnight ∧ 0 ≤ u.nanosSince t.toMillis := by
    rw [sinceMidnight, sinceMillis]
    rcases h with h | ⟨h, h'⟩ <;> rcases correction with correction | ⟨correction, earlier, leap⟩ <;>
      rw [correction] <;> omega
  rw [daysSince_eq_tdiv, daysSince_eq_tdiv, Int.tdiv_eq_ediv_of_nonneg past.1,
    Int.tdiv_eq_ediv_of_nonneg past.2, sinceMidnight, sinceMillis]
  change _ / (86400000000000 : Int) = _ / (86400000000000 : Int) ∨
    _ / (86400000000000 : Int) = _ / (86400000000000 : Int) + 1
  rcases correction with correction | ⟨correction, earlier, leap⟩
  · -- less than a day lies between the two instants
    rw [correction]
    omega
  · -- a second more than a day may, but then the later instant is past the first second of its day
    rw [correction]
    omega

end Instant

end ReportRules.Calendar
