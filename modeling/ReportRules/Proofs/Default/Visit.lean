import ReportRules.Proofs.Calendar.Timestamp
import ReportRules.Proofs.Default.Source
import ReportRules.Proofs.Keyed

/-!
# ReportRules.Proofs.Default.Visit -- how long the last visit counts

A rule copies from the last visit as long as the age of the visit is not above the rule's threshold.
The age is a whole number of days, cut off towards zero, so a threshold of `n` days is met through
all of the day that follows; a negative threshold asks for a visit that lies ahead, and is met to
the nanosecond. A visit may be dated with what the clock gives as a default for a date field: the
date alone and the date with its time are both read back, as midnight and as the instant to the
millisecond.
-/

namespace ReportRules

open Calendar (Instant Timestamp.plainDate?_text Timestamp.strict_millisText Timestamp.strict_text
  nanosPerDay nanosPerSecond)

/-! ## Up to the threshold -/

section

variable {rule : DefaultRule} {field : String} {threshold : Int} {visit : Record}
  {visited : Instant}

namespace DefaultRule

/-- A rule for the last visit gives what the visit has, as long as it is recent enough. -/
theorem value?_sourceOutcome_visit (source : rule.source = .lastVisit)
    (fieldGiven : rule.sourceField = some field)
    (thresholdGiven : rule.daysThreshold = some threshold) (dated : visit.Dated visited)
    (job : Record) (now : Instant) (value : Json) :
    (rule.sourceOutcome job (some visit) now).value? = some value ↔
      visit.find? field = some value ∧ now.daysSince visited ≤ threshold := by
  rw [sourceOutcome, source]
  refine value?_lastVisitOutcome_eq_some_iff.trans ⟨?_, ?_⟩
  · -- what the source draws on is what the rule and the visit were said to have
    rintro ⟨threshold', visit', visited', hthreshold, known, dated', recent, found⟩
    obtain rfl := Option.some.inj (thresholdGiven.symm.trans hthreshold)
    obtain rfl := Option.some.inj known
    obtain rfl := dated.unique dated'
    obtain ⟨field', hfield, found⟩ := copied?_eq_some_iff.mp found
    obtain rfl := Option.some.inj (fieldGiven.symm.trans hfield)
    exact ⟨found, recent⟩
  · rintro ⟨found, recent⟩
    exact ⟨threshold, visit, visited, thresholdGiven, rfl, dated, recent,
      copied?_eq_some_iff.mpr ⟨field, fieldGiven, found⟩⟩

/-- A rule alone fills its field with what its source has, if its conditions let it. -/
theorem find?_resolveDefaults_singleton (rule : DefaultRule) (job : Record)
    (history : Option Record) (now : Instant) :
    (resolveDefaults [rule] job history now).find? rule.fieldId =
      if rule.applies job then (rule.sourceOutcome job history now).value? else none := by
  have once : resolveDefaults [rule] job history now = rule.fill job history now .empty := rfl
  rw [once, fill, outcome]
  cases rule.applies job with
  | false => rfl
  | true =>
    rw [if_pos rfl, if_pos rfl]
    cases (rule.sourceOutcome job history now).value? with
    | none => rfl
    | some value => exact Keyed.find?_insert_self _ _ _

end DefaultRule

/-- **How long the last visit counts.** A rule for the last visit has a threshold of `N` days, and
the visit carries the date of an instant. The rule gives a value exactly when the visit has the
rule's field and less than `N + 1` days of 24 hours have passed, or, for a negative `N`, at most `N`
days; and the value is the visit's own. So what is used under a threshold is used under every higher
one, and a visit that is too old does not become usable again later. -/
theorem last_visit_counts_up_to_threshold (source : rule.source = .lastVisit)
    (fieldGiven : rule.sourceField = some field)
    (thresholdGiven : rule.daysThreshold = some threshold) (dated : visit.Dated visited)
    (regular : visited.inLeapSecond = false) (job : Record) :
    (∀ now, (resolveDefaults [rule] job (some visit) now).find? rule.fieldId =
      if rule.applies job then (rule.sourceOutcome job (some visit) now).value? else none) ∧
    (∀ now value, now.inLeapSecond = false →
      ((rule.sourceOutcome job (some visit) now).value? = some value ↔
        visit.find? field = some value ∧
          (0 ≤ threshold ∧ now.clock - visited.clock < (threshold + 1) * nanosPerDay ∨
            threshold < 0 ∧ now.clock - visited.clock ≤ threshold * nanosPerDay))) ∧
    (∀ now value higher, threshold ≤ higher →
      (rule.sourceOutcome job (some visit) now).value? = some value →
      ({ rule with daysThreshold := some higher }.sourceOutcome job (some visit) now).value? =
        some value) ∧
    ∀ now later : Instant, now.inLeapSecond = false → later.inLeapSecond = false →
      now.NotAfter later → (rule.sourceOutcome job (some visit) now).value? = none →
      (rule.sourceOutcome job (some visit) later).value? = none := by
  have gives := DefaultRule.value?_sourceOutcome_visit source fieldGiven thresholdGiven dated job
  refine ⟨fun now => rule.find?_resolveDefaults_singleton job (some visit) now,
    fun now value hnow => ?_, fun now value higher hle h => ?_, fun now later hnow hlater hle h => ?_⟩
  · rw [gives now value, Calendar.Instant.daysSince_le_iff hnow regular]
    rfl
  · obtain ⟨found, recent⟩ := (gives now value).mp h
    let raised : DefaultRule := { rule with daysThreshold := some higher }
    have same : raised.source = .lastVisit := source
    have raisedThreshold : raised.daysThreshold = some higher := rfl
    exact (raised.value?_sourceOutcome_visit same fieldGiven raisedThreshold dated job now value).mpr
      ⟨found, recent.trans hle⟩
  · -- a value that is given later was given before, when less time had passed
    refine Option.eq_none_iff_forall_ne_some.mpr fun value hvalue => ?_
    obtain ⟨found, recent⟩ := (gives later value).mp hvalue
    have within := (Calendar.Instant.daysSince_le_iff hlater regular).mp recent
    have sooner := within.mono (Int.sub_le_sub_right (hle.clock_le hnow) visited.clock)
    have recent' := (Calendar.Instant.daysSince_le_iff hnow regular).mpr sooner
    have used := (gives now value).mpr ⟨found, recent'⟩
    rw [h] at used
    cases used

/-- A visit at 14:30:05 is used for thirty days and all of the day behind them, and not from the
second on that ends that day. -/
theorem visit_counts_on_thirtieth_day :
    let rule : DefaultRule :=
      { fieldId := "tank", source := .lastVisit, sourceField := some "tank",
        daysThreshold := some 30 }
    let visit : Record := .ofList [("date", .str "2025-09-14T14:30:05Z"), ("tank", .str "fair")]
    visit.Dated ⟨1757860205, 0⟩ ∧
      (rule.sourceOutcome .empty (some visit) ⟨1760538604, 999999999⟩).value? =
        some (.str "fair") ∧
      (rule.sourceOutcome .empty (some visit) ⟨1760538605, 0⟩).value? = none := by
  intro rule visit
  have source : rule.source = .lastVisit := rfl
  have dated : visit.Dated ⟨1757860205, 0⟩ := ⟨"2025-09-14T14:30:05Z", rfl, by decide +kernel⟩
  obtain ⟨-, gives, -⟩ := last_visit_counts_up_to_threshold source rfl rfl dated rfl .empty
  refine ⟨dated, (gives _ _ rfl).mpr ⟨rfl, by decide⟩, ?_⟩
  refine Option.eq_none_iff_forall_ne_some.mpr fun value h => ?_
  exact absurd ((gives _ value rfl).mp h).2 (by decide)

end

/-! ## Dates that the clock gives -/

/-- A date without white space is read as a timestamp or as a plain date. -/
theorem visitInstant?_of_visible {date : String}
    (visible : ∀ c ∈ date.toList, Text.isBlank c = false) :
    visitInstant? date =
      (Calendar.Timestamp.strict? date).or (Calendar.Timestamp.plainDate? date) := by
  unfold visitInstant?
  rw [Text.trim_of_visible visible]

section

variable {t : Instant} (year : 0 ≤ t.date.year ∧ t.date.year ≤ 9999)

include year

/-- The date that the clock gives is read back as the midnight before. -/
theorem visitInstant?_date : visitInstant? t.date.text = some t.midnight := by
  have plain := Instant.plain_date year
  have real : t.date.Exists := Calendar.Date.exists_ofDayNumber t.dayNumber
  -- a date alone is refused as a timestamp, so it is left to the reader of plain dates
  rw [visitInstant?_of_visible plain.visible_text, Calendar.Timestamp.strict?,
    Calendar.Timestamp.strict_text plain, Calendar.Timestamp.plainDate?_text plain real,
    Instant.ofDate_date]
  rfl

/-- The date with its time is read back as the instant, cut to milliseconds. -/
theorem visitInstant?_millisText (regular : t.inLeapSecond = false) :
    visitInstant? t.millisText = some t.toMillis := by
  have plain := Instant.plain_date year
  rw [visitInstant?_of_visible (Instant.visible_millisText plain regular),
    Calendar.Timestamp.strict?, Calendar.Timestamp.strict_millisText plain regular]
  rfl

end

/-- **Dates that the clock gives can be read back.** In the years of four figures and outside of
leap seconds, a visit that carries what the clock gives for `current_date` has the age of the
midnight that began the UTC day, and one that carries what it gives for `current_datetime` has the
age of the instant itself, cut to milliseconds. When the instant is not in the future, the first age
is the second one or by one day higher. Ages are 24-hour periods cut off towards zero. The
nanoseconds of any instant are below two seconds, from one second on they are in a leap second. -/
theorem clock_dates_read_back {t : Instant} (year : 0 ≤ t.date.year ∧ t.date.year ≤ 9999)
    (regular : t.inLeapSecond = false) :
    ∃ dateText timeText, SystemField.currentDate.text? t = some dateText ∧
      SystemField.currentDatetime.text? t = some timeText ∧
      (∀ visit : Record, visit.find? visitDateField = some (.str dateText) →
        ∀ now, visitAge? visit now = some (now.daysSince t.midnight)) ∧
      (∀ visit : Record, visit.find? visitDateField = some (.str timeText) →
        ∀ now, visitAge? visit now = some (now.daysSince t.toMillis)) ∧
      (∀ now : Instant, t.NotAfter now → now.nanos < 2 * nanosPerSecond →
        now.daysSince t.midnight = now.daysSince t.toMillis ∨
          now.daysSince t.midnight = now.daysSince t.toMillis + 1) ∧
      ∀ now : Instant,
        now.daysSince t.midnight = (now.clock - t.midnight.clock).tdiv nanosPerDay ∧
          (now.inLeapSecond = false →
            now.daysSince t.toMillis = (now.clock - t.toMillis.clock).tdiv nanosPerDay) := by
  refine ⟨t.date.text, t.millisText, rfl, rfl, fun visit found now => ?_, fun visit found now => ?_,
    fun now future proper => ?_, fun now => ⟨?_, fun hnow => ?_⟩⟩
  · exact visitAge?_eq_some_iff.mpr ⟨_, ⟨_, found, visitInstant?_date year⟩, rfl⟩
  · exact visitAge?_eq_some_iff.mpr ⟨_, ⟨_, found, visitInstant?_millisText year regular⟩, rfl⟩
  · exact Instant.daysSince_midnight regular proper future
  · rw [Instant.daysSince_eq_tdiv, Instant.nanosSince_midnight]
  · rw [Instant.daysSince_eq_tdiv,
      Instant.nanosSince_eq_clock_sub hnow (Instant.toMillis_regular regular)]

/-- A visit on a leap day, seen a day after its time of day less a second: the midnight of the leap
day is one day back, the time of the visit not yet. -/
theorem leap_day_reads_back :
    let t : Instant := ⟨1709210096, 789123456⟩
    let now : Instant := ⟨1709296495, 0⟩
    let dated (text : String) : Record := .ofList [("date", .str text)]
    t.date.text = "2024-02-29" ∧ t.millisText = "2024-02-29T12:34:56.789Z" ∧
      visitAge? (dated "2024-02-29") now = some 1 ∧
      visitAge? (dated "2024-02-29T12:34:56.789Z") now = some 0 := by
  intro t now dated
  have dateText : t.date.text = "2024-02-29" := by decide +kernel
  have timeText : t.millisText = "2024-02-29T12:34:56.789Z" := by decide +kernel
  have year : 0 ≤ t.date.year ∧ t.date.year ≤ 9999 := by decide
  obtain ⟨dateText', timeText', hdate, htime, ofDate, ofTime, oneDay, -⟩ :=
    clock_dates_read_back year rfl
  obtain rfl := (Option.some.inj hdate).symm.trans dateText
  obtain rfl := (Option.some.inj htime).symm.trans timeText
  have sinceVisit : now.daysSince t.toMillis = 0 := by decide
  have future : t.NotAfter now := .inl (by decide)
  have sinceMidnight : now.daysSince t.midnight = 1 := by
    have above := (oneDay now future (by decide)).resolve_left (by decide)
    rwa [sinceVisit] at above
  refine ⟨dateText, timeText, ?_, ?_⟩
  · rw [ofDate (dated "2024-02-29") rfl now, sinceMidnight]
  · rw [ofTime (dated "2024-02-29T12:34:56.789Z") rfl now, sinceVisit]

end ReportRules
