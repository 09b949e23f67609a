import ReportRules.Default
import ReportRules.Proofs.Condition.Holds
import ReportRules.Proofs.Formula.Reading
import ReportRules.Proofs.Outcome

/-!
# ReportRules.Proofs.Default.Source -- what a default rule gives on its own

A rule gives a value or nothing, and no other rule has a part in it. Each of the five sources is
described twice, by what it takes to draw a value from it (`Draws`) and by the reasons why it may
have none (`Lacks`). Nothing is left out (`draws_or_lacks`), and so both are read off what a rule
computes.
-/

namespace ReportRules

open Calendar (Instant)

/-! ## The parts of a source -/

theorem SystemField.ofName_eq_unknown_iff {name : String} :
    SystemField.ofName name = .unknown ↔
      Text.trim name ∉ ["current_date", "current_time", "current_datetime"] := by
  unfold SystemField.ofName
  generalize Text.trim name = trimmed
  simp only [List.mem_cons, List.not_mem_nil, or_false]
  split
  · simp [*]
  · split
    · simp [*]
    · split <;> simp [*]

theorem SystemField.text?_eq_none_iff {now : Instant} {field : SystemField} :
    field.text? now = none ↔ field = .unknown := by
  cases field <;> simp [SystemField.text?]

/-- A formula that has a value has one that a field can hold. -/
theorem Formula.exists_fieldValue? {formula : String} {job : Record} {x : Float}
    (h : Formula.evaluate formula job = .ok x) : ∃ value, Formula.fieldValue? x = some value := by
  obtain ⟨tokens, -, htokens⟩ := ReportRules.Outcome.bind_eq_ok_iff.mp h
  obtain ⟨e, -, -, -, finite⟩ := Formula.evaluateTokens_eq_ok_iff.mp htokens
  unfold Formula.fieldValue?
  split
  · exact ⟨_, rfl⟩
  · exact ⟨_, if_pos finite⟩

/-- A visit carries the text of an instant as its date. -/
def Record.Dated (visit : Record) (visited : Instant) : Prop :=
  ∃ date, visit.find? visitDateField = some (.str date) ∧ visitInstant? date = some visited

theorem visitAge?_eq_some_iff {visit : Record} {now : Instant} {age : Int} :
    visitAge? visit now = some age ↔
      ∃ visited, visit.Dated visited ∧ now.daysSince visited = age := by
  unfold visitAge?
  split
  · rename_i date found
    simp [Record.Dated, found]
  · rename_i other
    simp only [reduceCtorEq, false_iff]
    rintro ⟨visited, ⟨date, found, -⟩, -⟩
    exact other date found

theorem Record.Dated.unique {visit : Record} {visited other : Instant}
    (dated : visit.Dated visited) (again : visit.Dated other) : visited = other := by
  obtain ⟨date, found, reads⟩ := dated
  obtain ⟨date', found', reads'⟩ := again
  obtain rfl : date = date' := by simpa using found.symm.trans found'
  exact Option.some.inj (reads.symm.trans reads')

@[simp]
theorem DefaultOutcome.value?_ofOption (value : Option Json) :
    (DefaultOutcome.ofOption value).value? = value := by
  cases value <;> rfl

namespace DefaultRule

theorem copied?_eq_some_iff {rule : DefaultRule} {r : Record} {value : Json} :
    rule.copied? r = some value ↔
      ∃ field, rule.sourceField = some field ∧ r.find? field = some value :=
  Option.bind_eq_some_iff

theorem value?_lastVisitOutcome_eq_some_iff {rule : DefaultRule} {history : Option Record}
    {now : Instant} {value : Json} :
    (rule.lastVisitOutcome history now).value? = some value ↔
      ∃ threshold visit visited, rule.daysThreshold = some threshold ∧ history = some visit ∧
        visit.Dated visited ∧ now.daysSince visited ≤ threshold ∧
        rule.copied? visit = some value := by
  unfold lastVisitOutcome
  constructor
  · intro h
    split at h
    · rename_i threshold visit hthreshold
      split at h
      · cases h
      · rename_i age hage
        obtain ⟨visited, dated, rfl⟩ := visitAge?_eq_some_iff.mp hage
        split at h
        · cases h
        · rename_i recent
          rw [DefaultOutcome.value?_ofOption] at h
          exact ⟨threshold, visit, visited, hthreshold, rfl, dated, Int.not_lt.mp recent, h⟩
    · cases h
  · rintro ⟨threshold, visit, visited, hthreshold, rfl, dated, recent, found⟩
    have hage : visitAge? visit now = some (now.daysSince visited) :=
      visitAge?_eq_some_iff.mpr ⟨visited, dated, rfl⟩
    rw [hthreshold]
    simp only [hage, if_neg (Int.not_lt.mpr recent), DefaultOutcome.value?_ofOption, found]

/-! ## Drawing a value from a source -/

/-- The source of a rule has a value. -/
inductive Draws (rule : DefaultRule) (job : Record) (history : Option Record) (now : Instant) :
    Json → Prop
  | job {field : String} {value : Json} (source : rule.source = .jobData)
      (fieldGiven : rule.sourceField = some field) (found : job.find? field = some value) :
      Draws rule job history now value
  | visit {threshold : Int} {visit : Record} {visited : Instant} {field : String} {value : Json}
      (source : rule.source = .lastVisit) (thresholdGiven : rule.daysThreshold = some threshold)
      (known : history = some visit) (dated : visit.Dated visited)
      (recent : now.daysSince visited ≤ threshold) (fieldGiven : rule.sourceField = some field)
      (found : visit.find? field = some value) : Draws rule job history now value
  | fixed {value : Json} (source : rule.source = .fixed)
      (valueGiven : rule.fixedValue = some value) : Draws rule job history now value
  | clock {name text : String} (source : rule.source = .system)
      (nameGiven : rule.sourceField = some name)
      (tells : (SystemField.ofName name).text? now = some text) :
      Draws rule job history now (.str text)
  | formula {formula : String} {x : Float} {value : Json} (source : rule.source = .formula)
      (formulaGiven : rule.formula = some formula)
      (evaluates : Formula.evaluate formula job = .ok x)
      (holds : Formula.fieldValue? x = some value) : Draws rule job history now value

/-- A reason why the source of a rule has no value. -/
inductive Lacks (rule : DefaultRule) (job : Record) (history : Option Record) (now : Instant) :
    Prop
  | noSourceField (source : rule.source ∈ [.jobData, .lastVisit, .system])
      (missing : rule.sourceField = none) : Lacks rule job history now
  | notOnJob {field : String} (source : rule.source = .jobData)
      (fieldGiven : rule.sourceField = some field) (missing : job.find? field = none) :
      Lacks rule job history now
  | noThreshold (source : rule.source = .lastVisit) (missing : rule.daysThreshold = none) :
      Lacks rule job history now
  | noVisit (source : rule.source = .lastVisit) (missing : history = none) :
      Lacks rule job history now
  | noVisitDate {visit : Record} (source : rule.source = .lastVisit)
      (known : history = some visit) (undated : ∀ visited, ¬ visit.Dated visited) :
      Lacks rule job history now
  | stale {threshold : Int} {visit : Record} {visited : Instant}
      (source : rule.source = .lastVisit) (thresholdGiven : rule.daysThreshold = some threshold)
      (known : history = some visit) (dated : visit.Dated visited)
      (old : threshold < now.daysSince visited) : Lacks rule job history now
  | notOnVisit {visit : Record} {field : String} (source : rule.source = .lastVisit)
      (known : history = some visit) (fieldGiven : rule.sourceField = some field)
      (missing : visit.find? field = none) : Lacks rule job history now
  | noFixedValue (source : rule.source = .fixed) (missing : rule.fixedValue = none) :
      Lacks rule job history now
  | unknownSystemField {name : String} (source : rule.source = .system)
      (nameGiven : rule.sourceField = some name)
      (unknown : Text.trim name ∉ ["current_date", "current_time", "current_datetime"]) :
      Lacks rule job history now
  | noFormula (source : rule.source = .formula) (missing : rule.formula = none) :
      Lacks rule job history now
  | formulaFails {formula : String} {e : Formula.FormulaError} (source : rule.source = .formula)
      (formulaGiven : rule.formula = some formula)
      (fails : Formula.evaluate formula job = .error e) : Lacks rule job history now

section

variable (rule : DefaultRule) (job : Record) (history : Option Record) (now : Instant)

theorem draws_or_lacks :
    (∃ value, rule.Draws job history now value) ∨ rule.Lacks job history now := by
  -- the first part that is missing is a reason; if none is, the parts make a value
  cases source : rule.source with
  | jobData =>
    cases hfield : rule.sourceField with
    | none => exact .inr (.noSourceField (by simp [source]) hfield)
    | some field =>
      cases found : job.find? field with
      | none => exact .inr (.notOnJob source hfield found)
      | some value => exact .inl ⟨value, .job source hfield found⟩
  | lastVisit =>
    cases hthreshold : rule.daysThreshold with
    | none => exact .inr (.noThreshold source hthreshold)
    | some threshold =>
      cases known : history with
      | none => exact .inr (.noVisit source rfl)
      | some visit =>
        by_cases dated : ∃ visited, visit.Dated visited
        · obtain ⟨visited, dated⟩ := dated
          rcases Int.lt_or_le threshold (now.daysSince visited) with old | recent
          · exact .inr (.stale source hthreshold rfl dated old)
          · cases hfield : rule.sourceField with
            | none => exact .inr (.noSourceField (by simp [source]) hfield)
            | some field =>
              cases found : visit.find? field with
              | none => exact .inr (.notOnVisit source rfl hfield found)
              | some value =>
                exact .inl ⟨value, .visit source hthreshold rfl dated recent hfield found⟩
        · exact .inr (.noVisitDate source rfl (not_exists.mp dated))
  | fixed =>
    cases hvalue : rule.fixedValue with
    | none => exact .inr (.noFixedValue source hvalue)
    | some value => exact .inl ⟨value, .fixed source hvalue⟩
  | system =>
    cases hname : rule.sourceField with
    | none => exact .inr (.noSourceField (by simp [source]) hname)
    | some name =>
      cases tells : (SystemField.ofName name).text? now with
      | none =>
        have unknown := SystemField.text?_eq_none_iff.mp tells
        exact .inr (.unknownSystemField source hname
          (SystemField.ofName_eq_unknown_iff.mp unknown))
      | some text => exact .inl ⟨.str text, .clock source hname tells⟩
  | formula =>
    cases hformula : rule.formula with
    | none => exact .inr (.noFormula source hformula)
    | some formula =>
      cases evaluates : Formula.evaluate formula job with
      | error e => exact .inr (.formulaFails source hformula evaluates)
      | ok x =>
        obtain ⟨value, holds⟩ := Formula.exists_fieldValue? evaluates
        exact .inl ⟨value, .formula source hformula evaluates holds⟩

variable {rule job history now}

theorem Draws.value?_eq {value : Json} (h : rule.Draws job history now value) :
    (rule.sourceOutcome job history now).value? = some value := by
  unfold sourceOutcome
  cases h with
  | job source hfield found => simp [source, copied?, hfield, found]
  | visit source hthreshold known dated recent hfield found =>
    rw [source]
    exact value?_lastVisitOutcome_eq_some_iff.mpr
      ⟨_, _, _, hthreshold, known, dated, recent, copied?_eq_some_iff.mpr ⟨_, hfield, found⟩⟩
  | fixed source hvalue => simp [source, hvalue]
  | clock source hname tells => simp [source, hname, tells]
  | formula source hformula evaluates holds =>
    simp [source, hformula, formulaOutcome, evaluates, holds]

/-- Nothing comes from a visit that has no value for the rule whenever it is recent enough. -/
theorem value?_eq_none_of_visit (source : rule.source = .lastVisit)
    (h : ∀ threshold visit visited, rule.daysThreshold = some threshold → history = some visit →
      visit.Dated visited → now.daysSince visited ≤ threshold → rule.copied? visit = none) :
    (rule.sourceOutcome job history now).value? = none := by
  rw [sourceOutcome, source]
  refine Option.eq_none_iff_forall_ne_some.mpr fun value hvalue => ?_
  obtain ⟨threshold, visit, visited, hthreshold, known, dated, recent, found⟩ :=
    value?_lastVisitOutcome_eq_some_iff.mp hvalue
  rw [h threshold visit visited hthreshold known dated recent] at found
  cases found

theorem Lacks.value?_eq (h : rule.Lacks job history now) :
    (rule.sourceOutcome job history now).value? = none := by
  cases h with
  | noSourceField source missing =>
    have uncopied : ∀ r, rule.copied? r = none := fun r => by simp [copied?, missing]
    simp only [List.mem_cons, List.not_mem_nil, or_false] at source
    rcases source with source | source | source
    · simp [sourceOutcome, source, uncopied]
    · exact value?_eq_none_of_visit source fun _ visit _ _ _ _ _ => uncopied visit
    · simp [sourceOutcome, source, missing]
  | notOnJob source hfield missing => simp [sourceOutcome, source, copied?, hfield, missing]
  | noThreshold source missing =>
    refine value?_eq_none_of_visit source fun threshold _ _ hthreshold _ _ _ => ?_
    simp [missing] at hthreshold
  | noVisit source missing =>
    refine value?_eq_none_of_visit source fun _ visit _ _ known _ _ => ?_
    simp [missing] at known
  | noVisitDate source known undated =>
    refine value?_eq_none_of_visit source fun _ visit visited _ known' dated _ => ?_
    obtain rfl := Option.some.inj (known.symm.trans known')
    exact absurd dated (undated visited)
  | stale source hthreshold known dated old =>
    refine value?_eq_none_of_visit source
      fun threshold visit visited hthreshold' known' dated' recent => ?_
    obtain rfl := Option.some.inj (known.symm.trans known')
    obtain rfl := Option.some.inj (hthreshold.symm.trans hthreshold')
    obtain rfl := dated.unique dated'
    exact absurd recent (Int.not_le.mpr old)
  | notOnVisit source known hfield missing =>
    refine value?_eq_none_of_visit source fun _ visit _ _ known' _ _ => ?_
    obtain rfl := Option.some.inj (known.symm.trans known')
    simp [copied?, hfield, missing]
  | noFixedValue source missing => simp [sourceOutcome, source, missing]
  | unknownSystemField source hname unknown =>
    simp [sourceOutcome, source, hname, SystemField.ofName_eq_unknown_iff.mpr unknown,
      SystemField.text?]
  | noFormula source missing => simp [sourceOutcome, source, missing, DefaultOutcome.value?]
  | formulaFails source hformula fails =>
    simp [sourceOutcome, source, hformula, formulaOutcome, fails, DefaultOutcome.value?]

theorem value?_sourceOutcome_eq_some_iff {value : Json} :
    (rule.sourceOutcome job history now).value? = some value ↔
      rule.Draws job history now value := by
  refine ⟨fun h => ?_, Draws.value?_eq⟩
  rcases rule.draws_or_lacks job history now with ⟨drawn, draws⟩ | lacks
  · obtain rfl := Option.some.inj (draws.value?_eq.symm.trans h)
    exact draws
  · cases lacks.value?_eq.symm.trans h

theorem value?_sourceOutcome_eq_none_iff :
    (rule.sourceOutcome job history now).value? = none ↔ rule.Lacks job history now := by
  refine ⟨fun h => ?_, Lacks.value?_eq⟩
  rcases rule.draws_or_lacks job history now with ⟨drawn, draws⟩ | lacks
  · cases draws.value?_eq.symm.trans h
  · exact lacks

end

/-! ## A rule with its conditions -/

/-- A rule gives a value: it has no conditions or they hold on the job, and the source has the
value. -/
structure Gives (rule : DefaultRule) (job : Record) (history : Option Record) (now : Instant)
    (value : Json) : Prop where
  admitted : ∀ conditions, rule.conditions = some conditions → conditions.HoldsOn job
  draws : rule.Draws job history now value

/-- A reason why a rule gives nothing. -/
inductive Withheld (rule : DefaultRule) (job : Record) (history : Option Record) (now : Instant) :
    Prop
  | gated {conditions : ConditionSet} (conditionsGiven : rule.conditions = some conditions)
      (fail : ¬ conditions.HoldsOn job) : Withheld rule job history now
  | lacking (reason : rule.Lacks job history now) : Withheld rule job history now

variable {rule : DefaultRule} {job : Record} {history : Option Record} {now : Instant}

theorem applies_iff :
    rule.applies job = true ↔
      ∀ conditions, rule.conditions = some conditions → conditions.HoldsOn job := by
  unfold applies
  cases rule.conditions with
  | none => simp
  | some conditions => simp [ConditionSet.holds_iff]

theorem value?_outcome_eq_some_iff {value : Json} :
    (rule.outcome job history now).value? = some value ↔ rule.Gives job history now value := by
  unfold outcome
  split
  · rename_i applies
    rw [value?_sourceOutcome_eq_some_iff]
    exact ⟨fun draws => ⟨applies_iff.mp applies, draws⟩, Gives.draws⟩
  · rename_i gated
    exact ⟨nofun, fun gives => absurd (applies_iff.mpr gives.admitted) gated⟩

theorem value?_outcome_eq_none_iff :
    (rule.outcome job history now).value? = none ↔ rule.Withheld job history now := by
  unfold outcome
  split
  · rename_i applies
    rw [value?_sourceOutcome_eq_none_iff]
    refine ⟨.lacking, fun withheld => ?_⟩
    cases withheld with
    | gated conditionsGiven fail => exact absurd (applies_iff.mp applies _ conditionsGiven) fail
    | lacking reason => exact reason
  · rename_i gated
    simp only [applies_iff, not_forall] at gated
    obtain ⟨conditions, conditionsGiven, fail⟩ := gated
    exact ⟨fun _ => .gated conditionsGiven fail, fun _ => rfl⟩

/-- Whether a rule gives something is never left open. -/
theorem withheld_iff :
    rule.Withheld job history now ↔ ∀ value, ¬ rule.Gives job history now value := by
  rw [← value?_outcome_eq_none_iff, Option.eq_none_iff_forall_ne_some]
  simp only [ne_eq, value?_outcome_eq_some_iff]

end DefaultRule

end ReportRules
