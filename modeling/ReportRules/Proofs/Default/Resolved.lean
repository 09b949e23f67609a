import ReportRules.Proofs.Default.Source
import ReportRules.Proofs.Keyed

/-!
# ReportRules.Proofs.Default.Resolved -- the last rule that has something to give

Default rules are taken one after the other, and each writes over what is in its field. A rule that
gives nothing does not write, so it neither clears its field nor keeps the next rule from writing.
What a rule gives does not depend on the defaults that are there already; this is why rules for
different fields may change places.
-/

namespace ReportRules

open Calendar (Instant)

variable (job : Record) (history : Option Record) (now : Instant)

/-- What is left of a pass over the rules: the values they give, those of later rules on top. -/
theorem resolveDefaults_eq_gather (rules : List DefaultRule) :
    resolveDefaults rules job history now =
      Keyed.gather DefaultRule.fieldId (fun rule => (rule.outcome job history now).value?)
        rules := by
  unfold resolveDefaults Keyed.gather Keyed.ofList
  rw [List.foldl_filterMap]
  congr 1
  funext defaults rule
  unfold DefaultRule.fill
  beta_reduce
  cases (rule.outcome job history now).value? <;> rfl

/-- **What fills a new record beforehand.** A field holds the value of the *last* rule for it that
gives one, that is, whose conditions are absent or hold on the job and whose source has a value; and
without such a rule the field is not there. A rule that gives nothing, for whatever reason, might as
well be missing, wherever it stands. Rules may be rearranged in any way that keeps those for one
field in their order. -/
theorem last_rule_with_a_value_fills (rules : List DefaultRule) :
    (∀ field value, (resolveDefaults rules job history now).find? field = some value ↔
      ∃ before rule after, rules = before ++ rule :: after ∧ rule.fieldId = field ∧
        rule.Gives job history now value ∧
        ∀ later ∈ after, later.fieldId = field → later.Withheld job history now) ∧
    (∀ field, (resolveDefaults rules job history now).find? field = none ↔
      ∀ rule ∈ rules, rule.fieldId = field → rule.Withheld job history now) ∧
    (∀ rule : DefaultRule, rule.Withheld job history now ↔
      ∀ value, ¬ rule.Gives job history now value) ∧
    (∀ before rule after, rules = before ++ rule :: after → rule.Withheld job history now →
      resolveDefaults rules job history now = resolveDefaults (before ++ after) job history now) ∧
    ∀ rules' : List DefaultRule,
      (∀ field, (rules'.filter fun rule => rule.fieldId = field) =
        rules.filter fun rule => rule.fieldId = field) →
      resolveDefaults rules' job history now = resolveDefaults rules job history now := by
  simp only [resolveDefaults_eq_gather]
  refine ⟨fun field value => ?_, fun field => ?_, fun rule => DefaultRule.withheld_iff, ?_, ?_⟩
  · rw [Keyed.find?_gather_eq_some_iff]
    simp only [DefaultRule.value?_outcome_eq_some_iff, DefaultRule.value?_outcome_eq_none_iff]
  · rw [Keyed.find?_gather_eq_none_iff]
    simp only [DefaultRule.value?_outcome_eq_none_iff]
  · rintro before rule after rfl withheld
    refine Keyed.gather_dropped ?_ before after
    exact DefaultRule.value?_outcome_eq_none_iff.mpr withheld
  · intro rules' same
    exact Keyed.gather_congr same

/-- A visit that is not known and a gate without conditions leave what an earlier rule gave. -/
example :
    let rules : List DefaultRule :=
      [{ fieldId := "volume", source := .fixed, fixedValue := some (.str "standard") },
       { fieldId := "volume", source := .lastVisit, sourceField := some "volume",
         daysThreshold := some 30 },
       { fieldId := "volume", source := .fixed, fixedValue := some .null, conditions := some [] }]
    (resolveDefaults rules .empty none ⟨0, 0⟩).entries = [("volume", .str "standard")] := by
  rfl

end ReportRules
