import ReportRules.Proofs.Audit.Triggering
import ReportRules.Proofs.Validation.Shortfalls
import ReportRules.Service

/-!
# ReportRules.Proofs.Audit.Gate -- the gate before the store, and the audit behind it

A submission is checked twice. The gate decides with the unit loop of the engine whether it may be
stored, and the audit that is stored with it checks again with a unit loop of its own: unit by unit
whenever there is a list of units. Nothing makes the two loops agree.

They look at the same subjects when the engine checks units one by one, or when no unit is supplied,
and then they give the same verdict. An engine that does not check units one by one looks at the
form where its audits look at the units. `gate_passes_what_audit_blocks` is a submission that such
an engine stores together with an audit that blocks it.
-/

namespace ReportRules

open Calendar (Instant)

/-! ## When there is nothing to report -/

/-- A subject has a value in every field that a triggered rule lists. -/
def FieldsGiven (rules : List RequirementRule) (subject : Record) : Prop :=
  ∀ rule ∈ rules, rule.triggers subject = true →
    ∀ field ∈ rule.requiredFields, subject.hasValue field = true

/-- A unit carries the evidence that is asked for. -/
def EvidenceMinimum.MetBy (asked : EvidenceMinimum) (fields : EvidenceFields) (unit : Record) :
    Prop :=
  asked.photos.getD 0 ≤ unit.photoCount fields.photoMarker ∧
    (asked.gps = true → unit.hasValue fields.gpsField = true) ∧
    (asked.signature = true → unit.hasValue fields.signatureField = true)

/-- A unit carries the evidence that triggered rules ask for. -/
def EvidenceGiven (rules : List RequirementRule) (fields : EvidenceFields) (unit : Record) : Prop :=
  ∀ rule ∈ rules, rule.triggers unit = true →
    ∀ asked ∈ rule.evidence, asked.MetBy fields unit

/-- A unit has all that is asked of it. -/
def UnitComplete (rules : List RequirementRule) (fields : EvidenceFields) (unit : Record) : Prop :=
  FieldsGiven rules unit ∧ EvidenceGiven rules fields unit

theorem lackingFields_eq_nil_iff (rules : List RequirementRule) (subject : Record) :
    lackingFields rules subject = [] ↔ FieldsGiven rules subject := by
  rw [List.eq_nil_iff_forall_not_mem]
  simp only [mem_lackingFields_iff, FieldsGiven]
  constructor
  · intro none rule hrule htriggers field hfield
    by_contra hvalue
    exact none field ⟨⟨rule, hrule, htriggers, hfield⟩, by simpa using hvalue⟩
  · rintro given field ⟨⟨rule, hrule, htriggers, hfield⟩, hvalue⟩
    rw [given rule hrule htriggers field hfield] at hvalue
    exact Bool.noConfusion hvalue

theorem UnitAt.evidenceShortfalls_eq_nil_iff (u : UnitAt) (unitLabel : String)
    (fields : EvidenceFields) (rule : RequirementRule) :
    u.evidenceShortfalls unitLabel fields rule = [] ↔
      ∀ asked ∈ rule.evidence, asked.MetBy fields u.record := by
  unfold evidenceShortfalls
  cases rule.evidence with
  | none => simp
  | some asked =>
    simp only [List.append_eq_nil_iff, ite_eq_right_iff, List.cons_ne_nil, imp_false, not_and,
      not_lt, Bool.not_eq_false, Option.bind_some, Option.any_some, Option.mem_some_iff,
      forall_eq', EvidenceMinimum.MetBy]
    constructor
    · rintro ⟨⟨photos, gps⟩, signature⟩
      refine ⟨?_, gps, signature⟩
      rcases Nat.eq_zero_or_pos (asked.photos.getD 0) with hzero | hpos
      · omega
      · exact photos hpos
    · rintro ⟨photos, gps, signature⟩
      exact ⟨⟨fun _ => photos, gps⟩, signature⟩

theorem UnitAt.shortfalls_eq_nil_iff (u : UnitAt) (unitLabel : String) (fields : EvidenceFields)
    (rules : List RequirementRule) :
    u.shortfalls unitLabel fields rules = [] ↔ UnitComplete rules fields u.record := by
  unfold shortfalls UnitComplete
  rw [List.append_eq_nil_iff, List.map_eq_nil_iff, lackingFields_eq_nil_iff]
  simp only [List.flatMap_eq_nil_iff, UnitAt.evidenceShortfalls_eq_nil_iff, EvidenceGiven,
    triggeredOn, List.mem_filter, and_imp]

/-- The verdict depends on the unit loop only through whether units are checked one by one. What
units are called has no influence. -/
theorem validate_eq_nil_iff (rules : List RequirementRule) (fields : EvidenceFields)
    (loop : UnitLoop) (form : Record) (units : Option (List Record)) :
    validate rules fields (some loop) form units = [] ↔
      if loop.enabled = true ∧ units.getD [] ≠ [] then
        ∀ unit ∈ units.getD [], UnitComplete rules fields unit
      else FieldsGiven rules form := by
  rw [validate_eq_shortfalls]
  unfold ReportRules.shortfalls
  cases units with
  | none => simp [lackingFields_eq_nil_iff]
  | some units =>
    simp only [Option.getD_some]
    split
    · simp only [List.flatMap_eq_nil_iff, UnitAt.shortfalls_eq_nil_iff]
      -- what a unit lacks is empty or not whatever its position is
      constructor
      · intro h unit hunit
        obtain ⟨index, hindex, rfl⟩ := List.getElem_of_mem hunit
        exact h (units[index], index) (List.mk_mem_zipIdx_iff_getElem?.mpr (by simp))
      · rintro h ⟨unit, index⟩ hunit
        exact h unit (List.fst_mem_of_mem_zipIdx hunit)
    · rw [List.map_eq_nil_iff, lackingFields_eq_nil_iff]

/-! ## Gate and audit -/

namespace Engine

/-- Whether gate and audit look at the same subjects: units are checked one by one, or there are no
units. -/
def SameSubjects (e : Engine) (units : Option (List Record)) : Prop :=
  e.unitLoop.enabled = true ∨ units.getD [] = []

theorem validate_eq_nil_iff (e : Engine) (form : Record) (units : Option (List Record)) :
    e.validate form units = [] ↔
      if e.unitLoop.enabled = true ∧ units.getD [] ≠ [] then
        ∀ unit ∈ units.getD [], UnitComplete e.rules.requirements e.evidenceFields unit
      else FieldsGiven e.rules.requirements form :=
  ReportRules.validate_eq_nil_iff e.rules.requirements e.evidenceFields e.unitLoop form units

/-- An audit checks units whenever there are any, whatever the engine's own unit loop is. -/
theorem audit_clean_iff (e : Engine) (form : Record) (units : Option (List Record))
    (now : Instant) :
    (e.audit form units now).hasBlockingIssues = false ↔
      if units.getD [] ≠ [] then
        ∀ unit ∈ units.getD [], UnitComplete e.rules.requirements e.evidenceFields unit
      else FieldsGiven e.rules.requirements form := by
  -- the audit's own loop is enabled by the presence of a list, empty or not
  have enabled : units.getD [] ≠ [] → units.isSome = true := by
    cases units <;> simp
  have blocking : (e.audit form units now).hasBlockingIssues = false ↔
      ReportRules.validate e.rules.requirements e.evidenceFields (some (Audit.unitLoop units)) form
        units = [] := by
    simp [Audit.hasBlockingIssues, Engine.audit, Audit.compile]
  rw [blocking, ReportRules.validate_eq_nil_iff]
  by_cases hunits : units.getD [] = []
  · simp [hunits]
  · rw [if_pos hunits, if_pos ⟨enabled hunits, hunits⟩]

end Engine

namespace Service

/-- A submission is turned back and changes nothing, or its report goes to the store. -/
theorem submit_eq_ite (s : Service) (submission : Submission) (now : Instant) :
    s.submit submission now =
      if s.validate submission = [] then
        s.takeNumber.2.keep (s.report submission s.nextNumber now)
      else (.error (.blocked (s.validate submission)), s) := by
  unfold submit
  simp only [List.isEmpty_iff]
  rfl

end Service

/-- **Where the gate and the audit agree.** If gate and audit look at the same subjects, then a
submission passes the gate exactly when its audit blocks nothing, and so the audit of a report that
goes to the store blocks nothing. Otherwise there are units, and the gate's verdict is about the
form alone and the audit's about the units alone. -/
theorem gate_agrees_with_audit (e : Engine) (form : Record) (units : Option (List Record))
    (now : Instant) :
    (e.SameSubjects units →
      (e.validate form units = [] ↔ (e.audit form units now).hasBlockingIssues = false) ∧
      ∀ (s : Service) (jobKey : Option String), s.engine = e →
        s.submit ⟨jobKey, form, units⟩ now =
            (.error (.blocked (e.validate form units)), s) ∨
          (s.report ⟨jobKey, form, units⟩ s.nextNumber now).audit.hasBlockingIssues = false ∧
          s.submit ⟨jobKey, form, units⟩ now =
            s.takeNumber.2.keep (s.report ⟨jobKey, form, units⟩ s.nextNumber now)) ∧
    (¬ e.SameSubjects units →
      (e.validate form units = [] ↔ FieldsGiven e.rules.requirements form) ∧
      ((e.audit form units now).hasBlockingIssues = false ↔
        ∀ unit ∈ units.getD [], UnitComplete e.rules.requirements e.evidenceFields unit)) := by
  have agree : e.SameSubjects units →
      (e.validate form units = [] ↔ (e.audit form units now).hasBlockingIssues = false) := by
    intro same
    rw [e.validate_eq_nil_iff, e.audit_clean_iff]
    rcases same with enabled | none
    · simp only [enabled, true_and]
    · simp [none]
  refine ⟨fun same => ⟨agree same, ?_⟩, fun different => ?_⟩
  · rintro s jobKey rfl
    rw [s.submit_eq_ite]
    by_cases passes : s.validate ⟨jobKey, form, units⟩ = []
    · rw [if_pos passes]
      exact Or.inr ⟨(agree same).mp passes, rfl⟩
    · rw [if_neg passes]
      exact Or.inl rfl
  · obtain ⟨disabled, some⟩ := not_or.mp different
    rw [e.validate_eq_nil_iff, e.audit_clean_iff, if_neg (fun h => disabled h.1), if_pos some]
    exact ⟨Iff.rfl, Iff.rfl⟩

/-- A damaged unit without notes. -/
def damagedUnit : Record :=
  .ofList [("damaged", .bool true)]

/-- The two verdicts differ for an engine that does not check units one by one: the empty form
passes, its damaged unit lacks notes, and the report is stored with an audit that blocks it. -/
theorem gate_passes_what_audit_blocks :
    let e : Engine := { rules := { requirements := [notesWhenDamaged] }, unitLoop := {} }
    let submission : Submission := { units := some [damagedUnit] }
    e.validate submission.form submission.units = [] ∧
      (e.audit submission.form submission.units ⟨0, 0⟩).hasBlockingIssues = true ∧
      (Service.submit { engine := e } submission ⟨0, 0⟩).1.toOption.map
        (fun r => r.audit.hasBlockingIssues) = some true := by
  decide

end ReportRules
