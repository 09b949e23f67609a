import ReportRules.Proofs.Audit.Gate
import ReportRules.Proofs.Service.Outcomes

/-!
# ReportRules.Proofs.Audit.Replay -- an audit is compiled again from its report

A report keeps the form, the units, the job and the audit of a submission. It does not keep whether
there was no list of units or an empty one, and the two are different questions to an audit: without
a list it does not check units one by one, with an empty list it does. The answers are the same in
every part, because both look at the form alone and neither proposes a fee for a unit. So the report
is enough: asked about the form, the units and the instant that are kept, the engine compiles the
audit that is kept.
-/

namespace ReportRules

open Calendar (Instant)

/-! ## No list of units, and an empty one -/

/-- A fee rule goes through the units that there are. -/
theorem FeeRule.candidates_some_getD (rule : FeeRule) (form : Record)
    (units : Option (List Record)) :
    rule.candidates form (some (units.getD [])) = rule.candidates form units := by
  unfold candidates
  rw [Option.getD_some]

theorem resolveFees_some_getD (rules : List FeeRule) (form : Record)
    (units : Option (List Record)) :
    resolveFees rules form (some (units.getD [])) = resolveFees rules form units := by
  unfold resolveFees
  simp only [FeeRule.candidates_some_getD]

/-- The audit's own unit loop is enabled for an empty list and not without a list. Either way there
is no unit to check, and the form is checked instead. -/
theorem validate_unitLoop_some_getD (rules : List RequirementRule) (fields : EvidenceFields)
    (form : Record) (units : Option (List Record)) :
    validate rules fields (some (Audit.unitLoop (some (units.getD [])))) form
        (some (units.getD [])) =
      validate rules fields (some (Audit.unitLoop units)) form units := by
  have checked :
      checkedUnits? (some (units.getD [])) (some (Audit.unitLoop (some (units.getD [])))) =
        checkedUnits? units (some (Audit.unitLoop units)) := by
    cases units with
    | none => rfl
    | some units => rfl
  unfold validate
  rw [checked]

/-- An audit does not tell an absent list of units from an empty one. -/
theorem Audit.compile_some_getD (requirements : List RequirementRule) (fees : List FeeRule)
    (fields : EvidenceFields) (form : Record) (units : Option (List Record)) (now : Instant) :
    compile requirements fees fields form (some (units.getD [])) now =
      compile requirements fees fields form units now := by
  unfold compile
  rw [resolveFees_some_getD, validate_unitLoop_some_getD]

/-! ## The report of a submission -/

/-- Whatever number it takes and wherever it is stored, a submission's report holds what its audit
was compiled from. -/
theorem Service.audit_report (s : Service) (submission : Submission) (number : UInt64)
    (now : Instant) :
    let r := s.report submission number now
    s.engine.audit r.form (some r.units) r.audit.compiledAt = r.audit :=
  Audit.compile_some_getD _ _ _ _ _ _

/-- **A stored report is enough to compile its audit again.** The report of a submission that is
stored is found under its id. It holds the job, the form and the units that were submitted, no units
where there was no list of them, and the engine, asked about the form, the units and the instant
that the report holds, compiles the audit that it holds. -/
theorem stored_report_replays {s s' : Service} {submission : Submission} {now : Instant}
    {r : Report} (stored : s.submit submission now = (.ok r, s')) :
    s'.get r.id = .ok r ∧ r.jobKey = submission.jobKey ∧ r.form = submission.form ∧
      r.units = submission.units.getD [] ∧ r.audit.compiledAt = now ∧
      s.engine.audit r.form (some r.units) r.audit.compiledAt = r.audit := by
  cases Service.submitted_of_submit stored with
  | stored clean reports holds absent =>
    exact ⟨Service.get_of_find? rfl (Keyed.find?_insert_self reports _ _), rfl, rfl, rfl, rfl,
      s.audit_report submission _ now⟩

/-- A damaged form with notes and without a list of units is stored, and the audit is compiled again
with the empty list that its report holds. -/
theorem damaged_form_replays :
    let s : Service := { engine := { rules := { requirements := [notesWhenDamaged] } } }
    let form : Record := .ofList [("damaged", .bool true), ("notes", .str "dent")]
    let submission : Submission := { form }
    let r := s.report submission 1 ⟨0, 0⟩
    let s' : Service :=
      { s with store := .holding (Keyed.empty.insert r.id r), nextNumber := 2 }
    s.submit submission ⟨0, 0⟩ = (.ok r, s') ∧ r.audit.triggeredRuleIds = ["damage"] ∧
      s'.get r.id = .ok r ∧ s.engine.audit form (some []) ⟨0, 0⟩ = r.audit := by
  intro s form submission r s'
  have clean : s.validate submission = [] := by decide
  have stored : s.submit submission ⟨0, 0⟩ = (.ok r, s') := by
    rw [s.submit_eq_ite, if_pos clean]
    rfl
  obtain ⟨found, -, -, -, -, replayed⟩ := stored_report_replays stored
  exact ⟨stored, by decide, found, replayed⟩

end ReportRules
