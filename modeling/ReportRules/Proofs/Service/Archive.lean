import ReportRules.Proofs.Audit.Followup
import ReportRules.Proofs.Audit.Replay
import ReportRules.Proofs.Fee.Position
import ReportRules.Proofs.Schema.Report
import ReportRules.Proofs.Service.Outcomes
import ReportRules.Proofs.Validation.Filling

/-!
# ReportRules.Proofs.Service.Archive -- the reports of a service survive

What a service stores was made of a rule book and a submission that were read once. Nothing is put
into a report that was not in one of the two, except for texts, the instant and the positions of
units. So a report is storable, and it stays so whatever people put down on its audit.
-/

namespace ReportRules

open Calendar (Instant)
open Json (Codec Document Shape)

/-! ## Submissions that were read -/

/-- The form and the units of the submission are as reading leaves them. -/
structure Submission.IsTidy (s : Submission) : Prop where
  form : s.form.IsTidy
  units : ∀ units, s.units = some units → ∀ unit ∈ units, unit.IsTidy

theorem Submission.yields_tidy : Submission.codec.Yields Submission.IsTidy := by
  refine Shape.Yields.codec (.iso (.and Shape.yields_any <|
    .and (Shape.yields_defaulted Codec.yields_record ?_) <|
    Shape.yields_nullable (Codec.Yields.optional (Codec.Yields.list Codec.yields_record)) ?_) _ ?_)
    "ServiceReportSubmission"
  · exact fun _ h => (List.not_mem_nil h).elim
  · exact fun _ absurdity => nomatch absurdity
  · exact fun _ h => ⟨h.2.1, h.2.2⟩

theorem Submission.IsTidy.unit {s : Submission} (h : s.IsTidy) {unit : Record}
    (among : unit ∈ s.units.getD []) : unit.IsTidy := by
  cases present : s.units with
  | none =>
    rw [present] at among
    exact (List.not_mem_nil among).elim
  | some units =>
    rw [present] at among
    exact h.units units present unit among

/-! ## Audits of what was read -/

/-- A proposed fee has the amount of a rule, and the position of a unit if it has one. -/
theorem exists_of_mem_resolveFees {rules : List FeeRule} {form : Record}
    {units : Option (List Record)} {r : Recommendation} (hr : r ∈ resolveFees rules form units) :
    (∃ rule ∈ rules, r.feeAmount = rule.feeAmount) ∧
      ∀ n, r.unitIndex = some n → n < (units.getD []).length := by
  -- an absent list of units counts as an empty one, and what is proposed is kept of the candidates
  rw [← resolveFees_some_getD, resolveFees_eq_map_kept] at hr
  obtain ⟨p, hp, rfl⟩ := List.mem_map.mp hr
  have proposed := (kept_sublist _).subset hp
  refine ⟨⟨p.rule, (mem_proposals_iff.mp proposed).1, rfl⟩, fun n hn => ?_⟩
  obtain ⟨u, hu, rfl⟩ := Option.map_eq_some_iff.mp hn
  exact (List.getElem?_eq_some_iff.mp (getElem?_of_mem_proposals proposed hu)).1

/-- The position in an issue is that of a unit. -/
theorem unitIndex_lt_of_mem_validate {rules : List RequirementRule} {fields : EvidenceFields}
    {loop : Option UnitLoop} {form : Record} {units : Option (List Record)} {i : Issue}
    (hi : i ∈ validate rules fields loop form units) {n : Nat} (hn : i.unitIndex = some n) :
    n < (units.getD []).length := by
  unfold validate at hi
  split at hi
  · rename_i unitLabel checked isChecked
    obtain ⟨_, _, _, _, rfl, _⟩ := checkedUnits?_eq_some_iff.mp isChecked
    obtain ⟨u, hu, hi⟩ := List.mem_flatMap.mp hi
    rw [UnitAt.unitIndex_of_mem_issues hi] at hn
    cases hn
    exact (List.getElem?_eq_some_iff.mp (mem_enumerate_iff.mp hu)).1
  · obtain ⟨entry, -, rfl⟩ := List.mem_map.mp hi
    cases hn

namespace Audit

/-- What is compiled from storable rules at a readable instant is storable. -/
theorem compile_storable {requirements : List RequirementRule} {fees : List FeeRule}
    {units : Option (List Record)} {now : Instant} (demands : ∀ r ∈ requirements, r.Storable)
    (charges : ∀ r ∈ fees, r.Storable) (few : (units.getD []).length ≤ 2 ^ 64)
    (readable : now.Readable) (fields : EvidenceFields) (form : Record) :
    (compile requirements fees fields form units now).Storable where
  compiledAt := readable
  evaluations := by
    intro e he
    obtain ⟨rule, -, rfl⟩ := List.mem_map.mp he
    exact readable
  triggered := by
    intro t ht
    obtain ⟨rule, triggered, rfl⟩ := List.mem_map.mp ht
    exact (demands rule (List.mem_filter.mp triggered).1).evidence
  fees := by
    intro s hs
    obtain ⟨r, hr, rfl⟩ := List.mem_map.mp hs
    obtain ⟨⟨rule, hrule, amount⟩, index⟩ := exists_of_mem_resolveFees hr
    exact ⟨amount ▸ (charges rule hrule).amount, fun n hn => (index n hn).trans_le few⟩
  blocking := fun i hi n hn => (unitIndex_lt_of_mem_validate hi hn).trans_le few
  warnings := fun i hi => (List.not_mem_nil hi).elim

/-- Decisions, tasks and notifications leave an audit storable. -/
theorem Storable.enterAll {a : Audit} (h : a.Storable) (entries : List Entry) :
    (a.enterAll entries).2.Storable := by
  rw [enterAll_snd]
  refine ⟨h.compiledAt, h.evaluations, h.triggered, ?_, h.blocking, h.warnings⟩
  intro s hs
  obtain ⟨before, among, rfl⟩ := List.mem_map.mp hs
  exact h.fees before among

end Audit

/-- **Stored reports survive their JSON form.** Rule book and submission were read from JSON, the
submission was stored, and then people put down decisions, tasks and notifications on its audit.
What is written for the report is read as the same report, in the order in which its members are
declared as well as in ascending order. So a suggestion is told from the decision that it is written
together with, and what is absent stays absent. The positions of units are numbers of 64 bits, which
are enough for any list in memory (`few`), and the text of the instant has to be read as the same
instant (`readable`). -/
theorem stored_report_survives {bookForm submissionForm : Document} (bookJson : bookForm.IsJson)
    (submissionJson : submissionForm.IsJson) {s s' : Service} {submission : Submission}
    {now : Instant} {r : Report}
    (book : RuleBook.codec.decode bookForm = .ok s.engine.rules)
    (submitted : Submission.codec.decode submissionForm = .ok submission)
    (few : (submission.units.getD []).length ≤ 2 ^ 64)
    (readable : Calendar.Timestamp.relaxed now.text = .ok now)
    (stored : s.submit submission now = (.ok r, s')) (entries : List Audit.Entry) :
    let kept : Report := { r with audit := (r.audit.enterAll entries).2 }
    Report.codec.Keeps kept ∧
      Report.codec.decode (.ofJson (Report.codec.encode kept).ordered) = .ok kept := by
  intro kept
  have rules := RuleBook.yields_storable bookJson.numbersFit book
  have tidy := Submission.yields_tidy submissionJson.numbersFit submitted
  have storable : kept.Storable := by
    cases Service.submitted_of_submit stored with
    | stored clean reports holds absent =>
      refine ⟨tidy.form, fun unit among => tidy.unit among, ?_⟩
      exact (Audit.compile_storable rules.requirements rules.fees few readable _ _).enterAll entries
  exact ⟨storable.survives.keeps, storable.survives.ordered⟩

/-- A fee for the job and one for a unit are proposed, the second one is accepted and a task is put
down. The one suggestion is written without unit and decision, the other one with both, and both
are read back. -/
theorem travel_and_odor_fees_survive :
    let condition (field : String) : Json :=
      .arr [.obj [("field", .str field), ("operator", .str "equals"), ("value", .bool true)]]
    let bookForm : Json := .obj [("fee_suggestions", .arr [
      .obj [("id", .str "r1"), ("fee_id", .str "travel"), ("fee_name", .str "Travel"),
        ("fee_amount", .int 25), ("conditions", condition "remote")],
      .obj [("id", .str "r2"), ("fee_id", .str "odor"), ("fee_name", .str "Odor"),
        ("fee_amount", .int 10), ("conditions", condition "odor"), ("scope", .str "per_unit")]])]
    let submissionForm : Json := .obj [("form_data", .obj [("remote", .bool true)]),
      ("units", .arr [.obj [("unit_id", .str "U1"), ("odor", .bool true)]])]
    let isTrue (field : String) : ConditionSet :=
      [{ field, operator := .equals, value := .bool true }]
    let rules : RuleBook := { fees := [
      { id := "r1", feeId := "travel", feeName := "Travel", feeAmount := .ofInt 25,
        conditions := isTrue "remote" },
      { id := "r2", feeId := "odor", feeName := "Odor", feeAmount := .ofInt 10,
        conditions := isTrue "odor", scope := .perUnit }] }
    let s : Service := { engine := { rules } }
    let submission : Submission :=
      { form := .ofList [("remote", .bool true)],
        units := some [.ofList [("odor", .bool true), ("unit_id", .str "U1")]] }
    let r := s.report submission 1 ⟨0, 0⟩
    let entries : List Audit.Entry :=
      [.decision "odor" (some "U1") .accepted, .task { title := "Air the rooms" }]
    let kept : Report := { r with audit := (r.audit.enterAll entries).2 }
    RuleBook.codec.decode (.ofJson bookForm) = .ok rules ∧
      Submission.codec.decode (.ofJson submissionForm) = .ok submission ∧
      (s.submit submission ⟨0, 0⟩).1 = .ok r ∧
      kept.audit.fees.map (fun f => (f.recommendation.unitId, f.decision)) =
        [(none, none), (some "U1", some .accepted)] ∧
      Report.codec.Keeps kept := by
  intro condition bookForm submissionForm isTrue rules s submission r entries kept
  have read : RuleBook.codec.decode (.ofJson bookForm) = .ok s.engine.rules := rfl
  have submitted : Submission.codec.decode (.ofJson submissionForm) = .ok submission := rfl
  have numbers : bookForm.NumbersFit := by decide
  have fit : submissionForm.NumbersFit := by decide
  have clean : s.validate submission = [] := by decide
  have few : (submission.units.getD []).length ≤ 2 ^ 64 := by decide
  have readable : Calendar.Timestamp.relaxed (Instant.mk 0 0).text = .ok ⟨0, 0⟩ := rfl
  have stored : s.submit submission ⟨0, 0⟩ = (.ok r,
      { s with store := .holding (Keyed.empty.insert r.id r), nextNumber := 2 }) := by
    rw [s.submit_eq_ite, if_pos clean]
    rfl
  refine ⟨read, submitted, congrArg Prod.fst stored, by decide, ?_⟩
  exact (stored_report_survives (.value bookForm numbers) (.value submissionForm fit) read submitted
    few readable stored entries).1

end ReportRules
