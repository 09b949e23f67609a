import ReportRules.Proofs.Keyed
import ReportRules.Service

/-!
# ReportRules.Proofs.Service.Outcomes -- what becomes of a submission

A submission that is not overtaken by others ends in one of three ways. With issues it is turned
back, and the service stays as it is. Without issues it takes a number, and then its report is
refused by the store or is in the store. `Service.Submitted` lists the three with all that they
leave behind, so nothing else has to look into `Service.submit`.
-/

namespace ReportRules

open Calendar (Instant)

/-- Only a store that holds reports takes one, and only under an id that is not taken. -/
theorem Store.insert_eq_ok_iff {s s' : Store} {r : Report} :
    s.insert r = .ok s' ↔
      ∃ reports, s = .holding reports ∧ reports.contains r.id = false ∧
        s' = .holding (reports.insert r.id r) := by
  cases s with
  | holding reports =>
    cases present : reports.contains r.id with
    | true => simp [insert, present]
    | false =>
      have taken : (Store.holding reports).insert r = .ok (.holding (reports.insert r.id r)) := by
        simp only [insert, present, Bool.false_eq_true, if_false]
      rw [taken, Except.ok.injEq]
      constructor
      · rintro rfl
        exact ⟨reports, rfl, present, rfl⟩
      · rintro ⟨others, same, -, rfl⟩
        rw [Store.holding.inj same]
  | refusing => simp [insert]
  | unreachable reason => simp [insert]

/-- A report that is in the store is what one gets. -/
theorem Service.get_of_find? {s : Service} {reports : Keyed Report} {id : String} {r : Report}
    (holds : s.store = .holding reports) (found : reports.find? id = some r) :
    s.get id = .ok r := by
  unfold Service.get Store.fetch
  rw [holds]
  simp only [found]
  rfl

namespace Service

/-- The ends of a submission: its answer, and the service after it. -/
inductive Submitted (s : Service) (submission : Submission) (now : Instant) :
    Except ServiceError Report → Service → Prop
  | blocked (found : s.validate submission ≠ []) :
      Submitted s submission now (.error (.blocked (s.validate submission))) s
  | refused (clean : s.validate submission = []) (e : StoreError)
      (refusal : s.store.insert (s.report submission s.nextNumber now) = .error e) :
      Submitted s submission now (.error (.store e)) s.takeNumber.2
  | stored (clean : s.validate submission = []) (reports : Keyed Report)
      (holds : s.store = .holding reports)
      (absent : reports.contains (reportId s.nextNumber) = false) :
      Submitted s submission now (.ok (s.report submission s.nextNumber now))
        { s.takeNumber.2 with
          store := .holding
            (reports.insert (reportId s.nextNumber) (s.report submission s.nextNumber now)) }

theorem submitted_of_submit {s after : Service} {submission : Submission} {now : Instant}
    {answer : Except ServiceError Report} (h : s.submit submission now = (answer, after)) :
    Submitted s submission now answer after := by
  unfold submit at h
  by_cases clean : s.validate submission = []
  · simp only [clean, List.isEmpty_nil, if_true] at h
    replace h : s.takeNumber.2.keep (s.report submission s.nextNumber now) = (answer, after) := h
    unfold keep at h
    cases inserted : s.takeNumber.2.store.insert (s.report submission s.nextNumber now) with
    | error e =>
      rw [inserted] at h
      cases h
      exact .refused clean e inserted
    | ok store =>
      rw [inserted] at h
      cases h
      obtain ⟨reports, holds, absent, rfl⟩ := Store.insert_eq_ok_iff.mp inserted
      exact .stored clean reports holds absent
  · simp only [List.isEmpty_iff, clean, if_false] at h
    cases h
    exact .blocked clean

theorem submit_of_issues {s : Service} {submission : Submission}
    (found : s.validate submission ≠ []) (now : Instant) :
    s.submit submission now = (.error (.blocked (s.validate submission)), s) := by
  rcases h : s.submit submission now with ⟨answer, after⟩
  cases submitted_of_submit h with
  | blocked _ => rfl
  | refused clean _ _ => exact absurd clean found
  | stored clean _ _ _ => exact absurd clean found

/-- A submission without issues is stored if its number is that of no report. -/
theorem submit_of_clean {s : Service} {submission : Submission} {reports : Keyed Report}
    (clean : s.validate submission = []) (holds : s.store = .holding reports)
    (absent : reports.contains (reportId s.nextNumber) = false) (now : Instant) :
    s.submit submission now =
      (.ok (s.report submission s.nextNumber now),
       { s.takeNumber.2 with
          store := .holding
            (reports.insert (reportId s.nextNumber) (s.report submission s.nextNumber now)) }) := by
  rcases h : s.submit submission now with ⟨answer, after⟩
  cases submitted_of_submit h with
  | blocked found => exact absurd clean found
  | refused _ e refusal =>
    have taken : s.store.insert (s.report submission s.nextNumber now) = .ok _ :=
      Store.insert_eq_ok_iff.mpr ⟨reports, holds, absent, rfl⟩
    rw [taken] at refusal
    cases refusal
  | stored _ others same _ =>
    obtain rfl : others = reports := Store.holding.inj (same.symm.trans holds)
    rfl

end Service

end ReportRules
