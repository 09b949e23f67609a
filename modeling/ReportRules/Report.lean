import ReportRules.Audit

/-!
# ReportRules.Report -- submissions, and the reports that are kept of them

A submission is what a form hands in for a job; a report is what is kept of it, with its audit.
-/

namespace ReportRules

/-- The job of a record that is to be filled beforehand. -/
structure PrefillRequest where
  /-- The key of the job, under which its visits are known. -/
  jobKey : Option String := none
  job : Record := Keyed.empty

/-- A completed form, with one record for each serviced unit if units were serviced. -/
structure Submission where
  jobKey : Option String := none
  form : Record := Keyed.empty
  units : Option (List Record) := none

/-- A stored submission and its audit. -/
structure Report where
  id : String
  jobKey : Option String := none
  form : Record
  units : List Record := []
  audit : Audit

/-- A short view of a report. -/
structure Summary where
  reportId : String
  unitCount : Nat
  triggeredRules : List String
  feeCount : Nat
  feeTotal : Float

namespace Report

/-- The amounts of the proposed fees, added up in order. The empty sum is the negative zero, which
changes no double it is added to. -/
def feeTotal (r : Report) : Float :=
  (r.audit.fees.map fun s => s.recommendation.feeAmount).foldl (· + ·) (-0.0)

/-- The short view of a report. -/
def summary (r : Report) : Summary :=
  { reportId := r.id, unitCount := r.units.length, triggeredRules := r.audit.triggeredRuleIds,
    feeCount := r.audit.fees.length, feeTotal := r.feeTotal }

end Report

end ReportRules
