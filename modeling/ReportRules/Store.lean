import ReportRules.Report

/-!
# ReportRules.Store -- where reports and visits are kept

A service keeps its reports in a `Store` and looks up earlier visits in a `History`. Both may be out
of reach, and a store may be one that takes no report at all.
-/

namespace ReportRules

/-- Why a store or a history gives no answer. -/
inductive StoreError
  /-- There is a report with the same id. -/
  | conflict
  /-- There is no report with the id. -/
  | notFound
  | unavailable (reason : String)
  deriving Repr, DecidableEq

/-- The sentence that reports an error. -/
def StoreError.message : StoreError → String
  | .conflict => "record already exists"
  | .notFound => "record not found"
  | .unavailable reason => "repository unavailable: " ++ reason

/-- The reports that are kept. -/
inductive Store
  /-- Reports by their ids. -/
  | holding (reports : Keyed Report)
  /-- A store that holds no report and takes none. -/
  | refusing
  | unreachable (reason : String)

namespace Store

/-- The store without reports. -/
def empty : Store :=
  .holding .empty

/-- Add a report under an id that is not taken. -/
def insert (s : Store) (r : Report) : Except StoreError Store :=
  match s with
  | .holding reports =>
    if reports.contains r.id then .error .conflict else .ok (.holding (reports.insert r.id r))
  | .refusing => .error .conflict
  | .unreachable reason => .error (.unavailable reason)

/-- The report with an id. -/
def fetch (s : Store) (id : String) : Except StoreError Report :=
  match s with
  | .holding reports =>
    match reports.find? id with
    | some r => .ok r
    | none => .error .notFound
  | .refusing => .error .notFound
  | .unreachable reason => .error (.unavailable reason)

end Store

/-- The last visits of jobs. -/
inductive History
  /-- Visits by the keys of their jobs. -/
  | known (visits : Keyed Record)
  | unreachable (reason : String)

namespace History

/-- The history without visits. -/
def empty : History :=
  .known .empty

/-- Put down a visit; it is now the last one of its job. -/
def remember (h : History) (job : String) (visit : Record) : History :=
  match h with
  | .known visits => .known (visits.insert job visit)
  | .unreachable reason => .unreachable reason

/-- The last visit of a job, if there is one. -/
def lastVisit (h : History) (job : String) : Except StoreError (Option Record) :=
  match h with
  | .known visits => .ok (visits.find? job)
  | .unreachable reason => .error (.unavailable reason)

end History

end ReportRules
