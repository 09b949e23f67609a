import ReportRules.Engine
import ReportRules.Store

/-!
# ReportRules.Service -- filling, checking and keeping reports

A service joins an engine with a store and a history. It is a value: an operation that changes
something returns the service as it is afterwards.

Reports are numbered in the order in which their submissions pass the check. A number is taken
before the report is stored and is not given back when the store refuses it. Numbers have 64 bits
and start over behind the last one, so no two of fewer than `2^64` reports of a service have the
same number.
-/

namespace ReportRules

open Calendar (Instant)

/-- An engine with the reports and visits it works on. -/
structure Service where
  engine : Engine := {}
  store : Store := .empty
  history : History := .empty
  /-- The number that the next report takes. -/
  nextNumber : UInt64 := 1

/-- Why a service does not do what it is asked. -/
inductive ServiceError
  /-- A submission has issues. -/
  | blocked (issues : List Issue)
  | store (e : StoreError)

/-- The sentence that reports an error. -/
def ServiceError.message : ServiceError → String
  | .blocked issues =>
    "submission blocked by " ++ Text.natText issues.length ++ " validation issue(s)"
  | .store e => e.message

/-- The id of the report with a number. -/
def reportId (number : UInt64) : String :=
  "sr-" ++ String.ofList (Text.paddedFigures 6 number.toNat)

namespace Service

/-- The last visit of the job that a request names, if it names one. -/
def visitFor (s : Service) (request : PrefillRequest) : Except ServiceError (Option Record) :=
  match request.jobKey with
  | none => .ok none
  | some job => (s.history.lastVisit job).mapError .store

/-- The default values for a new report. -/
def prefill (s : Service) (request : PrefillRequest) (now : Instant) :
    Except ServiceError Record := do
  let visit ← s.visitFor request
  .ok (s.engine.defaults request.job visit now)

/-- The issues of a submission. -/
def validate (s : Service) (submission : Submission) : List Issue :=
  s.engine.validate submission.form submission.units

/-- The report of a submission under a number. -/
def report (s : Service) (submission : Submission) (number : UInt64) (now : Instant) : Report :=
  { id := reportId number, jobKey := submission.jobKey, form := submission.form,
    units := submission.units.getD [],
    audit := s.engine.audit submission.form submission.units now }

/-- The service after a number has been taken. -/
def takeNumber (s : Service) : UInt64 × Service :=
  (s.nextNumber, { s with nextNumber := s.nextNumber + 1 })

/-- Store a report. -/
def keep (s : Service) (r : Report) : Except ServiceError Report × Service :=
  match s.store.insert r with
  | .ok store => (.ok r, { s with store })
  | .error e => (.error (.store e), s)

/-- Check a submission, number it and store its report. A submission with issues changes nothing. -/
def submit (s : Service) (submission : Submission) (now : Instant) :
    Except ServiceError Report × Service :=
  let issues := s.validate submission
  if issues.isEmpty then
    let (number, s) := s.takeNumber
    s.keep (s.report submission number now)
  else (.error (.blocked issues), s)

/-- The report with an id. -/
def get (s : Service) (id : String) : Except ServiceError Report :=
  (s.store.fetch id).mapError .store

/-- Put down a visit of a job. -/
def remember (s : Service) (job : String) (visit : Record) : Service :=
  { s with history := s.history.remember job visit }

/-! ## Events -/

/-- An event of the service itself. -/
def event (level : Trace.Level) (message : String) (fields : List (String × String)) :
    Trace.Event :=
  ⟨level, Trace.serviceTarget, message, fields⟩

/-- The events of asking for default values. -/
def prefillEvents (s : Service) (request : PrefillRequest) (now : Instant) : List Trace.Event :=
  match s.visitFor request with
  | .ok visit => s.engine.defaultEvents request.job visit now
  | .error _ => []

/-- The events of checking a submission. -/
def validationEvents (s : Service) (submission : Submission) : List Trace.Event :=
  s.engine.validationEvents submission.form submission.units

/-- The event that ends a submission. -/
def outcomeEvents : Except ServiceError Report → List Trace.Event
  | .ok r =>
    [event .info "service report stored"
      [("report_id", r.id), ("fees", Text.natText r.audit.fees.length)]]
  | .error (.blocked issues) =>
    [event .warn "service report submission blocked" [("issues", Text.natText issues.length)]]
  | .error (.store _) => []

/-- The events of a submission. -/
def submitEvents (s : Service) (submission : Submission) (now : Instant) : List Trace.Event :=
  let compiling :=
    if (s.validate submission).isEmpty then
      s.engine.auditEvents submission.form submission.units
    else []
  s.validationEvents submission ++ compiling ++ outcomeEvents (s.submit submission now).1

end Service

end ReportRules
