import ReportRules.Command.Evaluate
import ReportRules.Json.Printer

/-!
# ReportRules.Command.Demo -- a sample route, step by step

The command fills a report for a sample job, submits it without the evidence that its first unit
needs, and submits it once more with the evidence. It prints what happens.
-/

namespace ReportRules.Command.Demo

open Calendar (Instant)

/-- The job of the sample route. -/
def job : String :=
  "fairgrounds-east"

/-- A record of the given values. -/
def record (members : List (String × Json)) : Record :=
  Record.ofMembers members

/-- The days since the job was visited last. -/
def visitAge : Nat :=
  21

/-- The last visit of the job. -/
def lastVisit (now : Instant) : Record :=
  let visited := now.addSeconds (-(visitAge * Calendar.secondsPerDay : Nat))
  record
    [("date", .str visited.offsetText),
     ("access_notes", .str "Gate code 4410, enter from the service lane")]

/-- What is known of the job. -/
def jobData (unitCount : Nat) : Record :=
  record [("site_contact", .str "Jordan Ellis"), ("unit_count", .nat unitCount)]

/-- The unit with a number from one. The first one is damaged, every second one is restocked. -/
def unit (number : Nat) : Record :=
  record
    [("unit_id", .str ("PT-" ++ String.ofList (Text.paddedFigures 2 number))),
     ("unit_status", .str (if number = 1 then "damaged" else "serviced")),
     ("supplies_restocked", .str (if number % 2 = 0 then "both" else "none"))]

/-- A unit with notes, photos and a location lock. -/
def withEvidence (unit : Record) : Record :=
  let photos := [Json.str "latch-1.jpg", .str "latch-2.jpg"]
  let place := [("lat", Json.float 41.5868), ("lng", .float (-93.625))]
  ((unit.insert "damage_notes" (.str "Door latch sheared off")).insert "photo_damage"
    (.arr photos)).insert "gps_lock" (.obj place)

/-- The numbers of the units. -/
def numbers (unitCount : Nat) : List Nat :=
  (List.range unitCount).map (· + 1)

/-- The units of the first submission. -/
def units (unitCount : Nat) : List Record :=
  (numbers unitCount).map unit

/-- The units of the second submission, the first of them with evidence. -/
def completeUnits (unitCount : Nat) : List Record :=
  (numbers unitCount).map fun number =>
    if number = 1 then withEvidence (unit number) else unit number

/-- The first submission: the filled form with a large volume. -/
def submission (prefilled : Record) (unitCount : Nat) : Submission :=
  { jobKey := some job, form := prefilled.insert "volume_gallons" (.int 140),
    units := some (units unitCount) }

/-- The second submission: the first one with a note on the volume and the evidence. -/
def completeSubmission (prefilled : Record) (unitCount : Nat) : Submission :=
  let first := submission prefilled unitCount
  { first with
    form := first.form.insert "overflow_notes" (.str "Spill contained with absorbent pads")
    units := some (completeUnits unitCount) }

/-! ## Lines -/

/-- A value as it is shown: a text as it is, anything else as JSON. -/
def shown : Json → String
  | .str s => s
  | value => value.compact

/-- An amount of money. -/
def amountText (amount : Float) : String :=
  "$" ++ Decimal.fixedText 2 amount

/-- The lines of a filled report. -/
def prefilledLines (prefilled : Record) : List String :=
  "Prefilled fields:" ::
    prefilled.entries.map fun (field, value) => "  - " ++ field ++ ": " ++ shown value

/-- The lines of issues. -/
def issueLines (issues : List Issue) : List String :=
  ("  Blocked by " ++ Text.natText issues.length ++ " issue(s):") ::
    issues.map fun issue => "    - [" ++ issue.kind.name ++ "] " ++ issue.message

/-- The line of a submission that fails for no fault of its own. -/
def failureLine (e : ServiceError) : String :=
  "  Submission failed: " ++ e.message

/-- The line of a proposed fee. -/
def feeLine (r : Recommendation) : String :=
  "    - " ++ r.feeName ++ " " ++ amountText r.feeAmount ++ " [" ++ r.unitId.getD "job" ++ "] " ++
    r.reason ++ (if r.autoAdded then " (auto-added)" else "")

/-- The lines of a stored report. -/
def reportLines (r : Report) : List String :=
  let summary := r.summary
  ["- Stored report " ++ summary.reportId ++ " covering " ++ Text.natText summary.unitCount ++
      " unit(s)",
    "  Triggered rules: " ++ ", ".intercalate summary.triggeredRules,
    "  Fee suggestions (" ++ Text.natText summary.feeCount ++ " totaling " ++
      amountText summary.feeTotal ++ "):"] ++
    r.audit.fees.map fun s => feeLine s.recommendation

/-- The audit of the stored report after the damage fee has been accepted. -/
def settledAudit (r : Report) : Audit :=
  r.audit.decide "damage" none .accepted

/-- The lines of an audit. -/
def auditLines (a : Audit) : List String :=
  ["  Audit payload:", (Audit.codec.encode a).pretty]

/-- The lines of the second submission. -/
def secondLines (result : Except ServiceError Report) (showAudit : Bool) : List String :=
  match result with
  | .ok r => reportLines r ++ (if showAudit then auditLines (settledAudit r) else [])
  | .error (.blocked issues) => issueLines issues
  | .error e => [failureLine e]

/-- The lines of both submissions. -/
def submissionLines (service : Service) (prefilled : Record) (unitCount : Nat)
    (showAudit : Bool) (now : Instant) : List String :=
  let (first, service) := service.submit (submission prefilled unitCount) now
  let (second, _) := service.submit (completeSubmission prefilled unitCount) now
  let secondPart :=
    ["", "Second submission attempt (evidence attached)"] ++ secondLines second showAudit
  ["", "First submission attempt (evidence still missing)"] ++
    match first with
    | .ok r => ("  Unexpectedly stored " ++ r.id) :: secondPart
    | .error (.blocked issues) => issueLines issues ++ secondPart
    | .error e => [failureLine e]

/-- The lines of a run with a service that knows the last visit of the job. -/
def runLines (service : Service) (unitCount : Nat) (showAudit : Bool) (now : Instant) :
    List String :=
  "Service report automation demo" ::
    match service.prefill { jobKey := some job, job := jobData unitCount } now with
    | .ok prefilled =>
      prefilledLines prefilled ++ submissionLines service prefilled unitCount showAudit now
    | .error e => ["  Prefill unavailable: " ++ e.message]

/-- The lines that the command prints; a route has at least one unit. Some of them go over several
lines of output. -/
def lines (vars : Config.Variables) (files : Files) (unitCount : Nat) (showAudit : Bool)
    (now : Instant) : Except Failure (List String) := do
  let engine ← loadEngine vars files none
  let service : Service := { engine, history := History.empty.remember job (lastVisit now) }
  .ok (runLines service (max unitCount 1) showAudit now)

end ReportRules.Command.Demo
