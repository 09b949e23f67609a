import ReportRules.Text.Figures
import ReportRules.Text.Words

/-!
# ReportRules.Http.Route -- what a request is about

A route is a path of the service. Paths are compared as they are written; only the id of a report
may be percent-encoded. A query or a fragment behind the path does not count, nor do a scheme and a
host in front of it.
-/

namespace ReportRules.Http

/-- The paths of the service. -/
inductive Route
  | defaults
  | validate
  | submissions
  /-- One report; the id is as written in the path. -/
  | report (id : List Char)
  | health
  | ready
  | metrics
  deriving Repr, DecidableEq

/-- A path without the scheme and the host that may stand in front of it. -/
def withoutOrigin (cs : List Char) : List Char :=
  match cs.dropWhile (· != ':') with
  | ':' :: '/' :: '/' :: rest => if cs.head? == some '/' then cs else rest.dropWhile (· != '/')
  | _ => cs

/-- The path of a request target. -/
def pathOf (target : String) : List Char :=
  withoutOrigin (target.toList.takeWhile fun c => c != '?' && c != '#')

/-- The route of a request target. -/
def Route.ofTarget? (target : String) : Option Route :=
  match (Text.pieces (· == '/') (pathOf target)).map String.ofList with
  | ["", "health"] => some .health
  | ["", "ready"] => some .ready
  | ["", "metrics"] => some .metrics
  | ["", "api", "v1", "service-reports", "defaults"] => some .defaults
  | ["", "api", "v1", "service-reports", "validate"] => some .validate
  | ["", "api", "v1", "service-reports", "submissions"] => some .submissions
  | ["", "api", "v1", "service-reports", "submissions", id] =>
    if id.isEmpty then none else some (.report id.toList)
  | _ => none

/-- The bytes of a percent-encoded text; a percent sign without two hexadecimal digits behind it
stands for itself. -/
def percentBytes : List Char → List UInt8
  | [] => []
  | '%' :: high :: low :: rest =>
    match Text.hexValue? high, Text.hexValue? low with
    | some h, some l => UInt8.ofNat (16 * h + l) :: percentBytes rest
    | _, _ => UInt8.ofNat '%'.toNat :: percentBytes (high :: low :: rest)
  | c :: rest => (String.ofList [c]).toUTF8.toList ++ percentBytes rest

/-- The text that a percent-encoded text stands for, if its bytes are text. -/
def percentDecode? (cs : List Char) : Option String :=
  String.fromUTF8? ⟨(percentBytes cs).toArray⟩

end ReportRules.Http
