import ReportRules.Http.MediaType
import ReportRules.Http.Route
import ReportRules.Schema.Report
import ReportRules.Service

/-!
# ReportRules.Http.Server -- answers to requests

A request is answered with a status, and usually a body. What is wrong with a request is looked for
in this order: its path, its method, the type of its body, its length, the body itself. A body that
is not JSON at its front is refused with 400, one that is JSON of the wrong shape with 422.
-/

namespace ReportRules.Http

open Calendar (Instant)
open Json (Codec DecodeError)

/-- A request. -/
structure Request where
  method : String
  /-- The path, possibly with a query. -/
  target : String
  contentType : Option String := none
  /-- The text of the body. A body whose bytes are no UTF-8 is outside of this library. -/
  body : String := ""

/-- The body of an answer. -/
inductive Body
  | none
  | json (value : Json)
  | text (text : String)

/-- An answer. -/
structure Response where
  status : Nat
  body : Body := .none
  /-- The methods that the path allows, where the method is not one of them. -/
  allow : Option String := none

/-- The service behind the routes, and whether it is ready to answer. -/
structure Server where
  service : Service
  ready : Bool := true

namespace Response

/-- An answer with a JSON body. -/
def json (status : Nat) (value : Json) : Response :=
  { status, body := .json value }

/-- An answer that reports a failure of the service. -/
def failure (e : ServiceError) : Response :=
  .json 500 (.obj [("error", .str e.message)])

end Response

/-- The number of bytes that a body may have. -/
def bodyLimit : Nat :=
  2 * 1024 * 1024

/-- The value that the body of a request holds, or the answer that refuses the body. -/
def Request.read {α : Type} (r : Request) (c : Codec α) : Except Response α :=
  if (r.contentType.bind MediaType.read?).any MediaType.isJson then
    if bodyLimit < r.body.utf8ByteSize then .error { status := 413 }
    else
      match c.ofFrontOfText r.body with
      | .ok value => .ok value
      | .error (.malformed _) => .error { status := 400 }
      | .error (.mismatch _) => .error { status := 422 }
  else .error { status := 415 }

/-- The method that a route is asked with, as an answer lists it; what can be read can also be asked
for without its body. -/
def Route.allowed : Route → String
  | .defaults | .validate | .submissions => "POST"
  | .report _ | .health | .ready | .metrics => "GET,HEAD"

/-- Whether a route answers to a method. -/
def Route.allows (route : Route) (method : String) : Bool :=
  match route with
  | .defaults | .validate | .submissions => method == "POST"
  | .report _ | .health | .ready | .metrics => method == "GET" || method == "HEAD"

namespace Server

/-- The answer with default values. -/
def prefill (s : Server) (request : PrefillRequest) (now : Instant) : Response :=
  match s.service.prefill request now with
  | .ok defaults => .json 200 defaults.toJson
  | .error e => .failure e

/-- The answer with issues. -/
def validate (s : Server) (submission : Submission) : Response :=
  .json 200 (.obj [("issues", .arr ((s.service.validate submission).map Issue.codec.encode))])

/-- The answer to a submission. -/
def submitted : Except ServiceError Report → Response
  | .ok r => .json 201 (.obj [("report_id", .str r.id), ("audit", Audit.codec.encode r.audit)])
  | .error (.blocked issues) =>
    .json 422
      (.obj
        [("error", .str "submission blocked by validation issues"),
         ("issues", .arr (issues.map Issue.codec.encode))])
  | .error (.store .conflict) =>
    .json 409 (.obj [("error", .str "service report already exists")])
  | .error e => .failure e

/-- The answer with a report. -/
def report (s : Server) (id : String) : Response :=
  match s.service.get id with
  | .ok r => .json 200 (Report.codec.encode r)
  | .error (.store .notFound) =>
    .json 404 (.obj [("report_id", .str id), ("error", .str "service report not found")])
  | .error e => .failure e

/-- The answer that tells whether the service is ready. -/
def readiness (s : Server) : Response :=
  if s.ready then .json 200 (.obj [("status", .str "ready")])
  else .json 503 (.obj [("status", .str "initializing")])

/-- The answer of a route, for a method that it allows. -/
def answer (s : Server) (route : Route) (r : Request) (now : Instant) : Response × Server :=
  match route with
  | .defaults =>
    match r.read PrefillRequest.codec with
    | .ok request => (s.prefill request now, s)
    | .error refusal => (refusal, s)
  | .validate =>
    match r.read Submission.codec with
    | .ok submission => (s.validate submission, s)
    | .error refusal => (refusal, s)
  | .submissions =>
    match r.read Submission.codec with
    | .ok submission =>
      let (result, service) := s.service.submit submission now
      (submitted result, { s with service })
    | .error refusal => (refusal, s)
  | .report id =>
    match percentDecode? id with
    | some id => (s.report id, s)
    | none => ({ status := 400 }, s)
  | .health => (.json 200 (.obj [("status", .str "ok")]), s)
  | .ready => (s.readiness, s)
  | .metrics => ({ status := 200, body := .text "" }, s)

/-- The answer to a request, and the server after it. -/
def handle (s : Server) (r : Request) (now : Instant) : Response × Server :=
  match Route.ofTarget? r.target with
  | none => ({ status := 404 }, s)
  | some route =>
    if route.allows r.method then
      let (response, after) := s.answer route r now
      (if r.method = "HEAD" then { response with body := .none } else response, after)
    else ({ status := 405, allow := some route.allowed }, s)

end Server

end ReportRules.Http
