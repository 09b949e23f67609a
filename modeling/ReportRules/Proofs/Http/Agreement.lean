import ReportRules.Http.Server
import ReportRules.Proofs.Audit.Gate
import ReportRules.Proofs.Http.Path
import ReportRules.Proofs.Service.Interleaving

/-!
# ReportRules.Proofs.Http.Agreement -- the routes tell the same story

Checking a submission, handing it in and asking for its report are three routes, and each has its
own way of answering. Over a store that starts empty they agree at any point of a run: the check
announces what handing in will be answered, and what was handed in is what one gets.

Numbers are taken by all services of a process, so a run also has moments at which another service
takes one.
-/

namespace ReportRules.Http

open Calendar (Instant)

/-! ## Events, requests and answers -/

/-- What may happen next to a server. -/
inductive Event
  | request (r : Request) (now : Instant)
  /-- Another service of the process takes a number. -/
  | numberTaken

namespace Server

/-- The answer that an event calls for, and the server after it. -/
def step (s : Server) : Event → Option Response × Server
  | .request r now =>
    let (answer, after) := s.handle r now
    (some answer, after)
  | .numberTaken => (none, { s with service := s.service.takeNumber.2 })

/-- The answers of a run, and the server after it. -/
def run (s : Server) : List Event → List Response × Server
  | [] => ([], s)
  | e :: rest =>
    let (answer, next) := s.step e
    let (answers, after) := next.run rest
    (answer.toList ++ answers, after)

end Server

/-- An answer that shows the id of a report that was made. -/
def Response.Created (answer : Response) (id : String) : Prop :=
  ∃ audit, answer = .json 201 (.obj [("report_id", .str id), ("audit", audit)])

/-- A request that posts a submission to a route. -/
structure Request.Posts (r : Request) (route : Route) (submission : Submission) : Prop where
  method : r.method = "POST"
  target : Route.ofTarget? r.target = some route
  body : r.read Submission.codec = .ok submission

/-- A request for the report with an id. -/
structure Request.Gets (r : Request) (id : String) : Prop where
  method : r.method = "GET"
  target : ∃ written, Route.ofTarget? r.target = some (.report written) ∧
    percentDecode? written = some id

theorem Response.not_created {answer : Response} (other : answer.status ≠ 201) (id : String) :
    ¬ answer.Created id := by
  rintro ⟨audit, rfl⟩
  exact other rfl

/-- The path with an id that was given out asks for the report with that id. -/
theorem Request.gets_reportPath (number : UInt64) :
    ({ method := "GET", target := reportPath (reportId number) } : Request).Gets
      (reportId number) where
  method := rfl
  target := ⟨_, ofTarget?_reportId number, percentDecode?_reportId number⟩

@[simp]
theorem Response.status_json (status : Nat) (value : Json) :
    (Response.json status value).status = status := rfl

@[simp]
theorem Response.status_failure (e : ServiceError) : (Response.failure e).status = 500 := rfl

theorem Request.status_refusal {α : Type} {r : Request} {c : Json.Codec α} {refusal : Response}
    (h : r.read c = .error refusal) : refusal.status ≠ 201 := by
  unfold Request.read at h
  split at h
  · split at h
    · cases h
      decide
    · split at h <;> cases h <;> decide
  · cases h
    decide

namespace Server

variable {s t : Server}

/-! ## What an event does -/

theorem status_prefill (s : Server) (request : PrefillRequest) (now : Instant) :
    (s.prefill request now).status ≠ 201 := by
  unfold prefill
  split <;> simp

theorem status_report (s : Server) (id : String) : (s.report id).status ≠ 201 := by
  unfold report
  split <;> simp

theorem status_readiness (s : Server) : s.readiness.status ≠ 201 := by
  unfold readiness
  split <;> simp

theorem status_submitted_error (e : ServiceError) : (submitted (.error e)).status ≠ 201 := by
  unfold submitted
  split <;> simp_all

theorem created_submitted_iff {r : Report} {id : String} :
    (submitted (.ok r)).Created id ↔ id = r.id := by
  constructor
  · rintro ⟨audit, h⟩
    have body := congrArg Response.body h
    simp only [submitted, Response.json, Body.json.injEq, Json.obj.injEq, List.cons.injEq,
      Prod.mk.injEq, Json.str.injEq] at body
    exact body.1.2.symm
  · rintro rfl
    exact ⟨Audit.codec.encode r.audit, rfl⟩

/-- A route to which nothing is handed in makes no report and leaves the server as it is. -/
theorem answer_of_ne_submissions (s : Server) {route : Route} (other : route ≠ .submissions)
    (r : Request) (now : Instant) :
    (s.answer route r now).1.status ≠ 201 ∧ (s.answer route r now).2 = s := by
  cases route with
  | submissions => exact absurd rfl other
  | defaults =>
    cases body : r.read PrefillRequest.codec with
    | error refusal => simpa [answer, body] using Request.status_refusal body
    | ok request => simpa [answer, body] using s.status_prefill request now
  | validate =>
    cases body : r.read Submission.codec with
    | error refusal => simpa [answer, body] using Request.status_refusal body
    | ok submission => simp [answer, body, validate]
  | report written =>
    cases decoded : percentDecode? written with
    | none => simp [answer, decoded]
    | some id => simpa [answer, decoded] using s.status_report id
  | ready => exact ⟨s.status_readiness, rfl⟩
  | health => simp [answer]
  | metrics => simp [answer]

/-- The steps of a server: what it answers, and what has changed after it. The answer with 201 comes
with a report in the store, and no other step changes what is stored. -/
inductive Stepped (s : Server) : Option Response → Server → Prop
  | unchanged (answer : Option Response) (other : ∀ a ∈ answer, a.status ≠ 201) :
      Stepped s answer s
  | numbered (answer : Option Response) (other : ∀ a ∈ answer, a.status ≠ 201) :
      Stepped s answer { s with service := s.service.takeNumber.2 }
  | stored (r : Report) (fresh : r.id = reportId s.service.nextNumber) (reports : Keyed Report)
      (holds : s.service.store = .holding reports) (absent : reports.contains r.id = false) :
      Stepped s (some (submitted (.ok r)))
        { s with service :=
          { s.service.takeNumber.2 with store := .holding (reports.insert r.id r) } }

theorem stepped_answer (s : Server) (route : Route) (r : Request) (now : Instant) :
    Stepped s (some (s.answer route r now).1) (s.answer route r now).2 := by
  by_cases route_eq : route = .submissions
  · subst route_eq
    cases body : r.read Submission.codec with
    | error refusal =>
      simp only [answer, body]
      exact .unchanged _ (by simpa using Request.status_refusal body)
    | ok submission =>
      simp only [answer, body]
      rcases ended : s.service.submit submission now with ⟨result, after⟩
      cases Service.submitted_of_submit ended with
      | blocked found => exact .unchanged _ (by simpa using status_submitted_error _)
      | refused clean e refusal => exact .numbered _ (by simpa using status_submitted_error _)
      | stored clean reports holds absent =>
        exact .stored _ rfl reports holds absent
  · obtain ⟨status, same⟩ := s.answer_of_ne_submissions route_eq r now
    rw [same]
    exact .unchanged _ (by simpa using status)

theorem handle_eq_answer {route : Route} {r : Request}
    (target : Route.ofTarget? r.target = some route) (allowed : route.allows r.method = true)
    (whole : r.method ≠ "HEAD") (s : Server) (now : Instant) :
    s.handle r now = s.answer route r now := by
  unfold handle
  rw [target]
  simp only [allowed, whole, if_true, if_false]

theorem stepped_handle (s : Server) (r : Request) (now : Instant) :
    Stepped s (some (s.handle r now).1) (s.handle r now).2 := by
  cases target : Route.ofTarget? r.target with
  | none =>
    simp only [handle, target]
    exact .unchanged _ (by simp)
  | some route =>
    by_cases allowed : route.allows r.method = true
    · by_cases head : r.method = "HEAD"
      · -- the answer is cut short, but nothing can be handed in this way
        rw [head] at allowed
        have other : route ≠ .submissions := by
          rintro rfl
          exact absurd allowed (by decide)
        obtain ⟨status, same⟩ := s.answer_of_ne_submissions other r now
        simp only [handle, target, head, allowed, if_true, same]
        refine .unchanged _ ?_
        rintro a ⟨⟩
        exact status
      · rw [handle_eq_answer target allowed head]
        exact s.stepped_answer route r now
    · simp only [handle, target, allowed]
      exact .unchanged _ (by simp)

theorem stepped_step (s : Server) (e : Event) : Stepped s (s.step e).1 (s.step e).2 := by
  cases e with
  | request r now =>
    simp only [step]
    exact s.stepped_handle r now
  | numberTaken => exact .numbered none (by simp)

/-! ## What a run leaves behind -/

/-- No report leaves the store. -/
theorem find?_step {answer : Option Response} (stepped : Stepped s answer t)
    {reports : Keyed Report} {id : String} {r : Report}
    (holds : s.service.store = .holding reports) (found : reports.find? id = some r) :
    ∃ reports', t.service.store = .holding reports' ∧ reports'.find? id = some r := by
  cases stepped with
  | unchanged _ _ => exact ⟨reports, holds, found⟩
  | numbered _ _ => exact ⟨reports, holds, found⟩
  | stored q _ others same absent =>
    obtain rfl : others = reports := Store.holding.inj (same.symm.trans holds)
    exact ⟨_, rfl, (Keyed.find?_insert_eq_some_iff absent q).mpr (Or.inl found)⟩

theorem find?_run (s : Server) (events : List Event) {reports : Keyed Report} {id : String}
    {r : Report} (holds : s.service.store = .holding reports)
    (found : reports.find? id = some r) :
    ∃ reports', (s.run events).2.service.store = .holding reports' ∧
      reports'.find? id = some r := by
  induction events generalizing s reports with
  | nil => exact ⟨reports, holds, found⟩
  | cons e rest ih =>
    obtain ⟨reports', holds', found'⟩ := find?_step (s.stepped_step e) holds found
    exact ih _ holds' found'

/-- What has become of a server with an empty store: the rules are the same, some numbers are taken,
and the reports are those whose ids the answers show. -/
structure Kept (s t : Server) (answers : List Response) (taken : Nat) (reports : Keyed Report) :
    Prop where
  engine : t.service.engine = s.service.engine
  number : t.service.nextNumber = s.service.nextNumber + UInt64.ofNat taken
  holds : t.service.store = .holding reports
  numbered : ∀ id, reports.contains id = true → id ∈ Traffic.idsFrom s.service.nextNumber taken
  created : ∀ id, reports.contains id = true ↔ ∃ answer ∈ answers, answer.Created id

theorem Kept.start (s : Server) (empty : s.service.store = .empty) :
    Kept s s [] 0 Keyed.empty where
  engine := rfl
  number := (UInt64.add_zero s.service.nextNumber).symm
  holds := empty
  numbered := by simp [Keyed.contains]
  created := by simp [Keyed.contains]

variable {answers : List Response} {taken : Nat} {reports : Keyed Report}

/-- A number that is not taken is that of no report. -/
theorem Kept.absent (h : Kept s t answers taken reports) (few : taken < 2 ^ 64) :
    reports.contains (reportId t.service.nextNumber) = false := by
  have nodup := Traffic.nodup_idsFrom s.service.nextNumber (Nat.succ_le_of_lt few)
  rw [Traffic.idsFrom_succ, ← h.number, ← List.concat_eq_append, List.nodup_concat] at nodup
  by_contra present
  exact nodup.1 (h.numbered _ (by simpa using present))

theorem Kept.unchanged (h : Kept s t answers taken reports) {answer : Option Response}
    (other : ∀ a ∈ answer, a.status ≠ 201) :
    Kept s t (answers ++ answer.toList) taken reports := by
  refine ⟨h.engine, h.number, h.holds, h.numbered, fun id => ?_⟩
  have none : ¬ ∃ a ∈ answer.toList, a.Created id := by
    rintro ⟨a, ha, shown⟩
    exact Response.not_created (other a (Option.mem_toList.mp ha)) id shown
  rw [h.created id]
  simp only [List.mem_append, or_and_right, exists_or, none, or_false]

theorem Kept.numberTaken (h : Kept s t answers taken reports) :
    Kept s { t with service := t.service.takeNumber.2 } answers (taken + 1) reports where
  engine := h.engine
  number := by
    show t.service.nextNumber + 1 = s.service.nextNumber + UInt64.ofNat (taken + 1)
    rw [h.number, UInt64.ofNat_add, UInt64.add_assoc]
    rfl
  holds := h.holds
  numbered := by
    intro id present
    rw [Traffic.idsFrom_succ]
    exact List.mem_append_left _ (h.numbered id present)
  created := h.created

theorem Kept.insert (h : Kept s t answers (taken + 1) reports) {r : Report}
    (own : r.id ∈ Traffic.idsFrom s.service.nextNumber (taken + 1)) :
    Kept s { t with service := { t.service with store := .holding (reports.insert r.id r) } }
      (answers ++ [submitted (.ok r)]) (taken + 1) (reports.insert r.id r) := by
  refine ⟨h.engine, h.number, rfl, fun id present => ?_, fun id => ?_⟩
  · rcases Keyed.contains_insert.mp present with rfl | present
    · exact own
    · exact h.numbered id present
  · rw [Keyed.contains_insert, h.created id, or_comm]
    simp only [List.mem_append, or_and_right, exists_or, List.mem_singleton, exists_eq_left,
      created_submitted_iff]

theorem Kept.step (h : Kept s t answers taken reports) {answer : Option Response} {u : Server}
    (stepped : Stepped t answer u) :
    ∃ taken' reports', taken' ≤ taken + 1 ∧
      Kept s u (answers ++ answer.toList) taken' reports' := by
  cases stepped with
  | unchanged _ other => exact ⟨taken, reports, Nat.le_succ taken, h.unchanged other⟩
  | numbered _ other => exact ⟨taken + 1, reports, le_rfl, h.numberTaken.unchanged other⟩
  | stored r fresh others same absent =>
    obtain rfl : others = reports := Store.holding.inj (same.symm.trans h.holds)
    refine ⟨taken + 1, _, le_rfl, h.numberTaken.insert ?_⟩
    rw [Traffic.idsFrom_succ, fresh, h.number]
    exact List.mem_append_right _ (List.mem_singleton_self _)

/-- A run takes at most one number for each of its events. -/
theorem Kept.run (h : Kept s t answers taken reports) (events : List Event) :
    ∃ taken' reports', taken' ≤ taken + events.length ∧
      Kept s (t.run events).2 (answers ++ (t.run events).1) taken' reports' := by
  induction events generalizing t answers taken reports with
  | nil => exact ⟨taken, reports, le_rfl, by simpa [Server.run] using h⟩
  | cons e rest ih =>
    obtain ⟨taken', reports', one, step⟩ := h.step (t.stepped_step e)
    obtain ⟨taken'', reports'', more, run⟩ := ih step
    refine ⟨taken'', reports'', ?_, ?_⟩
    · rw [List.length_cons]
      omega
    · rw [List.append_assoc] at run
      exact run

/-! ## Agreement -/

theorem handle_post {route : Route} {r : Request} {submission : Submission}
    (posts : r.Posts route submission) (allowed : route.allows "POST" = true) (s : Server)
    (now : Instant) : s.handle r now = s.answer route r now := by
  have whole : r.method ≠ "HEAD" := by
    rw [posts.method]
    decide
  rw [← posts.method] at allowed
  exact handle_eq_answer posts.target allowed whole s now

theorem handle_validate {r : Request} {submission : Submission}
    (posts : r.Posts .validate submission) (s : Server) (now : Instant) :
    s.handle r now = (s.validate submission, s) := by
  rw [handle_post posts (by decide)]
  simp only [answer, posts.body]

theorem handle_submissions {r : Request} {submission : Submission}
    (posts : r.Posts .submissions submission) (s : Server) (now : Instant) :
    s.handle r now =
      (submitted (s.service.submit submission now).1,
       { s with service := (s.service.submit submission now).2 }) := by
  rw [handle_post posts (by decide)]
  simp only [answer, posts.body]

theorem handle_report {r : Request} {id : String} (gets : r.Gets id) (s : Server)
    (now : Instant) : s.handle r now = (s.report id, s) := by
  obtain ⟨written, target, decoded⟩ := gets.target
  have whole : r.method ≠ "HEAD" := by
    rw [gets.method]
    decide
  have allowed : (Route.report written).allows r.method = true := by
    rw [gets.method]
    rfl
  rw [handle_eq_answer target allowed whole]
  simp only [answer, decoded]

theorem report_of_find? {id : String} {r : Report} (holds : s.service.store = .holding reports)
    (found : reports.find? id = some r) : s.report id = .json 200 (Report.codec.encode r) := by
  unfold report
  rw [Service.get_of_find? holds found]

theorem report_of_absent {id : String} (holds : s.service.store = .holding reports)
    (absent : reports.contains id = false) :
    s.report id =
      .json 404
        (.obj [("report_id", .str id), ("error", .str "service report not found")]) := by
  have nothing : reports.find? id = none := by simpa [Keyed.contains] using absent
  unfold report Service.get Store.fetch
  rw [holds]
  simp only [nothing]
  rfl

/-- **The routes agree.** Let a server start with an empty store, let fewer events than there are
numbers come to it, and take any submission. After these events:

* posting it to be checked is answered with its issues, which are those that the rules of the
  server find in it;
* if there are issues, handing it in is answered with the same issues and changes nothing;
* if there are none, handing it in is answered with an id, and whatever happens later, asking for
  that id is answered with what was handed in and the audit that came with the id;
* asking for an id that no answer has shown is answered with 404. -/
theorem routes_agree (s : Server) (empty : s.service.store = .empty) (events : List Event)
    (few : events.length < 2 ^ 64) (submission : Submission) :
    let t := (s.run events).2
    let issues := (s.service.validate submission).map Issue.codec.encode
    (∀ (r : Request) (now : Instant), r.Posts .validate submission →
      t.handle r now = (.json 200 (.obj [("issues", .arr issues)]), t)) ∧
    (∀ (r : Request) (now : Instant), r.Posts .submissions submission → issues ≠ [] →
      t.handle r now =
        (.json 422
          (.obj
            [("error", .str "submission blocked by validation issues"),
             ("issues", .arr issues)]), t)) ∧
    (∀ (r : Request) (now : Instant), r.Posts .submissions submission → issues = [] →
      ∃ id audit,
        (t.handle r now).1 = .json 201 (.obj [("report_id", .str id), ("audit", audit)]) ∧
        ({ method := "GET", target := reportPath id } : Request).Gets id ∧
        ∀ (later : List Event) (get : Request) (time : Instant), get.Gets id →
          let u := ((t.handle r now).2.run later).2
          u.handle get time =
            (.json 200
              (.obj
                [("report_id", .str id),
                 ("job_key", (submission.jobKey.map Json.str).getD .null),
                 ("form_data", .obj submission.form.entries),
                 ("units", .arr ((submission.units.getD []).map fun unit => .obj unit.entries)),
                 ("audit", audit)]), u)) ∧
    ∀ (get : Request) (id : String) (now : Instant), get.Gets id →
      (∀ answer ∈ (s.run events).1, ¬ answer.Created id) →
      t.handle get now =
        (.json 404
          (.obj [("report_id", .str id), ("error", .str "service report not found")]), t) := by
  intro t issues
  obtain ⟨taken, reports, bound, kept⟩ := (Kept.start s empty).run events
  rw [List.nil_append] at kept
  have verdict : t.service.validate submission = s.service.validate submission := by
    rw [Service.validate, Service.validate, kept.engine]
  have absent : reports.contains (reportId t.service.nextNumber) = false := kept.absent (by omega)
  refine ⟨?_, ?_, ?_, ?_⟩
  · intro r now posts
    rw [handle_validate posts, validate, verdict]
  · intro r now posts found
    have found' : t.service.validate submission ≠ [] := by
      rw [verdict]
      exact fun none => found (List.map_eq_nil_iff.mpr none)
    rw [handle_submissions posts, Service.submit_of_issues found', verdict]
    rfl
  · intro r now posts none
    have clean : t.service.validate submission = [] := by
      rw [verdict]
      exact List.map_eq_nil_iff.mp none
    let made := t.service.report submission t.service.nextNumber now
    let next : Server :=
      { t with service :=
        { t.service.takeNumber.2 with store := .holding (reports.insert made.id made) } }
    have handedIn : t.handle r now = (submitted (.ok made), next) := by
      rw [handle_submissions posts, Service.submit_of_clean clean kept.holds absent]
      rfl
    rw [handedIn]
    refine ⟨made.id, Audit.codec.encode made.audit, rfl, Request.gets_reportPath _, ?_⟩
    intro later get time gets u
    obtain ⟨after, holds, found⟩ :=
      next.find?_run later rfl (Keyed.find?_insert_self reports made.id made)
    rw [handle_report gets, report_of_find? holds found]
    rfl
  · intro get id now gets unseen
    rw [handle_report gets, report_of_absent kept.holds ?_]
    by_contra present
    obtain ⟨answer, seen, shown⟩ := (kept.created id).mp (by simpa using present)
    exact unseen answer seen shown

/-- A request that posts a JSON text. -/
def jsonPost (target body : String) : Request :=
  { method := "POST", target, contentType := some "application/json", body }

theorem read_jsonPost {α : Type} {c : Json.Codec α} {target body : String} {cs : List Char}
    {root : Json.Document} {value : α} (short : body.utf8ByteSize ≤ bodyLimit)
    (chars : body.toList = cs)
    (document : Json.Reader.readValue (2 * cs.length + 2) 0 cs = (root, some []))
    (decoded : c.decode root = .ok value) : (jsonPost target body).read c = .ok value := by
  have type : ((some "application/json").bind MediaType.read?).any MediaType.isJson = true := by
    decide +kernel
  have source : Json.Source.read body = ⟨root, false⟩ := by
    simp only [Json.Source.read, chars, document]
    rfl
  simp only [Request.read, jsonPost, type, if_true, Nat.not_lt.mpr short, if_false,
    Json.Codec.ofFrontOfText, source, decoded]

/-- A server that asks for notes on damage, after another service has taken a number: a damaged form
without notes is turned back with what the check announced, an empty form is found under its id, and
nothing is found under an id that was not given out. -/
theorem damaged_form_turned_back_empty_form_found :
    let e : Engine := { rules := { requirements := [notesWhenDamaged] } }
    let s : Server := { service := { engine := e } }
    let t := (s.run [.numberTaken]).2
    let damaged := "\x7b\"form_data\":\x7b\"damaged\":true\x7d\x7d"
    let check := jsonPost "/api/v1/service-reports/validate"
    let handIn := jsonPost submissionsPath
    let get (id : String) : Request := { method := "GET", target := reportPath id }
    s.service.store = .empty ∧
      (∃ issues, issues ≠ [] ∧
        t.handle (check damaged) ⟨0, 0⟩ = (.json 200 (.obj [("issues", .arr issues)]), t) ∧
        t.handle (handIn damaged) ⟨0, 0⟩ =
          (.json 422
            (.obj
              [("error", .str "submission blocked by validation issues"),
               ("issues", .arr issues)]), t)) ∧
      (∃ id audit,
        (t.handle (handIn "\x7b\x7d") ⟨0, 0⟩).1 =
          .json 201 (.obj [("report_id", .str id), ("audit", audit)]) ∧
        (((t.handle (handIn "\x7b\x7d") ⟨0, 0⟩).2.run [.numberTaken]).2.handle
            (get id) ⟨1, 0⟩).1 =
          .json 200
            (.obj
              [("report_id", .str id), ("job_key", .null), ("form_data", .obj []),
               ("units", .arr []), ("audit", audit)])) ∧
      t.handle (get (reportId 9)) ⟨1, 0⟩ =
        (.json 404
          (.obj
            [("report_id", .str (reportId 9)),
             ("error", .str "service report not found")]), t) := by
  intro e s t damaged check handIn get
  have empty : s.service.store = .empty := rfl
  have routeChecks : Route.ofTarget? "/api/v1/service-reports/validate" = some .validate := by
    decide +kernel
  have routeHandsIn : Route.ofTarget? submissionsPath = some .submissions := by decide +kernel
  let form : Submission := { form := .ofList [("damaged", .bool true)] }
  have readForm (target : String) : (jsonPost target damaged).read Submission.codec = .ok form :=
    read_jsonPost (by decide +kernel) String.toList_ofList rfl rfl
  have readEmpty (target : String) :
      (jsonPost target "\x7b\x7d").read Submission.codec = .ok {} :=
    read_jsonPost (by decide +kernel) String.toList_ofList rfl rfl
  have found : (s.service.validate form).map Issue.codec.encode ≠ [] := by
    rw [Ne, List.map_eq_nil_iff]
    decide
  obtain ⟨checks, turnsBack, -, -⟩ := routes_agree s empty [.numberTaken] (by decide) form
  obtain ⟨-, -, stores, misses⟩ := routes_agree s empty [.numberTaken] (by decide) {}
  obtain ⟨id, audit, created, gets, finds⟩ :=
    stores (handIn "\x7b\x7d") ⟨0, 0⟩ ⟨rfl, routeHandsIn, readEmpty _⟩ rfl
  refine ⟨empty, ⟨_, found, checks _ _ ⟨rfl, routeChecks, readForm _⟩,
    turnsBack _ _ ⟨rfl, routeHandsIn, readForm _⟩ found⟩, ⟨id, audit, created, ?_⟩, ?_⟩
  · rw [finds [.numberTaken] (get id) ⟨1, 0⟩ gets]
    rfl
  · exact misses _ _ _ (Request.gets_reportPath 9) (by simp [run, step])

end Server

end ReportRules.Http
