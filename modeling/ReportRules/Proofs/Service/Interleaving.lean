import Mathlib.Data.List.Induction
import Mathlib.Data.List.Nodup
import Mathlib.Logic.Function.Basic
import ReportRules.Proofs.Service.Outcomes
import ReportRules.Proofs.Text.Figures

/-!
# ReportRules.Proofs.Service.Interleaving -- submissions that overtake one another

A submission acts three times on the service that it shares with others: it is checked, it takes a
number, and its report goes to the store. Each of these is done in one piece, but between two of
them any other submission may act. A *schedule* says whose turn it is, and every list of submissions
is a schedule. Looking up a report changes nothing, so `Service.get` after a schedule is what a
reader sees who comes in at that moment.

The ids given out are kept in `Traffic.taken`. Numbers have 64 bits, so they are all different only
as long as there are not more of them; everything about conflicts rests on that. What is stored
stays stored whatever happens to the numbers.
-/

namespace ReportRules

open Calendar (Instant)

/-! ## Submissions under way -/

/-- A submission, and the instant at which it is made. -/
structure Call where
  submission : Submission
  now : Instant

/-- How far a submission has come. -/
inductive Progress
  /-- It has not had a turn. -/
  | arrived
  /-- The check found nothing. -/
  | passed
  /-- It has taken a number, and its report is not stored. -/
  | numbered (r : Report)
  /-- The check found issues, and it is over. -/
  | blocked (issues : List Issue)
  /-- Its report went to the store, and it is over. -/
  | answered (r : Report) (answer : Except ServiceError Report)

/-- The report of a submission that has taken a number. -/
def Progress.report? : Progress → Option Report
  | .numbered r => some r
  | .answered r _ => some r
  | _ => none

/-- The answer of a submission that is over. -/
def Progress.answer? : Progress → Option (Except ServiceError Report)
  | .blocked issues => some (.error (.blocked issues))
  | .answered _ answer => some answer
  | _ => none

/-- Submissions under way at one service. -/
structure Traffic (ι : Type) where
  service : Service
  progress : ι → Progress
  /-- The ids that were given out, in order. -/
  taken : List String

variable {ι : Type} [DecidableEq ι]

theorem reportId_injective : Function.Injective reportId := by
  intro m n h
  have padded : Text.paddedFigures 6 m.toNat = Text.paddedFigures 6 n.toNat :=
    String.ofList_injective ((String.append_right_inj "sr-").mp h)
  exact UInt64.toNat_inj.mp (Text.paddedFigures_injective 6 padded)

namespace Traffic

/-- A service that no submission has reached. -/
def opening (s : Service) : Traffic ι :=
  ⟨s, fun _ => .arrived, []⟩

/-- One submission has come further. -/
def moved (t : Traffic ι) (i : ι) (p : Progress) : Traffic ι :=
  { t with progress := Function.update t.progress i p }

/-- A turn of one submission. One that is over does nothing. -/
def advance (calls : ι → Call) (t : Traffic ι) (i : ι) : Traffic ι :=
  match t.progress i with
  | .arrived =>
    let issues := t.service.validate (calls i).submission
    t.moved i (if issues.isEmpty then .passed else .blocked issues)
  | .passed =>
    let (number, service) := t.service.takeNumber
    let r := service.report (calls i).submission number (calls i).now
    { t.moved i (.numbered r) with service, taken := t.taken ++ [r.id] }
  | .numbered r =>
    let (answer, service) := t.service.keep r
    { t.moved i (.answered r answer) with service }
  | .blocked _ => t
  | .answered _ _ => t

/-- The turns of a schedule. -/
def run (calls : ι → Call) (t : Traffic ι) (schedule : List ι) : Traffic ι :=
  schedule.foldl (advance calls) t

theorem run_concat (calls : ι → Call) (t : Traffic ι) (schedule : List ι) (i : ι) :
    t.run calls (schedule ++ [i]) = (t.run calls schedule).advance calls i := by
  simp [run]

@[simp]
theorem moved_progress_self (t : Traffic ι) (i : ι) (p : Progress) :
    (t.moved i p).progress i = p := by
  show Function.update t.progress i p i = p
  exact Function.update_self i p t.progress

theorem moved_progress_of_ne (t : Traffic ι) {i j : ι} (h : j ≠ i) (p : Progress) :
    (t.moved i p).progress j = t.progress j := by
  show Function.update t.progress i p j = t.progress j
  exact Function.update_of_ne h p t.progress

/-- What holds of every submission still does if it holds of the one that has come further. -/
theorem forall_moved {t : Traffic ι} {i : ι} {p : Progress} {P : ι → Progress → Prop}
    (hi : P i p) (h : ∀ j, P j (t.progress j)) (j : ι) : P j ((t.moved i p).progress j) := by
  by_cases hj : j = i
  · subst hj
    rwa [moved_progress_self]
  · rw [moved_progress_of_ne t hj]
    exact h j

/-- What a submission keeps as it comes further, all submissions keep. -/
theorem moved_congr {t : Traffic ι} {i : ι} {p : Progress} {β : Type} (f : Progress → β)
    (h : f p = f (t.progress i)) (j : ι) : f ((t.moved i p).progress j) = f (t.progress j) :=
  forall_moved (P := fun j p => f p = f (t.progress j)) h (fun _ => rfl) j

/-- A submission that is not overtaken is submitted as by `Service.submit`. -/
theorem run_alone (calls : ι → Call) (t : Traffic ι) (i : ι) (h : t.progress i = .arrived) :
    let after := t.run calls [i, i, i]
    ((after.progress i).answer?, after.service) =
      Prod.map some id (t.service.submit (calls i).submission (calls i).now) := by
  unfold Service.submit
  by_cases passes : (t.service.validate (calls i).submission).isEmpty = true
  · simp [run, advance, h, passes, Progress.answer?]
    rfl
  · simp [run, advance, h, passes, Progress.answer?]
    rfl

/-! ## What a turn does -/

/-- The report that a submission makes with the next number. -/
def nextReport (calls : ι → Call) (t : Traffic ι) (i : ι) : Report :=
  t.service.report (calls i).submission t.service.nextNumber (calls i).now

/-- The turns of a submission at a service that holds reports. -/
inductive Turn (calls : ι → Call) (t : Traffic ι) (reports : Keyed Report) (i : ι) :
    Traffic ι → Prop
  | pass (arrived : t.progress i = .arrived)
      (clean : t.service.validate (calls i).submission = []) :
      Turn calls t reports i (t.moved i .passed)
  | block (arrived : t.progress i = .arrived)
      (found : t.service.validate (calls i).submission ≠ []) :
      Turn calls t reports i (t.moved i (.blocked (t.service.validate (calls i).submission)))
  | number (passed : t.progress i = .passed) :
      Turn calls t reports i
        { t.moved i (.numbered (t.nextReport calls i)) with
          service := t.service.takeNumber.2
          taken := t.taken ++ [(t.nextReport calls i).id] }
  | refuse (r : Report) (numbered : t.progress i = .numbered r)
      (present : reports.contains r.id = true) :
      Turn calls t reports i (t.moved i (.answered r (.error (.store .conflict))))
  | store (r : Report) (numbered : t.progress i = .numbered r)
      (absent : reports.contains r.id = false) :
      Turn calls t reports i
        { t.moved i (.answered r (.ok r)) with
          service := { t.service with store := .holding (reports.insert r.id r) } }
  | rest : Turn calls t reports i t

theorem turn_advance (calls : ι → Call) (t : Traffic ι) (i : ι) {reports : Keyed Report}
    (holds : t.service.store = .holding reports) :
    Turn calls t reports i (t.advance calls i) := by
  unfold advance
  cases h : t.progress i with
  | arrived =>
    by_cases clean : t.service.validate (calls i).submission = []
    · simp only [clean, List.isEmpty_nil, if_true]
      exact .pass h clean
    · simp only [List.isEmpty_iff, clean, if_false]
      exact .block h clean
  | passed => exact .number h
  | numbered r =>
    cases present : reports.contains r.id with
    | true =>
      simp only [Service.keep, Store.insert, holds, present, if_true]
      exact .refuse r h present
    | false =>
      simp only [Service.keep, Store.insert, holds, present, Bool.false_eq_true, if_false]
      exact .store r h present
  | blocked issues => exact .rest
  | answered r answer => exact .rest

/-! ## Numbers -/

/-- The ids of the numbers from `first` on. -/
def idsFrom (first : UInt64) (count : Nat) : List String :=
  (List.range count).map fun k => reportId (first + UInt64.ofNat k)

theorem idsFrom_succ (first : UInt64) (count : Nat) :
    idsFrom first (count + 1) =
      idsFrom first count ++ [reportId (first + UInt64.ofNat count)] := by
  rw [idsFrom, List.range_succ, List.map_append]
  rfl

/-- The ids given out are those of as many numbers, from the first on. -/
structure Numbering (s : Service) (t : Traffic ι) : Prop where
  engine : t.service.engine = s.engine
  number : t.service.nextNumber = s.nextNumber + UInt64.ofNat t.taken.length
  ids : t.taken = idsFrom s.nextNumber t.taken.length

omit [DecidableEq ι] in
theorem Numbering.opening (s : Service) : Numbering s (opening s : Traffic ι) where
  engine := rfl
  number := (UInt64.add_zero s.nextNumber).symm
  ids := rfl

theorem Numbering.turn {calls : ι → Call} {s : Service} {t t' : Traffic ι} {i : ι}
    {reports : Keyed Report} (h : Numbering s t) (turn : Turn calls t reports i t') :
    Numbering s t' := by
  cases turn with
  | number passed =>
    have next : (t.nextReport calls i).id =
        reportId (s.nextNumber + UInt64.ofNat t.taken.length) := by
      rw [← h.number]
      rfl
    refine ⟨h.engine, ?_, ?_⟩
    · show t.service.nextNumber + 1 = s.nextNumber + UInt64.ofNat (t.taken ++ [_]).length
      rw [h.number, List.length_append, UInt64.ofNat_add, UInt64.add_assoc]
      rfl
    · show t.taken ++ [_] = idsFrom s.nextNumber (t.taken ++ [_]).length
      rw [List.length_append, List.length_singleton, idsFrom_succ, next]
      exact congrArg (· ++ [_]) h.ids
  | _ => exact ⟨h.engine, h.number, h.ids⟩

omit [DecidableEq ι] in
theorem Numbering.validate_eq {s : Service} {t : Traffic ι} (h : Numbering s t)
    (submission : Submission) : t.service.validate submission = s.validate submission := by
  rw [Service.validate, Service.validate, h.engine]

omit [DecidableEq ι] in
theorem Numbering.report_eq {s : Service} {t : Traffic ι} (h : Numbering s t)
    (submission : Submission) (number : UInt64) (now : Instant) :
    t.service.report submission number now = s.report submission number now := by
  rw [Service.report, Service.report, h.engine]

/-- As long as there are no more numbers than fit into 64 bits, no id is given out twice. -/
theorem nodup_idsFrom (first : UInt64) {count : Nat} (few : count ≤ 2 ^ 64) :
    (idsFrom first count).Nodup := by
  refine List.Nodup.map_on ?_ List.nodup_range
  intro j hj k hk h
  have sum : first + UInt64.ofNat j = first + UInt64.ofNat k := reportId_injective h
  have same := congrArg UInt64.toNat ((UInt64.add_right_inj first).mp sum)
  have bound : ∀ {n : Nat}, n ∈ List.range count → (UInt64.ofNat n).toNat = n := by
    intro n hn
    rw [UInt64.toNat_ofNat']
    exact Nat.mod_eq_of_lt (Nat.lt_of_lt_of_le (List.mem_range.mp hn) few)
  rwa [bound hj, bound hk] at same

omit [DecidableEq ι] in
theorem Numbering.nodup {s : Service} {t : Traffic ι} (h : Numbering s t)
    (few : t.taken.length ≤ 2 ^ 64) : t.taken.Nodup := by
  rw [h.ids]
  exact nodup_idsFrom s.nextNumber few

/-! ## Answers -/

/-- The answer that a store gives to a report, judged by what it held before all submissions. -/
def verdict (start : Keyed Report) (r : Report) : Except ServiceError Report :=
  if start.contains r.id then .error (.store .conflict) else .ok r

/-- A submission is where the check, its own data and the store have brought it. -/
def Fair (s : Service) (start : Keyed Report) (call : Call) : Progress → Prop
  | .arrived => True
  | .passed => s.validate call.submission = []
  | .blocked issues => issues = s.validate call.submission ∧ issues ≠ []
  | .numbered r =>
    s.validate call.submission = [] ∧ ∃ number, r = s.report call.submission number call.now
  | .answered r answer =>
    s.validate call.submission = [] ∧ (∃ number, r = s.report call.submission number call.now) ∧
      answer = verdict start r

theorem Fair.own {s : Service} {start : Keyed Report} {call : Call} {p : Progress} {r : Report}
    (fair : Fair s start call p) (report : p.report? = some r) :
    ∃ number, r = s.report call.submission number call.now := by
  cases p with
  | numbered q =>
    obtain rfl : q = r := Option.some_inj.mp report
    exact fair.2
  | answered q answer =>
    obtain rfl : q = r := Option.some_inj.mp report
    exact fair.2.1
  | _ => simp [Progress.report?] at report

/-- A report was stored for one of the submissions. -/
def Stored (t : Traffic ι) (r : Report) : Prop :=
  ∃ i, t.progress i = .answered r (.ok r)

/-- Every id belongs to one submission, and the store holds what it held at the start and the
reports it was given and took. -/
structure Accounted (calls : ι → Call) (s : Service) (start : Keyed Report) (t : Traffic ι) :
    Prop where
  fair : ∀ i, Fair s start (calls i) (t.progress i)
  holder : ∀ id, id ∈ t.taken ↔ ∃ i r, (t.progress i).report? = some r ∧ r.id = id
  apart : ∀ i j q r, (t.progress i).report? = some q → (t.progress j).report? = some r →
    q.id = r.id → i = j
  store : ∃ reports, t.service.store = .holding reports ∧ ∀ id r,
    reports.find? id = some r ↔ start.find? id = some r ∨ t.Stored r ∧ r.id = id

omit [DecidableEq ι] in
theorem Accounted.opening (calls : ι → Call) {s : Service} {start : Keyed Report}
    (holds : s.store = .holding start) : Accounted calls s start (opening s) where
  fair _ := trivial
  holder id := by simp [Traffic.opening, Progress.report?]
  apart i j q r hq := by simp [Traffic.opening, Progress.report?] at hq
  store := ⟨start, holds, fun id r => by simp [Traffic.opening, Stored]⟩

theorem stored_moved_iff {t : Traffic ι} {i : ι} {p : Progress} (r : Report)
    (hp : p ≠ .answered r (.ok r)) (hi : t.progress i ≠ .answered r (.ok r)) :
    (t.moved i p).Stored r ↔ t.Stored r := by
  have same : ∀ j, ((t.moved i p).progress j = .answered r (.ok r)) =
      (t.progress j = .answered r (.ok r)) :=
    moved_congr (fun p => p = .answered r (.ok r))
      (propext ⟨fun h => absurd h hp, fun h => absurd h hi⟩)
  simp only [Stored, same]

/-- A submission whose report is stored adds it to the stored ones. -/
theorem stored_answered_iff {t : Traffic ι} {i : ι} {r : Report}
    (numbered : t.progress i = .numbered r) {q : Report} :
    (t.moved i (.answered r (.ok r))).Stored q ↔ t.Stored q ∨ r = q := by
  constructor
  · rintro ⟨j, hj⟩
    by_cases hji : j = i
    · rw [hji, moved_progress_self] at hj
      exact Or.inr (Progress.answered.inj hj).1
    · rw [moved_progress_of_ne t hji] at hj
      exact Or.inl ⟨j, hj⟩
  · rintro (⟨j, hj⟩ | rfl)
    · have hji : j ≠ i := by
        rintro rfl
        rw [numbered] at hj
        exact Progress.noConfusion hj
      exact ⟨j, (moved_progress_of_ne t hji _).trans hj⟩
    · exact ⟨i, moved_progress_self t i _⟩

theorem report?_moved {t : Traffic ι} {i : ι} {p : Progress}
    (h : p.report? = (t.progress i).report?) (j : ι) :
    ((t.moved i p).progress j).report? = (t.progress j).report? :=
  moved_congr Progress.report? h j

section Turn

variable {calls : ι → Call} {s : Service} {start reports : Keyed Report} {t t' : Traffic ι} {i : ι}

/-- A turn that gives out no id and stores nothing. -/
theorem Accounted.moved (h : Accounted calls s start t) {p : Progress}
    (fair : Fair s start (calls i) p) (report : p.report? = (t.progress i).report?)
    (new : ∀ r, p ≠ .answered r (.ok r)) (old : ∀ r, t.progress i ≠ .answered r (.ok r)) :
    Accounted calls s start (t.moved i p) := by
  refine ⟨forall_moved fair h.fair, ?_, ?_, ?_⟩
  · simp only [report?_moved report]
    exact h.holder
  · simp only [report?_moved report]
    exact h.apart
  · obtain ⟨reports, holds, finds⟩ := h.store
    refine ⟨reports, holds, fun id r => ?_⟩
    rw [stored_moved_iff r (new r) (old r)]
    exact finds id r

omit [DecidableEq ι] in
theorem Accounted.find?_iff (h : Accounted calls s start t)
    (holds : t.service.store = .holding reports) (id : String) (r : Report) :
    reports.find? id = some r ↔ start.find? id = some r ∨ t.Stored r ∧ r.id = id := by
  obtain ⟨_, hsome, finds⟩ := h.store
  obtain rfl : reports = _ := Store.holding.inj (holds.symm.trans hsome)
  exact finds id r

omit [DecidableEq ι] in
/-- A report that the store has already come across is one of the start: the reports stored since
have ids of their own. -/
theorem Accounted.contains_eq (h : Accounted calls s start t)
    (holds : t.service.store = .holding reports) {r : Report}
    (numbered : t.progress i = .numbered r) :
    reports.contains r.id = start.contains r.id := by
  have finds := h.find?_iff holds
  unfold Keyed.contains
  rw [Bool.eq_iff_iff, Option.isSome_iff_exists, Option.isSome_iff_exists]
  constructor
  · rintro ⟨q, hq⟩
    rcases (finds r.id q).mp hq with hq | ⟨⟨j, hj⟩, hid⟩
    · exact ⟨q, hq⟩
    · obtain rfl : j = i := h.apart j i q r (by rw [hj]; rfl) (by rw [numbered]; rfl) hid
      rw [numbered] at hj
      exact Progress.noConfusion hj
  · rintro ⟨q, hq⟩
    exact ⟨q, (finds r.id q).mpr (Or.inl hq)⟩

/-- A turn that gives out an id: it is a new one. -/
theorem Accounted.number (h : Accounted calls s start t) (numbering : Numbering s t)
    (passed : t.progress i = .passed) (fresh : (t.nextReport calls i).id ∉ t.taken) :
    Accounted calls s start
      { t.moved i (.numbered (t.nextReport calls i)) with
        service := t.service.takeNumber.2
        taken := t.taken ++ [(t.nextReport calls i).id] } := by
  set r := t.nextReport calls i
  have own : r = s.report (calls i).submission t.service.nextNumber (calls i).now :=
    numbering.report_eq _ _ _
  have clean : s.validate (calls i).submission = [] := by
    have := h.fair i
    rwa [passed] at this
  -- the submissions with a report are those that had one, and this one
  have report : ∀ j q, ((t.moved i (.numbered r)).progress j).report? = some q ↔
      j = i ∧ r = q ∨ (t.progress j).report? = some q := by
    intro j q
    by_cases hj : j = i
    · subst hj
      simp [passed, Progress.report?]
    · simp [moved_progress_of_ne t hj, hj]
  have apart : ∀ j q, (t.progress j).report? = some q → q.id ≠ r.id := by
    intro j q hq hid
    exact fresh ((h.holder r.id).mpr ⟨j, q, hq, hid⟩)
  refine ⟨forall_moved ⟨clean, _, own⟩ h.fair, ?_, ?_, ?_⟩
  · intro id
    show id ∈ t.taken ++ [r.id] ↔
      ∃ j q, ((t.moved i (.numbered r)).progress j).report? = some q ∧ q.id = id
    rw [List.mem_append, List.mem_singleton, h.holder id]
    simp only [report]
    constructor
    · rintro (⟨j, q, hq, hid⟩ | rfl)
      · exact ⟨j, q, Or.inr hq, hid⟩
      · exact ⟨i, r, Or.inl ⟨rfl, rfl⟩, rfl⟩
    · rintro ⟨j, q, ⟨rfl, rfl⟩ | hq, hid⟩
      · exact Or.inr hid.symm
      · exact Or.inl ⟨j, q, hq, hid⟩
  · intro j k p q hp hq hid
    rcases (report j p).mp hp with ⟨hj, hrp⟩ | hp
    · rcases (report k q).mp hq with ⟨hk, -⟩ | hq
      · exact hj.trans hk.symm
      · exact absurd (hid.symm.trans (congrArg Report.id hrp.symm)) (apart k q hq)
    · rcases (report k q).mp hq with ⟨-, hrq⟩ | hq
      · exact absurd (hid.trans (congrArg Report.id hrq.symm)) (apart j p hp)
      · exact h.apart j k p q hp hq hid
  · obtain ⟨reports, holds, finds⟩ := h.store
    refine ⟨reports, holds, fun id q => ?_⟩
    have stored : (t.moved i (.numbered r)).Stored q ↔ t.Stored q :=
      stored_moved_iff q Progress.noConfusion (by rw [passed]; exact Progress.noConfusion)
    exact (finds id q).trans (or_congr_right (and_congr_left' stored.symm))

/-- A turn that stores a report: the store holds one report more. -/
theorem Accounted.insert (h : Accounted calls s start t) {r : Report}
    (holds : t.service.store = .holding reports) (numbered : t.progress i = .numbered r)
    (absent : reports.contains r.id = false) :
    Accounted calls s start
      { t.moved i (.answered r (.ok r)) with
        service := { t.service with store := .holding (reports.insert r.id r) } } := by
  have same : (Progress.answered r (.ok r)).report? = (t.progress i).report? := by
    rw [numbered]
    rfl
  have answer : (.ok r : Except ServiceError Report) = verdict start r := by
    rw [verdict, ← h.contains_eq holds numbered, absent]
    rfl
  have fair : Fair s start (calls i) (.answered r (.ok r)) := by
    have := h.fair i
    rw [numbered] at this
    exact ⟨this.1, this.2, answer⟩
  refine ⟨forall_moved fair h.fair, ?_, ?_, reports.insert r.id r, rfl, fun id q => ?_⟩
  · simp only [report?_moved same]
    exact h.holder
  · simp only [report?_moved same]
    exact h.apart
  · show _ ↔ start.find? id = some q ∨ (t.moved i (.answered r (.ok r))).Stored q ∧ q.id = id
    rw [Keyed.find?_insert_eq_some_iff absent, h.find?_iff holds id q,
      stored_answered_iff numbered, or_assoc]
    refine or_congr_right ⟨?_, ?_⟩
    · rintro (⟨hq, hid⟩ | ⟨rfl, rfl⟩)
      · exact ⟨Or.inl hq, hid⟩
      · exact ⟨Or.inr rfl, rfl⟩
    · rintro ⟨hq | rfl, hid⟩
      · exact Or.inl ⟨hq, hid⟩
      · exact Or.inr ⟨hid.symm, rfl⟩

theorem Accounted.turn (h : Accounted calls s start t) (numbering : Numbering s t)
    (holds : t.service.store = .holding reports) (turn : Turn calls t reports i t')
    (few : t'.taken.length ≤ 2 ^ 64) : Accounted calls s start t' := by
  have validate := numbering.validate_eq (calls i).submission
  cases turn with
  | pass arrived clean =>
    refine h.moved (validate.symm.trans clean) ?_ ?_ ?_ <;> simp [arrived, Progress.report?]
  | block arrived found =>
    refine h.moved ⟨validate, found⟩ ?_ ?_ ?_ <;> simp [arrived, Progress.report?]
  | number passed =>
    -- the ids given out after this turn differ, and its own is the last of them
    have turn : Turn calls t reports i _ := .number passed
    have nodup := (numbering.turn turn).nodup few
    have fresh : (t.nextReport calls i).id ∉ t.taken :=
      fun h => (List.nodup_append.mp nodup).2.2 _ h _ (List.mem_singleton_self _) rfl
    exact h.number numbering passed fresh
  | refuse r numbered present =>
    have answer : (.error (.store .conflict) : Except ServiceError Report) = verdict start r := by
      rw [verdict, ← h.contains_eq holds numbered, present]
      rfl
    have fair := h.fair i
    rw [numbered] at fair
    refine h.moved ⟨fair.1, fair.2, answer⟩ ?_ ?_ ?_ <;> simp [numbered, Progress.report?]
  | store r numbered absent => exact h.insert holds numbered absent
  | rest => exact h

/-- A submission with issues has no number, and its turns change nothing for others. -/
theorem Accounted.advance_of_issues (h : Accounted calls s start t) (numbering : Numbering s t)
    (found : s.validate (calls i).submission ≠ []) :
    (t.progress i).report? = none ∧ (t.advance calls i).service = t.service ∧
      (t.advance calls i).taken = t.taken ∧
      (t.advance calls i).progress i = .blocked (s.validate (calls i).submission) := by
  have validate := numbering.validate_eq (calls i).submission
  have fair := h.fair i
  unfold advance
  cases progress : t.progress i <;> rw [progress] at fair
  case arrived =>
    simp only [validate, List.isEmpty_iff, found, if_false, moved_progress_self]
    exact ⟨rfl, rfl, rfl, trivial⟩
  case blocked issues => exact ⟨rfl, rfl, rfl, by rw [progress, fair.1]⟩
  case passed => exact absurd fair found
  case numbered r => exact absurd fair.1 found
  case answered r answer => exact absurd fair.1 found

/-- The turn in which a report goes to the store. -/
theorem Accounted.advance_of_numbered (h : Accounted calls s start t) {r : Report}
    (numbered : t.progress i = .numbered r) :
    (t.advance calls i).progress i = .answered r (verdict start r) ∧
      (start.contains r.id = true → (t.advance calls i).service = t.service) := by
  obtain ⟨reports, holds, -⟩ := h.store
  unfold advance verdict
  rw [numbered, ← h.contains_eq holds numbered]
  cases present : reports.contains r.id <;>
    simp [Service.keep, Store.insert, holds, present]

/-- No report leaves the store. -/
theorem find?_turn (turn : Turn calls t reports i t') {id : String} {r : Report}
    (holds : t.service.store = .holding reports) (found : reports.find? id = some r) :
    ∃ reports', t'.service.store = .holding reports' ∧ reports'.find? id = some r := by
  cases turn with
  | store q numbered absent =>
    refine ⟨reports.insert q.id q, rfl, ?_⟩
    have different : id ≠ q.id := by
      rintro rfl
      simp [Keyed.contains, found] at absent
    rw [Keyed.find?_insert, if_neg different, found]
  | _ => exact ⟨reports, holds, found⟩

end Turn

/-! ## Schedules -/

section Schedule

variable {calls : ι → Call} {s : Service} {start : Keyed Report}

theorem taken_length_le_advance (calls : ι → Call) (t : Traffic ι) (i : ι) :
    t.taken.length ≤ (t.advance calls i).taken.length := by
  unfold advance
  split <;> simp [moved]

theorem run_accounted (holds : s.store = .holding start) (schedule : List ι)
    (few : ((opening s : Traffic ι).run calls schedule).taken.length ≤ 2 ^ 64) :
    Numbering s ((opening s : Traffic ι).run calls schedule) ∧
      Accounted calls s start ((opening s : Traffic ι).run calls schedule) := by
  induction schedule using List.reverseRecOn with
  | nil => exact ⟨.opening s, .opening calls holds⟩
  | append_singleton rest i ih =>
    rw [run_concat] at few ⊢
    obtain ⟨numbering, accounted⟩ := ih (le_trans (taken_length_le_advance calls _ i) few)
    obtain ⟨reports, hreports, -⟩ := accounted.store
    have turn := turn_advance calls _ i hreports
    exact ⟨numbering.turn turn, accounted.turn numbering hreports turn few⟩

theorem find?_run (calls : ι → Call) {t : Traffic ι} (later : List ι) {reports : Keyed Report}
    {id : String} {r : Report} (holds : t.service.store = .holding reports)
    (found : reports.find? id = some r) :
    ∃ reports', (t.run calls later).service.store = .holding reports' ∧
      reports'.find? id = some r := by
  induction later using List.reverseRecOn with
  | nil => exact ⟨reports, holds, found⟩
  | append_singleton rest i ih =>
    obtain ⟨reports', holds', found'⟩ := ih
    rw [run_concat]
    exact find?_turn (turn_advance calls _ i holds') holds' found'

/-- **Submissions that overtake one another.** Let any number of submissions have their turns in any
order at a service that holds some reports, and let no more numbers be taken than there are. Then,
at every point:

* the ids given out are all different, and each is that of one submission's report;
* a submission with issues has no id, and its turns leave the service and the ids as they are;
* a report that goes to the store meets a conflict exactly when its id was there at the start, and
  then the service stays as it is;
* the store finds what it found at the start and the reports it took, and nothing else;
* a report that was taken is what `get` answers with from then on. -/
theorem interleaved_submissions (calls : ι → Call) (s : Service) (start : Keyed Report)
    (holds : s.store = .holding start) (schedule : List ι)
    (few : ((opening s : Traffic ι).run calls schedule).taken.length ≤ 2 ^ 64) :
    let t := (opening s : Traffic ι).run calls schedule
    (t.taken.Nodup ∧
      (∀ id, id ∈ t.taken ↔ ∃ i r, (t.progress i).report? = some r ∧ r.id = id) ∧
      (∀ i j q r, (t.progress i).report? = some q → (t.progress j).report? = some r →
        q.id = r.id → i = j) ∧
      ∀ i r, (t.progress i).report? = some r →
        ∃ number, r = s.report (calls i).submission number (calls i).now) ∧
    (∀ i, s.validate (calls i).submission ≠ [] →
      (t.progress i).report? = none ∧ (t.advance calls i).service = t.service ∧
        (t.advance calls i).taken = t.taken ∧
        (t.advance calls i).progress i = .blocked (s.validate (calls i).submission)) ∧
    (∀ i r, t.progress i = .numbered r →
      (t.advance calls i).progress i =
          .answered r (if start.contains r.id then .error (.store .conflict) else .ok r) ∧
        (start.contains r.id = true → (t.advance calls i).service = t.service)) ∧
    (∀ i r answer, t.progress i = .answered r answer →
      answer = if start.contains r.id then .error (.store .conflict) else .ok r) ∧
    (∃ reports, t.service.store = .holding reports ∧ ∀ id r, reports.find? id = some r ↔
      start.find? id = some r ∨ (∃ i, t.progress i = .answered r (.ok r)) ∧ r.id = id) ∧
    ∀ i r, t.progress i = .answered r (.ok r) →
      ∀ later, (t.run calls later).service.get r.id = .ok r := by
  intro t
  obtain ⟨numbering, accounted⟩ := run_accounted holds schedule few
  refine ⟨⟨numbering.nodup few, accounted.holder, accounted.apart, ?_⟩, ?_, ?_, ?_,
    accounted.store, ?_⟩
  · exact fun i r report => (accounted.fair i).own report
  · exact fun i found => accounted.advance_of_issues numbering found
  · exact fun i r numbered => accounted.advance_of_numbered numbered
  · intro i r answer hanswer
    have fair := accounted.fair i
    rw [hanswer] at fair
    exact fair.2.2
  · intro i r taken later
    obtain ⟨reports, hreports, finds⟩ := accounted.store
    have found : reports.find? r.id = some r := (finds r.id r).mpr (Or.inr ⟨⟨i, taken⟩, rfl⟩)
    obtain ⟨reports', hlater, hfound⟩ := find?_run calls later hreports found
    exact Service.get_of_find? hlater hfound

/-- What a store may hold before the first submission: a report under the id that is next. -/
def firstTaken : Keyed Report :=
  Keyed.empty.insert "sr-000001"
    { id := "sr-000001", form := Keyed.empty,
      audit := .compile [] [] {} Keyed.empty none ⟨0, 0⟩ }

/-- Two empty submissions have taken a number each. Whichever stores its report first, the one with
the first number meets the report that was there, and the other one finds room. -/
theorem first_conflicts_second_stored :
    let s : Service := { store := .holding firstTaken }
    let calls : Bool → Call := fun _ => ⟨{}, ⟨0, 0⟩⟩
    let t := (opening s).run calls [false, true, false, true]
    s.store = .holding firstTaken ∧ t.taken.length ≤ 2 ^ 64 ∧
      t.taken = ["sr-000001", "sr-000002"] ∧ t.taken.Nodup ∧
      (∃ r, t.progress false = .numbered r ∧
        (t.advance calls false).progress false = .answered r (.error (.store .conflict)) ∧
        (t.advance calls false).service = t.service) ∧
      ∃ r, t.progress true = .numbered r ∧
        (t.advance calls true).progress true = .answered r (.ok r) := by
  intro s calls t
  have few : t.taken.length ≤ 2 ^ 64 := by decide
  obtain ⟨⟨nodup, -⟩, -, stores, -⟩ :=
    interleaved_submissions calls s firstTaken rfl [false, true, false, true] few
  have first := stores false (s.report {} 1 ⟨0, 0⟩) rfl
  have second := stores true (s.report {} 2 ⟨0, 0⟩) rfl
  rw [if_pos (by decide)] at first
  rw [if_neg (by decide)] at second
  exact ⟨rfl, few, by decide, nodup, ⟨_, rfl, first.1, first.2 (by decide)⟩, _, rfl, second.1⟩

end Schedule

end Traffic

end ReportRules
