import ReportRules.Proofs.Schema.Rules
import ReportRules.Schema.Report

/-!
# ReportRules.Proofs.Schema.Report -- stored reports survive

A stored report is read back from what is written for it. Most of its fields are texts and lists of
texts, which always survive. `Storable` says what the others have to fulfil: records are tidy, the
amounts of fees are finite, positions of units have 64 bits, and the text of an instant is read as
that instant.

The one structure that is not read field by field is a fee suggestion. It is written as one object
and read in two passes, and both passes find what they would find if recommendation and decision
were the fields of a single structure, because they have no name in common.
-/

namespace ReportRules

open Calendar (Instant)
open Json (Codec Document Part Shape)
open Outcome (bind_eq_ok_iff map_eq_ok_iff)

/-! ## Instants and names -/

/-- The text of the instant is read as that instant. -/
def Calendar.Instant.Readable (t : Instant) : Prop :=
  Calendar.Timestamp.relaxed t.text = .ok t

theorem Calendar.Instant.Readable.survives {t : Instant} (h : t.Readable) (p : Part) :
    instantCodec.Survives p t := by
  -- for any text, so that the one of the instant is not computed
  have read : ∀ s, Calendar.Timestamp.relaxed s = .ok t → instantCodec.decode (.str s) = .ok t := by
    intro s h
    unfold instantCodec
    simp only [h]
  have written : instantCodec.encode t = .str t.text := rfl
  refine Codec.Keeps.survives ?_ (by rw [written]; rfl) p
  rw [Codec.Keeps, written, Document.ofJson]
  exact read t.text h

theorem IssueKind.survives (kind : IssueKind) (p : Part) : IssueKind.codec.Survives p kind :=
  Codec.survives_choice (by cases kind <;> rfl) p

theorem FeeDecision.survives (decision : FeeDecision) (p : Part) :
    FeeDecision.codec.Survives p decision :=
  Codec.survives_choice (by cases decision <;> rfl) p

/-! ## Evaluations and requirements -/

theorem RuleEvaluation.survives {e : RuleEvaluation} (h : e.evaluatedAt.Readable) :
    RuleEvaluation.codec.Survives .plain e := by
  refine Shape.Survives.codec (.iso ?_ rfl) "RuleEvaluation"
  refine .cons (Shape.survives_required_text rfl rfl) ?_ rfl
  refine .cons (Shape.survives_required_text rfl rfl) ?_ rfl
  refine .cons (Shape.survives_required (Codec.survives_bool .plain e.triggered) rfl rfl) ?_ rfl
  exact Shape.survives_required (h.survives .plain) rfl rfl

theorem TriggeredRequirement.survives {t : TriggeredRequirement}
    (h : ∀ e, t.evidence = some e → e.Storable) : TriggeredRequirement.codec.Survives .plain t := by
  refine Shape.Survives.codec (.iso ?_ rfl) "TriggeredRequirement"
  refine .cons (Shape.survives_required_text rfl rfl) ?_ rfl
  refine .cons (Shape.survives_required_text rfl rfl) ?_ rfl
  refine .cons (Shape.survives_required
    (Codec.survives_list fun field _ => Codec.survives_text .plain field) rfl rfl) ?_ rfl
  exact Shape.survives_optional (fun e he => (h e he).survives.plain) (fun _ _ => rfl) rfl rfl

/-! ## Issues -/

/-- The position of the unit has 64 bits. -/
def Issue.Storable (i : Issue) : Prop :=
  ∀ n, i.unitIndex = some n → n < 2 ^ 64

theorem survives_optional_position {name : String} {o : Option Nat}
    (small : ∀ n, o = some n → n < 2 ^ 64) : (Shape.optional name .position).Survives .plain o :=
  Shape.survives_optional (fun n hn => Codec.survives_position (small n hn) .plain)
    (fun _ _ => rfl) rfl rfl

theorem Issue.Storable.survives {i : Issue} (h : i.Storable) : Issue.codec.Survives .plain i := by
  refine Shape.Survives.codec (.iso ?_ rfl) "ValidationIssue"
  refine .cons (Shape.survives_optional_text rfl rfl) ?_ rfl
  refine .cons (survives_optional_position h) ?_ rfl
  refine .cons (Shape.survives_required_text rfl rfl) ?_ rfl
  refine .cons (Shape.survives_required_text rfl rfl) ?_ rfl
  refine .cons (Shape.survives_required (i.kind.survives .plain) rfl rfl) ?_ rfl
  refine .cons (Shape.survives_required_text rfl rfl) ?_ rfl
  exact Shape.survives_optional_text rfl rfl

theorem ValidationResults.survives {v : ValidationResults} (blocking : ∀ i ∈ v.blocking, i.Storable)
    (warnings : ∀ i ∈ v.warnings, i.Storable) : ValidationResults.codec.Survives .plain v := by
  refine Shape.Survives.codec (.iso ?_ rfl) "ValidationResults"
  refine .cons (Shape.survives_required
    (Codec.survives_list fun i hi => (blocking i hi).survives) rfl rfl) ?_ rfl
  exact Shape.survives_required
    (Codec.survives_list fun i hi => (warnings i hi).survives) rfl rfl

/-! ## Tasks and notifications -/

theorem FollowUpTask.survives (t : FollowUpTask) : FollowUpTask.codec.Survives .plain t := by
  refine Shape.Survives.codec (.iso ?_ rfl) "AutomationTask"
  refine .cons (Shape.survives_required_text rfl rfl) ?_ rfl
  refine .cons (Shape.survives_optional_text rfl rfl) ?_ rfl
  exact Shape.survives_optional_text rfl rfl

theorem Notification.survives (n : Notification) : Notification.codec.Survives .plain n := by
  refine Shape.Survives.codec (.iso ?_ rfl) "NotificationRecord"
  refine .cons (Shape.survives_required_text rfl rfl) ?_ rfl
  refine .cons (Shape.survives_required_text rfl rfl) ?_ rfl
  exact Shape.survives_required_text rfl rfl

/-! ## Fee suggestions -/

/-- The amount is a number, and the position of the unit has 64 bits. -/
structure Recommendation.Storable (r : Recommendation) : Prop where
  amount : r.feeAmount.isFinite = true
  index : ∀ n, r.unitIndex = some n → n < 2 ^ 64

theorem Recommendation.Storable.survives {r : Recommendation} (h : r.Storable) :
    Recommendation.shape.Survives .plain r := by
  refine Shape.Survives.iso ?_ rfl
  refine .cons (Shape.survives_required_text rfl rfl) ?_ rfl
  refine .cons (Shape.survives_required_text rfl rfl) ?_ rfl
  refine .cons (Shape.survives_required (Codec.survives_double h.amount .plain) rfl rfl) ?_ rfl
  refine .cons (Shape.survives_required_text rfl rfl) ?_ rfl
  refine .cons (Shape.survives_optional_text rfl rfl) ?_ rfl
  refine .cons (survives_optional_position h.index) ?_ rfl
  refine .cons (Shape.survives_required (Codec.survives_bool .plain r.autoAdded) rfl rfl) ?_ rfl
  exact Shape.survives_required_text rfl rfl

instance : Recommendation.shape.Orderly := by
  unfold Recommendation.shape
  infer_instance

namespace FeeSuggestion

open Json.Document (ofMembers)

instance : decisionShape.Orderly :=
  Shape.orderly_optional ..

theorem knows_decisionShape {key : String} :
    decisionShape.knows key = true ↔ key = "user_decision" := by
  unfold decisionShape
  rw [Shape.optional, Shape.knows_field, decide_eq_true_iff]

/-- No name of a recommendation is that of the decision. -/
theorem apart {key : String} (known : decisionShape.knows key = true) :
    Recommendation.shape.knows key = false := by
  rw [knows_decisionShape.mp known]
  rfl

/-- The first pass reads the decision and sets all other members aside. -/
theorem split_ofMembers {ns : List (String × Json)} {slots slots' : decisionShape.Slots}
    (read : decisionShape.members (ofMembers ns) slots = .ok slots') :
    split (ofMembers ns) slots =
      .ok (slots', ofMembers (ns.filter fun m => !decisionShape.knows m.1)) := by
  induction ns generalizing slots with
  | nil =>
    cases read
    rfl
  | cons m ns ih =>
    obtain ⟨key, x⟩ := m
    obtain ⟨slots₁, first, others⟩ := Shape.members_cons_eq_ok_iff.mp read
    rw [ofMembers, split]
    rcases first with accepted | ⟨unknown, rfl⟩
    · have known : decisionShape.knows key = true := accepted.knows
      have taken : decisionShape.accept? key (.ofJson x) slots = some (.ok slots₁) := accepted
      simp only [taken, known, List.filter_cons, Bool.not_true, Bool.false_eq_true, if_false]
      exact ih others
    · obtain ⟨value, kept⟩ := Json.exists_keep_ofJson x
      have held : Json.Decoder.json (.ofJson x) = .ok value := by
        unfold Json.Decoder.json
        rw [kept]
      simp only [Shape.accept?_eq_none unknown, unknown, List.filter_cons, Bool.not_false, if_true]
      exact bind_eq_ok_iff.mpr ⟨value, held, bind_eq_ok_iff.mpr ⟨_, ih others, rfl⟩⟩

/-- Both passes together read what a structure of both would read. -/
theorem decode_ofMembers {ns : List (String × Json)} {fields : Recommendation.shape.Slots}
    {slots : decisionShape.Slots} {s : FeeSuggestion}
    (read : (Recommendation.shape.and decisionShape).members (ofMembers ns)
      (Recommendation.shape.start, decisionShape.start) = .ok (fields, slots))
    (recommended : Recommendation.shape.close fields = .ok s.recommendation)
    (decided : decisionShape.close slots = .ok s.decision) :
    decode (.obj (ofMembers ns) .closed) = .ok s := by
  have disjoint : ∀ key, Recommendation.shape.knows key = true →
      decisionShape.knows key = false := by
    intro key known
    by_contra decision
    rw [apart (Bool.not_eq_false _ ▸ decision)] at known
    cases known
  obtain ⟨first, second⟩ := Shape.members_of_and disjoint read
  -- the second pass does not miss the members that the first one takes, for it does not know them
  have aside : Recommendation.shape.members
      (ofMembers (ns.filter fun m => !decisionShape.knows m.1)) Recommendation.shape.start =
        .ok fields :=
    Shape.members_filter (fun key => !decisionShape.knows key)
      (fun key unwanted => apart ((Bool.not_eq_false' _).mp unwanted)) first
  refine bind_eq_ok_iff.mpr ⟨_, split_ofMembers second, ?_⟩
  refine bind_eq_ok_iff.mpr ⟨s.decision, decided, ?_⟩
  refine bind_eq_ok_iff.mpr ⟨fields, aside, ?_⟩
  exact bind_eq_ok_iff.mpr ⟨s.recommendation, recommended, rfl⟩

theorem survives {s : FeeSuggestion} (h : s.recommendation.Storable) :
    codec.Survives .plain s := by
  have decision : decisionShape.Survives .plain s.decision :=
    Shape.survives_optional (fun d _ => d.survives .plain) (fun _ _ => rfl) rfl rfl
  have both := h.survives.and decision fun _ => apart
  refine ⟨both.distinct, fun trimmed => ?_⟩
  cases trimmed with
  | obj members order =>
    obtain ⟨⟨fields, slots⟩, read, closed⟩ := both.reads members
    have distinct := members.keys_sublist.nodup both.distinct.1
    obtain ⟨recommendation, recommended, closed⟩ := bind_eq_ok_iff.mp closed
    obtain ⟨decision, decided, closed⟩ := bind_eq_ok_iff.mp closed
    cases closed
    exact decode_ofMembers (Shape.members_perm order distinct read) recommended decided

end FeeSuggestion

/-! ## Audits and reports -/

/-- The members of the audit's parts that need it are storable. -/
structure Audit.Storable (a : Audit) : Prop where
  compiledAt : a.compiledAt.Readable
  evaluations : ∀ e ∈ a.evaluations, e.evaluatedAt.Readable
  triggered : ∀ t ∈ a.triggered, ∀ e, t.evidence = some e → e.Storable
  fees : ∀ s ∈ a.fees, s.recommendation.Storable
  blocking : ∀ i ∈ a.validation.blocking, i.Storable
  warnings : ∀ i ∈ a.validation.warnings, i.Storable

theorem Audit.Storable.survives {a : Audit} (h : a.Storable) : Audit.codec.Survives .plain a := by
  refine Shape.Survives.codec (.iso ?_ rfl) "AutomationAudit"
  refine .cons (Shape.survives_required (h.compiledAt.survives .plain) rfl rfl) ?_ rfl
  refine .cons (Shape.survives_required (Codec.survives_list fun e he =>
    RuleEvaluation.survives (h.evaluations e he)) rfl rfl) ?_ rfl
  refine .cons (Shape.survives_required (Codec.survives_list fun t ht =>
    TriggeredRequirement.survives (h.triggered t ht)) rfl rfl) ?_ rfl
  refine .cons (Shape.survives_required (Codec.survives_list fun s hs =>
    FeeSuggestion.survives (h.fees s hs)) rfl rfl) ?_ rfl
  refine .cons (Shape.survives_required
    (Codec.survives_list fun t _ => t.survives) rfl rfl) ?_ rfl
  refine .cons (Shape.survives_required
    (Codec.survives_list fun n _ => n.survives) rfl rfl) ?_ rfl
  exact Shape.survives_required (ValidationResults.survives h.blocking h.warnings) rfl rfl

/-- The values of the record are as reading leaves them. -/
def Record.IsTidy (r : Record) : Prop :=
  ∀ entry ∈ r.entries, entry.2.Tidy

/-- The records of the report are tidy, and its audit is storable. -/
structure Report.Storable (r : Report) : Prop where
  form : r.form.IsTidy
  units : ∀ unit ∈ r.units, unit.IsTidy
  audit : r.audit.Storable

theorem Report.Storable.survives {r : Report} (h : r.Storable) :
    Report.codec.Survives .plain r := by
  refine Shape.Survives.codec (.iso ?_ rfl) "SubmissionRecord"
  refine .cons (Shape.survives_required_text rfl rfl) ?_ rfl
  refine .cons (Shape.survives_placed (fun s _ => Codec.survives_text .plain s)
    (fun _ _ => rfl) rfl rfl) ?_ rfl
  refine .cons (Shape.survives_required (Codec.survives_record h.form) rfl rfl) ?_ rfl
  refine .cons (Shape.survives_defaulted (Codec.survives_list fun unit hunit =>
    Codec.survives_record (h.units unit hunit)) rfl fun default => nomatch default) ?_ rfl
  exact Shape.survives_required h.audit.survives rfl rfl

end ReportRules
