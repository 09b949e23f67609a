import Mathlib.Data.List.Basic
import ReportRules.Audit

/-!
# ReportRules.Proofs.Audit.Followup -- what people add to an audit

After an audit is compiled, people decide on its fees and put down tasks and notifications, as often
as they like and in any order. A decision is about all proposals of a fee, or about those of them
that are for one unit, so decisions overlap. Of the decisions about one proposal the last one
counts, whatever was decided on other proposals in between.

What the rules made of the submission is not touched. In particular the proposals stay what they
are, which is why the number of proposals that a decision is about does not depend on what was put
down before it.
-/

namespace ReportRules.Audit

/-! ## Entries -/

/-- Something that is put down on an audit. -/
inductive Entry
  | decision (feeId : String) (unitId : Option String) (decision : FeeDecision)
  | task (task : FollowUpTask)
  | notification (notification : Notification)

/-- Whether a decision is about a proposal: it is for the same fee, and for the same unit if it is
for a unit at all. -/
def IsAbout (feeId : String) (unitId : Option String) (r : Recommendation) : Prop :=
  feeId = r.feeId ∧ (unitId = none ∨ unitId = r.unitId)

instance (feeId : String) (unitId : Option String) (r : Recommendation) :
    Decidable (IsAbout feeId unitId r) :=
  inferInstanceAs (Decidable (_ ∧ _))

namespace Entry

/-- What an entry decides on a proposal. -/
def decisionOn (r : Recommendation) : Entry → Option FeeDecision
  | decision feeId unitId d => if IsAbout feeId unitId r then some d else none
  | task _ | notification _ => none

/-- The number of proposals that a decision is about. -/
def matched? (fees : List FeeSuggestion) : Entry → Option Nat
  | decision feeId unitId _ => some (fees.countP fun s => IsAbout feeId unitId s.recommendation)
  | task _ | notification _ => none

/-- The task of an entry. -/
def task? : Entry → Option FollowUpTask
  | task t => some t
  | decision _ _ _ | notification _ => none

/-- The notification of an entry. -/
def notification? : Entry → Option Notification
  | notification n => some n
  | decision _ _ _ | task _ => none

end Entry

/-- The last of the decisions on a proposal. -/
def lastDecision (entries : List Entry) (r : Recommendation) : Option FeeDecision :=
  (entries.filterMap (Entry.decisionOn r)).getLast?

/-- Put down an entry. A decision is answered with the number of proposals that it is about. -/
def enter (a : Audit) : Entry → Option Nat × Audit
  | .decision feeId unitId d => (some (a.matchCount feeId unitId), a.decide feeId unitId d)
  | .task t => (none, a.addTask t)
  | .notification n => (none, a.addNotification n)

/-- Put down entries one after the other, and collect the answers. -/
def enterAll (a : Audit) : List Entry → List (Option Nat) × Audit
  | [] => ([], a)
  | e :: rest =>
    let (answer, next) := a.enter e
    let (answers, last) := next.enterAll rest
    (answer :: answers, last)

/-! ## One entry -/

theorem concerns_iff (feeId : String) (unitId : Option String) (s : FeeSuggestion) :
    concerns feeId unitId s = true ↔ IsAbout feeId unitId s.recommendation := by
  unfold concerns IsAbout
  rw [Bool.and_eq_true, Bool.or_eq_true, beq_iff_eq, beq_iff_eq, Option.isNone_iff_eq_none,
    eq_comm, @eq_comm _ s.recommendation.unitId]

theorem map_decision_self (fees : List FeeSuggestion) :
    (fees.map fun s => { s with decision := s.decision }) = fees :=
  List.map_id' fees

/-- An entry changes decisions, tasks and notifications, and nothing else. -/
theorem enter_snd (a : Audit) (e : Entry) :
    (a.enter e).2 =
      { a with
        fees := a.fees.map fun s =>
          { s with decision := (e.decisionOn s.recommendation).or s.decision }
        tasks := a.tasks ++ e.task?.toList
        notifications := a.notifications ++ e.notification?.toList } := by
  cases e with
  | decision feeId unitId d =>
    have settled : ∀ s : FeeSuggestion,
        (if concerns feeId unitId s then { s with decision := some d } else s) =
          { s with
            decision :=
              ((Entry.decision feeId unitId d).decisionOn s.recommendation).or s.decision } := by
      intro s
      simp only [concerns_iff, Entry.decisionOn]
      split <;> rfl
    simp only [enter, decide, settled, Entry.task?, Entry.notification?, Option.toList_none,
      List.append_nil]
  | task t =>
    simp only [enter, addTask, Entry.decisionOn, Option.none_or, map_decision_self, Entry.task?,
      Entry.notification?, Option.toList_none, Option.toList_some, List.append_nil]
  | notification n =>
    simp only [enter, addNotification, Entry.decisionOn, Option.none_or, map_decision_self, Entry.task?,
      Entry.notification?, Option.toList_none, Option.toList_some, List.append_nil]

theorem enter_fst (a : Audit) (e : Entry) : (a.enter e).1 = e.matched? a.fees := by
  cases e with
  | decision feeId unitId d =>
    refine congrArg some (List.countP_congr fun s _ => ?_)
    rw [concerns_iff, decide_eq_true_iff]
  | task t => rfl
  | notification n => rfl

/-- How many proposals a decision is about depends on the proposals alone, not on what was decided
on them. -/
theorem matched?_congr {fees fees' : List FeeSuggestion}
    (same : fees.map FeeSuggestion.recommendation = fees'.map FeeSuggestion.recommendation)
    (e : Entry) : e.matched? fees = e.matched? fees' := by
  have counted : ∀ (feeId : String) (unitId : Option String) (fees : List FeeSuggestion),
      fees.countP (fun s => IsAbout feeId unitId s.recommendation) =
        (fees.map FeeSuggestion.recommendation).countP fun r => IsAbout feeId unitId r := by
    intro feeId unitId fees
    rw [List.countP_map]
    rfl
  cases e with
  | decision feeId unitId d => simp only [Entry.matched?, counted, same]
  | task t => rfl
  | notification n => rfl

/-! ## A run of entries -/

/-- The decision of the first entry counts if there is none behind it. -/
theorem lastDecision_cons (e : Entry) (rest : List Entry) (r : Recommendation) :
    lastDecision (e :: rest) r = (lastDecision rest r).or (e.decisionOn r) := by
  unfold lastDecision
  cases first : e.decisionOn r with
  | none => rw [List.filterMap_cons_none first, Option.or_none]
  | some d =>
    rw [List.filterMap_cons_some first, List.getLast?_cons]
    cases (rest.filterMap (Entry.decisionOn r)).getLast? <;> rfl

/-- All that a run of entries does. -/
theorem enterAll_snd (a : Audit) (entries : List Entry) :
    (a.enterAll entries).2 =
      { a with
        fees := a.fees.map fun s =>
          { s with decision := (lastDecision entries s.recommendation).or s.decision }
        tasks := a.tasks ++ entries.filterMap Entry.task?
        notifications := a.notifications ++ entries.filterMap Entry.notification? } := by
  induction entries generalizing a with
  | nil =>
    simp only [enterAll, lastDecision, List.filterMap_nil, List.getLast?_nil, Option.none_or,
      map_decision_self, List.append_nil]
  | cons e rest ih =>
    show ((a.enter e).2.enterAll rest).2 = _
    rw [ih, enter_snd]
    simp only [List.map_map, Function.comp_def, lastDecision_cons, Option.or_assoc,
      List.filterMap_eq_flatMap_toList, List.flatMap_cons, List.append_assoc]

theorem recommendation_enter (a : Audit) (e : Entry) :
    (a.enter e).2.fees.map FeeSuggestion.recommendation =
      a.fees.map FeeSuggestion.recommendation := by
  rw [enter_snd]
  exact List.map_map

/-- Every answer of a run is the one that the entry has at its start. -/
theorem enterAll_fst (a : Audit) (entries : List Entry) :
    (a.enterAll entries).1 = entries.map (Entry.matched? a.fees) := by
  induction entries generalizing a with
  | nil => rfl
  | cons e rest ih =>
    show (a.enter e).1 :: ((a.enter e).2.enterAll rest).1 = _
    rw [enter_fst, ih, List.map_cons]
    refine congrArg (_ :: ·) (List.map_congr_left fun later _ => ?_)
    exact matched?_congr (a.recommendation_enter e) later

/-- **What a run of entries changes.** Whatever is put down on an audit, and in whatever order:

* a decision is answered with the number of proposals of the audit that it is about, as if nothing
  had been put down before it;
* every proposal ends with the last decision about it, or else with the one that it had, which is
  none in a compiled audit;
* the tasks and the notifications that were put down stand in their order behind those there were;
* the instant, the rules, the proposals themselves and the issues stay as they are, and with the
  issues the verdict. -/
theorem entries_touch_followup_only (a : Audit) (entries : List Entry) :
    let answers := (a.enterAll entries).1
    let after := (a.enterAll entries).2
    answers = entries.map (Entry.matched? a.fees) ∧
      after.fees = a.fees.map (fun s =>
        { s with decision := (lastDecision entries s.recommendation).or s.decision }) ∧
      (∀ requirements fees fields form units now,
        (compile requirements fees fields form units now).fees.filterMap FeeSuggestion.decision =
          []) ∧
      after.tasks = a.tasks ++ entries.filterMap Entry.task? ∧
      after.notifications = a.notifications ++ entries.filterMap Entry.notification? ∧
      after.compiledAt = a.compiledAt ∧ after.evaluations = a.evaluations ∧
      after.triggered = a.triggered ∧
      after.fees.map FeeSuggestion.recommendation = a.fees.map FeeSuggestion.recommendation ∧
      after.validation = a.validation ∧ after.hasBlockingIssues = a.hasBlockingIssues := by
  intro answers after
  have effect : after = _ := a.enterAll_snd entries
  rw [effect]
  refine ⟨a.enterAll_fst entries, rfl, ?_, rfl, rfl, rfl, rfl, rfl, List.map_map, rfl, rfl⟩
  intro requirements fees fields form units now
  simp only [compile, List.filterMap_map]
  exact List.filterMap_eq_nil_iff.mpr fun _ _ => rfl

/-- Two damaged units with the same fee. The decision on the first unit stands against the later one
on the second unit, and gives way to the one on all units. -/
example :
    let fee (unitId : String) : FeeSuggestion :=
      { recommendation :=
          { feeId := "damage", feeName := "Damaged Unit Fee", feeAmount := 75, reason := "",
            unitId := some unitId, autoAdded := false, ruleId := "r" } }
    let a : Audit :=
      { compiledAt := ⟨0, 0⟩, evaluations := [], triggered := [], fees := [fee "U1", fee "U2"],
        validation := { blocking := [] } }
    let (answers, after) := a.enterAll
      [.decision "damage" (some "U1") .accepted, .decision "damage" none .dismissed,
        .decision "damage" (some "U2") .modified]
    answers = [some 1, some 2, some 1] ∧
      after.fees.map FeeSuggestion.decision = [some .dismissed, some .modified] := by
  decide

end ReportRules.Audit
