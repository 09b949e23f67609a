import ReportRules.Command.Demo
import ReportRules.Proofs.Audit.Triggering
import ReportRules.Proofs.Condition.Holds
import ReportRules.Proofs.Condition.Whole
import ReportRules.Proofs.Default.Resolved
import ReportRules.Proofs.Fee.Position
import ReportRules.Proofs.Service.Outcomes
import ReportRules.Proofs.Validation.Filling

/-!
# ReportRules.Proofs.Command.SampleRoute -- the sample route is blocked once, then stored

The sample route has any number of units, and only the first two of them matter to the built-in
rules. The first one is damaged, so it needs evidence and costs a fee. The second one is restocked,
and so is every second one behind it, but the fee for that is proposed once. No requirement rule
triggers on a unit behind the first.

So a route is a first unit and later ones, and what the rules make of it is found stage by stage:
what they say about one record, about one unit of the route, and about all of them.
-/

namespace ReportRules

open Calendar (Instant)

/-! ## The built-in rules on a record -/

namespace Standard

variable {r : Record}

theorem holds_damaged_iff :
    damaged.holds r = true ↔ r.find? "unit_status" = some (.str "damaged") := by
  rw [damaged, ConditionSet.holds_singleton rfl]
  show Operator.equals.matches (r.find? "unit_status") (.str "damaged") = true ↔ _
  rcases r.find? "unit_status" with _ | value
  · simp [Operator.matches]
  · cases value <;> simp [Operator.matches, Json.equals, Json.same]

/-- Integers are compared as doubles, and no other one has the double of one hundred. -/
theorem holds_largeVolume_iff {volume : Int} (fits : (Number.int volume).Fits)
    (found : r.find? "volume_gallons" = some (.int volume)) :
    largeVolume.holds r = true ↔ 100 < volume := by
  rw [largeVolume, ConditionSet.holds_singleton rfl]
  show Operator.greaterThan.matches (r.find? "volume_gallons") (.int 100) = true ↔ _
  rw [found]
  show decide (Float.ofInt 100 < Float.ofInt volume) = true ↔ _
  rw [decide_eq_true_iff, Decimal.ofInt_lt_iff (by decide) fits]
  exact Decimal.nearestInt_lt_iff (Decimal.eq_or_nearestInt_ne (.inl (by decide)))

theorem holds_largeVolume_of_missing (missing : r.find? "volume_gallons" = none) :
    largeVolume.holds r = false := by
  rw [largeVolume, ConditionSet.holds_singleton rfl]
  show Operator.greaterThan.matches (r.find? "volume_gallons") (.int 100) = false
  rw [missing]
  rfl

theorem holds_restocked_iff :
    restocked.holds r = true ↔
      ∃ kind ∈ ["paper", "sanitizer", "both"], r.find? "supplies_restocked" = some (.str kind) := by
  rw [restocked, ConditionSet.holds_singleton rfl]
  show Operator.inList.matches (r.find? "supplies_restocked")
    (.arr [.str "paper", .str "sanitizer", .str "both"]) = true ↔ _
  rcases r.find? "supplies_restocked" with _ | value
  · simp [Operator.matches]
  · cases value with
    | str s =>
      simp only [Operator.matches, Json.equals, Json.same, List.any_cons, List.any_nil,
        Bool.or_false, Bool.or_eq_true, beq_iff_eq, List.exists_mem_cons_iff, List.not_mem_nil,
        false_and, exists_false, or_false, Option.some_inj, Json.str.injEq]
      exact or_congr eq_comm (or_congr eq_comm eq_comm)
    | _ => simp [Operator.matches, Json.equals, Json.same]

/-- The two requirement rules trigger independently of each other. -/
theorem triggered_eq (r : Record) :
    (Resolution.of rules.requirements r).triggered =
      (if largeVolume.holds r then [overflowNotes] else []) ++
        if damaged.holds r then [damageEvidence] else [] := by
  have first : overflowNotes.triggers r = largeVolume.holds r := Bool.true_and _
  have second : damageEvidence.triggers r = damaged.holds r := Bool.true_and _
  show [overflowNotes, damageEvidence].filter (fun rule => rule.triggers r) = _
  rw [List.filter_cons, List.filter_cons, first, second, List.filter_nil]
  cases largeVolume.holds r <;> cases damaged.holds r <;> rfl

end Standard

/-! ## Units behind the first -/

/-- Where no rule triggers, a unit has no issue. -/
theorem UnitAt.issues_of_untriggered {u : UnitAt} {unitLabel : String} {fields : EvidenceFields}
    {rules : List RequirementRule} (h : (Resolution.of rules u.record).triggered = []) :
    u.issues unitLabel fields (Resolution.of rules u.record) = [] := by
  have nothing : (Resolution.of rules u.record).requiredBy = .empty :=
    congrArg Resolution.requirers h
  simp [issues, Resolution.missingFields, nothing, h, Keyed.empty]

/-- The units behind the first one. -/
def UnitAt.enumerateBehind (others : List Record) : List UnitAt :=
  (others.zipIdx 1).map fun (record, index) => ⟨record, index⟩

theorem UnitAt.enumerate_cons (first : Record) (others : List Record) :
    UnitAt.enumerate (first :: others) = ⟨first, 0⟩ :: UnitAt.enumerateBehind others :=
  rfl

theorem UnitAt.record_mem_of_mem_enumerateBehind {others : List Record} {u : UnitAt}
    (hu : u ∈ UnitAt.enumerateBehind others) : u.record ∈ others := by
  obtain ⟨⟨record, index⟩, hmem, rfl⟩ := List.mem_map.mp hu
  exact List.fst_mem_of_mem_zipIdx hmem

theorem validate_of_untriggered_behind {rules : List RequirementRule} {fields : EvidenceFields}
    {loop : UnitLoop} (form first : Record) {others : List Record} (enabled : loop.enabled = true)
    (h : ∀ unit ∈ others, (Resolution.of rules unit).triggered = []) :
    validate rules fields (some loop) form (some (first :: others)) =
      UnitAt.issues ⟨first, 0⟩ loop.unitLabel fields (Resolution.of rules first) := by
  have mode : checkedUnits? (some (first :: others)) (some loop) =
      some (loop.unitLabel, first :: others) :=
    checkedUnits?_eq_some_iff.mpr ⟨loop, rfl, enabled, rfl, rfl, List.cons_ne_nil _ _⟩
  have behind : (UnitAt.enumerateBehind others).flatMap (fun u =>
      u.issues loop.unitLabel fields (Resolution.of rules u.record)) = [] :=
    List.flatMap_eq_nil_iff.mpr fun u hu =>
      UnitAt.issues_of_untriggered (h u.record (UnitAt.record_mem_of_mem_enumerateBehind hu))
  rw [validate, mode]
  dsimp only
  rw [UnitAt.enumerate_cons, List.flatMap_cons, behind, List.append_nil]

/-- A rule for units proposes its fee for the first one and then for those behind it. -/
theorem FeeRule.proposals_cons {rule : FeeRule} (perUnit : rule.scope = .perUnit)
    (form first : Record) (others : List Record) :
    rule.proposals form (some (first :: others)) =
      (if rule.conditions.holds first then [⟨rule, some ⟨first, 0⟩⟩] else []) ++
        ((UnitAt.enumerateBehind others).filter fun u => rule.conditions.holds u.record).map
          fun u => ⟨rule, some u⟩ := by
  simp only [proposals, perUnit, Option.getD_some, UnitAt.enumerate_cons, List.filter_cons]
  split <;> rfl

namespace Command.Demo

open Standard (damaged restocked restockFee)

/-! ## The route -/

/-- The units behind the first one. -/
def laterUnits (count : Nat) : List Record :=
  (List.range count).map fun i => unit (i + 2)

theorem numbers_succ (count : Nat) :
    numbers (count + 1) = 1 :: (List.range count).map (· + 2) := by
  simp [numbers, List.range_succ_eq_map, Function.comp_def]

theorem units_succ (count : Nat) : units (count + 1) = unit 1 :: laterUnits count := by
  simp [units, numbers_succ, laterUnits, Function.comp_def]

theorem completeUnits_succ (count : Nat) :
    completeUnits (count + 1) = withEvidence (unit 1) :: laterUnits count := by
  simp [completeUnits, numbers_succ, laterUnits, Function.comp_def]

theorem length_completeUnits (unitCount : Nat) : (completeUnits unitCount).length = unitCount := by
  simp [completeUnits, numbers]

theorem find?_unit (number : Nat) (field : String) :
    (unit number).find? field =
      if field = "supplies_restocked" then some (.str (if number % 2 = 0 then "both" else "none"))
      else if field = "unit_status" then
        some (.str (if number = 1 then "damaged" else "serviced"))
      else if field = "unit_id" then
        some (.str ("PT-" ++ String.ofList (Text.paddedFigures 2 number)))
      else none := by
  simp [unit, record, Record.ofMembers, Keyed.ofList]

theorem damaged_unit_iff (number : Nat) : damaged.holds (unit number) = true ↔ number = 1 := by
  rw [Standard.holds_damaged_iff, find?_unit, if_neg (by decide), if_pos rfl]
  by_cases first : number = 1 <;> simp [first]

theorem restocked_unit_iff (number : Nat) :
    restocked.holds (unit number) = true ↔ number % 2 = 0 := by
  rw [Standard.holds_restocked_iff, find?_unit, if_pos rfl]
  by_cases even : number % 2 = 0 <;> simp [even]

/-- No requirement rule triggers on a unit behind the first. -/
theorem triggered_laterUnits {count : Nat} {later : Record} (h : later ∈ laterUnits count) :
    (Resolution.of Standard.rules.requirements later).triggered = [] := by
  obtain ⟨i, -, rfl⟩ := List.mem_map.mp h
  have volume : (unit (i + 2)).find? "volume_gallons" = none := by simp [find?_unit]
  have undamaged : ¬ damaged.holds (unit (i + 2)) = true := by simp [damaged_unit_iff]
  simp [Standard.triggered_eq, Standard.holds_largeVolume_of_missing volume, undamaged]

/-! ## Issues -/

/-- What the damaged unit lacks in the first submission. -/
def firstIssues : List Issue :=
  [{ unitId := some "PT-01", unitIndex := some 0, fieldId := "damage_notes",
     fieldLabel := "Damage Notes", kind := .requiredField,
     message := "Unit 1 (PT-01): Damage Notes is required",
     ruleName := some "Damaged unit evidence" },
   { unitId := some "PT-01", unitIndex := some 0, fieldId := "photos", fieldLabel := "Photos",
     kind := .missingEvidence,
     message := "Unit 1 (PT-01): at least 2 photo(s) required, found 0",
     ruleName := some "Damaged unit evidence" },
   { unitId := some "PT-01", unitIndex := some 0, fieldId := "gps_lock", fieldLabel := "Gps Lock",
     kind := .missingEvidence, message := "Unit 1 (PT-01): GPS location lock is required",
     ruleName := some "Damaged unit evidence" }]

/-- The engine of the built-in rules. -/
def builtIn : Engine :=
  { rules := Standard.rules }

theorem validate_units (form : Record) (count : Nat) :
    builtIn.validate form (some (units (count + 1))) = firstIssues := by
  have first : UnitAt.issues ⟨unit 1, 0⟩ defaultUnitLabel {}
      (Resolution.of Standard.rules.requirements (unit 1)) = firstIssues := by decide
  rw [units_succ]
  exact (validate_of_untriggered_behind form _ rfl fun _ => triggered_laterUnits).trans first

theorem validate_completeUnits (form : Record) (count : Nat) :
    builtIn.validate form (some (completeUnits (count + 1))) = [] := by
  have first : UnitAt.issues ⟨withEvidence (unit 1), 0⟩ defaultUnitLabel {}
      (Resolution.of Standard.rules.requirements (withEvidence (unit 1))) = [] := by decide
  rw [completeUnits_succ]
  exact (validate_of_untriggered_behind form _ rfl fun _ => triggered_laterUnits).trans first

/-! ## Fees -/

/-- The fee for the damaged unit. -/
def damageProposal : Recommendation :=
  { feeId := "damage", feeName := "Damaged Unit Fee", feeAmount := 75,
    reason := "unit_status equals damaged", unitId := some "PT-01", unitIndex := some 0,
    autoAdded := false, ruleId := "damage-fee" }

/-- The fee for the first unit that is restocked. -/
def restockProposal : Recommendation :=
  { feeId := "restock", feeName := "Supply Restock", feeAmount := 15,
    reason := "supplies_restocked is one of paper,sanitizer,both", unitId := some "PT-02",
    unitIndex := some 1, autoAdded := true, ruleId := "restock-fee" }

theorem proposals_damageFee (form : Record) (count : Nat) :
    Standard.damageFee.proposals form (some (completeUnits (count + 1))) =
      [⟨Standard.damageFee, some ⟨withEvidence (unit 1), 0⟩⟩] := by
  have first : Standard.damageFee.conditions.holds (withEvidence (unit 1)) = true := by decide
  have behind : (UnitAt.enumerateBehind (laterUnits count)).filter
      (fun u => Standard.damageFee.conditions.holds u.record) = [] := by
    refine List.filter_eq_nil_iff.mpr fun u hu => ?_
    obtain ⟨i, -, same⟩ := List.mem_map.mp (UnitAt.record_mem_of_mem_enumerateBehind hu)
    have undamaged : ¬ damaged.holds (unit (i + 2)) = true := by simp [damaged_unit_iff]
    exact same ▸ undamaged
  rw [completeUnits_succ, FeeRule.proposals_cons rfl, if_pos first, behind]
  rfl

/-- Of the restocked units the one with number two is the first. -/
theorem take_proposals_restockFee (form : Record) (count : Nat) :
    (restockFee.proposals form (some (completeUnits (count + 1)))).take 1 =
      if 2 ≤ count + 1 then [⟨restockFee, some ⟨unit 2, 1⟩⟩] else [] := by
  have first : ¬ restockFee.conditions.holds (withEvidence (unit 1)) = true := by decide
  rw [completeUnits_succ, FeeRule.proposals_cons rfl, if_neg first, List.nil_append]
  cases count with
  | zero => rfl
  | succ count =>
    have second : restockFee.conditions.holds (unit 2) = true := (restocked_unit_iff 2).mpr rfl
    have later : laterUnits (count + 1) =
        unit 2 :: (List.range count).map fun i => unit (i + 3) := by
      simp [laterUnits, List.range_succ_eq_map, Function.comp_def]
    simp [later, UnitAt.enumerateBehind, second]

theorem fees_completeUnits (form : Record) (count : Nat) :
    builtIn.fees form (some (completeUnits (count + 1))) =
      damageProposal :: if 2 ≤ count + 1 then [restockProposal] else [] := by
  have both : proposals Standard.rules.fees form (some (completeUnits (count + 1))) =
      Standard.damageFee.proposals form (some (completeUnits (count + 1))) ++
        restockFee.proposals form (some (completeUnits (count + 1))) := by
    show [Standard.damageFee, restockFee].flatMap _ = _
    rw [List.flatMap_cons, List.flatMap_singleton]
  have keyed : ∀ p ∈ restockFee.proposals form (some (completeUnits (count + 1))),
      p.key = some (.fee "restock") := by
    intro p hp
    obtain ⟨u, -, rfl⟩ := List.mem_map.mp hp
    rfl
  have apart : ∀ p ∈ Standard.damageFee.proposals form (some (completeUnits (count + 1))),
      p.key ≠ some (.fee "restock") := by
    intro p hp
    obtain ⟨u, -, rfl⟩ := List.mem_map.mp hp
    exact nofun
  show resolveFees Standard.rules.fees form (some (completeUnits (count + 1))) = _
  rw [resolveFees_eq_map_kept, both, kept_append_of_key apart keyed, take_proposals_restockFee,
    proposals_damageFee]
  split <;> rfl

/-! ## The run -/

/-- The service of a run. It knows the last visit of the job. -/
def sampleService (now : Instant) : Service :=
  { engine := builtIn, history := History.empty.remember job (lastVisit now) }

/-- The form of a run as it is filled beforehand. -/
def prefilled (unitCount : Nat) (now : Instant) : Record :=
  builtIn.defaults (jobData unitCount) (some (lastVisit now)) now

theorem prefill_sampleService (unitCount : Nat) (now : Instant) :
    (sampleService now).prefill { jobKey := some job, job := jobData unitCount } now =
      .ok (prefilled unitCount now) := by
  have visit : (sampleService now).visitFor { jobKey := some job, job := jobData unitCount } =
      .ok (some (lastVisit now)) := rfl
  rw [Service.prefill, visit]
  rfl

/-- The built-in defaults do not say how a unit is. -/
theorem find?_prefilled (unitCount : Nat) (now : Instant) :
    (prefilled unitCount now).find? "unit_status" = none := by
  show (resolveDefaults Standard.rules.defaults _ _ _).find? _ = _
  rw [resolveDefaults_eq_gather, Keyed.find?_gather_eq_none_iff]
  simp [Standard.rules, Standard.defaults]

theorem triggered_completeSubmission (unitCount : Nat) (now : Instant) :
    (Resolution.of Standard.rules.requirements
        (completeSubmission (prefilled unitCount now) unitCount).form).triggered =
      [Standard.overflowNotes] := by
  have volume : (completeSubmission (prefilled unitCount now) unitCount).form.find?
      "volume_gallons" = some (.int 140) := by
    simp [completeSubmission, submission]
  have status : (completeSubmission (prefilled unitCount now) unitCount).form.find?
      "unit_status" = none := by
    simp [completeSubmission, submission, find?_prefilled]
  have large := (Standard.holds_largeVolume_iff (by decide) volume).mpr (by decide)
  have undamaged := mt Standard.holds_damaged_iff.mp (by rw [status]; exact nofun)
  rw [Standard.triggered_eq, if_pos large, if_neg undamaged]
  rfl

/-- Requirement rules are reported for the form, whatever the units. -/
theorem triggeredRuleIds_completeSubmission (unitCount : Nat) (units : Option (List Record))
    (now : Instant) :
    (builtIn.audit (completeSubmission (prefilled unitCount now) unitCount).form units
      now).triggeredRuleIds = ["overflow-notes"] := by
  rw [Engine.audit, Audit.triggeredRuleIds_compile]
  simp only [Resolution.wasTriggered]
  rw [builtIn, triggered_completeSubmission]
  decide

theorem map_recommendation_audit (e : Engine) (form : Record) (units : Option (List Record))
    (now : Instant) :
    (e.audit form units now).fees.map FeeSuggestion.recommendation = e.fees form units := by
  simp [Engine.audit, Engine.fees, Audit.compile, Function.comp_def]

theorem loadEngine_eq_builtIn {vars : Config.Variables} {settings : Config.Settings}
    (read : Config.Settings.read vars = .ok settings) (noBook : settings.rulesPath = none)
    (fields : settings.evidenceFields = {}) (files : Files) :
    loadEngine vars files none = .ok builtIn := by
  have rules : loadRules settings files none = .ok Standard.rules := by
    simp [loadRules, noBook]
  simp [loadEngine, read, rules, fields, bind, Except.bind, Except.mapError, builtIn]

theorem submit_submission (form : Record) (count : Nat) (now : Instant) :
    (sampleService now).submit (submission form (count + 1)) now =
      (.error (.blocked firstIssues), sampleService now) := by
  have issues : (sampleService now).validate (submission form (count + 1)) = firstIssues :=
    validate_units _ count
  have found : (sampleService now).validate (submission form (count + 1)) ≠ [] := by
    rw [issues]
    exact List.cons_ne_nil _ _
  rw [Service.submit_of_issues found, issues]

/-- What is printed where the first submission is blocked and the second one is stored. -/
theorem runLines_of_stored {service after : Service} {unitCount : Nat} {now : Instant}
    {filled : Record} {issues : List Issue} {report : Report}
    (prefill : service.prefill { jobKey := some job, job := jobData unitCount } now = .ok filled)
    (first : service.submit (submission filled unitCount) now = (.error (.blocked issues), service))
    (second : service.submit (completeSubmission filled unitCount) now = (.ok report, after))
    (showAudit : Bool) :
    runLines service unitCount showAudit now =
      "Service report automation demo" :: prefilledLines filled ++
        ["", "First submission attempt (evidence still missing)"] ++ issueLines issues ++
        ["", "Second submission attempt (evidence attached)"] ++ reportLines report ++
        if showAudit then auditLines (settledAudit report) else [] := by
  simp only [runLines, prefill, submissionLines, first, second, secondLines, List.append_assoc,
    List.cons_append, List.nil_append]

/-- **A run on the sample route.** Let no rule book and no fields of evidence be configured. However
many units are asked for, the route has `n` of them, at least one. Its first submission is blocked
by three issues, all of the damaged unit `PT-01`, and leaves the service as it was. Its second one
is stored with all units under the first number. One rule triggers on the form, the one for large
volumes. The fee for damage is proposed for `PT-01`, then, if there is a second unit, the one for
supplies for `PT-02`, and nothing for any unit behind it. What is printed are the defaults, the
issues and the report. -/
theorem sample_route_blocked_then_stored {vars : Config.Variables} {settings : Config.Settings}
    (read : Config.Settings.read vars = .ok settings) (noBook : settings.rulesPath = none)
    (fields : settings.evidenceFields = {}) (files : Files) (unitCount : Nat) (showAudit : Bool)
    (now : Instant) :
    let n := max unitCount 1
    let service : Service :=
      { engine := { rules := Standard.rules },
        history := History.empty.remember job (lastVisit now) }
    ∃ filled report after,
      service.prefill { jobKey := some job, job := jobData n } now = .ok filled ∧
      service.submit (submission filled n) now = (.error (.blocked firstIssues), service) ∧
      service.submit (completeSubmission filled n) now = (.ok report, after) ∧
      report.id = "sr-000001" ∧ after.get "sr-000001" = .ok report ∧
      report.units = completeUnits n ∧ report.units.length = n ∧
      report.audit.triggeredRuleIds = ["overflow-notes"] ∧
      report.audit.fees.map FeeSuggestion.recommendation =
        damageProposal :: (if 2 ≤ n then [restockProposal] else []) ∧
      lines vars files unitCount showAudit now = .ok
        ("Service report automation demo" :: prefilledLines filled ++
          ["", "First submission attempt (evidence still missing)"] ++ issueLines firstIssues ++
          ["", "Second submission attempt (evidence attached)"] ++ reportLines report ++
          if showAudit then auditLines (settledAudit report) else []) := by
  intro n service
  obtain ⟨count, hn⟩ : ∃ count, n = count + 1 := ⟨n - 1, by omega⟩
  let second := completeSubmission (prefilled n now) n
  have blocked : service.submit (submission (prefilled n now) n) now =
      (.error (.blocked firstIssues), service) := by
    rw [hn]
    exact submit_submission _ count now
  have clean : service.validate second = [] := by
    show builtIn.validate _ (some (completeUnits n)) = []
    rw [hn]
    exact validate_completeUnits _ count
  have stored := Service.submit_of_clean clean rfl rfl now
  have number : reportId 1 = "sr-000001" := by decide
  refine ⟨prefilled n now, service.report second 1 now, _, prefill_sampleService n now, blocked, stored,
    number, ?_, rfl, ?_, triggeredRuleIds_completeSubmission n _ now, ?_, ?_⟩
  · rw [← number]
    exact Service.get_of_find? rfl (Keyed.find?_insert_self _ _ _)
  · exact length_completeUnits n
  · have fees := fees_completeUnits second.form count
    rw [← hn] at fees
    rw [← fees]
    exact map_recommendation_audit _ _ _ _
  · rw [lines, loadEngine_eq_builtIn read noBook fields]
    exact congrArg Except.ok
      (runLines_of_stored (prefill_sampleService n now) blocked stored showAudit)

/-- Four units, of which the second and the fourth are restocked. -/
theorem sample_route_of_four_units :
    Config.Settings.read (fun _ => none) = .ok {} ∧
      ∃ filled report,
        report.units = [withEvidence (unit 1), unit 2, unit 3, unit 4] ∧
        report.audit.fees.map FeeSuggestion.recommendation = [damageProposal, restockProposal] ∧
        lines (fun _ => none) (fun _ => .error .missing) 4 false ⟨0, 0⟩ = .ok
          ("Service report automation demo" :: prefilledLines filled ++
            ["", "First submission attempt (evidence still missing)"] ++
            issueLines firstIssues ++
            ["", "Second submission attempt (evidence attached)"] ++
            reportLines report ++ []) := by
  have read : Config.Settings.read (fun _ => none) = .ok {} := rfl
  obtain ⟨filled, report, -, -, -, -, -, -, units, -, -, fees, printed⟩ :=
    sample_route_blocked_then_stored read rfl rfl (fun _ => .error .missing) 4 false ⟨0, 0⟩
  exact ⟨read, filled, report, units, fees, printed⟩

end Command.Demo

end ReportRules
