import ReportRules.Engine
import ReportRules.Proofs.Trace.Deciding

/-!
# ReportRules.Proofs.Trace.Tracing -- what rule tracing lets through

Rule tracing puts one directive in force beside those of the configured text: all that is below the
path of the automation may report at `debug`. It takes the place of a directive for that very path
and outdoes every directive with a shorter one. A directive whose path goes on behind that of the
automation, or one for this path that asks for a field besides, is narrower, and where it decides it
keeps back what rule tracing was switched on for: `narrower_directive_silences_fees`. Nothing else
in a text can do so.
-/

namespace ReportRules.Trace

/-! ## The events of rules -/

/-- An event of one of the three resolvers: a requirement that a rule made, a fee that was proposed,
or a default value that could not be given. -/
inductive IsRuleEvent : Event → Prop
  | requirement (rules : List RequirementRule) (subject : Record) {e : Event}
      (reported : e ∈ (Resolution.of rules subject).events) : IsRuleEvent e
  | fee (rules : List FeeRule) (form : Record) (units : Option (List Record)) {e : Event}
      (reported : e ∈ (resolveFees rules form units).map Recommendation.event) : IsRuleEvent e
  | default (rule : DefaultRule) (job : Record) (history : Option Record)
      (now : Calendar.Instant) {e : Event} (reported : e ∈ rule.events job history now) :
      IsRuleEvent e

theorem IsRuleEvent.exists_part {e : Event} (h : IsRuleEvent e) :
    ∃ part message fields, e = automationEvent part message fields := by
  cases h with
  | requirement rules subject reported =>
    obtain ⟨rule, -, rfl⟩ := List.mem_map.mp reported
    exact ⟨_, _, _, rfl⟩
  | fee rules form units reported =>
    obtain ⟨r, -, rfl⟩ := List.mem_map.mp reported
    exact ⟨_, _, _, rfl⟩
  | default rule job history now reported =>
    unfold DefaultRule.events at reported
    split at reported
    · exact ⟨_, _, _, List.mem_singleton.mp reported⟩
    · exact ⟨_, _, _, List.mem_singleton.mp reported⟩
    · cases reported
    · cases reported

theorem ruleTracing_covers (part message : String) (fields : List (String × String)) :
    ruleTracing.covers (automationEvent part message fields) = true := by
  have below : automationTarget.toList <+:
      (automationTarget ++ "::" ++ part).toList := by
    rw [String.append_assoc, String.toList_append]
    exact List.prefix_append _ _
  simp only [Directive.covers, ruleTracing, automationEvent, List.isPrefixOf_iff_prefix.mpr below]
  rfl

/-- A directive is about less than all of the automation: its path goes on behind that of the
automation, or it asks for a field besides. -/
def Directive.IsNarrower (d : Directive) : Prop :=
  ∃ path, d.target = some path ∧
    (automationTarget.length < path.length ∨ path = automationTarget ∧ d.field ≠ none)

namespace Directive

theorem weight_ruleTracing_lt_iff {d : Directive} :
    ruleTracing.weight < d.weight ↔
      ∃ path, d.target = some path ∧
        (automationTarget.length < path.length ∨
          path.length = automationTarget.length ∧ d.field ≠ none) := by
  obtain ⟨target, span, field, limit⟩ := d
  cases target with
  | none => cases field <;> simp [weight, ruleTracing]
  | some path =>
    simp only [weight, ruleTracing, Option.some_inj, exists_eq_left']
    cases field with
    | none => simp
    | some test =>
      simp only [Option.isSome_none, Option.isSome_some, Bool.false_eq_true, if_true, if_false,
        Nat.add_zero, ne_eq, reduceCtorEq, not_false_eq_true, and_true]
      omega

/-- On an event of a rule the narrower directives are those that are closer than rule tracing. -/
theorem isCloserThan_ruleTracing_iff {d : Directive} {part message : String}
    {fields : List (String × String)}
    (covers : d.covers (automationEvent part message fields) = true) :
    d.isCloserThan ruleTracing = true ↔ d.IsNarrower := by
  -- a directive of the same weight asks for no field, so no field of it comes last
  have noTie : d.weight = ruleTracing.weight → ¬ ruleTracing.fieldName < d.fieldName := by
    intro weights
    have noField : d.field = none := by
      simpa [ruleTracing] using (weight_eq_iff.mp weights).2
    simp [fieldName, noField, ruleTracing]
  have closer : d.isCloserThan ruleTracing = true ↔ ruleTracing.weight < d.weight := by
    simp only [isCloserThan, Bool.or_eq_true, Bool.and_eq_true, decide_eq_true_eq, beq_iff_eq]
    exact or_iff_left fun tie => noTie tie.1 tie.2
  rw [closer, weight_ruleTracing_lt_iff]
  have whole := (covers_iff.mp (ruleTracing_covers part message fields)).1 _ rfl
  refine exists_congr fun path => and_congr_right fun target => or_congr_right ?_
  refine and_congr_left fun _ => ⟨fun length => ?_, congrArg String.length⟩
  exact path_eq_of_length_eq ((covers_iff.mp covers).1 path target) whole length

end Directive

theorem LogSettings.filter_eq_ok_iff {s : LogSettings} {g : Filter} (traced : s.traceRules = true) :
    s.filter none = .ok g ↔ ∃ f, Filter.read? s.level = some f ∧ g = f.add ruleTracing := by
  unfold LogSettings.filter
  cases Filter.read? s.level with
  | none => simp
  | some f => simp [traced, eq_comm]

/-- **When rule tracing is kept back.** The configured level was accepted and rule tracing is on. An
event of the requirements, of the fees or of the default values then passes, unless the directive of
the configured text that decides about it is narrower than rule tracing and lets less than `debug`
pass. -/
theorem rule_events_pass_unless_narrowed {s : LogSettings} {g : Filter}
    (traced : s.traceRules = true) (accepted : s.filter none = .ok g) {e : Event}
    (reported : IsRuleEvent e) :
    ∃ f, Filter.read? s.level = some f ∧
      (g.passes e = true ↔
        ¬ ∃ d, f.Decides e d ∧ d.IsNarrower ∧ d.limit < Level.debug.rank) := by
  obtain ⟨f, hread, rfl⟩ := (LogSettings.filter_eq_ok_iff traced).mp accepted
  refine ⟨f, hread, ?_⟩
  obtain ⟨part, message, fields, rfl⟩ := reported.exists_part
  have distinct := Filter.distinct_of_read? hread
  unfold Filter.passes
  rw [f.deciding?_add (ruleTracing_covers part message fields)]
  simp only [← distinct.deciding?_eq_some_iff]
  cases hown : f.deciding? (automationEvent part message fields) with
  | none =>
    refine iff_of_true ?_ (by simp)
    rfl
  | some own =>
    have decides := distinct.deciding?_eq_some_iff.mp hown
    have narrower := Directive.isCloserThan_ruleTracing_iff decides.covers
    rw [Directive.isCloserThan_iff] at narrower
    by_cases closer : own.IsNarrower
    · have stays : ruleTracing.closerOf own = own := if_pos (narrower.mpr closer)
      simp only [Option.elim_some, stays, Option.some_inj, exists_eq_left', closer, true_and,
        not_lt, decide_eq_true_eq]
      rfl
    · have gives : ruleTracing.closerOf own = ruleTracing := if_neg fun h => closer (narrower.mp h)
      simp only [Option.elim_some, gives, Option.some_inj, exists_eq_left', closer, false_and,
        not_false_eq_true, iff_true, decide_eq_true_eq]
      exact le_rfl

/-- A fee for jobs that are far away. -/
def travelFee : FeeRule :=
  { id := "travel-fee", feeId := "travel", feeName := "Travel", feeAmount := 40,
    conditions := [{ field := "remote", operator := .equals, value := .bool true }] }

/-- The form of such a job. -/
def remoteForm : Record :=
  .ofList [("remote", .bool true)]

/-- The event of its fee. -/
def travelEvent : Event :=
  automationEvent "fees" "fee suggestion triggered"
    [("rule_id", "travel-fee"), ("fee_id", "travel"), ("unit_id", "-")]

theorem isRuleEvent_travelEvent : IsRuleEvent travelEvent :=
  .fee [travelFee] remoteForm none (by decide)

/-- Everything is switched off, the default values by a directive of their own: the event of a fee
passes all the same. -/
theorem travel_fee_passes_when_off :
    let s : LogSettings :=
      { level := "off,fieldops::workflows::service_report::automation::defaults=off",
        traceRules := true }
    ∃ g, s.filter none = .ok g ∧ IsRuleEvent travelEvent ∧ g.passes travelEvent = true := by
  intro s
  let defaultsOff : Directive :=
    { target := some "fieldops::workflows::service_report::automation::defaults", limit := 0 }
  let allOff : Directive := { target := none, limit := 0 }
  have own : Filter.read? s.level = some ⟨[defaultsOff, allOff]⟩ := by decide
  have accepted : s.filter none = .ok (Filter.add ⟨[defaultsOff, allOff]⟩ ruleTracing) :=
    (LogSettings.filter_eq_ok_iff rfl).mpr ⟨_, own, rfl⟩
  obtain ⟨f, hread, passes_iff⟩ :=
    rule_events_pass_unless_narrowed rfl accepted isRuleEvent_travelEvent
  obtain rfl : (⟨[defaultsOff, allOff]⟩ : Filter) = f := Option.some_inj.mp (own.symm.trans hread)
  refine ⟨_, accepted, isRuleEvent_travelEvent, passes_iff.mpr ?_⟩
  rintro ⟨d, decides, ⟨path, target, -⟩, -⟩
  rcases List.mem_pair.mp decides.mem with rfl | rfl
  · -- the narrower directive is about other events
    exact absurd decides.covers (by decide)
  · cases target

/-- A level for the fees alone is accepted and keeps back their events although rule tracing is
on. -/
theorem narrower_directive_silences_fees :
    let s : LogSettings :=
      { level := "fieldops::workflows::service_report::automation::fees=info", traceRules := true }
    ∃ g, s.filter none = .ok g ∧
      travelEvent ∈ (resolveFees [travelFee] remoteForm none).map Recommendation.event ∧
      g.passes travelEvent = false := by
  intro s
  let feesInfo : Directive :=
    { target := some "fieldops::workflows::service_report::automation::fees", limit := 3 }
  have own : Filter.read? s.level = some ⟨[feesInfo]⟩ := by decide
  refine ⟨_, (LogSettings.filter_eq_ok_iff rfl).mpr ⟨_, own, rfl⟩, by decide, by decide⟩

end ReportRules.Trace
