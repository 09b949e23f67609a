import ReportRules.Condition.Holds
import ReportRules.Trace.Event

/-!
# ReportRules.Fee -- fees proposed for a submission

A fee rule proposes its fee once for the job or once for each unit, where its conditions hold. The
same fee is not proposed twice for the same thing: a rule that prevents duplicates gives way to any
earlier proposal of a rule of its kind for that fee, and any other rule for units gives way to an
earlier proposal for that fee and that unit. A unit without an id is known by its position.

`candidates` lists what the rules propose by themselves, and `firstOfEach` drops the proposals that
give way.
-/

namespace ReportRules

/-- Whether a fee rule looks at the job or at each unit. -/
inductive FeeScope
  | perJob
  | perUnit
  deriving Repr, DecidableEq

/-- A rule that proposes a fee when its conditions hold. -/
structure FeeRule where
  id : String
  feeId : String
  feeName : String
  feeAmount : Float
  conditions : ConditionSet := []
  scope : FeeScope := .perJob
  autoAdd : Bool := false
  preventDuplicates : Bool := false
  active : Bool := true

/-- A proposed fee. -/
structure Recommendation where
  feeId : String
  feeName : String
  feeAmount : Float
  /-- Why the fee is proposed. -/
  reason : String
  unitId : Option String := none
  unitIndex : Option Nat := none
  autoAdded : Bool
  ruleId : String
  deriving DecidableEq

/-- What a proposal is for; no two proposals of one list are for the same thing. -/
inductive FeeKey
  /-- The fee as such. -/
  | fee (feeId : String)
  /-- The fee for one unit. -/
  | unitFee (feeId unit : String)
  deriving Repr, DecidableEq

/-- A proposal before it is known whether an earlier one is for the same thing. A proposal without
a key never gives way. -/
structure Candidate where
  key : Option FeeKey
  recommendation : Recommendation

namespace FeeRule

/-- The reason for a proposal: the first condition that holds. -/
def reason (rule : FeeRule) (subject : Record) : String :=
  match rule.conditions.firstMatch? subject with
  | some condition => condition.describe
  | none => "conditions met"

/-- The proposal of a rule for a subject. -/
def recommend (rule : FeeRule) (subject : Record) (unitId : Option String)
    (unitIndex : Option Nat) : Recommendation :=
  { feeId := rule.feeId, feeName := rule.feeName, feeAmount := rule.feeAmount,
    reason := rule.reason subject, unitId, unitIndex, autoAdded := rule.autoAdd,
    ruleId := rule.id }

/-- What tells a unit apart from others: its id, or its position behind a number sign. -/
def unitKey (unit : Record) (index : Nat) : String :=
  match unit.unitId? with
  | some id => id
  | none => "#" ++ Text.natText index

/-- The key of a proposal for the job. -/
def jobKey (rule : FeeRule) : Option FeeKey :=
  if rule.preventDuplicates then some (.fee rule.feeId) else none

/-- The key of a proposal for a unit. -/
def keyForUnit (rule : FeeRule) (unit : Record) (index : Nat) : Option FeeKey :=
  if rule.preventDuplicates then some (.fee rule.feeId)
  else some (.unitFee rule.feeId (unitKey unit index))

/-- The proposals of a rule by itself. -/
def candidates (rule : FeeRule) (form : Record) (units : Option (List Record)) : List Candidate :=
  if !rule.active then []
  else
    match rule.scope with
    | .perJob =>
      if rule.conditions.holds form then [⟨rule.jobKey, rule.recommend form none none⟩] else []
    | .perUnit =>
      ((units.getD []).zipIdx.filter fun (unit, _) => rule.conditions.holds unit).map
        fun (unit, index) =>
          ⟨rule.keyForUnit unit index, rule.recommend unit unit.unitId? (some index)⟩

end FeeRule

/-- Go through proposals in order and keep those whose key, if they have one, is not taken. -/
def firstOfEach : List FeeKey → List Candidate → List Recommendation
  | _, [] => []
  | taken, c :: rest =>
    match c.key with
    | none => c.recommendation :: firstOfEach taken rest
    | some key =>
      if key ∈ taken then firstOfEach taken rest
      else c.recommendation :: firstOfEach (key :: taken) rest

/-- The fees proposed for a submission: rule by rule, and unit by unit within a rule. -/
def resolveFees (rules : List FeeRule) (form : Record) (units : Option (List Record)) :
    List Recommendation :=
  firstOfEach [] (rules.flatMap fun rule => rule.candidates form units)

/-- The event of a proposal. -/
def Recommendation.event (r : Recommendation) : Trace.Event :=
  Trace.automationEvent "fees" "fee suggestion triggered"
    [("rule_id", r.ruleId), ("fee_id", r.feeId), ("unit_id", r.unitId.getD "-")]

end ReportRules
