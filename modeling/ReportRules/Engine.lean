import ReportRules.Audit
import ReportRules.Default
import ReportRules.Requirement

/-!
# ReportRules.Engine -- a rule book with the conventions it is evaluated under

A rule book holds the requirement rules, the fee rules and the default rules of one form, each kind
in the order in which its rules are taken. An engine is what a service needs to answer for one form:
the rules, the fields in which evidence is looked for, and how units are checked.
-/

namespace ReportRules

open Calendar (Instant)

/-- The rules configured for a form. -/
structure RuleBook where
  requirements : List RequirementRule := []
  fees : List FeeRule := []
  defaults : List DefaultRule := []

/-- Whether a book holds no rule at all. -/
def RuleBook.isEmpty (b : RuleBook) : Bool :=
  b.requirements.isEmpty && b.fees.isEmpty && b.defaults.isEmpty

/-- A rule book and its conventions. -/
structure Engine where
  rules : RuleBook := {}
  evidenceFields : EvidenceFields := {}
  unitLoop : UnitLoop := { enabled := true }

namespace Engine

/-- What the requirement rules ask of a subject. -/
def requirements (e : Engine) (subject : Record) : Resolution :=
  .of e.rules.requirements subject

/-- The fees proposed for a submission. -/
def fees (e : Engine) (form : Record) (units : Option (List Record)) : List Recommendation :=
  resolveFees e.rules.fees form units

/-- The default values for a job. -/
def defaults (e : Engine) (job : Record) (history : Option Record) (now : Instant) : Record :=
  resolveDefaults e.rules.defaults job history now

/-- The issues of a submission. -/
def validate (e : Engine) (form : Record) (units : Option (List Record)) : List Issue :=
  ReportRules.validate e.rules.requirements e.evidenceFields (some e.unitLoop) form units

/-- The audit of a submission. -/
def audit (e : Engine) (form : Record) (units : Option (List Record)) (now : Instant) : Audit :=
  .compile e.rules.requirements e.rules.fees e.evidenceFields form units now

/-! ## Events of the same questions -/

/-- The events of asking for default values. -/
def defaultEvents (e : Engine) (job : Record) (history : Option Record) (now : Instant) :
    List Trace.Event :=
  e.rules.defaults.flatMap fun rule => rule.events job history now

/-- The events of asking for fees. -/
def feeEvents (e : Engine) (form : Record) (units : Option (List Record)) : List Trace.Event :=
  (e.fees form units).map Recommendation.event

/-- The events of checking a submission. -/
def validationEvents (e : Engine) (form : Record) (units : Option (List Record)) :
    List Trace.Event :=
  ReportRules.validationEvents e.rules.requirements (some e.unitLoop) form units

/-- The events of compiling an audit. -/
def auditEvents (e : Engine) (form : Record) (units : Option (List Record)) : List Trace.Event :=
  Audit.events e.rules.requirements e.rules.fees form units

end Engine

end ReportRules
