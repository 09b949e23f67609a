import ReportRules.Engine

/-!
# ReportRules.Standard -- the built-in rule book

The rules of a route of portable sanitation units, used where no rule book is configured. A large
volume needs a note; a damaged unit needs notes, two photos and a location lock, and costs a fee;
restocked supplies cost a fee once; four fields of a new report are filled beforehand.
-/

namespace ReportRules.Standard

/-- A unit is damaged. -/
def damaged : ConditionSet :=
  [{ field := "unit_status", operator := .equals, value := .str "damaged" }]

/-- The volume is above one hundred gallons. -/
def largeVolume : ConditionSet :=
  [{ field := "volume_gallons", operator := .greaterThan, value := .int 100 }]

/-- Supplies of some kind were restocked. -/
def restocked : ConditionSet :=
  [{ field := "supplies_restocked", operator := .inList,
     value := .arr [.str "paper", .str "sanitizer", .str "both"] }]

/-- A large volume makes a note mandatory. -/
def overflowNotes : RequirementRule :=
  { id := "overflow-notes", name := "Overflow documentation", conditions := largeVolume,
    requiredFields := ["overflow_notes"] }

/-- A damaged unit makes notes and evidence mandatory. -/
def damageEvidence : RequirementRule :=
  { id := "damage-evidence", name := "Damaged unit evidence", conditions := damaged,
    requiredFields := ["damage_notes"], evidence := some { photos := some 2, gps := true } }

/-- The fee for each damaged unit. -/
def damageFee : FeeRule :=
  { id := "damage-fee", feeId := "damage", feeName := "Damaged Unit Fee", feeAmount := 75,
    conditions := damaged, scope := .perUnit }

/-- The fee for restocked supplies, added once and without asking. -/
def restockFee : FeeRule :=
  { id := "restock-fee", feeId := "restock", feeName := "Supply Restock", feeAmount := 15,
    conditions := restocked, scope := .perUnit, autoAdd := true, preventDuplicates := true }

/-- The formula for the minutes that a route takes. -/
def minutesFormula : String :=
  "\x7bunit_count\x7d * 12 + 15"

/-- The defaults of a new report. -/
def defaults : List DefaultRule :=
  [{ fieldId := "service_date", source := .system, sourceField := some "current_date" },
   { fieldId := "contact_name", source := .jobData, sourceField := some "site_contact" },
   { fieldId := "access_notes", source := .lastVisit, sourceField := some "access_notes",
     daysThreshold := some 90 },
   { fieldId := "estimated_minutes", source := .formula, formula := some minutesFormula }]

/-- The built-in rule book. -/
def rules : RuleBook :=
  { requirements := [overflowNotes, damageEvidence], fees := [damageFee, restockFee], defaults }

end ReportRules.Standard
