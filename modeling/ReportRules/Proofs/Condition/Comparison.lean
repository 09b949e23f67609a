import ReportRules.Condition.Holds
import ReportRules.Proofs.Decimal.Numeric
import ReportRules.Proofs.Formula.Leftmost
import ReportRules.Proofs.Json.Numbers

/-!
# ReportRules.Proofs.Condition.Comparison -- where a value counts as a number

An ordered comparison takes both of its sides as numbers and fails when one of them is none. A
placeholder of a formula is stricter than a comparison: it takes a number or a text that is not
blank, and only if that reads as a finite number.
-/

namespace ReportRules

/-! ## Readings are numbers -/

/-- What a JSON value reads as is a number, if perhaps an infinite one. -/
theorem Json.Reads.isNaN_eq_false {v : Json} {x : Float} (h : v.Reads x) (fit : v.NumbersFit) :
    x.isNaN = false := by
  induction h with
  | null | blank _ | empty => rfl
  | bool b => cases b <;> rfl
  | number n =>
    have fits : n.Fits := fit
    exact Decimal.isNaN_of_isFinite (u := n.toFloat.toModel.unpack) fits.isFinite_toFloat
  | numeral whole before writes after => exact Decimal.Numeral.isNaN_toFloat _
  | single scalar reads ih => exact ih fit.1

/-! ## Comparisons -/

/-- A comparison of two readings that may be missing. -/
theorem comparison_eq_true_iff {o o' : Option Float} {p : Float → Float → Prop} [DecidableRel p] :
    (match o, o' with
      | some a, some e => decide (p a e)
      | _, _ => false) = true ↔ ∃ a e, o = some a ∧ o' = some e ∧ p a e := by
  cases o with
  | none => simp
  | some a => cases o' <;> simp

theorem bind_reading?_eq_some_iff {actual : Option Json} {a : Float} :
    actual.bind Json.reading? = some a ↔ ∃ v, actual = some v ∧ v.Reads a := by
  simp only [Option.bind_eq_some_iff, Json.reading?_eq_some_iff]

namespace Condition

variable {c : Condition} {r : Record}

theorem holds_greaterThan_iff (greater : c.operator = .greaterThan) :
    c.holds r = true ↔
      ∃ v a e, r.find? c.field = some v ∧ v.Reads a ∧ c.value.Reads e ∧ e < a := by
  unfold holds
  rw [greater]
  refine comparison_eq_true_iff.trans ?_
  simp only [bind_reading?_eq_some_iff, Json.reading?_eq_some_iff]
  grind

theorem holds_lessThan_iff (less : c.operator = .lessThan) :
    c.holds r = true ↔
      ∃ v a e, r.find? c.field = some v ∧ v.Reads a ∧ c.value.Reads e ∧ a < e := by
  unfold holds
  rw [less]
  refine comparison_eq_true_iff.trans ?_
  simp only [bind_reading?_eq_some_iff, Json.reading?_eq_some_iff]
  grind

end Condition

/-! ## Placeholders -/

/-- A placeholder takes a number or a text with something in it, and only a finite one. -/
theorem Formula.contributes_iff {v : Json} {x : Float} :
    Formula.Contributes v x ↔
      ((∃ n, v = .num n) ∨ ∃ s, v = .str s ∧ Text.isBlankText s = false) ∧
        v.Reads x ∧ x.isFinite = true := by
  constructor
  · rintro (⟨finite⟩ | ⟨visible, writes, finite⟩)
    · exact ⟨.inl ⟨_, rfl⟩, .number _, finite⟩
    · refine ⟨.inr ⟨_, rfl, visible⟩, ?_, finite⟩
      exact Json.textReading?_eq_some_iff_reads.mp
        ((Json.textReading?_eq_some_iff visible).mpr ⟨_, writes, rfl⟩)
  · rintro ⟨⟨n, rfl⟩ | ⟨s, rfl, visible⟩, reads, finite⟩
    · cases reads
      exact .number finite
    · obtain ⟨n, writes, rfl⟩ := (Json.textReading?_eq_some_iff visible).mp
        (Json.textReading?_eq_some_iff_reads.mpr reads)
      exact .text visible writes finite

/-- **Where a value counts as a number.** `Json.Reads` says which values read as a number: numbers,
truth values and `null`; a text that is blank, or that is a numeral between white space; an empty
array, and an array of one such value that is not an array itself. What a JSON value reads as is
never NaN. An ordered comparison holds exactly when the field is there, both sides read as numbers
and these compare. A placeholder has a value exactly when its field holds a number, or a text that
is not blank, and this reads as a finite number. -/
theorem numeric_readings :
    (∀ (v : Json) (x : Float), v.reading? = some x ↔ v.Reads x) ∧
    (∀ (v : Json) (x : Float), v.NumbersFit → v.reading? = some x → x.isNaN = false) ∧
    (∀ (c : Condition) (r : Record), c.operator = .greaterThan →
      (c.holds r = true ↔
        ∃ v a e, r.find? c.field = some v ∧ v.Reads a ∧ c.value.Reads e ∧ e < a)) ∧
    (∀ (c : Condition) (r : Record), c.operator = .lessThan →
      (c.holds r = true ↔
        ∃ v a e, r.find? c.field = some v ∧ v.Reads a ∧ c.value.Reads e ∧ a < e)) ∧
    ∀ (job : Record) (name : String) (x : Float), Formula.resolveName job name = .ok x ↔
      ∃ v, job.find? name = some v ∧
        ((∃ n, v = .num n) ∨ ∃ s, v = .str s ∧ Text.isBlankText s = false) ∧
          v.Reads x ∧ x.isFinite = true := by
  refine ⟨fun v x => Json.reading?_eq_some_iff,
    fun v x fit reading => (Json.reading?_eq_some_iff.mp reading).isNaN_eq_false fit,
    fun c r => Condition.holds_greaterThan_iff, fun c r => Condition.holds_lessThan_iff,
    fun job name x => ?_⟩
  rw [Formula.resolveName_eq_ok_iff]
  simp only [Formula.contributes_iff]

/-- A text between no-break spaces is above a number in a list; what a double would be written as
when it is infinite is no number, and is neither above nor below one. -/
theorem infinity_is_not_a_number :
    let r : Record := .ofList [("level", .str "\u00a0150 "), ("reading", .str "inf")]
    let above (field : String) : Condition :=
      { field, operator := .greaterThan, value := .arr [.str "1e2"] }
    let below (field : String) : Condition :=
      { field, operator := .lessThan, value := .arr [.str "1e2"] }
    (Json.str "inf").reading? = none ∧ (above "level").holds r = true ∧
      (above "reading").holds r = false ∧ (below "reading").holds r = false ∧
      ∀ x, Formula.resolveName r "reading" ≠ .ok x := by
  intro r above below
  obtain ⟨reads, -, greater, less, resolves⟩ := numeric_readings
  have nothing : (Json.str "inf").reading? = none := by decide +kernel
  -- the three refusals below all come from this
  have unread : ∀ {v x}, r.find? "reading" = some v → ¬ v.Reads x := by
    intro v x found h
    obtain rfl : Json.str "inf" = v := Option.some.inj found
    rw [(reads _ _).mpr h] at nothing
    cases nothing
  refine ⟨nothing, (greater _ r rfl).mpr ?_, ?_, ?_, ?_⟩
  · have level : (Json.str "\u00a0150 ").reading? = some 150 := by decide +kernel
    have limit : (above "level").value.reading? = some 100 := by decide +kernel
    exact ⟨_, _, _, rfl, (reads _ _).mp level, (reads _ _).mp limit, by decide⟩
  · refine Bool.eq_false_iff.mpr fun h => ?_
    obtain ⟨v, a, e, found, h, -⟩ := (greater _ r rfl).mp h
    exact unread found h
  · refine Bool.eq_false_iff.mpr fun h => ?_
    obtain ⟨v, a, e, found, h, -⟩ := (less _ r rfl).mp h
    exact unread found h
  · intro x h
    obtain ⟨v, found, -, h, -⟩ := (resolves r "reading" x).mp h
    exact unread found h

end ReportRules
