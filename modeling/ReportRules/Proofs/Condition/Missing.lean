import ReportRules.Condition.Holds
import ReportRules.Proofs.Decimal.Characters

/-!
# ReportRules.Proofs.Condition.Missing -- conditions on a field that is not there

An absent field is unequal to everything, it compares with nothing and is in no list. As a text it
is empty, so it contains what is empty as a text: besides `null`, the empty text and the empty array
only an array around one such value, for two elements already have a comma between them.
-/

namespace ReportRules

/-! ## Values without text -/

namespace Json

/-- A value that is empty as a text. -/
inductive Blank : Json → Prop
  | null : Blank .null
  | text : Blank (.str "")
  | empty : Blank (.arr [])
  | single {item : Json} (h : Blank item) : Blank (.arr [item])

theorem numberPlainText_ne_empty (n : Number) : numberPlainText n ≠ "" := by
  cases n with
  | int n => exact intText_ne_empty n
  | float x =>
    rw [numberPlainText]
    split
    · exact intText_ne_empty _
    · exact Decimal.Layout.text_ne_empty _ x

/-- Two elements and more have a comma between them. -/
theorem plainText_pair_ne_empty (x y : Json) (rest : List Json) :
    plainText (.arr (x :: y :: rest)) ≠ "" := by
  unfold plainText plainTexts plainTexts
  rw [String.intercalate_cons_cons]
  simp [String.append_eq_empty_iff]

theorem plainText_singleton (item : Json) : plainText (.arr [item]) = plainText item := by
  rw [plainText, plainTexts, plainTexts]
  rfl

theorem plainText_eq_empty_iff : (v : Json) → (plainText v = "" ↔ v.Blank)
  | .null => iff_of_true rfl .null
  | .bool b => by
    refine iff_of_false ?_ nofun
    cases b <;> decide
  | .num n => iff_of_false (numberPlainText_ne_empty n) nofun
  | .str s => by
    refine ⟨fun h => ?_, fun h => ?_⟩
    · obtain rfl : s = "" := h
      exact .text
    · cases h
      rfl
  | .arr [] => iff_of_true rfl .empty
  | .arr [item] => by
    rw [plainText_singleton, plainText_eq_empty_iff item]
    refine ⟨.single, fun h => ?_⟩
    cases h with
    | single h => exact h
  | .arr (x :: y :: rest) => iff_of_false (plainText_pair_ne_empty x y rest) nofun
  | .obj members => by
    rw [plainText]
    exact iff_of_false (by decide) nofun

end Json

/-! ## Operators -/

theorem Text.contains_empty_iff {needle : String} : contains "" needle = true ↔ needle = "" := by
  change needle.toList.isEmpty = true ↔ needle = ""
  rw [List.isEmpty_iff, String.toList_eq_nil_iff]

/-- **Conditions on a field that is not there.** Such a condition holds exactly when it asks for the
field to be unequal to something, or to contain a value that is empty as a text. -/
theorem holds_on_missing_field {c : Condition} {r : Record} (missing : r.find? c.field = none) :
    c.holds r = true ↔ c.operator = .notEquals ∨ c.operator = .contains ∧ c.value.Blank := by
  unfold Condition.holds
  rw [missing]
  cases operator : c.operator with
  | notEquals => exact iff_of_true rfl (.inl rfl)
  | contains =>
    -- a field that is not there is the empty text here
    have asText : Operator.matches .contains none c.value = Text.contains "" c.value.plainText := rfl
    rw [asText, Text.contains_empty_iff, Json.plainText_eq_empty_iff]
    simp
  | equals | inList | unknown | greaterThan | lessThan => simp [Operator.matches]

/-- Of two rules on an absent field, one looks for an empty text in nested arrays and fires, the
other one for two empty texts and does not. -/
theorem nested_empty_text_is_contained :
    let r : Record := .ofList [("status", .str "ok")]
    let holds (value : Json) : Bool :=
      Condition.holds { field := "notes", operator := .contains, value } r
    r.find? "notes" = none ∧ holds (.arr [.arr [.str ""]]) = true ∧
      holds (.arr [.str "", .null]) = false := by
  intro r holds
  have missing : r.find? "notes" = none := rfl
  refine ⟨missing, (holds_on_missing_field missing).mpr (.inr ⟨rfl, .single (.single .text)⟩), ?_⟩
  refine Bool.eq_false_iff.mpr fun h => ?_
  rcases (holds_on_missing_field missing).mp h with unequal | ⟨-, blank⟩
  · cases unequal
  · cases blank

end ReportRules
