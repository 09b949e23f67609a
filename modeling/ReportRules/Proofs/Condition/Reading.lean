import ReportRules.Condition.Reading
import ReportRules.Proofs.Decimal.Grammar
import ReportRules.Proofs.Text.Blank

/-!
# ReportRules.Proofs.Condition.Reading -- values read as numbers

A text reads as a number exactly when it is blank, which counts as zero, or a numeral between white
space. That other letters are looked for first changes nothing: a numeral has none. Around texts,
`Json.Reads` says which values read as a number and as which; what they read as is never NaN.
-/

namespace ReportRules

open Decimal (Numeral)
open Text (isBlank isFigure)

/-! ## Numerals -/

namespace Json

theorem isForeignLetter_of_isFigure {c : Char} (h : isFigure c = true) :
    isForeignLetter c = false := by
  have range := Text.isFigure_iff_toNat.mp h
  have upper : c.isUpper = false := by
    refine decide_eq_false ?_
    change ¬ (65 ≤ c.toNat ∧ c.toNat ≤ 90)
    omega
  have lower : c.isLower = false := by
    have apart : ¬ 97 ≤ c.toNat ∨ ¬ c.toNat ≤ 122 := by omega
    exact Bool.and_eq_false_iff.mpr (apart.imp decide_eq_false decide_eq_false)
  have letter : c.isAlpha = false := Bool.or_eq_false_iff.mpr ⟨upper, lower⟩
  simp [isForeignLetter, letter]

/-- The only letter of a numeral is the mark of its exponent. -/
theorem isForeignLetter_of_writes {cs : List Char} {n : Numeral} (h : Numeral.Writes cs n) :
    ∀ c ∈ cs, isForeignLetter c = false := by
  refine h.forall_mem (fun c => isForeignLetter_of_isFigure) ?_
  simp only [List.forall_mem_cons]
  exact ⟨rfl, rfl, rfl, rfl, rfl, List.forall_mem_nil _⟩

/-- A text that is not blank reads as the double nearest to the numeral that it writes. -/
theorem textReading?_eq_some_iff {s : String} (visible : Text.isBlankText s = false) {x : Float} :
    textReading? s = some x ↔ ∃ n, Numeral.Writes (Text.trimChars s.toList) n ∧ n.toFloat = x := by
  have present : Text.trimChars s.toList ≠ [] := by
    intro nothing
    have blank := List.all_eq_true.mpr (Text.trimChars_eq_nil_iff.mp nothing)
    exact absurd blank (by simpa [Text.isBlankText] using visible)
  unfold textReading?
  generalize Text.trimChars s.toList = cs at present
  simp only [List.isEmpty_iff, if_neg present]
  constructor
  · intro h
    split at h
    · cases h
    · obtain ⟨n, hread, rfl⟩ := Option.map_eq_some_iff.mp h
      exact ⟨n, Numeral.read?_eq_some_iff.mp hread, rfl⟩
  · rintro ⟨n, writes, rfl⟩
    have letters : ¬ cs.any isForeignLetter = true := by
      simpa using isForeignLetter_of_writes writes
    rw [if_neg letters, Numeral.read?_eq_some_iff.mpr writes]
    rfl

/-! ## Values -/

/-- A value that holds no other values. -/
def IsScalar : Json → Prop
  | .arr _ | .obj _ => False
  | .null | .bool _ | .num _ | .str _ => True

/-- A value reads as a number. -/
inductive Reads : Json → Float → Prop
  | null : Reads .null 0
  | bool (b : Bool) : Reads (.bool b) (if b then 1 else 0)
  | number (n : Number) : Reads (.num n) n.toFloat
  | blank {s : String} (blank : ∀ c ∈ s.toList, isBlank c = true) : Reads (.str s) 0
  | numeral {s : String} {left text right : List Char} {n : Numeral}
      (whole : s.toList = left ++ (text ++ right)) (before : ∀ c ∈ left, isBlank c = true)
      (writes : Numeral.Writes text n) (after : ∀ c ∈ right, isBlank c = true) :
      Reads (.str s) n.toFloat
  | empty : Reads (.arr []) 0
  | single {item : Json} {x : Float} (scalar : item.IsScalar) (reads : Reads item x) :
      Reads (.arr [item]) x

theorem isBlank_of_writes {cs : List Char} {n : Numeral} (h : Numeral.Writes cs n) :
    ∀ c ∈ cs, isBlank c = false := by
  refine h.forall_mem (fun c => Text.isBlank_of_isFigure) ?_
  simp only [List.forall_mem_cons]
  exact ⟨rfl, rfl, rfl, rfl, rfl, List.forall_mem_nil _⟩

theorem ne_nil_of_writes {cs : List Char} {n : Numeral} (h : Numeral.Writes cs n) : cs ≠ [] := by
  rintro rfl
  cases Numeral.read?_eq_some_iff.mpr h

theorem textReading?_eq_some_iff_reads {s : String} {x : Float} :
    textReading? s = some x ↔ (Json.str s).Reads x := by
  cases visible : Text.isBlankText s with
  | true =>
    have blank : ∀ c ∈ s.toList, isBlank c = true := List.all_eq_true.mp visible
    have zero : textReading? s = some 0 := by
      unfold textReading?
      rw [Text.trimChars_eq_nil_iff.mpr blank]
      rfl
    rw [zero]
    constructor
    · intro h
      obtain rfl := Option.some.inj h
      exact .blank blank
    · intro h
      cases h with
      | blank => rfl
      | numeral whole before writes after =>
        obtain ⟨c, more, rfl⟩ := List.exists_cons_of_ne_nil (ne_nil_of_writes writes)
        have isVisible := isBlank_of_writes writes c List.mem_cons_self
        rw [blank c (by simp [whole])] at isVisible
        cases isVisible
  | false =>
    rw [textReading?_eq_some_iff visible]
    constructor
    · rintro ⟨n, writes, rfl⟩
      obtain ⟨left, right, whole, before, after⟩ := Text.exists_of_trimChars s.toList
      exact .numeral whole before writes after
    · intro h
      cases h with
      | blank blank =>
        rw [Text.isBlankText, List.all_eq_true.mpr blank] at visible
        cases visible
      | @numeral _ left text right n whole before writes after =>
        refine ⟨n, ?_, rfl⟩
        rwa [whole, Text.trimChars_between before after (isBlank_of_writes writes)]

theorem scalarReading?_eq_some_iff {v : Json} {x : Float} :
    scalarReading? v = some x ↔ v.IsScalar ∧ v.Reads x := by
  have fixed {y : Float} (scalar : v.IsScalar) (reads : v.Reads y)
      (only : ∀ z, v.Reads z → y = z) : some y = some x ↔ v.IsScalar ∧ v.Reads x := by
    refine Option.some_inj.trans ⟨fun same => ⟨scalar, same ▸ reads⟩, fun h => only x h.2⟩
  cases v with
  | null => exact fixed trivial .null fun z h => by cases h; rfl
  | bool b => exact fixed trivial (.bool b) fun z h => by cases h; rfl
  | num n => exact fixed trivial (.number n) fun z h => by cases h; rfl
  | str s => exact textReading?_eq_some_iff_reads.trans (and_iff_right trivial).symm
  | arr items | obj members => exact ⟨nofun, fun h => h.1.elim⟩

/-- The values that read as numbers are read as those numbers, and no other value is. -/
theorem reading?_eq_some_iff {v : Json} {x : Float} : v.reading? = some x ↔ v.Reads x := by
  have scalar (isScalar : v.IsScalar) (same : v.reading? = scalarReading? v) :
      v.reading? = some x ↔ v.Reads x := by
    rw [same, scalarReading?_eq_some_iff]
    exact and_iff_right isScalar
  match v with
  | .null | .bool _ | .num _ | .str _ => exact scalar trivial rfl
  | .arr [] =>
    refine ⟨fun h => ?_, fun reads => by cases reads; rfl⟩
    obtain rfl := Option.some.inj h
    exact .empty
  | .arr [item] =>
    refine scalarReading?_eq_some_iff.trans ⟨fun h => .single h.1 h.2, fun reads => ?_⟩
    cases reads with
    | single isScalar reads => exact ⟨isScalar, reads⟩
  | .arr (_ :: _ :: _) | .obj _ => exact ⟨nofun, nofun⟩

end Json

end ReportRules
