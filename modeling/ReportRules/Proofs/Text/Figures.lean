import Mathlib.Logic.Function.Basic
import ReportRules.Decimal.Binary
import ReportRules.Text.Figures

/-!
# ReportRules.Proofs.Text.Figures -- what is written in figures reads back

`figuresValue` undoes `figures`, and zeros in front change no value. So neither the plain nor the
padded writing gives two numbers the same text, whatever the width: a number that needs more
figures than the width is written in full.
-/

namespace ReportRules.Text

/-- A run of figures writes a number in base ten. -/
theorem figuresValue_eq_ofDigitChars (cs : List Char) :
    figuresValue cs = Nat.ofDigitChars 10 cs 0 := rfl

@[simp]
theorem figuresValue_figures (n : Nat) : figuresValue (figures n) = n := by
  rw [figuresValue_eq_ofDigitChars]
  exact Nat.ofDigitChars_ten_toDigits

theorem figuresValue_cons_zero (cs : List Char) : figuresValue ('0' :: cs) = figuresValue cs := rfl

theorem figuresValue_replicate_zero_append (count : Nat) (cs : List Char) :
    figuresValue (List.replicate count '0' ++ cs) = figuresValue cs := by
  induction count with
  | zero => rfl
  | succ count ih => rw [List.replicate_succ, List.cons_append, figuresValue_cons_zero, ih]

@[simp]
theorem figuresValue_paddedFigures (width n : Nat) : figuresValue (paddedFigures width n) = n := by
  unfold paddedFigures List.leftpad
  rw [figuresValue_replicate_zero_append, figuresValue_figures]

theorem figures_injective : Function.Injective figures :=
  Function.LeftInverse.injective figuresValue_figures

theorem paddedFigures_injective (width : Nat) : Function.Injective (paddedFigures width) :=
  Function.LeftInverse.injective (figuresValue_paddedFigures width)

theorem isFigure_eq_isDigit (c : Char) : isFigure c = c.isDigit := rfl

theorem isFigure_iff_toNat {c : Char} : isFigure c = true ↔ 48 ≤ c.toNat ∧ c.toNat ≤ 57 := by
  simp only [isFigure, Bool.and_eq_true, decide_eq_true_eq, Char.le_def, UInt32.le_iff_toNat_le]
  exact Iff.rfl

theorem isFigure_of_mem_figures {n : Nat} {c : Char} (h : c ∈ figures n) : isFigure c = true := by
  rw [isFigure_eq_isDigit]
  exact Nat.isDigit_of_mem_toDigits (by decide) (by decide) h

theorem isFigure_of_mem_paddedFigures {width n : Nat} {c : Char} (h : c ∈ paddedFigures width n) :
    isFigure c = true := by
  unfold paddedFigures List.leftpad at h
  rcases List.mem_append.mp h with h | h
  · rw [List.eq_of_mem_replicate h]
    rfl
  · exact isFigure_of_mem_figures h

/-- A number that fits into a width fills it exactly. -/
theorem length_paddedFigures {width n : Nat} (present : 0 < width)
    (fits : n < Decimal.tenTo width) :
    (paddedFigures width n).length = width := by
  unfold paddedFigures
  rw [List.length_leftpad]
  exact Nat.max_eq_left ((Nat.length_toDigits_le_iff (by decide) present).mpr fits)

end ReportRules.Text
