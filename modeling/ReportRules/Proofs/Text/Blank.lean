import Mathlib.Data.List.TakeWhile
import ReportRules.Proofs.Text.Figures
import ReportRules.Proofs.Text.Runs
import ReportRules.Text.Blank

/-!
# ReportRules.Proofs.Text.Blank -- what trimming takes away

Trimming takes white space off both ends of a text, and nothing else (`exists_of_trimChars`). What
stands between white space and has none at its own ends is what trimming leaves
(`trimChars_between`), so a text without any white space is not changed.
-/

namespace ReportRules.Text

theorem trimChars_eq_nil_iff {cs : List Char} :
    trimChars cs = [] ↔ ∀ c ∈ cs, isBlank c = true := by
  unfold trimChars trimStartChars
  rw [List.reverse_eq_nil_iff, List.dropWhile_eq_nil_iff]
  simp only [List.mem_reverse]
  constructor
  · intro h
    cases hrest : cs.dropWhile isBlank with
    | nil => exact List.dropWhile_eq_nil_iff.mp hrest
    | cons c rest =>
      have blank : isBlank c = true := h c (hrest ▸ List.mem_cons_self)
      have visible : isBlank c = false := ends_dropWhile isBlank cs c rest hrest
      exact absurd blank (by simp [visible])
  · intro h c hc
    exact h c ((List.dropWhile_suffix isBlank).mem hc)

/-- A text without white space ends wherever white space begins. -/
theorem ends_of_visible {core : List Char} (visible : ∀ c ∈ core, isBlank c = false)
    (present : core ≠ []) (rest : List Char) : Ends isBlank (core ++ rest) := by
  obtain ⟨c, more, rfl⟩ := List.exists_cons_of_ne_nil present
  exact ends_cons (visible c List.mem_cons_self) (more ++ rest)

theorem trimStartChars_of_visible {core : List Char} (visible : ∀ c ∈ core, isBlank c = false)
    (present : core ≠ []) (rest : List Char) : trimStartChars (core ++ rest) = core ++ rest :=
  dropWhile_run (List.forall_mem_nil _) (ends_of_visible visible present rest)

/-- Trimming leaves what stands between the white space. -/
theorem trimChars_between {left core right : List Char} (before : ∀ c ∈ left, isBlank c = true)
    (after : ∀ c ∈ right, isBlank c = true) (visible : ∀ c ∈ core, isBlank c = false) :
    trimChars (left ++ (core ++ right)) = core := by
  rcases eq_or_ne core [] with rfl | present
  · rw [trimChars_eq_nil_iff, List.nil_append]
    exact List.forall_mem_append.mpr ⟨before, after⟩
  · have start : trimStartChars (left ++ (core ++ right)) = core ++ right :=
      dropWhile_run before (ends_of_visible visible present right)
    have mirrored : ∀ c ∈ core.reverse, isBlank c = false :=
      fun c hc => visible c (List.mem_reverse.mp hc)
    have stop : (right.reverse ++ core.reverse).dropWhile isBlank = core.reverse := by
      refine dropWhile_run (fun c hc => after c (List.mem_reverse.mp hc)) ?_
      simpa using ends_of_visible mirrored (by simpa using present) []
    unfold trimChars
    rw [start, List.reverse_append, stop, List.reverse_reverse]

theorem trimChars_of_visible {cs : List Char} (visible : ∀ c ∈ cs, isBlank c = false) :
    trimChars cs = cs := by
  simpa using trimChars_between (List.forall_mem_nil _) (List.forall_mem_nil _) visible

theorem trim_of_visible {s : String} (visible : ∀ c ∈ s.toList, isBlank c = false) :
    trim s = s := by
  rw [trim, trimChars_of_visible visible, String.ofList_toList]

/-- What trimming takes off a text is white space at its ends. -/
theorem exists_of_trimChars (cs : List Char) : ∃ left right, cs = left ++ (trimChars cs ++ right) ∧
    (∀ c ∈ left, isBlank c = true) ∧ ∀ c ∈ right, isBlank c = true := by
  have blank : ∀ {text : List Char}, ∀ c ∈ text.takeWhile isBlank, isBlank c = true :=
    fun c hc => List.mem_takeWhile_imp hc
  let started := trimStartChars cs
  refine ⟨cs.takeWhile isBlank, (started.reverse.takeWhile isBlank).reverse, ?_, blank,
    fun c hc => blank c (List.mem_reverse.mp hc)⟩
  have stopped : trimChars cs ++ (started.reverse.takeWhile isBlank).reverse = started := by
    unfold trimChars
    rw [← List.reverse_append, List.takeWhile_append_dropWhile, List.reverse_reverse]
  rw [stopped]
  exact List.takeWhile_append_dropWhile.symm

/-- No figure is white space. -/
theorem isBlank_of_isFigure {c : Char} (h : isFigure c = true) : isBlank c = false := by
  have range := isFigure_iff_toNat.mp h
  unfold isBlank
  grind

end ReportRules.Text
