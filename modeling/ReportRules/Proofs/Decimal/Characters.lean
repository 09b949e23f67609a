import ReportRules.Json.Value
import ReportRules.Proofs.Text.Figures

/-!
# ReportRules.Proofs.Decimal.Characters -- what number texts are made of

A number is written with figures, signs, a point, the mark of an exponent, and the letters of the
words for what has no figures. No other character can come from a number, so a text with any other
character in it is the text of no number. Nor is an empty text, for something is always written.
-/

namespace ReportRules

open Text (isFigure)

/-- A character that number texts are made of. -/
def isNumberChar (c : Char) : Bool :=
  isFigure c || "+-.einfNa".toList.contains c

/-- A text of such characters. -/
def IsNumberText (s : String) : Prop :=
  ∀ c ∈ s.toList, isNumberChar c = true

instance (s : String) : Decidable (IsNumberText s) :=
  List.decidableBAll (fun c => isNumberChar c = true) s.toList

theorem isNumberChar_of_isFigure {c : Char} (h : isFigure c = true) : isNumberChar c = true := by
  simp [isNumberChar, h]

theorem IsNumberText.append {s t : String} (hs : IsNumberText s) (ht : IsNumberText t) :
    IsNumberText (s ++ t) := by
  intro c hc
  rw [String.toList_append, List.mem_append] at hc
  exact hc.elim (hs c) (ht c)

theorem isNumberText_ofList {cs : List Char} (h : ∀ c ∈ cs, isFigure c = true) :
    IsNumberText (String.ofList cs) := by
  intro c hc
  rw [String.toList_ofList] at hc
  exact isNumberChar_of_isFigure (h c hc)

/-! ## Integers -/

theorem isNumberText_natText (n : Nat) : IsNumberText (Text.natText n) :=
  isNumberText_ofList fun _ => Text.isFigure_of_mem_figures

theorem isNumberText_intText (n : Int) : IsNumberText (Text.intText n) := by
  cases n with
  | ofNat n => exact isNumberText_natText n
  | negSucc n =>
    have minus : IsNumberText "-" := by decide
    exact minus.append (isNumberText_natText (n + 1))

/-! ## Doubles -/

namespace Decimal

/-- A run of figures and an exponent, with nothing but figures in the run. -/
def Digits.Proper (d : Digits) : Prop :=
  ∀ c ∈ d.figures, isFigure c = true

theorem Digits.proper_zero (exponent : Int) : Digits.Proper ⟨['0'], exponent⟩ := by
  intro c hc
  rw [List.mem_singleton.mp hc]
  rfl

theorem Digits.proper_ofScaled (n : Nat) (k : Int) : (Digits.ofScaled n k).Proper := by
  intro c hc
  have member : c ∈ Text.figures n := by
    have := (List.dropWhile_suffix _).subset (List.mem_reverse.mp hc)
    exact List.mem_reverse.mp this
  exact Text.isFigure_of_mem_figures member

theorem Binary.proper_of_onGrid? {b : Binary} {tie : Tie} {count : Nat} {d : Digits}
    (h : b.onGrid? tie count = some d) : d.Proper := by
  unfold onGrid? at h
  dsimp only at h
  split at h
  · cases h
  all_goals
    obtain rfl := Option.some_inj.mp h
    exact Digits.proper_ofScaled _ _

theorem Binary.proper_shortest (b : Binary) (tie : Tie) : (b.shortest tie).Proper := by
  unfold shortest
  cases found : (List.range 17).findSome? fun i => b.onGrid? tie (i + 1) with
  | none => exact Digits.proper_zero 0
  | some d =>
    obtain ⟨i, -, hi⟩ := List.exists_of_findSome?_eq_some found
    exact proper_of_onGrid? hi

theorem Digits.isNumberText_positionalText {d : Digits} (h : d.Proper) {mark : String}
    (hmark : IsNumberText mark) : IsNumberText (d.positionalText mark) := by
  have zeros : ∀ count, ∀ c ∈ List.replicate count '0', isFigure c = true := by
    intro count c hc
    rw [List.eq_of_mem_replicate hc]
    rfl
  have both : ∀ {xs ys : List Char}, (∀ c ∈ xs, isFigure c = true) →
      (∀ c ∈ ys, isFigure c = true) → IsNumberText (String.ofList (xs ++ ys)) :=
    fun hx hy => isNumberText_ofList (List.forall_mem_append.mpr ⟨hx, hy⟩)
  unfold positionalText
  split
  · have front : IsNumberText "0." := by decide
    exact front.append (both (zeros _) h)
  · dsimp only
    split
    · exact (both h (zeros _)).append hmark
    · have point : IsNumberText "." := by decide
      have whole : ∀ count, IsNumberText (String.ofList (d.figures.take count)) := fun count =>
        isNumberText_ofList fun c hc => h c (List.mem_of_mem_take hc)
      have part : ∀ count, IsNumberText (String.ofList (d.figures.drop count)) := fun count =>
        isNumberText_ofList fun c hc => h c (List.mem_of_mem_drop hc)
      exact ((whole _).append point).append (part _)

theorem Digits.isNumberText_exponentText {d : Digits} (h : d.Proper) :
    IsNumberText d.exponentText := by
  have point : IsNumberText "." := by decide
  have letter : IsNumberText "e" := by decide
  have sign : IsNumberText (if d.exponent < 0 then "-" else "+") := by
    split <;> decide
  unfold exponentText
  dsimp only
  refine ((IsNumberText.append ?_ letter).append sign).append (isNumberText_natText _)
  -- what is left is the run, with a point behind its first figure if there are more
  split
  · decide
  · rename_i c hfigures
    exact isNumberText_ofList (hfigures ▸ h)
  · rename_i c rest _ hfigures
    have first : ∀ x ∈ [c], isFigure x = true := fun x hx => by
      rw [List.mem_singleton.mp hx]
      exact h c (hfigures ▸ List.mem_cons_self)
    have others : ∀ x ∈ rest, isFigure x = true := fun x hx =>
      h x (hfigures ▸ List.mem_cons_of_mem c hx)
    exact ((isNumberText_ofList first).append point).append (isNumberText_ofList others)

theorem Layout.digitsText_eq_or (layout : Layout) (d : Digits) :
    layout.digitsText d = d.positionalText layout.wholeMark ∨
      layout.digitsText d = d.exponentText :=
  ite_eq_or_eq _ _ _

theorem Layout.isNumberText_digitsText (layout : Layout) (hmark : IsNumberText layout.wholeMark)
    {d : Digits} (h : d.Proper) : IsNumberText (layout.digitsText d) := by
  rcases layout.digitsText_eq_or d with positional | exponential
  · rw [positional]
    exact Digits.isNumberText_positionalText h hmark
  · rw [exponential]
    exact Digits.isNumberText_exponentText h

theorem Layout.isNumberText_text (layout : Layout) (hmark : IsNumberText layout.wholeMark)
    (x : Float) : IsNumberText (layout.text x) := by
  have sign : ∀ b : Binary, IsNumberText (if b.negative then "-" else "") := by
    intro b
    split <;> decide
  unfold text
  split
  · unfold unboundedText
    split
    · split <;> decide
    · decide
  · rename_i b _
    have proper := b.proper_shortest layout.tie
    dsimp only
    split
    · have zero : IsNumberText "0" := by decide
      exact ((sign b).append zero).append hmark
    · exact (sign b).append (layout.isNumberText_digitsText hmark proper)

end Decimal

theorem Number.isNumberText_text (n : Number) : IsNumberText n.text := by
  have mark : IsNumberText Decimal.Layout.json.wholeMark := by decide
  cases n with
  | int n => exact isNumberText_intText n
  | float x => exact Decimal.Layout.json.isNumberText_text mark x

/-! ## Something is written -/

theorem natText_ne_empty (n : Nat) : Text.natText n ≠ "" := by
  unfold Text.natText Text.figures
  simp

theorem intText_ne_empty (n : Int) : Text.intText n ≠ "" := by
  cases n with
  | ofNat n => exact natText_ne_empty n
  | negSucc n =>
    rw [Text.intText, Ne, String.append_eq_empty_iff]
    exact fun h => natText_ne_empty (n + 1) h.2

namespace Decimal

theorem Digits.positionalText_ne_empty (d : Digits) (mark : String) :
    d.positionalText mark ≠ "" := by
  unfold positionalText
  dsimp only
  split
  · simp [String.append_eq_empty_iff]
  · split
    · -- the run is filled up with zeros to one place at least
      rw [Ne, String.append_eq_empty_iff, String.ofList_eq_empty_iff]
      rintro ⟨none, -⟩
      have := congrArg List.length none
      simp only [List.length_append, List.length_replicate, List.length_nil] at this
      omega
    · simp [String.append_eq_empty_iff]

theorem Digits.exponentText_ne_empty (d : Digits) : d.exponentText ≠ "" := by
  unfold exponentText
  simp [String.append_eq_empty_iff]

theorem Layout.text_ne_empty (layout : Layout) (x : Float) : layout.text x ≠ "" := by
  unfold text
  split
  · unfold unboundedText
    split
    · split <;> decide
    · decide
  · dsimp only
    split
    · simp [String.append_eq_empty_iff]
    · rw [Ne, String.append_eq_empty_iff]
      rintro ⟨-, nothing⟩
      rcases layout.digitsText_eq_or (Binary.shortest _ layout.tie) with positional | exponential
      · exact Digits.positionalText_ne_empty _ _ (positional ▸ nothing)
      · exact Digits.exponentText_ne_empty _ (exponential ▸ nothing)

end Decimal

end ReportRules
