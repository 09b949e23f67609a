import ReportRules.Text.Words

/-!
# ReportRules.Proofs.Text.Runs -- maximal runs of characters, and where a text is cut

Readers take characters of one kind as long as they come. What they take is the run in front that no
further character of the kind follows (`Ends`), and nothing else about the text matters.

A text without separators is one piece, and a separator cuts a text in two: the pieces of the whole
are those of its two sides, one after the other (`pieces_append`).
-/

namespace ReportRules.Text

/-- No character of a kind comes next. -/
def Ends (kind : Char → Bool) (rest : List Char) : Prop :=
  ∀ c more, rest = c :: more → kind c = false

variable {kind : Char → Bool}

theorem ends_nil (kind : Char → Bool) : Ends kind [] := by
  intro c more h
  cases h

theorem ends_cons {c : Char} (h : kind c = false) (more : List Char) : Ends kind (c :: more) := by
  rintro _ _ ⟨rfl, rfl⟩
  exact h

theorem ends_dropWhile (kind : Char → Bool) (cs : List Char) : Ends kind (cs.dropWhile kind) := by
  induction cs with
  | nil => exact ends_nil kind
  | cons c rest ih =>
    cases hc : kind c with
    | true => rwa [List.dropWhile_cons, if_pos hc]
    | false =>
      rw [List.dropWhile_cons, if_neg (by simp [hc])]
      exact ends_cons hc rest

theorem takeWhile_run {run rest : List Char} (inside : ∀ c ∈ run, kind c = true)
    (ends : Ends kind rest) : (run ++ rest).takeWhile kind = run := by
  have none : rest.takeWhile kind = [] := by
    cases rest with
    | nil => rfl
    | cons c more => rw [List.takeWhile_cons, if_neg (by simp [ends c more rfl])]
  rw [List.takeWhile_append_of_pos inside, none, List.append_nil]

theorem dropWhile_run {run rest : List Char} (inside : ∀ c ∈ run, kind c = true)
    (ends : Ends kind rest) : (run ++ rest).dropWhile kind = rest := by
  rw [List.dropWhile_append_of_pos inside]
  cases rest with
  | nil => rfl
  | cons c more => rw [List.dropWhile_cons, if_neg (by simp [ends c more rfl])]

/-! ## Pieces -/

variable {p : Char → Bool}

theorem pieces_cons_separator {c : Char} (hc : p c = true) (cs : List Char) :
    pieces p (c :: cs) = [] :: pieces p cs := by
  simp [pieces, firstPiece, hc]

theorem pieces_of_none {cs : List Char} (none : ∀ c ∈ cs, p c = false) : pieces p cs = [cs] := by
  induction cs with
  | nil => rfl
  | cons c rest ih =>
    have first : p c = false := none c List.mem_cons_self
    have later := ih fun d hd => none d (List.mem_cons_of_mem _ hd)
    simp only [pieces] at later
    injection later with head tail
    simp [pieces, firstPiece, first, head, tail]

/-- The pieces of a text that is cut in two at a separator. -/
theorem pieces_append (cs : List Char) {c : Char} (hc : p c = true) (ds : List Char) :
    pieces p (cs ++ c :: ds) = pieces p cs ++ pieces p ds := by
  induction cs with
  | nil => exact pieces_cons_separator hc ds
  | cons d rest ih =>
    simp only [pieces, List.cons_append] at ih
    injection ih with head tail
    cases hd : p d <;> simp [pieces, firstPiece, hd, head, tail]

end ReportRules.Text
