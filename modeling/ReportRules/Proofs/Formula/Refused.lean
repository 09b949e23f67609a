import ReportRules.Proofs.Formula.Relabel

/-!
# ReportRules.Proofs.Formula.Refused -- which token a refusal is about

A refusal carries the token that was not expected, but not its place in the list. The place is in
the cursor: a reader takes tokens from the front, and when it refuses one, that is the last it took
(`Stops`). Tokens left over behind an expression are refused at the first of them.

Reading does not look at operands, so the place is the same for every choice of them.
-/

namespace ReportRules.Formula

variable {α β : Type}

/-- Reading ended within a token list: with a suffix of it left, and directly behind the token that
was refused, if one was. -/
structure Outcome.StopsWithin (tokens : List (Token α)) (o : Outcome α) : Prop where
  suffix : o.cursor.rest <:+ tokens
  refused : ∀ t, o.result = .error (.unexpectedToken t) → t :: o.cursor.rest <:+ tokens

/-- A reader takes tokens from the front, a refused one last. -/
def Stops (p : Parser α) : Prop :=
  ∀ c : Cursor α, (p c).StopsWithin c.rest

namespace Outcome.StopsWithin

variable {tokens more : List (Token α)} {o : Outcome α}

theorem trans (h : o.StopsWithin tokens) (hmore : tokens <:+ more) : o.StopsWithin more where
  suffix := h.suffix.trans hmore
  refused t ht := (h.refused t ht).trans hmore

/-- No token is taken, and none refused. -/
theorem unmoved {result : Except (Refusal α) (Expr α)}
    (h : ∀ t, result ≠ .error (.unexpectedToken t)) (c : Cursor α) :
    StopsWithin c.rest ⟨result, c⟩ where
  suffix := List.suffix_rfl
  refused t ht := absurd ht (h t)

theorem andThen {next : Expr α → Parser α} (h : o.StopsWithin tokens)
    (hnext : ∀ e, Stops (next e)) : (o.andThen next).StopsWithin tokens := by
  obtain ⟨result, c⟩ := o
  cases result with
  | error reason => exact h
  | ok e => exact (hnext e c).trans h.suffix

theorem map (h : o.StopsWithin tokens) (wrap : Expr α → Expr α) :
    (o.map wrap).StopsWithin tokens := by
  obtain ⟨result, c⟩ := o
  cases result with
  | error reason => exact h
  | ok e => exact ⟨h.suffix, nofun⟩

/-- The same with one token more in front, when the part begins behind it. -/
theorem behind {c : Cursor α} {t : Token α} {rest : List (Token α)} (hrest : c.rest = t :: rest)
    (h : o.StopsWithin rest) : o.StopsWithin c.rest :=
  h.trans (hrest ▸ List.suffix_cons t rest)

/-- Refusing the next token is stopping behind it. -/
theorem unexpected {c : Cursor α} {t : Token α} {rest : List (Token α)}
    (hrest : c.rest = t :: rest) :
    StopsWithin c.rest (refuse (.unexpectedToken t) (c.past rest)) where
  suffix := hrest ▸ List.suffix_cons t rest
  refused u hu := by
    obtain rfl : t = u := by simpa [refuse] using hu
    exact hrest ▸ List.suffix_rfl

end Outcome.StopsWithin

namespace Stops

variable {operation? : Symbol → Option Operation} {operand inner : Parser α}

theorem nested (h : Stops inner) (bound : Nat) : Stops (nested bound inner) := by
  intro c
  unfold Formula.nested
  split
  · have opened := h { c with depth := c.depth + 1 }
    exact ⟨opened.suffix, opened.refused⟩
  · exact .unmoved (by nofun) c

theorem chainFrom (h : Stops operand) (limit : Nat) (left : Expr α) :
    Stops (chainFrom operation? operand limit left) := by
  induction limit generalizing left with
  | zero =>
    intro c
    exact .unmoved (by nofun) c
  | succ limit ih =>
    intro c
    unfold Formula.chainFrom
    split
    · rename_i s rest hrest
      split
      · rename_i operation _
        have turn := (h (c.past rest)).andThen fun right => ih (.binary operation left right)
        exact turn.behind hrest
      · exact .unmoved (by nofun) c
    · exact .unmoved (by nofun) c

theorem chain (h : Stops operand) : Stops (chain operation? operand) :=
  fun c => (h c).andThen fun left after => h.chainFrom after.rest.length left after

theorem sum (h : Stops operand) : Stops (sum operand) :=
  h.chain.chain

theorem closeGroup (e : Expr α) : Stops (closeGroup e) := by
  intro c
  unfold Formula.closeGroup
  split
  · rename_i rest hrest
    exact Outcome.StopsWithin.behind hrest (.unmoved (by nofun) (c.past rest))
  · rename_i t rest _ hrest
    exact .unexpected hrest
  · exact .unmoved (by nofun) c

theorem primary (h : Stops inner) (bound : Nat) : Stops (primary bound inner) := by
  intro c
  unfold Formula.primary
  split
  · rename_i a rest hrest
    exact Outcome.StopsWithin.behind hrest (.unmoved (by nofun) (c.past rest))
  · rename_i rest hrest
    exact ((h.nested bound (c.past rest)).andThen closeGroup).behind hrest
  · rename_i t rest _ _ hrest
    exact .unexpected hrest
  · exact .unmoved (by nofun) c

end Stops

theorem stops_signed (bound budget : Nat) : Stops (signed (α := α) bound budget) := by
  induction budget with
  | zero =>
    intro c
    exact .unmoved (by nofun) c
  | succ budget ih =>
    intro c
    unfold signed
    split
    · rename_i rest hrest
      exact ((ih.nested bound (c.past rest)).map .negate).behind hrest
    · rename_i rest hrest
      exact ((ih.nested bound (c.past rest)).map .affirm).behind hrest
    · exact ih.sum.primary bound c

theorem stops_expression (bound : Nat) : Stops (expression (α := α) bound) :=
  fun c => (stops_signed bound c.rest.length).sum c

/-! ## The place of the refused token -/

/-- The place in a token list of the token for which it is refused, if it is refused for one. -/
def refusedAt? (bound : Nat) (tokens : List (Token α)) : Option Nat :=
  let o := expression bound ⟨tokens, 0⟩
  match o.result with
  | .ok _ => if o.cursor.rest.isEmpty then none else some (tokens.length - o.cursor.rest.length)
  | .error (.unexpectedToken _) => some (tokens.length - (o.cursor.rest.length + 1))
  | .error _ => none

theorem getElem?_of_suffix {t : Token α} {rest tokens : List (Token α)}
    (h : t :: rest <:+ tokens) : tokens[tokens.length - (rest.length + 1)]? = some t := by
  obtain ⟨front, rfl⟩ := h
  simp

/-- A token list that is refused for a token has this token at `refusedAt?`. -/
theorem refusedAt?_of_parseWithin {bound : Nat} {tokens : List (Token α)} {t : Token α}
    (h : parseWithin bound tokens = .error (.unexpectedToken t)) :
    ∃ i, refusedAt? bound tokens = some i ∧ tokens[i]? = some t := by
  have hstops := stops_expression bound ⟨tokens, 0⟩
  unfold parseWithin at h
  unfold refusedAt?
  generalize expression bound ⟨tokens, 0⟩ = o at h hstops
  obtain ⟨result, rest, depth⟩ := o
  cases result with
  | error reason =>
    obtain rfl : reason = .unexpectedToken t := by simpa using h
    exact ⟨_, rfl, getElem?_of_suffix (hstops.refused t rfl)⟩
  | ok e =>
    cases rest with
    | nil => simp at h
    | cons u more =>
      obtain rfl : u = t := by simpa using h
      exact ⟨_, rfl, getElem?_of_suffix hstops.suffix⟩

/-- The place of the refused token does not depend on the operands. -/
theorem refusedAt?_relabel (f : α → β) (bound : Nat) (tokens : List (Token α)) :
    refusedAt? bound (tokens.map (Token.relabel f)) = refusedAt? bound tokens := by
  have hread := natural_expression (f := f) bound ⟨tokens, 0⟩
  simp only [Cursor.relabel] at hread
  unfold refusedAt?
  rw [hread]
  obtain ⟨result, rest, depth⟩ := expression bound ⟨tokens, 0⟩
  cases result with
  | error reason => cases reason <;> simp [Outcome.relabel, relabelResult, Refusal.relabel,
      Cursor.relabel]
  | ok e => cases rest <;> simp [Outcome.relabel, relabelResult, Cursor.relabel]

end ReportRules.Formula
