import ReportRules.Formula.Parser

/-!
# ReportRules.Proofs.Formula.Relabel -- the parser does not look at operands

Replace every operand of a token list by another and read the new list: what comes out is what came
out before, with the operands replaced. That goes for trees, for refusals and for the place where
reading stops.

A reader with this property is `Natural`. Every way in which the parser is put together from readers
keeps it, so the proofs follow the definitions of the parser one by one; only the loop over
operators and the budget of `signed` need an induction.
-/

namespace ReportRules.Formula

variable {α β : Type}

/-! ## Replacing operands -/

/-- A token with its operand replaced. -/
def Token.relabel (f : α → β) : Token α → Token β
  | .symbol s => .symbol s
  | .operand a => .operand (f a)

/-- A tree with its operands replaced. -/
def Expr.relabel (f : α → β) : Expr α → Expr β
  | .number a => .number (f a)
  | .negate e => .negate (e.relabel f)
  | .affirm e => .affirm (e.relabel f)
  | .group e => .group (e.relabel f)
  | .binary operation left right => .binary operation (left.relabel f) (right.relabel f)

/-- A refusal with the operand of its token replaced. -/
def Refusal.relabel (f : α → β) : Refusal α → Refusal β
  | .unexpectedToken t => .unexpectedToken (t.relabel f)
  | .unexpectedEnd => .unexpectedEnd
  | .tooDeep => .tooDeep

/-- What reading comes to, with the operands replaced. -/
def relabelResult (f : α → β) :
    Except (Refusal α) (Expr α) → Except (Refusal β) (Expr β)
  | .ok e => .ok (e.relabel f)
  | .error reason => .error (reason.relabel f)

/-- A cursor with the operands of its tokens replaced. -/
def Cursor.relabel (f : α → β) (c : Cursor α) : Cursor β where
  rest := c.rest.map (Token.relabel f)
  depth := c.depth

/-- An outcome with all operands replaced. -/
def Outcome.relabel (f : α → β) (o : Outcome α) : Outcome β where
  result := relabelResult f o.result
  cursor := o.cursor.relabel f

theorem Expr.relabel_relabel {γ : Type} (g : β → γ) (f : α → β) (e : Expr α) :
    (e.relabel f).relabel g = e.relabel (g ∘ f) := by
  induction e with
  | number a => rfl
  | negate e ih => simp only [Expr.relabel, ih]
  | affirm e ih => simp only [Expr.relabel, ih]
  | group e ih => simp only [Expr.relabel, ih]
  | binary operation left right ihl ihr => simp only [Expr.relabel, ihl, ihr]

/-! ## Readers -/

/-- Two readers that do the same whatever the operands are: `q` on replaced operands does what `p`
did, with the operands replaced. -/
def Natural (f : α → β) (p : Parser α) (q : Parser β) : Prop :=
  ∀ c : Cursor α, q (c.relabel f) = (p c).relabel f

variable {f : α → β}

theorem Outcome.andThen_relabel {next : Expr α → Parser α} {next' : Expr β → Parser β}
    (h : ∀ e, Natural f (next e) (next' (e.relabel f))) (o : Outcome α) :
    (o.relabel f).andThen next' = (o.andThen next).relabel f := by
  obtain ⟨result, c⟩ := o
  cases result with
  | error reason => rfl
  | ok e => exact h e c

theorem Outcome.map_relabel (wrap : Expr α → Expr α) (wrap' : Expr β → Expr β)
    (h : ∀ e, wrap' (e.relabel f) = (wrap e).relabel f) (o : Outcome α) :
    (o.relabel f).map wrap' = (o.map wrap).relabel f := by
  obtain ⟨result, c⟩ := o
  cases result with
  | error reason => rfl
  | ok e => simp only [Outcome.relabel, relabelResult, Outcome.map, Except.map, h]

theorem Natural.nested {p : Parser α} {q : Parser β} (h : Natural f p q) (bound : Nat) :
    Natural f (nested bound p) (nested bound q) := by
  intro c
  have opened : q ⟨(c.relabel f).rest, (c.relabel f).depth + 1⟩ =
      (p ⟨c.rest, c.depth + 1⟩).relabel f := h ⟨c.rest, c.depth + 1⟩
  unfold Formula.nested
  by_cases below : c.depth < bound
  · have below' : (c.relabel f).depth < bound := below
    rw [if_pos below, if_pos below', opened]
    rfl
  · have full : ¬ (c.relabel f).depth < bound := below
    rw [if_neg below, if_neg full]
    rfl

/-- The loop, by induction on the operators that it may still read. -/
theorem Natural.chainFrom {operation? : Symbol → Option Operation} {p : Parser α} {q : Parser β}
    (h : Natural f p q) (limit : Nat) (left : Expr α) :
    Natural f (chainFrom operation? p limit left)
      (chainFrom operation? q limit (left.relabel f)) := by
  induction limit generalizing left with
  | zero =>
    intro c
    rfl
  | succ limit ih =>
    rintro ⟨rest, depth⟩
    match rest with
    | [] => rfl
    | .operand a :: rest => rfl
    | .symbol s :: rest =>
      cases hoperator : operation? s with
      | none =>
        simp only [Formula.chainFrom, Cursor.relabel, List.map_cons, Token.relabel, hoperator,
          Outcome.relabel, relabelResult]
      | some operation =>
        simp only [Formula.chainFrom, Cursor.relabel, List.map_cons, Token.relabel, hoperator]
        have operand := h ⟨rest, depth⟩
        exact (congrArg (Outcome.andThen · _) operand).trans
          (Outcome.andThen_relabel (fun right => ih (.binary operation left right)) _)

theorem Natural.chain {operation? : Symbol → Option Operation} {p : Parser α} {q : Parser β}
    (h : Natural f p q) : Natural f (chain operation? p) (chain operation? q) := by
  intro c
  unfold Formula.chain
  rw [h c]
  refine Outcome.andThen_relabel (fun left after => ?_) (p c)
  -- replacing operands keeps the number of tokens, so both loops have the same limit
  have hlength : (after.relabel f).rest.length = after.rest.length := by
    simp [Cursor.relabel]
  rw [hlength]
  exact h.chainFrom after.rest.length left after

theorem Natural.sum {p : Parser α} {q : Parser β} (h : Natural f p q) :
    Natural f (sum p) (sum q) :=
  h.chain.chain

theorem natural_closeGroup (e : Expr α) :
    Natural f (closeGroup e) (closeGroup (e.relabel f)) := by
  rintro ⟨rest, depth⟩
  match rest with
  | [] => rfl
  | .operand a :: rest => rfl
  | .symbol s :: rest => cases s <;> rfl

theorem Natural.primary {p : Parser α} {q : Parser β} (h : Natural f p q) (bound : Nat) :
    Natural f (primary bound p) (primary bound q) := by
  rintro ⟨rest, depth⟩
  match rest with
  | [] => rfl
  | .operand a :: rest => rfl
  | .symbol .opening :: rest =>
    have inside := h.nested bound ⟨rest, depth⟩
    exact (congrArg (Outcome.andThen · closeGroup) inside).trans
      (Outcome.andThen_relabel natural_closeGroup _)
  | .symbol .plus :: rest | .symbol .minus :: rest | .symbol .times :: rest
  | .symbol .divide :: rest | .symbol .closing :: rest => rfl

/-- Signed operands, by induction on the budget: everything nested is read with a smaller one. -/
theorem natural_signed (bound budget : Nat) :
    Natural f (signed (α := α) bound budget) (signed bound budget) := by
  induction budget with
  | zero =>
    intro c
    rfl
  | succ budget ih =>
    have hprimary := ih.sum.primary bound
    rintro ⟨rest, depth⟩
    match rest with
    | .symbol .minus :: rest =>
      have operand := ih.nested bound ⟨rest, depth⟩
      exact (congrArg (Outcome.map · .negate) operand).trans
        (Outcome.map_relabel .negate .negate (fun _ => rfl) _)
    | .symbol .plus :: rest =>
      have operand := ih.nested bound ⟨rest, depth⟩
      exact (congrArg (Outcome.map · .affirm) operand).trans
        (Outcome.map_relabel .affirm .affirm (fun _ => rfl) _)
    -- without a sign it is a primary
    | [] => exact hprimary ⟨[], depth⟩
    | .operand a :: rest => exact hprimary ⟨.operand a :: rest, depth⟩
    | .symbol .times :: rest => exact hprimary ⟨.symbol .times :: rest, depth⟩
    | .symbol .divide :: rest => exact hprimary ⟨.symbol .divide :: rest, depth⟩
    | .symbol .opening :: rest => exact hprimary ⟨.symbol .opening :: rest, depth⟩
    | .symbol .closing :: rest => exact hprimary ⟨.symbol .closing :: rest, depth⟩

theorem natural_expression (bound : Nat) :
    Natural f (expression (α := α) bound) (expression bound) := by
  intro c
  have hlength : (c.relabel f).rest.length = c.rest.length := by
    simp [Cursor.relabel]
  unfold expression
  rw [hlength]
  exact (natural_signed bound c.rest.length).sum c

/-- Replacing the operands of a token list replaces those of its tree or of its refusal, and changes
nothing else. -/
theorem parseWithin_relabel (f : α → β) (bound : Nat) (tokens : List (Token α)) :
    parseWithin bound (tokens.map (Token.relabel f)) =
      relabelResult f (parseWithin bound tokens) := by
  have hread := natural_expression (f := f) bound ⟨tokens, 0⟩
  unfold parseWithin
  simp only [Cursor.relabel] at hread
  rw [hread]
  obtain ⟨result, rest, depth⟩ := expression bound ⟨tokens, 0⟩
  cases result with
  | error reason => rfl
  | ok e => cases rest <;> rfl

end ReportRules.Formula
