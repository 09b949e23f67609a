import ReportRules.Formula.Evaluate
import ReportRules.Proofs.Formula.Grammar

/-!
# ReportRules.Proofs.Formula.Reading -- the parser reads the grammar

Both directions are proved part by part, for any bound on the open parts and at any depth.

* What a reader returns is derived by the tokens it took (`Reads`). The induction is on the budget
  of `signed`; the loops are read with the operators so far as an accumulator.
* What the grammar derives is read. Here the induction is on the derivation. A derivation of a term
  or an expression ends with its last operator, and the parser begins with the first operand. So the
  statement for these is that the parser gets behind the tokens with the tree in hand and its loop
  still to go, whatever comes next.

Reading is a function, so a token list writes at most one tree: take a bound that is enough for two.
-/

namespace ReportRules.Formula

variable {α : Type}

/-! ## What is read is derived -/

/-- The tokens between two cursors are a part, whose tree nests within the bound at this depth. -/
structure Reads (bound : Nat) (part : List (Token α) → Expr α → Prop) (c : Cursor α) (e : Expr α)
    (after : Cursor α) : Prop where
  derives : ∃ ts, c.rest = ts ++ after.rest ∧ part ts e
  depth : after.depth = c.depth
  nesting : c.depth + e.nesting ≤ bound

/-- A reader returns only what its part derives. -/
def Sound (bound : Nat) (level : Level) (p : Parser α) : Prop :=
  ∀ ⦃c : Cursor α⦄ ⦃e : Expr α⦄ ⦃after : Cursor α⦄,
    c.depth ≤ bound → p c = ⟨.ok e, after⟩ → Reads bound (Derives level) c e after

theorem Outcome.ok_inj {e f : Expr α} {c after : Cursor α}
    (h : (⟨.ok e, c⟩ : Outcome α) = ⟨.ok f, after⟩) : e = f ∧ c = after := by
  simpa using h

theorem Outcome.andThen_eq_ok {o : Outcome α} {next : Expr α → Parser α} {e : Expr α}
    {after : Cursor α} (h : o.andThen next = ⟨.ok e, after⟩) :
    ∃ f mid, o = ⟨.ok f, mid⟩ ∧ next f mid = ⟨.ok e, after⟩ := by
  obtain ⟨result, mid⟩ := o
  cases result with
  | error reason => simp [Outcome.andThen] at h
  | ok f => exact ⟨f, mid, rfl, h⟩

theorem Outcome.map_eq_ok {o : Outcome α} {f : Expr α → Expr α} {e : Expr α} {after : Cursor α}
    (h : o.map f = ⟨.ok e, after⟩) : ∃ g, o = ⟨.ok g, after⟩ ∧ f g = e := by
  obtain ⟨result, mid⟩ := o
  cases result with
  | error reason => simp [Outcome.map, Except.map] at h
  | ok g =>
    obtain ⟨hfg, rfl⟩ := Outcome.ok_inj h
    exact ⟨g, rfl, hfg⟩

theorem nested_eq_ok {bound : Nat} {inner : Parser α} {c : Cursor α} {e : Expr α}
    {after : Cursor α} (h : nested bound inner c = ⟨.ok e, after⟩) :
    c.depth < bound ∧ ∃ mid, inner { c with depth := c.depth + 1 } = ⟨.ok e, mid⟩ ∧
      after = { mid with depth := mid.depth - 1 } := by
  unfold nested at h
  split at h
  · rename_i below
    cases hopen : inner { c with depth := c.depth + 1 } with
    | mk result mid =>
      simp only [hopen, Outcome.mk.injEq] at h
      exact ⟨below, mid, by rw [h.1], h.2.symm⟩
  · simp [refuse] at h

/-- Inside a nested part there is one part less to open, and what was opened is closed. -/
theorem nested_sound {bound : Nat} {level : Level} {inner : Parser α}
    (hinner : Sound bound level inner) {c : Cursor α} {e : Expr α} {after : Cursor α}
    (h : nested bound inner c = ⟨.ok e, after⟩) :
    (∃ ts, c.rest = ts ++ after.rest ∧ Derives level ts e) ∧ after.depth = c.depth ∧
      c.depth + (e.nesting + 1) ≤ bound := by
  obtain ⟨below, mid, hopen, rfl⟩ := nested_eq_ok h
  obtain ⟨derives, depth, nesting⟩ := hinner (Nat.succ_le_of_lt below) hopen
  simp only at depth nesting
  exact ⟨derives, by simp only [depth, Nat.add_sub_cancel], by omega⟩

section Loop

variable {bound : Nat} {operation? : Symbol → Option Operation} {lower upper : Level}
  {operand : Parser α}

/-- The loop behind what was read so far, which are the tokens `ts`. -/
theorem chainFrom_sound (hoperand : Sound bound lower operand)
    (extend : ∀ {ts us : List (Token α)} {e f : Expr α} {s : Symbol} {operation : Operation},
      Derives upper ts e → operation? s = some operation → Derives lower us f →
        Derives upper (ts ++ .symbol s :: us) (.binary operation e f))
    {limit : Nat} {ts : List (Token α)} {left e : Expr α} {c after : Cursor α}
    (hleft : Derives upper ts left) (hnesting : c.depth + left.nesting ≤ bound)
    (h : chainFrom operation? operand limit left c = ⟨.ok e, after⟩) :
    Reads bound (fun us => Derives upper (ts ++ us)) c e after := by
  have stop : ∀ {ts : List (Token α)} {left : Expr α} {c : Cursor α}, Derives upper ts left →
      c.depth + left.nesting ≤ bound → (⟨.ok left, c⟩ : Outcome α) = ⟨.ok e, after⟩ →
        Reads bound (fun us => Derives upper (ts ++ us)) c e after := by
    intro ts left c hleft hnesting heq
    obtain ⟨rfl, rfl⟩ := Outcome.ok_inj heq
    exact ⟨⟨[], rfl, by simpa using hleft⟩, rfl, hnesting⟩
  induction limit generalizing ts left c with
  | zero => exact stop hleft hnesting h
  | succ limit ih =>
    unfold chainFrom at h
    split at h
    · rename_i s rest hrest
      split at h
      · rename_i operation operator
        obtain ⟨right, mid, hright, hloop⟩ := Outcome.andThen_eq_ok h
        -- `us` are the tokens of the right operand, `vs` what the loop takes behind it
        have hdepth : (c.past rest).depth ≤ bound := Nat.le_trans (Nat.le_add_right _ _) hnesting
        obtain ⟨⟨us, hus, hderives⟩, hmid, hfits⟩ := hoperand hdepth hright
        have hmore : mid.depth + (Expr.binary operation left right).nesting ≤ bound := by
          simp only [Cursor.past] at hmid hfits
          simp only [Expr.nesting]
          omega
        obtain ⟨⟨vs, hvs, hall⟩, hafter, hbound⟩ :=
          ih (extend hleft operator hderives) hmore hloop
        refine ⟨⟨.symbol s :: us ++ vs, ?_, by simpa using hall⟩, hafter.trans hmid, ?_⟩
        · simp only [Cursor.past] at hus
          rw [hrest, hus, hvs]
          simp
        · rwa [hmid] at hbound
      · exact stop hleft hnesting h
    · exact stop hleft hnesting h

theorem chain_sound (hoperand : Sound bound lower operand)
    (single : ∀ {ts : List (Token α)} {e : Expr α}, Derives lower ts e → Derives upper ts e)
    (extend : ∀ {ts us : List (Token α)} {e f : Expr α} {s : Symbol} {operation : Operation},
      Derives upper ts e → operation? s = some operation → Derives lower us f →
        Derives upper (ts ++ .symbol s :: us) (.binary operation e f)) :
    Sound bound upper (chain operation? operand) := by
  intro c e after hdepth h
  obtain ⟨left, mid, hleft, hloop⟩ := Outcome.andThen_eq_ok h
  obtain ⟨⟨ts, hts, hderives⟩, hmid, hfits⟩ := hoperand hdepth hleft
  obtain ⟨⟨us, hus, hall⟩, hafter, hbound⟩ :=
    chainFrom_sound hoperand extend (single hderives) (by rwa [hmid]) hloop
  refine ⟨⟨ts ++ us, ?_, hall⟩, hafter.trans hmid, by rwa [hmid] at hbound⟩
  rw [hts, hus, List.append_assoc]

end Loop

theorem sum_sound {bound : Nat} {operand : Parser α} (h : Sound bound .unary operand) :
    Sound bound .expression (sum operand) :=
  have term : Sound bound .term (chain Operation.ofProduct? operand) :=
    chain_sound h .unary fun left operator right =>
      .product left (Operation.ofProduct?_eq_some_iff.mp operator) right
  chain_sound term .term fun left operator right =>
    .sum left (Operation.ofSum?_eq_some_iff.mp operator) right

theorem primary_sound {bound : Nat} {inner : Parser α} (hinner : Sound bound .expression inner) :
    Sound bound .primary (primary bound inner) := by
  intro c e after hdepth h
  unfold primary at h
  split at h
  · rename_i a rest hrest
    obtain ⟨rfl, rfl⟩ := Outcome.ok_inj h
    exact ⟨⟨[.operand a], hrest, .number a⟩, rfl, hdepth⟩
  · rename_i rest hrest
    obtain ⟨f, mid, hopen, hclose⟩ := Outcome.andThen_eq_ok h
    obtain ⟨⟨ts, hts, hderives⟩, hmid, hfits⟩ := nested_sound hinner hopen
    unfold closeGroup at hclose
    split at hclose
    · rename_i closed hclosed
      obtain ⟨rfl, rfl⟩ := Outcome.ok_inj hclose
      refine ⟨⟨_, ?_, .group hderives⟩, hmid, hfits⟩
      simp only [Cursor.past] at hts
      rw [hrest, hts, hclosed]
      simp [Cursor.past]
    · simp [refuse] at hclose
    · simp [refuse] at hclose
  · simp [refuse] at h
  · simp [refuse] at h

/-- A sign and what follows it. -/
theorem sign_sound {bound : Nat} {operand : Parser α} (hoperand : Sound bound .unary operand)
    {sign : Symbol} {wrap : Expr α → Expr α}
    (hwrap : ∀ {ts : List (Token α)} {e : Expr α}, Derives .unary ts e →
      Derives .unary (.symbol sign :: ts) (wrap e))
    (hnesting : ∀ e : Expr α, (wrap e).nesting = e.nesting + 1)
    {c : Cursor α} {rest : List (Token α)} (hrest : c.rest = .symbol sign :: rest)
    {e : Expr α} {after : Cursor α}
    (h : (nested bound operand (c.past rest)).map wrap = ⟨.ok e, after⟩) :
    Reads bound (Derives .unary) c e after := by
  obtain ⟨f, hnested, rfl⟩ := Outcome.map_eq_ok h
  obtain ⟨⟨ts, hts, hderives⟩, hafter, hfits⟩ := nested_sound hoperand hnested
  refine ⟨⟨.symbol sign :: ts, ?_, hwrap hderives⟩, hafter, by rwa [hnesting]⟩
  rw [hrest, List.cons_append, ← hts]
  rfl

/-- What is read as a signed operand is one, whatever the budget. -/
theorem signed_sound (bound budget : Nat) : Sound bound .unary (signed (α := α) bound budget) := by
  induction budget with
  | zero =>
    intro c e after _ h
    simp [signed, refuse] at h
  | succ budget ih =>
    intro c e after hdepth h
    unfold signed at h
    split at h
    · rename_i rest hrest
      exact sign_sound ih .negate (fun _ => rfl) hrest h
    · rename_i rest hrest
      exact sign_sound ih .affirm (fun _ => rfl) hrest h
    · obtain ⟨⟨ts, hts, hderives⟩, hafter, hfits⟩ := primary_sound (sum_sound ih) hdepth h
      exact ⟨⟨ts, hts, .primary hderives⟩, hafter, hfits⟩

/-! ## What is derived is read -/

/-- No operator of a level comes next. -/
def NoOperator (operation? : Symbol → Option Operation) (rest : List (Token α)) : Prop :=
  ∀ s more, rest = .symbol s :: more → operation? s = none

theorem noOperator_nil (operation? : Symbol → Option Operation) :
    NoOperator operation? ([] : List (Token α)) := by
  intro s more h
  cases h

theorem noOperator_cons {operation? : Symbol → Option Operation} {s : Symbol}
    (h : operation? s = none) (rest : List (Token α)) :
    NoOperator operation? (.symbol s :: rest) := by
  rintro _ _ ⟨rfl, rfl⟩
  exact h

/-- Where no operator comes next, the loop ends. -/
theorem chainFrom_of_noOperator {operation? : Symbol → Option Operation} {c : Cursor α}
    (h : NoOperator operation? c.rest) (operand : Parser α) (limit : Nat) (left : Expr α) :
    chainFrom operation? operand limit left c = ⟨.ok left, c⟩ := by
  cases limit with
  | zero => rfl
  | succ limit =>
    unfold chainFrom
    split
    · rename_i s more hmore
      rw [h s more hmore]
    · rfl

/-- The reader of operands and operators gets behind the tokens `ts`, with their tree in hand and
enough of its loop still to go. -/
def Arrives (operation? : Symbol → Option Operation) (operand : Parser α) (ts : List (Token α))
    (e : Expr α) (rest : List (Token α)) (depth : Nat) : Prop :=
  ∃ limit, rest.length ≤ limit ∧
    chain operation? operand ⟨ts ++ rest, depth⟩ =
      chainFrom operation? operand limit e ⟨rest, depth⟩

namespace Arrives

variable {operation? : Symbol → Option Operation} {operand : Parser α} {ts us : List (Token α)}
  {e f : Expr α} {rest : List (Token α)} {depth : Nat}

/-- Behind the first operand. -/
theorem first (h : operand ⟨ts ++ rest, depth⟩ = ⟨.ok e, ⟨rest, depth⟩⟩) :
    Arrives operation? operand ts e rest depth := by
  refine ⟨rest.length, Nat.le_refl _, ?_⟩
  unfold chain
  rw [h]
  rfl

/-- Behind one more operator and its operand: one turn of the loop. -/
theorem next {s : Symbol} {operation : Operation}
    (h : Arrives operation? operand ts e (.symbol s :: (us ++ rest)) depth)
    (operator : operation? s = some operation)
    (hright : operand ⟨us ++ rest, depth⟩ = ⟨.ok f, ⟨rest, depth⟩⟩) :
    Arrives operation? operand (ts ++ .symbol s :: us) (.binary operation e f) rest depth := by
  obtain ⟨limit, hlimit, hchain⟩ := h
  rw [List.length_cons, List.length_append] at hlimit
  -- there are tokens still to read, so the loop has a turn left
  obtain ⟨turns, rfl⟩ : ∃ turns, limit = turns + 1 := ⟨limit - 1, by omega⟩
  refine ⟨turns, by omega, ?_⟩
  rw [List.append_assoc, List.cons_append, hchain]
  simp only [chainFrom, operator, Cursor.past, hright, Outcome.andThen]

/-- Where no operator comes next, the part ends. -/
theorem stop (h : Arrives operation? operand ts e rest depth) (hrest : NoOperator operation? rest) :
    chain operation? operand ⟨ts ++ rest, depth⟩ = ⟨.ok e, ⟨rest, depth⟩⟩ := by
  obtain ⟨limit, -, hchain⟩ := h
  rw [hchain]
  exact chainFrom_of_noOperator hrest operand limit e

end Arrives

/-- That the tokens of a part are read where the tokens `rest` follow. The operands of an expression
are products, so what follows an expression must not continue the last of them. -/
def IsRead (bound budget : Nat) (ts : List (Token α)) (e : Expr α) (rest : List (Token α))
    (depth : Nat) : Level → Prop
  | .primary | .unary => signed bound budget ⟨ts ++ rest, depth⟩ = ⟨.ok e, ⟨rest, depth⟩⟩
  | .term => Arrives Operation.ofProduct? (signed bound budget) ts e rest depth
  | .expression => NoOperator Operation.ofProduct? rest →
      Arrives Operation.ofSum? (chain Operation.ofProduct? (signed bound budget)) ts e rest depth

theorem nested_eq_of_eq {bound : Nat} {inner : Parser α} {ts rest : List (Token α)} {e : Expr α}
    {depth : Nat} (below : depth < bound)
    (h : inner ⟨ts, depth + 1⟩ = ⟨.ok e, ⟨rest, depth + 1⟩⟩) :
    nested bound inner ⟨ts, depth⟩ = ⟨.ok e, ⟨rest, depth⟩⟩ := by
  unfold nested
  rw [if_pos below]
  simp only [h, Nat.add_sub_cancel]

theorem length_behind_le {ts us : List (Token α)} {t : Token α} {budget : Nat}
    (h : (ts ++ t :: us).length ≤ budget) : us.length ≤ budget := by
  rw [List.length_append, List.length_cons] at h
  omega

theorem nesting_operands_le {operation : Operation} {left right : Expr α} {depth bound : Nat}
    (h : depth + (Expr.binary operation left right).nesting ≤ bound) :
    depth + left.nesting ≤ bound ∧ depth + right.nesting ≤ bound := by
  rw [Expr.nesting] at h
  omega

/-- What the grammar derives is read, given the budget for its tokens and those that follow. -/
theorem isRead_of_derives {level : Level} {ts : List (Token α)} {e : Expr α} (h : Derives level ts e)
    {bound budget : Nat} {rest : List (Token α)} {depth : Nat}
    (hbudget : (ts ++ rest).length ≤ budget) (hnesting : depth + e.nesting ≤ bound) :
    IsRead bound budget ts e rest depth level := by
  induction h generalizing budget rest depth with
  | number a =>
    cases budget with
    | zero => simp at hbudget
    | succ budget => rfl
  | @group ts e inner ih =>
    cases budget with
    | zero => simp at hbudget
    | succ budget =>
      simp only [Expr.nesting] at hnesting
      have hclosed : (ts ++ .symbol .closing :: rest).length ≤ budget := by
        simpa using hbudget
      -- the closing parenthesis is no operator of either level, so both loops end in front of it
      have hinner : sum (signed bound budget) ⟨ts ++ .symbol .closing :: rest, depth + 1⟩ =
          ⟨.ok e, ⟨.symbol .closing :: rest, depth + 1⟩⟩ :=
        (ih hclosed (by omega) (noOperator_cons rfl rest)).stop (noOperator_cons rfl rest)
      have below : depth < bound := by omega
      have hnested := nested_eq_of_eq below hinner
      simp only [IsRead, signed, primary, Cursor.past, List.cons_append, List.append_assoc,
        List.nil_append, hnested, Outcome.andThen, closeGroup]
  | primary _ ih => exact ih hbudget hnesting
  | @negate ts e _ ih =>
    cases budget with
    | zero => simp at hbudget
    | succ budget =>
      simp only [Expr.nesting] at hnesting
      have hnested : nested bound (signed bound budget) ⟨ts ++ rest, depth⟩ =
          ⟨.ok e, ⟨rest, depth⟩⟩ :=
        nested_eq_of_eq (by omega) (ih (Nat.le_of_succ_le_succ hbudget) (by omega))
      simp only [IsRead, signed, Cursor.past, List.cons_append, hnested, Outcome.map, Except.map]
  | @affirm ts e _ ih =>
    cases budget with
    | zero => simp at hbudget
    | succ budget =>
      simp only [Expr.nesting] at hnesting
      have hnested : nested bound (signed bound budget) ⟨ts ++ rest, depth⟩ =
          ⟨.ok e, ⟨rest, depth⟩⟩ :=
        nested_eq_of_eq (by omega) (ih (Nat.le_of_succ_le_succ hbudget) (by omega))
      simp only [IsRead, signed, Cursor.past, List.cons_append, hnested, Outcome.map, Except.map]
  | unary _ ih => exact Arrives.first (ih hbudget hnesting)
  | product _ operator _ ihl ihr =>
    obtain ⟨hleft, hright⟩ := nesting_operands_le hnesting
    rw [List.append_assoc, List.cons_append] at hbudget
    exact Arrives.next (ihl hbudget hleft) (Operation.ofProduct?_eq_some_iff.mpr operator)
      (ihr (length_behind_le hbudget) hright)
  | term _ ih =>
    intro hrest
    exact Arrives.first ((ih hbudget hnesting).stop hrest)
  | sum _ operator _ ihl ihr =>
    intro hrest
    obtain ⟨hleft, hright⟩ := nesting_operands_le hnesting
    rw [List.append_assoc, List.cons_append] at hbudget
    -- the operator of a sum does not continue the term before it
    have hproduct := Operation.ofProduct?_eq_none_of_sum operator
    exact Arrives.next (ihl hbudget hleft (noOperator_cons hproduct _))
      (Operation.ofSum?_eq_some_iff.mpr operator)
      ((ihr (length_behind_le hbudget) hright).stop hrest)

/-! ## Formulas -/

/-- The parser reads a token list as the tree that the grammar has for it, if that nests within the
bound. -/
theorem parseWithin_eq_ok_iff {bound : Nat} {tokens : List (Token α)} {e : Expr α} :
    parseWithin bound tokens = .ok e ↔ Sentence tokens e ∧ e.nesting ≤ bound := by
  constructor
  · intro h
    unfold parseWithin at h
    cases hread : expression bound ⟨tokens, 0⟩ with
    | mk result after =>
      obtain ⟨rest, depth⟩ := after
      rw [hread] at h
      cases result with
      | error reason => simp at h
      | ok f =>
        cases rest with
        | cons t more => simp at h
        | nil =>
          -- nothing is left over, so the tokens taken are all tokens
          obtain rfl : f = e := by simpa using h
          obtain ⟨⟨ts, hts, hderives⟩, -, hnesting⟩ :=
            sum_sound (signed_sound bound _) (Nat.zero_le bound) hread
          simp only [List.append_nil] at hts
          subst hts
          exact ⟨hderives, by simpa using hnesting⟩
  · rintro ⟨hderives, hnesting⟩
    have harrives : Arrives Operation.ofSum?
        (chain Operation.ofProduct? (signed bound tokens.length)) tokens e [] 0 :=
      isRead_of_derives hderives (by simp) (by omega) (noOperator_nil _)
    have hread := harrives.stop (noOperator_nil _)
    rw [List.append_nil] at hread
    unfold parseWithin expression sum
    simp only [hread]

/-- A token list writes at most one tree. -/
theorem Sentence.unique {tokens : List (Token α)} {e f : Expr α} (he : Sentence tokens e)
    (hf : Sentence tokens f) : e = f := by
  have left := parseWithin_eq_ok_iff.mpr ⟨he, Nat.le_max_left e.nesting f.nesting⟩
  have right := parseWithin_eq_ok_iff.mpr ⟨hf, Nat.le_max_right e.nesting f.nesting⟩
  exact Except.ok.inj (left.symm.trans right)

theorem finiteValue_eq_ok_iff {e : Expr Float} {x : Float} :
    finiteValue e = .ok x ↔ e.HasValue x ∧ x.isFinite = true := by
  rw [Expr.hasValue_iff]
  unfold finiteValue
  constructor
  · intro h
    split at h
    · rename_i finite
      obtain rfl := Except.ok.inj h
      exact ⟨rfl, finite⟩
    · cases h
  · rintro ⟨rfl, finite⟩
    exact if_pos finite

theorem evaluateTokens_eq_ok_iff {tokens : List (Token Float)} {x : Float} :
    evaluateTokens tokens = .ok x ↔
      ∃ e, Sentence tokens e ∧ e.nesting ≤ maxNesting ∧ e.HasValue x ∧ x.isFinite = true := by
  unfold evaluateTokens parse
  constructor
  · intro h
    split at h
    · rename_i e hparse
      obtain ⟨hsentence, hnesting⟩ := parseWithin_eq_ok_iff.mp hparse
      exact ⟨e, hsentence, hnesting, finiteValue_eq_ok_iff.mp h⟩
    · cases h
  · rintro ⟨e, hsentence, hnesting, hvalue⟩
    rw [parseWithin_eq_ok_iff.mpr ⟨hsentence, hnesting⟩]
    exact finiteValue_eq_ok_iff.mpr hvalue

/-- **The value of a formula.** A token list writes at most one tree, and a tree over doubles has
one value, by the operations of doubles. A formula whose tokens could be made has a value exactly
when they write a tree, no number of it lies inside more than 32 parentheses and signs, and the
value of the tree is finite; that is then the value of the formula. -/
theorem evaluate_eq_ok_iff (formula : String) (job : Record) :
    (∀ (tokens : List (Token Float)) (e f : Expr Float),
      Sentence tokens e → Sentence tokens f → e = f) ∧
    (∀ e : Expr Float, ∃! x, e.HasValue x) ∧
    ∀ x : Float, evaluate formula job = .ok x ↔
      ∃ tokens, tokenize formula job = .ok tokens ∧
        ∃ e, Sentence tokens e ∧ e.nesting ≤ 32 ∧ e.HasValue x ∧ x.isFinite = true := by
  refine ⟨fun _ _ _ => Sentence.unique, Expr.existsUnique_hasValue, fun x => ?_⟩
  unfold evaluate
  cases tokenize formula job with
  | error fault => simp [bind, Except.bind]
  | ok tokens =>
    simp only [bind, Except.bind, evaluateTokens_eq_ok_iff, maxNesting]
    simp

end ReportRules.Formula
