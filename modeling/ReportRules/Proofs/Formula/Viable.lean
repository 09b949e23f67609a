import Mathlib.Data.List.Induction
import ReportRules.Proofs.Formula.Progress
import ReportRules.Proofs.Formula.Substitution

/-!
# ReportRules.Proofs.Formula.Viable -- a formula is refused at the first token that cannot follow

A token list is viable if it can be continued to a sentence, and viable within a bound if the
sentence need not nest deeper. Both are said with the grammar alone. What has been read without a
refusal is viable, since `Progress.completion` finishes it; what has been refused has no
continuation, since steps only look back.

So a formula is refused at the end of the shortest prefix that is not viable within the bound. A
larger bound only lets more parts be open. Whether that prefix is viable at all therefore tells the
two refusals apart.
-/

namespace ReportRules.Formula

variable {α : Type}

/-- Some tokens, or none, continue these to a sentence. -/
def Viable (tokens : List (Token α)) : Prop :=
  ∃ more e, Sentence (tokens ++ more) e

/-- Some tokens, or none, continue these to a sentence that nests within the bound. -/
def ViableWithin (bound : Nat) (tokens : List (Token α)) : Prop :=
  ∃ more e, Sentence (tokens ++ more) e ∧ e.nesting ≤ bound

/-- The shortest prefix of a token list that is not viable within the bound is `front` with `t`. -/
structure BreaksAt (bound : Nat) (tokens front : List (Token α)) (t : Token α) : Prop where
  begins : front ++ [t] <+: tokens
  before : ∀ p, p <+: front → ViableWithin bound p
  broken : ¬ ViableWithin bound (front ++ [t])

/-! ## Viability and progress -/

namespace Progress

/-- Tokens that finish an expression: the operand that comes next, and the end of every group. -/
def completion (a : α) : Progress → List (Token α)
  | .awaiting _ groups => .operand a :: List.replicate groups.length (.symbol .closing)
  | .behind groups => List.replicate groups.length (.symbol .closing)

theorem verdict_closings (bound : Nat) (groups : List Nat) :
    verdict (α := α) bound (.behind groups)
      (List.replicate groups.length (.symbol .closing)) = .ok () := by
  induction groups with
  | nil => rfl
  | cons depth groups ih => rw [List.length_cons, List.replicate_succ, verdict_cons]; exact ih

theorem verdict_completion (bound : Nat) (a : α) (p : Progress) :
    verdict bound p (p.completion a) = .ok () := by
  cases p with
  | awaiting depth groups =>
    rw [completion, verdict_cons]
    exact verdict_closings bound groups
  | behind groups => exact verdict_closings bound groups

/-- A larger bound lets through what a smaller one does. -/
theorem step_mono {bound larger : Nat} (h : bound ≤ larger) {p q : Progress} {t : Token α}
    (hstep : step bound p t = .ok q) : step larger p t = .ok q := by
  have hopened : ∀ {depth : Nat} {next : Progress},
      opened (α := α) bound depth next = .ok q → opened (α := α) larger depth next = .ok q := by
    intro depth next hopen
    unfold opened at hopen ⊢
    split at hopen
    · rename_i below
      rwa [if_pos (Nat.lt_of_lt_of_le below h)]
    · cases hopen
  unfold step at hstep ⊢
  split at hstep <;> first | exact hopened hstep | exact hstep

theorem advance_mono {bound larger : Nat} (h : bound ≤ larger) {p q : Progress}
    {tokens : List (Token α)} (hadvance : advance bound p tokens = .ok q) :
    advance larger p tokens = .ok q := by
  induction tokens generalizing p with
  | nil => exact hadvance
  | cons t rest ih =>
    unfold advance at hadvance ih ⊢
    rw [List.foldlM_cons, Outcome.bind_eq_ok_iff] at hadvance ⊢
    obtain ⟨next, hstep, hrest⟩ := hadvance
    exact ⟨next, step_mono h hstep, ih hrest⟩

/-- One more part is refused for want of room only. -/
theorem opened_refused {bound depth : Nat} {next : Progress} {reason : Refusal α}
    (h : opened bound depth next = .error reason) :
    reason = .tooDeep ∧ ∃ enough q, bound ≤ enough ∧ opened (α := α) enough depth next = .ok q := by
  unfold opened at h
  split at h
  · cases h
  · cases h
    refine ⟨rfl, max bound (depth + 1), next, Nat.le_max_left _ _, ?_⟩
    exact if_pos (Nat.lt_of_lt_of_le (Nat.lt_succ_self depth) (Nat.le_max_right _ _))

/-- What a step refuses: one more part, for which a larger bound has room, or the token itself,
which no bound lets through. -/
theorem step_refused {bound : Nat} {p : Progress} {t : Token α} {reason : Refusal α}
    (h : step bound p t = .error reason) :
    (reason = .tooDeep ∧ ∃ enough q, bound ≤ enough ∧ step enough p t = .ok q) ∨
      reason = .unexpectedToken t ∧ ∀ other, step other p t = .error (.unexpectedToken t) := by
  cases p with
  | awaiting depth groups =>
    match t with
    | .operand a => cases h
    | .symbol .plus | .symbol .minus | .symbol .opening => exact .inl (opened_refused h)
    | .symbol .times | .symbol .divide | .symbol .closing =>
      cases h
      exact .inr ⟨rfl, fun _ => rfl⟩
  | behind groups =>
    match t, groups with
    | .symbol .plus, _ | .symbol .minus, _ | .symbol .times, _ | .symbol .divide, _ => cases h
    | .symbol .closing, _ :: _ => cases h
    | .operand _, _ | .symbol .opening, _ | .symbol .closing, [] =>
      cases h
      exact .inr ⟨rfl, fun _ => rfl⟩

end Progress

open Progress (advance verdict)

/-- The sentences that nest within a bound are the token lists that the steps let through. -/
theorem sentence_iff_verdict {bound : Nat} {tokens : List (Token α)} :
    (∃ e, Sentence tokens e ∧ e.nesting ≤ bound) ↔ verdict bound .start tokens = .ok () := by
  rw [← parseWithin_eq_verdict, Outcome.map_eq_ok_iff]
  simp only [parseWithin_eq_ok_iff, and_true]

/-- The token lists that are viable within a bound are those of which the steps refuse nothing. -/
theorem viableWithin_iff_advance (a : α) {bound : Nat} {tokens : List (Token α)} :
    ViableWithin bound tokens ↔ ∃ p, advance bound .start tokens = .ok p := by
  constructor
  · rintro ⟨more, sentence⟩
    have passed := sentence_iff_verdict.mp sentence
    rw [Progress.verdict_append] at passed
    obtain ⟨p, hp, -⟩ := Outcome.bind_eq_ok_iff.mp passed
    exact ⟨p, hp⟩
  · rintro ⟨p, hp⟩
    refine ⟨p.completion a, sentence_iff_verdict.mpr ?_⟩
    rw [Progress.verdict_append, hp]
    exact Progress.verdict_completion bound a p

theorem ViableWithin.viable {bound : Nat} {tokens : List (Token α)}
    (h : ViableWithin bound tokens) : Viable tokens := by
  obtain ⟨more, e, sentence, -⟩ := h
  exact ⟨more, e, sentence⟩

theorem Viable.within {tokens : List (Token α)} (h : Viable tokens) :
    ∃ bound, ViableWithin bound tokens := by
  obtain ⟨more, e, sentence⟩ := h
  exact ⟨e.nesting, more, e, sentence, Nat.le_refl _⟩

theorem ViableWithin.mono {bound larger : Nat} (h : bound ≤ larger) {tokens : List (Token α)}
    (viable : ViableWithin bound tokens) : ViableWithin larger tokens := by
  obtain ⟨more, e, sentence, hnesting⟩ := viable
  exact ⟨more, e, sentence, Nat.le_trans hnesting h⟩

theorem ViableWithin.of_prefix {bound : Nat} {p tokens : List (Token α)} (h : p <+: tokens)
    (viable : ViableWithin bound tokens) : ViableWithin bound p := by
  obtain ⟨rest, rfl⟩ := h
  obtain ⟨more, sentence⟩ := viable
  exact ⟨rest ++ more, by rwa [List.append_assoc] at sentence⟩

/-! ## Refusals -/

theorem parseWithin_eq_error_iff {bound : Nat} {tokens : List (Token α)} {reason : Refusal α} :
    parseWithin bound tokens = .error reason ↔ verdict bound .start tokens = .error reason := by
  rw [← parseWithin_eq_verdict]
  cases parseWithin bound tokens with
  | error other => simp [Except.map]
  | ok e => simp [Except.map]

/-- A viable token list that is no sentence ends too early. One that is a sentence nests within the
bound, because its operands stay as deep as they are when it is continued. -/
theorem parseWithin_of_viable (a : α) {bound : Nat} {tokens : List (Token α)}
    (h : ViableWithin bound tokens) :
    (∃ e, Sentence tokens e ∧ parseWithin bound tokens = .ok e) ∨
      (¬ ∃ e, Sentence tokens e) ∧ parseWithin bound tokens = .error .unexpectedEnd := by
  obtain ⟨p, hp⟩ := (viableWithin_iff_advance a).mp h
  have finished : ∀ larger, bound ≤ larger → verdict larger .start tokens = p.finish := by
    intro larger hle
    rw [verdict, Progress.advance_mono hle hp]
    rfl
  cases hfinish : p.finish with
  | ok =>
    have passed := (finished bound (Nat.le_refl _)).trans hfinish
    obtain ⟨e, sentence, hnesting⟩ := sentence_iff_verdict.mpr passed
    exact .inl ⟨e, sentence, parseWithin_eq_ok_iff.mpr ⟨sentence, hnesting⟩⟩
  | error reason =>
    have early : reason = .unexpectedEnd := by
      unfold Progress.finish at hfinish
      split at hfinish
      · cases hfinish
      · cases hfinish
        rfl
    subst early
    refine .inr ⟨?_, parseWithin_eq_error_iff.mpr ((finished bound (Nat.le_refl _)).trans hfinish)⟩
    rintro ⟨e, sentence⟩
    -- with room for both, the steps would end in two ways
    have passed : verdict (max bound e.nesting) .start tokens = .ok () :=
      sentence_iff_verdict.mp ⟨e, sentence, Nat.le_max_right _ _⟩
    rw [finished _ (Nat.le_max_left _ _), hfinish] at passed
    cases passed

/-- A token list that is not viable is refused where it breaks: for its depth if the prefix up to
there is viable, and else for the token. -/
theorem parseWithin_of_breaksAt (a : α) {bound : Nat} {tokens front : List (Token α)} {t : Token α}
    (h : BreaksAt bound tokens front t) :
    (Viable (front ++ [t]) ∧ parseWithin bound tokens = .error .tooDeep) ∨
      ¬ Viable (front ++ [t]) ∧ parseWithin bound tokens = .error (.unexpectedToken t) := by
  obtain ⟨⟨more, rfl⟩, before, broken⟩ := h
  obtain ⟨p, hp⟩ := (viableWithin_iff_advance a).mp (before front List.prefix_rfl)
  have taken : ∀ larger, bound ≤ larger →
      advance larger .start (front ++ [t]) = Progress.step larger p t := by
    intro larger hle
    rw [Progress.advance_append, Progress.advance_mono hle hp]
    simp only [Except.bind, advance, List.foldlM_cons, List.foldlM_nil, bind_pure]
  cases hstep : Progress.step bound p t with
  | ok q =>
    have passed := (taken bound (Nat.le_refl _)).trans hstep
    exact absurd ((viableWithin_iff_advance a).mpr ⟨q, passed⟩) broken
  | error reason =>
    have refused : parseWithin bound (front ++ [t] ++ more) = .error reason := by
      rw [parseWithin_eq_error_iff, Progress.verdict_append, taken bound (Nat.le_refl _), hstep]
      rfl
    rcases Progress.step_refused hstep with ⟨rfl, enough, q, hle, hq⟩ | ⟨rfl, never⟩
    · have viable := (viableWithin_iff_advance a).mpr ⟨q, (taken enough hle).trans hq⟩
      exact .inl ⟨viable.viable, refused⟩
    · refine .inr ⟨fun viable => ?_, refused⟩
      obtain ⟨other, within⟩ := viable.within
      obtain ⟨q, passed⟩ :=
        (viableWithin_iff_advance a).mp (within.mono (Nat.le_max_right bound other))
      rw [taken _ (Nat.le_max_left _ _), never] at passed
      cases passed

/-- A token list that has a prefix that is not viable has a shortest one. -/
theorem exists_breaksAt (a : α) {bound : Nat} {tokens : List (Token α)}
    (h : ¬ ∀ p, p <+: tokens → ViableWithin bound p) :
    ∃ front t, BreaksAt bound tokens front t := by
  induction tokens using List.reverseRecOn with
  | nil =>
    have empty : ViableWithin bound ([] : List (Token α)) :=
      (viableWithin_iff_advance a).mpr ⟨.start, rfl⟩
    exact absurd (fun p hp => empty.of_prefix hp) h
  | append_singleton front t ih =>
    by_cases before : ∀ p, p <+: front → ViableWithin bound p
    · have broken : ¬ ViableWithin bound (front ++ [t]) :=
        fun viable => h fun p hp => viable.of_prefix hp
      exact ⟨front, t, List.prefix_rfl, before, broken⟩
    · obtain ⟨shorter, u, hprefix, hbefore, hbroken⟩ := ih before
      exact ⟨shorter, u, hprefix.trans (List.prefix_append front [t]), hbefore, hbroken⟩

/-! ## Formulas -/

/-- What a formula comes to whose tokens break. -/
theorem evaluate_of_breaksAt {formula : String} {job : Record}
    {tokens front : List (Token Float)} {t : Token Float}
    (h : tokenize formula job = .ok tokens) (breaks : BreaksAt 32 tokens front t) :
    (Viable (front ++ [t]) → evaluate formula job = .error .tooDeep) ∧
      (¬ Viable (front ++ [t]) → evaluate formula job = .error (.unexpectedToken t)) := by
  have refused : ∀ {reason : Refusal Float}, parseWithin 32 tokens = .error reason →
      evaluate formula job = .error (.ofRefusal reason) := by
    intro reason hread
    have read : parse tokens = .error reason := hread
    rw [evaluate_of_tokenize h, evaluateTokens, read]
  rcases parseWithin_of_breaksAt 0 breaks with ⟨viable, hread⟩ | ⟨never, hread⟩
  · exact ⟨fun _ => refused hread, fun never => absurd viable never⟩
  · exact ⟨fun viable => absurd viable never, fun _ => refused hread⟩

/-- What a formula comes to whose tokens are viable. -/
theorem evaluate_of_viable {formula : String} {job : Record} {tokens : List (Token Float)}
    (h : tokenize formula job = .ok tokens) (viable : ViableWithin 32 tokens) :
    (evaluate formula job = .error .unexpectedEnd ↔ ¬ ∃ e, Sentence tokens e) ∧
      ∀ e, Sentence tokens e → IsValueOf e (evaluate formula job) := by
  rw [evaluate_of_tokenize h, evaluateTokens]
  rcases parseWithin_of_viable 0 viable with ⟨e, sentence, hread⟩ | ⟨none, hread⟩
  · have read : parse tokens = .ok e := hread
    rw [read]
    have value := isValueOf_finiteValue e
    refine ⟨⟨fun early => ?_, fun none => absurd ⟨e, sentence⟩ none⟩, fun f hf => ?_⟩
    · rcases value with hvalue | hvalue <;> exact absurd (hvalue.symm.trans early) nofun
    · rwa [hf.unique sentence]
  · have read : parse tokens = .error .unexpectedEnd := hread
    rw [read]
    exact ⟨⟨fun _ => none, fun _ => rfl⟩, fun e sentence => absurd ⟨e, sentence⟩ none⟩

/-- **A formula is refused at the first token that cannot follow.** Take a formula whose tokens
could be made, and sentences that nest within 32 parentheses and signs.

If all prefixes of the tokens are viable, the formula ends too early exactly when the tokens are no
sentence; otherwise it has the value of the sentence's tree, unless that is not finite. If not,
there is a shortest prefix that is not viable, and it settles the outcome: nesting is too deep if
the prefix is viable without the bound, and if not, its last token is unexpected. Every formula
whose tokens begin with this prefix has the same outcome. -/
theorem refused_where_it_breaks (formula : String) (job : Record) (tokens : List (Token Float))
    (h : tokenize formula job = .ok tokens) :
    ((∀ p, p <+: tokens → ViableWithin 32 p) →
      (evaluate formula job = .error .unexpectedEnd ↔ ¬ ∃ e, Sentence tokens e) ∧
      ∀ e, Sentence tokens e → IsValueOf e (evaluate formula job)) ∧
    ((¬ ∀ p, p <+: tokens → ViableWithin 32 p) → ∃ front t, BreaksAt 32 tokens front t) ∧
    ∀ front t, BreaksAt 32 tokens front t →
      (Viable (front ++ [t]) → evaluate formula job = .error .tooDeep) ∧
      (¬ Viable (front ++ [t]) → evaluate formula job = .error (.unexpectedToken t)) ∧
      ∀ other otherJob more, tokenize other otherJob = .ok (front ++ t :: more) →
        evaluate other otherJob = evaluate formula job := by
  refine ⟨fun viable => evaluate_of_viable h (viable tokens List.prefix_rfl), exists_breaksAt 0,
    fun front t breaks => ?_⟩
  obtain ⟨deep, unexpected⟩ := evaluate_of_breaksAt h breaks
  refine ⟨deep, unexpected, fun other otherJob more hother => ?_⟩
  have same : BreaksAt 32 (front ++ t :: more) front t :=
    ⟨⟨more, by rw [List.append_assoc]; rfl⟩, breaks.before, breaks.broken⟩
  obtain ⟨deep', unexpected'⟩ := evaluate_of_breaksAt hother same
  by_cases viable : Viable (front ++ [t])
  · rw [deep viable, deep' viable]
  · rw [unexpected viable, unexpected' viable]

/-- A factor that is missing is refused at the operator behind the gap; what follows does not
count. -/
theorem missing_factor_refused :
    ∃ tokens, tokenize "2 + * 3" .empty = .ok tokens ∧
      evaluate "2 + * 3" .empty = .error (.unexpectedToken (.symbol .times)) := by
  have scanned : scan "2 + * 3" = ⟨[.operand (.literal ['2']), .symbol .plus, .symbol .times,
      .operand (.literal ['3'])], none⟩ := by
    decide +kernel
  obtain ⟨x, hx⟩ : ∃ x, resolveLiteral ['2'] = .ok x := ⟨_, rfl⟩
  obtain ⟨y, hy⟩ : ∃ y, resolveLiteral ['3'] = .ok y := ⟨_, rfl⟩
  have tokens : tokenize "2 + * 3" .empty =
      .ok ([.operand x, .symbol .plus] ++ .symbol .times :: [.operand y]) := by
    simp [tokenize, scanned, resolveToken, hx, hy, Except.map, bind, Except.bind, pure, Except.pure]
  have refused : ∀ bound,
      ¬ ViableWithin bound ([.operand x, .symbol .plus] ++ [.symbol .times]) := by
    intro bound viable
    obtain ⟨p, hp⟩ := (viableWithin_iff_advance 0).mp viable
    cases hp
  have viable : ViableWithin 32 [.operand x, .symbol .plus] :=
    (viableWithin_iff_advance 0).mpr ⟨_, rfl⟩
  have breaks : BreaksAt 32 ([.operand x, .symbol .plus] ++ .symbol .times :: [.operand y])
      [.operand x, .symbol .plus] (.symbol .times) :=
    ⟨⟨[.operand y], rfl⟩, fun p hp => viable.of_prefix hp, refused 32⟩
  have never : ¬ Viable ([.operand x, .symbol .plus] ++ [.symbol .times]) := fun viable =>
    viable.within.elim refused
  exact ⟨_, tokens, ((refused_where_it_breaks _ _ _ tokens).2.2 _ _ breaks).2.1 never⟩

end ReportRules.Formula
