import ReportRules.Proofs.Formula.Reading
import ReportRules.Proofs.Formula.Refused

/-!
# ReportRules.Proofs.Formula.Progress -- a formula read one token at a time

The parser calls itself for nested parts, so what it will do next is spread over the calls that are
still running. `Progress` puts that down as a value: whether an operand or something behind one
comes next, and the groups that are open. A step takes one token, and a token that cannot follow is
refused at once, so how a token list fares is decided by its prefixes from the shortest on.

Both ways of reading agree (`parseWithin_eq_verdict`). Every reader of the parser is followed by the
steps from where it begins to where it stops, under any groups that its caller has open.
-/

namespace ReportRules.Formula

variable {α : Type}

/-- How far a token list has been read. The groups are the open ones, from the inside, each with the
number of parts that are open in it. -/
inductive Progress
  /-- An operand comes next, with `depth` parts open around it. -/
  | awaiting (depth : Nat) (groups : List Nat)
  /-- An operand is complete. -/
  | behind (groups : List Nat)
  deriving Repr, DecidableEq

namespace Progress

/-! ## Steps -/

/-- Nothing has been read. -/
def start : Progress :=
  .awaiting 0 []

/-- The number of parts that are open around the operands of the innermost open group. -/
def around (groups : List Nat) : Nat :=
  groups.headD 0

/-- Go on in one more part, if one more may be open. -/
def opened (bound depth : Nat) (next : Progress) : Except (Refusal α) Progress :=
  if depth < bound then .ok next else .error .tooDeep

/-- Take one token. Signs stay open up to the end of their operand, which is why a complete operand
remembers the groups only. -/
def step (bound : Nat) : Progress → Token α → Except (Refusal α) Progress
  | .awaiting _ groups, .operand _ => .ok (.behind groups)
  | .awaiting depth groups, .symbol .plus => opened bound depth (.awaiting (depth + 1) groups)
  | .awaiting depth groups, .symbol .minus => opened bound depth (.awaiting (depth + 1) groups)
  | .awaiting depth groups, .symbol .opening =>
    opened bound depth (.awaiting (depth + 1) ((depth + 1) :: groups))
  | .behind groups, .symbol .plus => .ok (.awaiting (around groups) groups)
  | .behind groups, .symbol .minus => .ok (.awaiting (around groups) groups)
  | .behind groups, .symbol .times => .ok (.awaiting (around groups) groups)
  | .behind groups, .symbol .divide => .ok (.awaiting (around groups) groups)
  | .behind (_ :: groups), .symbol .closing => .ok (.behind groups)
  | _, t => .error (.unexpectedToken t)

/-- Take the tokens of a list. -/
def advance (bound : Nat) (p : Progress) (tokens : List (Token α)) :
    Except (Refusal α) Progress :=
  tokens.foldlM (step bound) p

/-- An expression ends where an operand is complete and no group is open. -/
def finish : Progress → Except (Refusal α) Unit
  | .behind [] => .ok ()
  | _ => .error .unexpectedEnd

/-- Whether a token list finishes an expression, and why it does not. -/
def verdict (bound : Nat) (p : Progress) (tokens : List (Token α)) : Except (Refusal α) Unit :=
  (advance bound p tokens).bind finish

theorem advance_append (bound : Nat) (p : Progress) (ts us : List (Token α)) :
    advance bound p (ts ++ us) = (advance bound p ts).bind fun q => advance bound q us :=
  List.foldlM_append

theorem verdict_append (bound : Nat) (p : Progress) (ts us : List (Token α)) :
    verdict bound p (ts ++ us) = (advance bound p ts).bind fun q => verdict bound q us := by
  unfold verdict
  rw [advance_append]
  cases advance bound p ts <;> rfl

theorem verdict_cons (bound : Nat) (p : Progress) (t : Token α) (rest : List (Token α)) :
    verdict bound p (t :: rest) = (step bound p t).bind fun q => verdict bound q rest := by
  unfold verdict advance
  rw [List.foldlM_cons]
  simp only [bind]
  cases step bound p t <;> rfl

theorem verdict_opened (bound depth : Nat) (p q : Progress) {t : Token α} {rest : List (Token α)}
    (h : step bound p t = opened bound depth q) :
    verdict bound p (t :: rest) =
      if depth < bound then verdict bound q rest else .error .tooDeep := by
  rw [verdict_cons, h, opened]
  split <;> rfl

/-- A symbol that continues a sum or a product is followed by an operand of the same group. -/
theorem step_operator {operation : Operation} {s : Symbol} (bound : Nat) (groups : List Nat)
    (h : Operation.ofSum? s = some operation ∨ Operation.ofProduct? s = some operation) :
    step (α := α) bound (.behind groups) (.symbol s) = .ok (.awaiting (around groups) groups) := by
  cases s <;> first | rfl | exact absurd h (by simp [Operation.ofSum?, Operation.ofProduct?])

end Progress

open Progress (around verdict)

/-! ## The parser keeps in step -/

/-- What a reader came to at a cursor, as the steps from there see it: behind what was read an
operand is complete, and what was refused is refused. As many parts are open as before. -/
structure Outcome.KeepsStep (bound : Nat) (groups : List Nat) (c : Cursor α) (o : Outcome α) :
    Prop where
  depth : o.cursor.depth = c.depth
  verdict : verdict bound (.awaiting c.depth groups) c.rest =
    o.result.bind fun _ => verdict bound (.behind groups) o.cursor.rest

/-- A reader of signed operands keeps step on at most `budget` tokens, whatever groups are open. -/
def KeepsStep (bound budget : Nat) (p : Parser α) : Prop :=
  ∀ (groups : List Nat) (c : Cursor α), c.rest.length ≤ budget → (p c).KeepsStep bound groups c

/-- A reader of sums or products keeps step where it begins directly inside the innermost group. -/
def KeepsStepInside (bound budget : Nat) (p : Parser α) : Prop :=
  ∀ (groups : List Nat) (c : Cursor α), c.rest.length ≤ budget → around groups = c.depth →
    (p c).KeepsStep bound groups c

/-- What is left behind a part. -/
def Leaves (p : Parser α) (left : List (Token α) → Prop) : Prop :=
  ∀ ⦃c : Cursor α⦄ ⦃e : Expr α⦄ ⦃after : Cursor α⦄, p c = ⟨.ok e, after⟩ → left after.rest

section Loop

variable {bound budget : Nat} {operation? : Symbol → Option Operation} {operand : Parser α}

/-- The loop behind an operand. Its operators lead back to the depth at which it began. -/
theorem chainFrom_keepsStep (hstops : Stops operand)
    (hoperand : KeepsStepInside bound budget operand)
    (operator : ∀ {s : Symbol} {operation : Operation} (groups : List Nat),
      operation? s = some operation → Progress.step (α := α) bound (.behind groups) (.symbol s) =
        .ok (.awaiting (around groups) groups))
    {groups : List Nat} (limit : Nat) (left : Expr α) {c : Cursor α}
    (hbudget : c.rest.length ≤ budget) (hgroups : around groups = c.depth) :
    (chainFrom operation? operand limit left c).cursor.depth = c.depth ∧
      verdict bound (.behind groups) c.rest =
        (chainFrom operation? operand limit left c).result.bind fun _ =>
          verdict bound (.behind groups)
            (chainFrom operation? operand limit left c).cursor.rest := by
  induction limit generalizing left c with
  | zero => exact ⟨rfl, rfl⟩
  | succ limit ih =>
    unfold chainFrom
    split
    · rename_i s rest hrest
      split
      · rename_i operation hoperation
        have hlength : rest.length ≤ budget := by
          rw [hrest, List.length_cons] at hbudget
          omega
        obtain ⟨hdepth, hverdict⟩ := hoperand groups (c.past rest) hlength hgroups
        have hsuffix := (hstops (c.past rest)).suffix.length_le
        rw [hrest, Progress.verdict_cons, operator groups hoperation, hgroups]
        simp only [Except.bind]
        cases hread : operand (c.past rest) with
        | mk result mid =>
          rw [hread] at hdepth hverdict hsuffix
          cases result with
          | error reason => exact ⟨hdepth, hverdict⟩
          | ok right =>
            have hmid : mid.rest.length ≤ budget := Nat.le_trans hsuffix hlength
            obtain ⟨hafter, hloop⟩ :=
              ih (.binary operation left right) hmid (hgroups.trans hdepth.symm)
            exact ⟨hafter.trans hdepth, hverdict.trans hloop⟩
      · exact ⟨rfl, rfl⟩
    · exact ⟨rfl, rfl⟩

theorem chain_keepsStep (hstops : Stops operand) (hoperand : KeepsStepInside bound budget operand)
    (operator : ∀ {s : Symbol} {operation : Operation} (groups : List Nat),
      operation? s = some operation → Progress.step (α := α) bound (.behind groups) (.symbol s) =
        .ok (.awaiting (around groups) groups)) :
    KeepsStepInside bound budget (chain operation? operand) := by
  intro groups c hbudget hgroups
  obtain ⟨hdepth, hverdict⟩ := hoperand groups c hbudget hgroups
  have hsuffix := (hstops c).suffix.length_le
  unfold chain
  cases hread : operand c with
  | mk result mid =>
    rw [hread] at hdepth hverdict hsuffix
    cases result with
    | error reason => exact ⟨hdepth, hverdict⟩
    | ok left =>
      obtain ⟨hafter, hloop⟩ := chainFrom_keepsStep hstops hoperand operator
        mid.rest.length left (Nat.le_trans hsuffix hbudget) (hgroups.trans hdepth.symm)
      exact ⟨hafter.trans hdepth, hverdict.trans hloop⟩

/-- Behind the loop no operator of its level is left, and what is left behind every operand. -/
theorem chainFrom_leaves (hstops : Stops operand) {left : List (Token α) → Prop}
    (hoperand : Leaves operand left) {limit : Nat} {e f : Expr α} {c after : Cursor α}
    (hleft : left c.rest) (hlimit : c.rest.length ≤ limit)
    (h : chainFrom operation? operand limit e c = ⟨.ok f, after⟩) :
    left after.rest ∧ NoOperator operation? after.rest := by
  induction limit generalizing e c with
  | zero =>
    obtain ⟨-, rfl⟩ := Outcome.ok_inj h
    have hrest : c.rest = [] := List.eq_nil_of_length_eq_zero (Nat.le_zero.mp hlimit)
    exact ⟨hleft, hrest ▸ noOperator_nil operation?⟩
  | succ limit ih =>
    unfold chainFrom at h
    split at h
    · rename_i s rest hrest
      split at h
      · obtain ⟨right, mid, hright, hloop⟩ := Outcome.andThen_eq_ok h
        have hsuffix := (hstops (c.past rest)).suffix.length_le
        rw [hright] at hsuffix
        rw [hrest, List.length_cons] at hlimit
        exact ih (hoperand hright) (Nat.le_trans hsuffix (Nat.le_of_succ_le_succ hlimit)) hloop
      · rename_i hoperation
        obtain ⟨-, rfl⟩ := Outcome.ok_inj h
        exact ⟨hleft, hrest ▸ noOperator_cons hoperation rest⟩
    · rename_i hrest
      obtain ⟨-, rfl⟩ := Outcome.ok_inj h
      exact ⟨hleft, fun s more hmore => absurd hmore (hrest s more)⟩

theorem chain_leaves (hstops : Stops operand) {left : List (Token α) → Prop}
    (hoperand : Leaves operand left) :
    Leaves (chain operation? operand) fun rest => left rest ∧ NoOperator operation? rest := by
  intro c e after h
  obtain ⟨f, mid, hread, hloop⟩ := Outcome.andThen_eq_ok h
  exact chainFrom_leaves hstops hoperand (hoperand hread) (Nat.le_refl _) hloop

end Loop

section Part

variable {bound budget : Nat} {operand : Parser α}

theorem KeepsStep.inside (h : KeepsStep bound budget operand) :
    KeepsStepInside bound budget operand :=
  fun groups c hbudget _ => h groups c hbudget

theorem sum_keepsStep (hstops : Stops operand) (hoperand : KeepsStep bound budget operand) :
    KeepsStepInside bound budget (sum operand) :=
  chain_keepsStep hstops.chain
    (chain_keepsStep hstops hoperand.inside
      fun groups h => Progress.step_operator bound groups (.inr h))
    fun groups h => Progress.step_operator bound groups (.inl h)

/-- Behind a sum there is no operator. -/
theorem sum_leaves (hstops : Stops operand) :
    Leaves (sum operand) fun rest =>
      NoOperator Operation.ofProduct? rest ∧ NoOperator Operation.ofSum? rest := by
  have operands : Leaves operand fun _ => True := fun _ _ _ _ => trivial
  have terms : Leaves (chain Operation.ofProduct? operand) _ := chain_leaves hstops operands
  have sums : Leaves (sum operand) _ := chain_leaves hstops.chain terms
  intro c e after h
  exact ⟨(sums h).1.2, (sums h).2⟩

/-- Where no operator comes next, a complete operand is followed by the end of its group. -/
theorem step_behind_of_noOperator {groups : List Nat} {t : Token α} {rest : List (Token α)}
    (hproduct : NoOperator Operation.ofProduct? (t :: rest))
    (hsum : NoOperator Operation.ofSum? (t :: rest)) (hclosing : t ≠ .symbol .closing) :
    Progress.step bound (.behind groups) t = .error (.unexpectedToken t) := by
  match t with
  | .operand a => rfl
  | .symbol .opening => rfl
  | .symbol .closing => exact absurd rfl hclosing
  | .symbol .plus | .symbol .minus => exact absurd (hsum _ _ rfl) nofun
  | .symbol .times | .symbol .divide => exact absurd (hproduct _ _ rfl) nofun

/-- Reading a nested part keeps step: the part is open while it is read. -/
theorem nested_keepsStep {inner : Parser α} {c : Cursor α} {outer groups : List Nat}
    {rest : List (Token α)} {t : Token α} (hrest : c.rest = t :: rest)
    (hstep : Progress.step bound (.awaiting c.depth outer) t =
      Progress.opened bound c.depth (.awaiting (c.depth + 1) groups))
    (hinner : (inner ⟨rest, c.depth + 1⟩).KeepsStep bound groups ⟨rest, c.depth + 1⟩) :
    (nested bound inner (c.past rest)).cursor.depth = c.depth ∧
      verdict bound (.awaiting c.depth outer) c.rest =
        (nested bound inner (c.past rest)).result.bind fun _ =>
          verdict bound (.behind groups) (nested bound inner (c.past rest)).cursor.rest := by
  rw [hrest, Progress.verdict_opened _ _ _ _ hstep]
  unfold nested
  obtain ⟨hdepth, hverdict⟩ := hinner
  by_cases below : c.depth < bound
  · have below' : (c.past rest).depth < bound := below
    rw [if_pos below, if_pos below']
    refine ⟨?_, hverdict⟩
    simp only [Cursor.past, hdepth, Nat.add_sub_cancel]
  · have full : ¬ (c.past rest).depth < bound := below
    rw [if_neg below, if_neg full]
    exact ⟨rfl, rfl⟩

/-- The parenthesis that closes a group leads behind the group as a complete operand. -/
theorem verdict_closeGroup {depth : Nat} {groups : List Nat} (e : Expr α) {c : Cursor α}
    (hproduct : NoOperator Operation.ofProduct? c.rest)
    (hsum : NoOperator Operation.ofSum? c.rest) :
    verdict bound (.behind (depth :: groups)) c.rest =
      (closeGroup e c).result.bind fun _ =>
        verdict bound (.behind groups) (closeGroup e c).cursor.rest := by
  unfold closeGroup
  split
  · rename_i rest hrest
    rw [hrest, Progress.verdict_cons]
    rfl
  · rename_i t rest hclosing hrest
    rw [hrest] at hproduct hsum
    have hstep : Progress.step bound (.behind (depth :: groups)) t = .error (.unexpectedToken t) :=
      step_behind_of_noOperator hproduct hsum hclosing
    rw [hrest, Progress.verdict_cons, hstep]
    rfl
  · rename_i hrest
    rw [hrest]
    rfl

theorem depth_closeGroup (e : Expr α) (c : Cursor α) : (closeGroup e c).cursor.depth = c.depth := by
  unfold closeGroup
  split <;> rfl

theorem primary_keepsStep {inner : Parser α} (hinner : KeepsStepInside bound budget inner)
    (hleaves : Leaves inner fun rest =>
      NoOperator Operation.ofProduct? rest ∧ NoOperator Operation.ofSum? rest)
    {c : Cursor α} (groups : List Nat) (hbudget : c.rest.length ≤ budget + 1)
    (hsign : ∀ rest, c.rest ≠ .symbol .minus :: rest ∧ c.rest ≠ .symbol .plus :: rest) :
    (primary bound inner c).KeepsStep bound groups c := by
  unfold primary
  split
  · rename_i a rest hrest
    refine ⟨rfl, ?_⟩
    rw [hrest, Progress.verdict_cons]
    rfl
  · rename_i rest hrest
    have hlength : rest.length ≤ budget := by
      rw [hrest, List.length_cons] at hbudget
      omega
    obtain ⟨hdepth, hverdict⟩ := nested_keepsStep hrest rfl
      (hinner ((c.depth + 1) :: groups) ⟨rest, c.depth + 1⟩ hlength rfl)
    cases hread : nested bound inner (c.past rest) with
    | mk result mid =>
      rw [hread] at hdepth hverdict
      cases result with
      | error reason => exact ⟨hdepth, hverdict⟩
      | ok e =>
        obtain ⟨-, last, hopen, rfl⟩ := nested_eq_ok hread
        obtain ⟨hproduct, hsum⟩ := hleaves hopen
        refine ⟨(depth_closeGroup e _).trans hdepth, hverdict.trans ?_⟩
        exact verdict_closeGroup e hproduct hsum
  · rename_i t rest hoperand hopening hrest
    refine ⟨rfl, ?_⟩
    rw [hrest, Progress.verdict_cons]
    match t with
    | .operand a => exact (hoperand a rfl).elim
    | .symbol .opening => exact (hopening rfl).elim
    | .symbol .minus => exact absurd hrest (hsign rest).1
    | .symbol .plus => exact absurd hrest (hsign rest).2
    | .symbol .times | .symbol .divide | .symbol .closing => rfl
  · rename_i hrest
    refine ⟨rfl, ?_⟩
    rw [hrest]
    rfl

/-- A sign and its operand: the operand is read under the same groups. -/
theorem sign_keepsStep (hoperand : KeepsStep bound budget operand) {sign : Symbol}
    (hstep : ∀ (depth : Nat) (groups : List Nat),
      Progress.step (α := α) bound (.awaiting depth groups) (.symbol sign) =
        Progress.opened bound depth (.awaiting (depth + 1) groups))
    (wrap : Expr α → Expr α) {c : Cursor α} {rest : List (Token α)}
    (hrest : c.rest = .symbol sign :: rest) (groups : List Nat)
    (hbudget : c.rest.length ≤ budget + 1) :
    ((nested bound operand (c.past rest)).map wrap).KeepsStep bound groups c := by
  have hlength : rest.length ≤ budget := by
    rw [hrest, List.length_cons] at hbudget
    omega
  obtain ⟨hdepth, hverdict⟩ := nested_keepsStep hrest (hstep c.depth groups)
    (hoperand groups ⟨rest, c.depth + 1⟩ hlength)
  refine ⟨hdepth, hverdict.trans ?_⟩
  unfold Outcome.map
  cases (nested bound operand (c.past rest)).result <;> rfl

end Part

/-- By induction on the budget: every nested part begins behind a token of its own. -/
theorem signed_keepsStep (bound budget : Nat) :
    KeepsStep bound budget (signed (α := α) bound budget) := by
  induction budget with
  | zero =>
    intro groups c hbudget
    have hrest : c.rest = [] := List.eq_nil_of_length_eq_zero (Nat.le_zero.mp hbudget)
    refine ⟨rfl, ?_⟩
    rw [hrest]
    rfl
  | succ budget ih =>
    intro groups c hbudget
    unfold signed
    split
    · rename_i rest hrest
      exact sign_keepsStep ih (fun _ _ => rfl) .negate hrest groups hbudget
    · rename_i rest hrest
      exact sign_keepsStep ih (fun _ _ => rfl) .affirm hrest groups hbudget
    · rename_i hminus hplus
      have hstops := stops_signed (α := α) bound budget
      exact primary_keepsStep (sum_keepsStep hstops ih) (sum_leaves hstops) groups hbudget
        fun rest => ⟨hminus rest, hplus rest⟩

/-- The parser and the steps come to the same verdict. -/
theorem parseWithin_eq_verdict (bound : Nat) (tokens : List (Token α)) :
    (parseWithin bound tokens).map (fun _ => ()) = verdict bound .start tokens := by
  have hstops := stops_signed (α := α) bound tokens.length
  obtain ⟨-, hverdict⟩ := sum_keepsStep hstops (signed_keepsStep bound tokens.length) []
    ⟨tokens, 0⟩ (Nat.le_refl _) rfl
  refine Eq.trans ?_ hverdict.symm
  unfold parseWithin expression
  cases hread : sum (signed bound tokens.length) ⟨tokens, 0⟩ with
  | mk result after =>
    obtain ⟨rest, depth⟩ := after
    cases result with
    | error reason => cases rest <;> rfl
    | ok e =>
      obtain ⟨hproduct, hsum⟩ := sum_leaves hstops hread
      cases rest with
      | nil => rfl
      | cons t rest =>
        -- what is left over at the outside is refused, a closing parenthesis included
        have hstep : Progress.step bound (.behind []) t = .error (.unexpectedToken t) := by
          by_cases hclosing : t = .symbol .closing
          · rw [hclosing]
            rfl
          · exact step_behind_of_noOperator hproduct hsum hclosing
        simp only [Except.bind, Progress.verdict_cons, hstep]
        rfl

end ReportRules.Formula
