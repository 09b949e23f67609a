import ReportRules.Proofs.Formula.Progress
import ReportRules.Proofs.Formula.Reading

/-!
# ReportRules.Proofs.Formula.Course -- the course of reading, cursor by cursor

The functions of the parser recurse on a budget, and the loop over operators on a limit. `Course` is
reading without either: its rules say how a part is read by reading other parts, and which cursors
reading comes to on the way, one for each token that is taken and for each nested part that is
opened or closed. That every part has a course at every cursor is then that reading ends. A part
that is read from another one either begins behind a token that was taken or is one level tighter,
and the turns of a loop begin behind its operators.

Every course comes to what the functions of the parser return, with any budget that has room for the
tokens that follow. No more parts are open on the way than the bound allows, and in the end as many
are open as in the beginning, also where a part is refused.
-/

namespace ReportRules.Formula

variable {α : Type}

/-! ## The rules of reading -/

/-- The levels that are chains: their operators, and the level of their operands. -/
inductive Chains : Level → (Symbol → Option Operation) → Level → Prop
  | sum : Chains .expression Operation.ofSum? .term
  | product : Chains .term Operation.ofProduct? .unary

/-- What a sign makes of the operand behind it. -/
def Expr.ofSign? : Symbol → Option (Expr α → Expr α)
  | .minus => some .negate
  | .plus => some .affirm
  | _ => none

/-- No sign comes next. -/
def NoSign (rest : List (Token α)) : Prop :=
  ∀ s more, rest = .symbol s :: more → (Expr.ofSign? s : Option (Expr α → Expr α)) = none

/-- A cursor with one more part open. -/
def Cursor.opened (c : Cursor α) : Cursor α :=
  { c with depth := c.depth + 1 }

/-- A cursor with one part closed. -/
def Cursor.closed (c : Cursor α) : Cursor α :=
  { c with depth := c.depth - 1 }

/-- What may follow a part within the part around it. -/
inductive Tail
  /-- Operators, with operands of a level. -/
  | operators (operation? : Symbol → Option Operation) (lower : Level)
  /-- The parenthesis that closes a group. -/
  | parenthesis

/-- What there is to read. -/
inductive Task (α : Type)
  /-- A part. -/
  | part (level : Level)
  /-- A part that is opened and closed. -/
  | nested (level : Level)
  /-- What follows a part, given what was read of the part. -/
  | behind (tail : Tail) (before : Except (Refusal α) (Expr α))

/-- Reading comes to the cursors `visited`, one after the other, and to an outcome. -/
inductive Course (bound : Nat) :
    Task α → Cursor α → List (Cursor α) → Outcome α → Prop
  | chain {level lower : Level} {operation? : Symbol → Option Operation} {c : Cursor α}
      {visited later : List (Cursor α)} {first o : Outcome α}
      (links : Chains level operation? lower)
      (operand : Course bound (.part lower) c visited first)
      (others : Course bound (.behind (.operators operation? lower) first.result) first.cursor
        later o) :
      Course bound (.part level) c (visited ++ later) o
  | operator {lower : Level} {operation? : Symbol → Option Operation} {c : Cursor α} {s : Symbol}
      {rest : List (Token α)} {operation : Operation} {left : Expr α}
      {visited later : List (Cursor α)} {right o : Outcome α}
      (next : c.rest = .symbol s :: rest) (isOperator : operation? s = some operation)
      (operand : Course bound (.part lower) (c.past rest) visited right)
      (others : Course bound
        (.behind (.operators operation? lower) (right.result.map (.binary operation left)))
        right.cursor later o) :
      Course bound (.behind (.operators operation? lower) (.ok left)) c
        (c.past rest :: (visited ++ later)) o
  | last {lower : Level} {operation? : Symbol → Option Operation} {c : Cursor α} {left : Expr α}
      (noOperator : NoOperator operation? c.rest) :
      Course bound (.behind (.operators operation? lower) (.ok left)) c [] ⟨.ok left, c⟩
  | sign {c : Cursor α} {s : Symbol} {rest : List (Token α)} {wrap : Expr α → Expr α}
      {visited : List (Cursor α)} {o : Outcome α} (next : c.rest = .symbol s :: rest)
      (isSign : Expr.ofSign? s = some wrap)
      (operand : Course bound (.nested .unary) (c.past rest) visited o) :
      Course bound (.part .unary) c (c.past rest :: visited) (o.map wrap)
  | unsigned {c : Cursor α} {visited : List (Cursor α)} {o : Outcome α} (noSign : NoSign c.rest)
      (operand : Course bound (.part .primary) c visited o) :
      Course bound (.part .unary) c visited o
  | number {c : Cursor α} {a : α} {rest : List (Token α)} (next : c.rest = .operand a :: rest) :
      Course bound (.part .primary) c [c.past rest] ⟨.ok (.number a), c.past rest⟩
  | group {c : Cursor α} {rest : List (Token α)} {visited later : List (Cursor α)}
      {inner o : Outcome α} (next : c.rest = .symbol .opening :: rest)
      (inside : Course bound (.nested .expression) (c.past rest) visited inner)
      (ending : Course bound (.behind .parenthesis inner.result) inner.cursor later o) :
      Course bound (.part .primary) c (c.past rest :: (visited ++ later)) o
  | unexpected {c : Cursor α} {s : Symbol} {rest : List (Token α)}
      (next : c.rest = .symbol s :: rest) (noGroup : s ≠ .opening) :
      Course bound (.part .primary) c [c.past rest]
        (refuse (.unexpectedToken (.symbol s)) (c.past rest))
  | ended {c : Cursor α} (next : c.rest = []) :
      Course bound (.part .primary) c [] (refuse .unexpectedEnd c)
  | closed {c : Cursor α} {e : Expr α} {rest : List (Token α)}
      (next : c.rest = .symbol .closing :: rest) :
      Course bound (.behind .parenthesis (.ok e)) c [c.past rest] ⟨.ok (.group e), c.past rest⟩
  | unclosed {c : Cursor α} {e : Expr α} {t : Token α} {rest : List (Token α)}
      (next : c.rest = t :: rest) (noClosing : t ≠ .symbol .closing) :
      Course bound (.behind .parenthesis (.ok e)) c [c.past rest]
        (refuse (.unexpectedToken t) (c.past rest))
  | leftOpen {c : Cursor α} {e : Expr α} (next : c.rest = []) :
      Course bound (.behind .parenthesis (.ok e)) c [] (refuse .unexpectedEnd c)
  | refused {tail : Tail} {c : Cursor α} {reason : Refusal α} :
      Course bound (.behind tail (.error reason)) c [] (refuse reason c)
  | opened {level : Level} {c : Cursor α} {visited : List (Cursor α)} {o : Outcome α}
      (below : c.depth < bound) (inside : Course bound (.part level) c.opened visited o) :
      Course bound (.nested level) c (c.opened :: (visited ++ [o.cursor.closed]))
        { o with cursor := o.cursor.closed }
  | tooDeep {level : Level} {c : Cursor α} (full : ¬ c.depth < bound) :
      Course bound (.nested level) c [] (refuse .tooDeep c)

/-! ## Ways -/

/-- One token is taken, or one part opened or closed. -/
inductive Move : Cursor α → Cursor α → Prop
  | take {c : Cursor α} {t : Token α} {rest : List (Token α)} (next : c.rest = t :: rest) :
      Move c (c.past rest)
  | open (c : Cursor α) : Move c c.opened
  | close {c : Cursor α} (inside : 0 < c.depth) : Move c c.closed

/-- Each cursor of a list is one move behind the one before it, from a first one to a last one. -/
inductive Way : Cursor α → List (Cursor α) → Cursor α → Prop
  | stay (c : Cursor α) : Way c [] c
  | move {c d e : Cursor α} {visited : List (Cursor α)} (first : Move c d)
      (further : Way d visited e) : Way c (d :: visited) e

namespace Way

variable {c d e : Cursor α} {visited later : List (Cursor α)}

theorem trans (h : Way c visited d) (further : Way d later e) : Way c (visited ++ later) e := by
  induction h with
  | stay => exact further
  | move first _ ih => exact .move first (ih further)

theorem single (h : Move c d) : Way c [d] d :=
  .move h (.stay d)

/-- Tokens are taken from the front. -/
theorem suffix (h : Way c visited d) : d.rest <:+ c.rest := by
  induction h with
  | stay => exact List.suffix_rfl
  | move first _ ih =>
    cases first with
    | take next => exact ih.trans (next ▸ List.suffix_cons _ _)
    | «open» | close => exact ih

/-- Behind the next token, fewer tokens follow. -/
theorem length_lt {t : Token α} {rest : List (Token α)} (next : c.rest = t :: rest)
    (h : Way (c.past rest) visited d) : d.rest.length < c.rest.length := by
  rw [next, List.length_cons]
  exact Nat.lt_succ_of_le h.suffix.length_le

end Way

/-- From one cursor to another on a way within the bound, with as many parts open in the end as in
the beginning. -/
structure Stretch (bound : Nat) (c : Cursor α) (visited : List (Cursor α)) (d : Cursor α) :
    Prop where
  way : Way c visited d
  within : c.depth ≤ bound → ∀ x ∈ visited, x.depth ≤ bound
  depth : d.depth = c.depth

namespace Stretch

variable {bound : Nat} {c d e : Cursor α} {visited later : List (Cursor α)}

theorem stay (bound : Nat) (c : Cursor α) : Stretch bound c [] c :=
  ⟨.stay c, fun _ => nofun, rfl⟩

theorem trans (h : Stretch bound c visited d) (further : Stretch bound d later e) :
    Stretch bound c (visited ++ later) e where
  way := h.way.trans further.way
  within hc := List.forall_mem_append.mpr ⟨h.within hc, further.within (h.depth ▸ hc)⟩
  depth := further.depth.trans h.depth

/-- Behind the next token. -/
theorem behind {t : Token α} {rest : List (Token α)} (next : c.rest = t :: rest)
    (h : Stretch bound (c.past rest) visited d) : Stretch bound c (c.past rest :: visited) d where
  way := .move (.take next) h.way
  within hc := List.forall_mem_cons.mpr ⟨hc, h.within hc⟩
  depth := h.depth

/-- Inside a part that is opened and closed. -/
theorem nested (below : c.depth < bound) (h : Stretch bound c.opened visited d) :
    Stretch bound c (c.opened :: (visited ++ [d.closed])) d.closed := by
  have inside : 0 < d.depth := h.depth ▸ Nat.succ_pos c.depth
  have same : d.closed.depth = c.depth := by
    rw [Cursor.closed, h.depth, Cursor.opened, Nat.add_sub_cancel]
  refine ⟨.move (.open c) (h.way.trans (.single (.close inside))), fun hc => ?_, same⟩
  refine List.forall_mem_cons.mpr ⟨below, List.forall_mem_append.mpr ⟨h.within below, ?_⟩⟩
  exact List.forall_mem_singleton.mpr (same ▸ hc)

end Stretch

/-! ## What a course keeps -/

/-- What success says about a task: a part took a token, and what follows a part follows one that
was read. -/
def Task.Succeeds (c : Cursor α) (o : Outcome α) : Task α → Prop
  | .part _ | .nested _ => o.cursor.rest.length < c.rest.length
  | .behind _ before => ∃ e, before = .ok e

/-- What holds of every course. -/
structure Course.Kept (bound : Nat) (task : Task α) (c : Cursor α) (visited : List (Cursor α))
    (o : Outcome α) : Prop extends Stretch bound c visited o.cursor where
  succeeds : ∀ e, o.result = .ok e → task.Succeeds c o

namespace Course

variable {bound : Nat} {task : Task α} {c : Cursor α} {visited : List (Cursor α)} {o : Outcome α}

/-- By induction on the course. The loops succeed only behind an operand that was read, so a chain
has taken the tokens of its first operand. -/
theorem kept (h : Course bound task c visited o) : Kept bound task c visited o := by
  induction h with
  | chain links operand others ihOperand ihOthers =>
    refine ⟨ihOperand.toStretch.trans ihOthers.toStretch, fun e he => ?_⟩
    obtain ⟨left, hleft⟩ := ihOthers.succeeds e he
    exact Nat.lt_of_le_of_lt ihOthers.way.suffix.length_le (ihOperand.succeeds left hleft)
  | operator next isOperator operand others ihOperand ihOthers =>
    exact ⟨(ihOperand.toStretch.trans ihOthers.toStretch).behind next, fun e _ => ⟨_, rfl⟩⟩
  | last noOperator => exact ⟨.stay _ _, fun e _ => ⟨_, rfl⟩⟩
  | sign next isSign operand ih =>
    exact ⟨ih.toStretch.behind next, fun e _ => ih.way.length_lt next⟩
  | unsigned noSign operand ih => exact ⟨ih.toStretch, ih.succeeds⟩
  | number next =>
    exact ⟨(Stretch.stay _ _).behind next, fun e _ => (Way.stay _).length_lt next⟩
  | group next inside ending ihInside ihEnding =>
    have whole := ihInside.toStretch.trans ihEnding.toStretch
    exact ⟨whole.behind next, fun e _ => whole.way.length_lt next⟩
  | unexpected next noGroup => exact ⟨(Stretch.stay _ _).behind next, nofun⟩
  | ended next => exact ⟨.stay _ _, nofun⟩
  | closed next => exact ⟨(Stretch.stay _ _).behind next, fun e _ => ⟨_, rfl⟩⟩
  | unclosed next noClosing => exact ⟨(Stretch.stay _ _).behind next, nofun⟩
  | leftOpen next => exact ⟨.stay _ _, nofun⟩
  | refused => exact ⟨.stay _ _, nofun⟩
  | opened below inside ih => exact ⟨ih.toStretch.nested below, ih.succeeds⟩
  | tooDeep full => exact ⟨.stay _ _, nofun⟩

/-! ## Reading ends -/

/-- The next token is a symbol of a kind, or it is not. -/
theorem none_or_symbol {β : Type} (kind? : Symbol → Option β) (rest : List (Token α)) :
    (∀ s more, rest = .symbol s :: more → kind? s = none) ∨
      ∃ s more b, rest = .symbol s :: more ∧ kind? s = some b := by
  match rest with
  | [] => exact .inl fun s more h => nomatch h
  | .operand a :: rest => exact .inl fun s more h => nomatch h
  | .symbol s :: rest =>
    cases kind : kind? s with
    | none =>
      refine .inl fun t more h => ?_
      obtain ⟨rfl, rfl⟩ : s = t ∧ rest = more := by simpa using h
      exact kind
    | some b => exact .inr ⟨s, rest, b, rfl, kind⟩

/-- The loop ends, since fewer tokens follow behind each of its operators. -/
theorem exists_operators (operation? : Symbol → Option Operation) {lower : Level} {n : Nat}
    (operands : ∀ c : Cursor α, c.rest.length < n →
      ∃ visited o, Course bound (.part lower) c visited o)
    (before : Except (Refusal α) (Expr α)) {c : Cursor α} (hc : c.rest.length ≤ n) :
    ∃ visited o, Course bound (.behind (.operators operation? lower) before) c visited o := by
  induction hlength : c.rest.length using Nat.strongRecOn generalizing before c with
  | ind m ih =>
    subst hlength
    cases before with
    | error reason => exact ⟨_, _, .refused⟩
    | ok left =>
      rcases none_or_symbol operation? c.rest with
        noOperator | ⟨s, rest, operation, next, isOperator⟩
      · exact ⟨_, _, .last noOperator⟩
      · have room : (c.past rest).rest.length < c.rest.length := (Way.stay _).length_lt next
        obtain ⟨visited, right, operand⟩ := operands (c.past rest) (Nat.lt_of_lt_of_le room hc)
        have behind := operand.kept.way.length_lt next
        obtain ⟨later, o, others⟩ := ih _ behind (right.result.map (.binary operation left))
          (Nat.le_trans (Nat.le_of_lt behind) hc) rfl
        exact ⟨_, _, .operator next isOperator operand others⟩

theorem exists_chain {level lower : Level} {operation? : Symbol → Option Operation}
    (links : Chains level operation? lower) {c : Cursor α}
    (operands : ∀ d : Cursor α, d = c ∨ d.rest.length < c.rest.length →
      ∃ visited o, Course bound (.part lower) d visited o) :
    ∃ visited o, Course bound (.part level) c visited o := by
  obtain ⟨visited, first, operand⟩ := operands c (.inl rfl)
  obtain ⟨later, o, others⟩ := exists_operators operation?
    (fun d hd => operands d (.inr hd)) first.result operand.kept.way.suffix.length_le
  exact ⟨_, _, .chain links operand others⟩

theorem exists_nested {level : Level}
    (h : ∃ visited o, Course bound (.part level) c.opened visited o) :
    ∃ visited o, Course bound (.nested level) c visited o := by
  by_cases below : c.depth < bound
  · obtain ⟨visited, o, inside⟩ := h
    exact ⟨_, _, .opened below inside⟩
  · exact ⟨_, _, .tooDeep below⟩

theorem exists_parenthesis (bound : Nat) (before : Except (Refusal α) (Expr α)) (c : Cursor α) :
    ∃ visited o, Course bound (.behind .parenthesis before) c visited o := by
  cases before with
  | error reason => exact ⟨_, _, .refused⟩
  | ok e =>
    match next : c.rest with
    | [] => exact ⟨_, _, .leftOpen next⟩
    | t :: rest =>
      by_cases closing : t = .symbol .closing
      · exact ⟨_, _, .closed (closing ▸ next)⟩
      · exact ⟨_, _, .unclosed next closing⟩

/-- By strong induction on the tokens that follow, and from the tightest level to the loosest: what
is read inside a part either begins behind one of its tokens or is of a tighter level. -/
theorem exists_part (bound : Nat) (level : Level) (c : Cursor α) :
    ∃ visited o, Course bound (.part level) c visited o := by
  induction hlength : c.rest.length using Nat.strongRecOn generalizing level c with
  | ind n ih =>
    subst hlength
    have shorter : ∀ (level : Level) (d : Cursor α), d.rest.length < c.rest.length →
        ∃ visited o, Course bound (.part level) d visited o := fun level d hd => ih _ hd level d rfl
    -- a part is opened behind a token, so the hypothesis is about its inside whatever its level
    have nested : ∀ (level : Level) {t : Token α} {rest : List (Token α)}, c.rest = t :: rest →
        ∃ visited o, Course bound (.nested level) (c.past rest) visited o := by
      intro level t rest next
      have behind := (Way.single (.open (c.past rest))).length_lt next
      exact exists_nested (shorter level (c.past rest).opened behind)
    have primary : ∃ visited o, Course bound (.part .primary) c visited o := by
      match next : c.rest with
      | [] => exact ⟨_, _, .ended next⟩
      | .operand a :: rest => exact ⟨_, _, .number next⟩
      | .symbol s :: rest =>
        by_cases opening : s = .opening
        · subst opening
          obtain ⟨visited, inner, inside⟩ := nested .expression next
          obtain ⟨later, o, ending⟩ := exists_parenthesis bound inner.result inner.cursor
          exact ⟨_, _, .group next inside ending⟩
        · exact ⟨_, _, .unexpected next opening⟩
    have unary : ∃ visited o, Course bound (.part .unary) c visited o := by
      rcases none_or_symbol (Expr.ofSign? (α := α)) c.rest with
        noSign | ⟨s, rest, wrap, next, isSign⟩
      · obtain ⟨visited, o, operand⟩ := primary
        exact ⟨_, _, .unsigned noSign operand⟩
      · obtain ⟨visited, o, operand⟩ := nested .unary next
        exact ⟨_, _, .sign next isSign operand⟩
    have term : ∃ visited o, Course bound (.part .term) c visited o :=
      exists_chain .product fun d hd => hd.elim (fun h => h ▸ unary) (shorter .unary d)
    have expression : ∃ visited o, Course bound (.part .expression) c visited o :=
      exists_chain .sum fun d hd => hd.elim (fun h => h ▸ term) (shorter .term d)
    cases level with
    | expression => exact expression
    | term => exact term
    | unary => exact unary
    | primary => exact primary

end Course

/-! ## The functions of the parser -/

/-- Where no sign comes next, a signed operand is a primary. -/
theorem signed_of_noSign {c : Cursor α} (bound budget : Nat) (h : NoSign c.rest) :
    signed bound (budget + 1) c = primary bound (sum (signed bound budget)) c := by
  rw [signed]
  split
  · rename_i rest next
    exact absurd (h _ _ next) (Option.some_ne_none _)
  · rename_i rest next
    exact absurd (h _ _ next) (Option.some_ne_none _)
  · rfl

theorem signed_of_sign {c : Cursor α} {s : Symbol} {rest : List (Token α)}
    {wrap : Expr α → Expr α} (bound budget : Nat) (next : c.rest = .symbol s :: rest)
    (isSign : Expr.ofSign? s = some wrap) :
    signed bound (budget + 1) c = (nested bound (signed bound budget) (c.past rest)).map wrap := by
  rw [signed, next]
  cases s with
  | plus | minus => rw [← Option.some_inj.mp isSign]
  | _ => exact absurd isSign.symm (Option.some_ne_none _)

/-- The function that reads a part; `expression` reads one with as much budget as tokens follow. -/
def Level.reader (bound budget : Nat) : Level → Parser α
  | .expression => sum (signed bound budget)
  | .term => chain Operation.ofProduct? (signed bound budget)
  | .unary => signed bound budget
  | .primary => Formula.primary bound (sum (signed bound (budget - 1)))

/-- That the functions of the parser come to an outcome. -/
def Task.Returns (bound budget : Nat) (c : Cursor α) (o : Outcome α) : Task α → Prop
  | .part level => level.reader bound budget c = o
  | .nested level => Formula.nested bound (level.reader bound budget) c = o
  | .behind (.operators operation? lower) (.ok left) =>
    ∀ limit, c.rest.length ≤ limit →
      chainFrom operation? (lower.reader bound budget) limit left c = o
  | .behind .parenthesis (.ok e) => closeGroup e c = o
  | .behind _ (.error reason) => refuse reason c = o

namespace Course

variable {bound : Nat} {task : Task α} {c : Cursor α} {visited : List (Cursor α)} {o : Outcome α}

/-- By induction on the course. The budget and the limit of the loop have room for the tokens that
follow, so neither is used up before they are. -/
theorem returns (h : Course bound task c visited o) {budget : Nat}
    (hbudget : c.rest.length ≤ budget) : task.Returns bound budget c o := by
  induction h generalizing budget with
  | @chain level lower operation? c visited later first o links operand others ihOperand ihOthers =>
    have read : lower.reader bound budget c = first := ihOperand hbudget
    have rest := ihOthers (Nat.le_trans operand.kept.way.suffix.length_le hbudget)
    have reads : Formula.chain operation? (lower.reader bound budget) c = o := by
      obtain ⟨result, mid⟩ := first
      rw [Formula.chain, read]
      cases result with
      | error reason => exact rest
      | ok left => exact rest mid.rest.length (Nat.le_refl _)
    cases links <;> exact reads
  | @operator lower operation? c s tokens operation left visited later right o next isOperator
      operand others ihOperand ihOthers =>
    intro limit hlimit
    have behind := operand.kept.way.length_lt next
    have room : (c.past tokens).rest.length < c.rest.length := (Way.stay _).length_lt next
    have read : lower.reader bound budget (c.past tokens) = right :=
      ihOperand (Nat.le_trans (Nat.le_of_lt room) hbudget)
    have rest := ihOthers (Nat.le_trans (Nat.le_of_lt behind) hbudget)
    -- the limit has a turn left for the operator
    obtain ⟨turns, rfl⟩ : ∃ turns, limit = turns + 1 := ⟨limit - 1, by omega⟩
    obtain ⟨result, mid⟩ := right
    simp only [chainFrom, next, isOperator, read]
    cases result with
    | error reason => exact rest
    | ok e =>
      have enough : mid.rest.length ≤ turns := Nat.le_of_lt_succ (Nat.lt_of_lt_of_le behind hlimit)
      exact rest turns enough
  | last noOperator => exact fun limit _ => chainFrom_of_noOperator noOperator _ limit _
  | @sign c s tokens wrap visited o next isSign operand ih =>
    have room : (c.past tokens).rest.length < c.rest.length := (Way.stay _).length_lt next
    obtain ⟨less, rfl⟩ : ∃ less, budget = less + 1 := ⟨budget - 1, by omega⟩
    have read : nested bound (signed bound less) (c.past tokens) = o := ih (by omega)
    rw [Task.Returns, Level.reader, signed_of_sign bound less next isSign, read]
  | @unsigned c visited o noSign operand ih =>
    have read : primary bound (sum (signed bound (budget - 1))) c = o := ih hbudget
    cases budget with
    | zero =>
      -- without a budget there is no token, and both refuse the end
      have next : c.rest = [] := List.eq_nil_of_length_eq_zero (Nat.le_zero.mp hbudget)
      rw [← read, Task.Returns, Level.reader, signed, primary, next]
    | succ less => exact (signed_of_noSign bound less noSign).trans read
  | number next => simp [Task.Returns, Level.reader, primary, next]
  | @group c tokens visited later inner o next inside ending ihInside ihEnding =>
    have room : (c.past tokens).rest.length < c.rest.length := (Way.stay _).length_lt next
    have read : nested bound (sum (signed bound (budget - 1))) (c.past tokens) = inner :=
      ihInside (by omega)
    have rest := ihEnding
      (Nat.le_trans (Nat.le_of_lt (inside.kept.way.length_lt next)) hbudget)
    obtain ⟨result, mid⟩ := inner
    simp only [Task.Returns, Level.reader, primary, next, read]
    cases result with
    | error reason => exact rest
    | ok e => exact rest
  | @unexpected c s tokens next noGroup =>
    rw [Task.Returns, Level.reader, primary, next]
    cases s <;> first | rfl | exact absurd rfl noGroup
  | ended next => simp [Task.Returns, Level.reader, primary, next]
  | closed next => simp [Task.Returns, closeGroup, next]
  | unclosed next noClosing =>
    rw [Task.Returns, closeGroup, next]
    split
    · rename_i tokens heq
      exact absurd (List.cons.inj heq).1 noClosing
    · rename_i t tokens _ heq
      obtain ⟨rfl, rfl⟩ := List.cons.inj heq
      rfl
    · rename_i heq
      exact absurd heq (List.cons_ne_nil _ _)
  | leftOpen next => simp [Task.Returns, closeGroup, next]
  | @refused tail => cases tail <;> rfl
  | @opened level c visited o below inside ih =>
    have read : level.reader bound budget c.opened = o := ih hbudget
    rw [Task.Returns, nested, if_pos below, ← read]
    rfl
  | tooDeep full => exact if_neg full

end Course

/-- The cursor behind tokens that were taken from the front is a later place in the same list. -/
theorem exists_drop_of_suffix {tokens rest : List (Token α)} {position : Nat}
    (hposition : position ≤ tokens.length) (h : rest <:+ tokens.drop position) :
    ∃ after, position ≤ after ∧ after ≤ tokens.length ∧ rest = tokens.drop after ∧
      (rest.length < (tokens.drop position).length → position < after) := by
  have htaken := h.length_le
  rw [List.length_drop] at htaken ⊢
  refine ⟨position + (tokens.length - position - rest.length), by omega, by omega, ?_, by omega⟩
  rw [← List.drop_drop, ← List.length_drop]
  exact List.suffix_iff_eq_drop.mp h

/-- **Reading ends, and within its bounds.** From any place of a token list and with at most 32
parts open, there is a course of reading each of an expression, a term, a signed operand and a
primary. Every such course comes to what the parser returns with a budget that has room for the
tokens left, one token taken or one part opened or closed at a time. Never more than 32 parts are
open on the way. Whether the part was read or refused, as many are open in the end as in the
beginning, and reading is neither before the place where it began nor behind the list. If the part
was read, it is behind that place. -/
theorem reading_ends (tokens : List (Token α)) (level : Level) {position depth : Nat}
    (hposition : position ≤ tokens.length) (hdepth : depth ≤ 32) :
    (∃ visited o, Course maxNesting (.part level) ⟨tokens.drop position, depth⟩ visited o) ∧
    ∀ visited o, Course maxNesting (.part level) ⟨tokens.drop position, depth⟩ visited o →
      (∀ budget, tokens.length - position ≤ budget →
        level.reader maxNesting budget ⟨tokens.drop position, depth⟩ = o) ∧
      Way ⟨tokens.drop position, depth⟩ visited o.cursor ∧
      (∀ x ∈ visited, x.depth ≤ 32) ∧
      ∃ after, position ≤ after ∧ after ≤ tokens.length ∧
        o.cursor = ⟨tokens.drop after, depth⟩ ∧ ∀ e, o.result = .ok e → position < after := by
  refine ⟨Course.exists_part maxNesting level _, fun visited o course => ?_⟩
  obtain ⟨⟨way, within, same⟩, succeeds⟩ := course.kept
  obtain ⟨after, first, last, rest, later⟩ := exists_drop_of_suffix hposition way.suffix
  refine ⟨fun budget hbudget => course.returns (List.length_drop ▸ hbudget), way, within hdepth,
    after, first, last, ?_, fun e he => later (succeeds e he)⟩
  rw [← rest]
  exact congrArg (Cursor.mk o.cursor.rest) same

/-- A sign opens the last part that may be open, so the parenthesis behind it is refused. -/
theorem reading_ends_full : let tokens : List (Token Nat) :=
      [.symbol .times, .symbol .minus, .symbol .opening, .operand 7]
    ∃ visited o, Course maxNesting (.part .unary) ⟨tokens.drop 1, 31⟩ visited o ∧
      o = refuse .tooDeep ⟨[.operand 7], 31⟩ ∧ ∀ x ∈ visited, x.depth ≤ 32 := by
  intro tokens
  obtain ⟨⟨visited, o, course⟩, every⟩ :=
    reading_ends tokens .unary (show 1 ≤ tokens.length by decide) (show 31 ≤ 32 by decide)
  obtain ⟨returns, -, within, -⟩ := every visited o course
  exact ⟨visited, o, course, (returns 3 (by decide)).symm, within⟩

end ReportRules.Formula
