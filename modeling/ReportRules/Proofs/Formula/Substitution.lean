import ReportRules.Formula.Evaluate
import ReportRules.Proofs.Formula.Refused
import ReportRules.Proofs.Outcome

/-!
# ReportRules.Proofs.Formula.Substitution -- values do not change the structure of a formula

The text of a formula alone decides which tokens it has, and the parser does not look at operands.
So the tokens that a job makes of a formula are the scanned tokens with their operands replaced, and
whether and how they are an expression is settled before any value is looked up. Two jobs get the
same tree with other numbers in it, or are refused for the same reason at the same place.

The job is asked for nothing but the fields that the placeholders name, so two jobs that agree on
these have the same outcome.
-/

namespace ReportRules.Formula

/-! ## Operands -/

/-- The field that a placeholder names. -/
def fieldName (name : List Char) : String :=
  String.ofList (Text.trimChars name)

/-- The fields that a formula names, in the order of the text. -/
def fieldNames (formula : String) : List String :=
  (scan formula).tokens.filterMap fun
    | .operand (.placeholder name) => some (fieldName name)
    | _ => none

/-- The number of an operand on a job. An operand without a number gets zero, which no token list
ever shows. -/
def Operand.number (job : Record) : Operand → Float
  | .literal run => (resolveLiteral run).toOption.getD 0
  | .placeholder name => (resolveName job (fieldName name)).toOption.getD 0

/-- The tokens that two jobs make of one token of the text. Only where the text has a placeholder
may they differ, and there only by the numbers of the field. -/
inductive MadeOf (a b : Record) : Token Operand → Token Float → Token Float → Prop
  | symbol (s : Symbol) : MadeOf a b (.symbol s) (.symbol s) (.symbol s)
  | literal {run : List Char} {x : Float} (h : resolveLiteral run = .ok x) :
      MadeOf a b (.operand (.literal run)) (.operand x) (.operand x)
  | placeholder {name : List Char} {x y : Float} (left : resolveName a (fieldName name) = .ok x)
      (right : resolveName b (fieldName name) = .ok y) :
      MadeOf a b (.operand (.placeholder name)) (.operand x) (.operand y)

theorem map_operand_eq_ok {r : Except FormulaError Float} {t : Token Float}
    (h : r.map Token.operand = .ok t) : ∃ x, r = .ok x ∧ t = .operand x := by
  cases r with
  | error fault => cases h
  | ok x =>
    cases h
    exact ⟨x, rfl, rfl⟩

theorem resolveToken_eq_ok {job : Record} {w : Token Operand} {t : Token Float}
    (h : resolveToken job w = .ok t) : t = w.relabel (Operand.number job) := by
  match w with
  | .symbol s =>
    cases h
    rfl
  | .operand (.literal run) =>
    obtain ⟨x, hx, rfl⟩ := map_operand_eq_ok h
    simp [Token.relabel, Operand.number, hx, Except.toOption]
  | .operand (.placeholder name) =>
    obtain ⟨x, hx, rfl⟩ := map_operand_eq_ok h
    simp [Token.relabel, Operand.number, fieldName, hx, Except.toOption]

theorem madeOf_of_resolveToken {a b : Record} {w : Token Operand} {t u : Token Float}
    (ht : resolveToken a w = .ok t) (hu : resolveToken b w = .ok u) : MadeOf a b w t u := by
  match w with
  | .symbol s =>
    cases ht
    cases hu
    exact .symbol s
  | .operand (.literal run) =>
    obtain ⟨x, hx, rfl⟩ := map_operand_eq_ok ht
    obtain ⟨y, hy, rfl⟩ := map_operand_eq_ok hu
    obtain rfl : x = y := Except.ok.inj (hx.symm.trans hy)
    exact .literal hx
  | .operand (.placeholder name) =>
    obtain ⟨x, hx, rfl⟩ := map_operand_eq_ok ht
    obtain ⟨y, hy, rfl⟩ := map_operand_eq_ok hu
    exact .placeholder hx hy

/-- Jobs that agree on the field of a placeholder make the same of it. -/
theorem resolveToken_congr {a b : Record} {w : Token Operand}
    (h : ∀ name, w = .operand (.placeholder name) →
      a.find? (fieldName name) = b.find? (fieldName name)) :
    resolveToken a w = resolveToken b w := by
  match w with
  | .symbol s => rfl
  | .operand (.literal run) => rfl
  | .operand (.placeholder name) =>
    have agree := h name rfl
    unfold fieldName at agree
    simp only [resolveToken, resolveName, agree]

/-! ## Token lists -/

theorem mapM_congr {α β ε : Type} {f g : α → Except ε β} {xs : List α}
    (h : ∀ x ∈ xs, f x = g x) : xs.mapM f = xs.mapM g := by
  induction xs with
  | nil => rfl
  | cons x xs ih =>
    have rest := ih fun y hy => h y (List.mem_cons_of_mem x hy)
    rw [List.mapM_cons, List.mapM_cons, h x List.mem_cons_self, rest]

/-- The tokens of a formula are the scanned ones, each resolved. -/
theorem resolved_of_tokenize {formula : String} {job : Record} {ts : List (Token Float)}
    (h : tokenize formula job = .ok ts) :
    List.Forall₂ (fun w t => resolveToken job w = .ok t) (scan formula).tokens ts := by
  unfold tokenize at h
  cases hresolved : (scan formula).tokens.mapM (resolveToken job) with
  | error fault => simp [hresolved, bind, Except.bind] at h
  | ok us =>
    have same : us = ts := by
      cases hfault : (scan formula).fault with
      | none => simpa [hresolved, hfault, bind, Except.bind] using h
      | some fault => simp [hresolved, hfault, bind, Except.bind] at h
    exact same ▸ Outcome.mapM_eq_ok_iff.mp hresolved

theorem eq_relabel_of_resolved {job : Record} {ws : List (Token Operand)} {ts : List (Token Float)}
    (h : List.Forall₂ (fun w t => resolveToken job w = .ok t) ws ts) :
    ts = ws.map (Token.relabel (Operand.number job)) := by
  induction h with
  | nil => rfl
  | cons hw _ ih => rw [List.map_cons, resolveToken_eq_ok hw, ih]

theorem madeOf_of_tokenize {formula : String} {a b : Record} {ts us : List (Token Float)}
    (ha : tokenize formula a = .ok ts) (hb : tokenize formula b = .ok us) {i : Nat}
    {t u : Token Float} (ht : ts[i]? = some t) (hu : us[i]? = some u) :
    ∃ w, (scan formula).tokens[i]? = some w ∧ MadeOf a b w t u := by
  have left := List.forall₂_iff_get.mp (resolved_of_tokenize ha)
  have right := List.forall₂_iff_get.mp (resolved_of_tokenize hb)
  obtain ⟨hi, rfl⟩ := List.getElem?_eq_some_iff.mp ht
  obtain ⟨hi', rfl⟩ := List.getElem?_eq_some_iff.mp hu
  have hw : i < (scan formula).tokens.length := left.1 ▸ hi
  exact ⟨_, List.getElem?_eq_getElem hw,
    madeOf_of_resolveToken (left.2 i hw hi) (right.2 i hw hi')⟩

theorem tokenize_congr {formula : String} {a b : Record}
    (h : ∀ name ∈ fieldNames formula, a.find? name = b.find? name) :
    tokenize formula a = tokenize formula b := by
  have resolved : (scan formula).tokens.mapM (resolveToken a) =
      (scan formula).tokens.mapM (resolveToken b) := by
    refine mapM_congr fun w hw => resolveToken_congr fun name hname => ?_
    exact h _ (List.mem_filterMap.mpr ⟨w, hw, by rw [hname]⟩)
  simp only [tokenize, resolved]

/-! ## Outcomes -/

/-- A tree without its numbers. -/
def Expr.shape (e : Expr Float) : Expr Unit :=
  e.relabel fun _ => ()

/-- The outcome of a formula whose tokens are the tree `e`: its value, or that it is not finite. -/
def IsValueOf (e : Expr Float) (outcome : Except FormulaError Float) : Prop :=
  outcome = .ok e.value ∨ outcome = .error .nonFinite

/-- How two jobs may come out, whose tokens are `ts` and `us`. -/
inductive EndAlike (ts us : List (Token Float)) :
    Except FormulaError Float → Except FormulaError Float → Prop
  /-- Both get past the parser, with trees that differ in their numbers only. -/
  | computed {d e : Expr Float} {r s : Except FormulaError Float} (left : parse ts = .ok d)
      (right : parse us = .ok e) (shape : d.shape = e.shape) (hr : IsValueOf d r)
      (hs : IsValueOf e s) : EndAlike ts us r s
  /-- Both are refused for the token at the same place. -/
  | unexpectedToken {i : Nat} {t u : Token Float} (left : refusedAt? maxNesting ts = some i)
      (right : refusedAt? maxNesting us = some i) (ht : ts[i]? = some t) (hu : us[i]? = some u) :
      EndAlike ts us (.error (.unexpectedToken t)) (.error (.unexpectedToken u))
  | unexpectedEnd : EndAlike ts us (.error .unexpectedEnd) (.error .unexpectedEnd)
  | tooDeep : EndAlike ts us (.error .tooDeep) (.error .tooDeep)

theorem isValueOf_finiteValue (e : Expr Float) : IsValueOf e (finiteValue e) := by
  unfold finiteValue
  split
  · exact .inl rfl
  · exact .inr rfl

theorem Expr.shape_relabel (f g : Operand → Float) (e : Expr Operand) :
    (e.relabel f).shape = (e.relabel g).shape := by
  unfold Expr.shape
  rw [Expr.relabel_relabel, Expr.relabel_relabel]
  rfl

/-- The same tokens with other operands come out alike. -/
theorem endAlike_relabel (f g : Operand → Float) (ws : List (Token Operand)) :
    EndAlike (ws.map (Token.relabel f)) (ws.map (Token.relabel g))
      (evaluateTokens (ws.map (Token.relabel f))) (evaluateTokens (ws.map (Token.relabel g))) := by
  have parsed : ∀ f : Operand → Float,
      parse (ws.map (Token.relabel f)) = relabelResult f (parse ws) :=
    fun f => parseWithin_relabel f maxNesting ws
  unfold evaluateTokens
  rw [parsed f, parsed g]
  cases hparse : parse ws with
  | ok e =>
    have read : ∀ f : Operand → Float, parse (ws.map (Token.relabel f)) = .ok (e.relabel f) := by
      intro f
      rw [parsed, hparse, relabelResult]
    exact .computed (read f) (read g) (e.shape_relabel f g) (isValueOf_finiteValue _)
      (isValueOf_finiteValue _)
  | error reason =>
    cases reason with
    | unexpectedToken t =>
      obtain ⟨i, hi, ht⟩ := refusedAt?_of_parseWithin hparse
      exact .unexpectedToken ((refusedAt?_relabel f _ _).trans hi)
        ((refusedAt?_relabel g _ _).trans hi) (by simp [ht]) (by simp [ht])
    | unexpectedEnd => exact .unexpectedEnd
    | tooDeep => exact .tooDeep

theorem evaluate_of_tokenize {formula : String} {job : Record} {ts : List (Token Float)}
    (h : tokenize formula job = .ok ts) : evaluate formula job = evaluateTokens ts := by
  unfold evaluate
  rw [h]
  rfl

/-- **Values do not change the structure of a formula.** Where two jobs have a number for every
operand, their token lists are equally long, differ at most in the numbers of placeholders, and come
out alike: both get past the parser with the same tree but for its numbers, or both are refused for
the same reason, and at the same token if it is one that was not expected. And jobs that agree on
the fields that the formula names have the same outcome. -/
theorem evaluate_structure (formula : String) (a b : Record) :
    (∀ ts us : List (Token Float), tokenize formula a = .ok ts → tokenize formula b = .ok us →
      ts.length = us.length ∧
      (∀ (i : Nat) (t u : Token Float), ts[i]? = some t → us[i]? = some u →
        ∃ w, (scan formula).tokens[i]? = some w ∧ MadeOf a b w t u) ∧
      EndAlike ts us (evaluate formula a) (evaluate formula b)) ∧
    ((∀ name ∈ fieldNames formula, a.find? name = b.find? name) →
      evaluate formula a = evaluate formula b) := by
  constructor
  · intro ts us ha hb
    have left := eq_relabel_of_resolved (resolved_of_tokenize ha)
    have right := eq_relabel_of_resolved (resolved_of_tokenize hb)
    refine ⟨by simp [left, right], fun i t u => madeOf_of_tokenize ha hb, ?_⟩
    rw [evaluate_of_tokenize ha, evaluate_of_tokenize hb, left, right]
    exact endAlike_relabel _ _ _
  · intro agree
    unfold evaluate
    rw [tokenize_congr agree]

/-- A signed number written as text and an integer are one token each, so the superfluous
parenthesis is refused at the same place. A note that the formula does not name makes no
difference. -/
theorem evaluate_structure_of_signed_text :
    tokenize "2 * \x7bn\x7d )" (.ofMembers [("n", .str "-3")]) =
      .ok [.operand 2, .symbol .times, .operand (-3), .symbol .closing] ∧
    tokenize "2 * \x7bn\x7d )" (.ofMembers [("n", .int 4)]) =
      .ok [.operand 2, .symbol .times, .operand 4, .symbol .closing] ∧
    (∃ w, (scan "2 * \x7bn\x7d )").tokens[2]? = some w ∧
      MadeOf (.ofMembers [("n", .str "-3")]) (.ofMembers [("n", .int 4)]) w (.operand (-3))
        (.operand 4)) ∧
    EndAlike [.operand 2, .symbol .times, .operand (-3), .symbol .closing]
      [.operand 2, .symbol .times, .operand 4, .symbol .closing]
      (evaluate "2 * \x7bn\x7d )" (.ofMembers [("n", .str "-3")]))
      (evaluate "2 * \x7bn\x7d )" (.ofMembers [("n", .int 4)])) ∧
    evaluate "2 * \x7bn\x7d )" (.ofMembers [("n", .str "-3"), ("note", .str "(")]) =
      evaluate "2 * \x7bn\x7d )" (.ofMembers [("n", .str "-3")]) := by
  have left : tokenize "2 * \x7bn\x7d )" (.ofMembers [("n", .str "-3")]) =
      .ok [.operand 2, .symbol .times, .operand (-3), .symbol .closing] := by
    decide +kernel
  have right : tokenize "2 * \x7bn\x7d )" (.ofMembers [("n", .int 4)]) =
      .ok [.operand 2, .symbol .times, .operand 4, .symbol .closing] := by
    decide +kernel
  have named : fieldNames "2 * \x7bn\x7d )" = ["n"] := by
    decide +kernel
  obtain ⟨-, same, alike⟩ := (evaluate_structure _ _ _).1 _ _ left right
  refine ⟨left, right, same 2 _ _ rfl rfl, alike, (evaluate_structure _ _ _).2 fun name hname => ?_⟩
  rw [named] at hname
  obtain rfl := List.mem_singleton.mp hname
  rfl

end ReportRules.Formula
