import ReportRules.Proofs.Condition.Reading
import ReportRules.Proofs.Formula.Lexemes
import ReportRules.Proofs.Formula.Substitution

/-!
# ReportRules.Proofs.Formula.Leftmost -- a formula's text gives its tokens or its leftmost fault

Each lexeme of a formula gives one token (`Gives`), unless it is a number that is not well written
or a placeholder whose field holds no finite number (`Misses`). What a text can be refused for at a
place is such a lexeme, or that no lexeme begins there (`Offends`).

Scanning and resolving are two passes over the text, and a fault of scanning is reported after those
of operands. That is still the leftmost fault, since the scanner stops where it finds one.
-/

namespace ReportRules.Formula

open Decimal (Numeral)
open Text (isFigure)

/-! ## Operands -/

/-- The number that a value contributes: that of a number, or of a text that is not blank and writes
a numeral. It has to be finite. -/
inductive Contributes : Json → Float → Prop
  | number {n : Number} (finite : n.toFloat.isFinite = true) : Contributes (.num n) n.toFloat
  | text {s : String} {n : Numeral} (visible : Text.isBlankText s = false)
      (writes : Numeral.Writes (Text.trimChars s.toList) n) (finite : n.toFloat.isFinite = true) :
      Contributes (.str s) n.toFloat

/-- The token that a lexeme gives on a job. -/
inductive Gives (job : Record) : Token Operand → Token Float → Prop
  | symbol (s : Symbol) : Gives job (.symbol s) (.symbol s)
  | literal {run : List Char} {n : Numeral} (writes : Numeral.Writes run n) :
      Gives job (.operand (.literal run)) (.operand n.toFloat)
  | placeholder {name : List Char} {v : Json} {x : Float}
      (found : job.find? (fieldName name) = some v) (contributes : Contributes v x) :
      Gives job (.operand (.placeholder name)) (.operand x)

/-- Why a lexeme gives no token on a job. -/
inductive Misses (job : Record) : Token Operand → FormulaError → Prop
  | invalidNumber {run : List Char}
      (h : (∀ c ∈ run, isFigure c = false) ∨ 1 < run.count '.') :
      Misses job (.operand (.literal run)) (.invalidNumber (String.ofList run))
  | unresolved {name : List Char} (absent : job.find? (fieldName name) = none) :
      Misses job (.operand (.placeholder name)) (.unresolvedPlaceholder (fieldName name))
  | nonNumeric {name : List Char} {v : Json} (found : job.find? (fieldName name) = some v)
      (nothing : ∀ x, ¬ Contributes v x) :
      Misses job (.operand (.placeholder name)) (.nonNumericPlaceholder (fieldName name))

/-- What a text that stands at an offset is refused for where it begins. -/
inductive Offends (job : Record) (offset : Nat) : List Char → FormulaError → Prop
  | lexeme {w : Token Operand} {rest : List Char} {e : FormulaError} (h : IsLexeme w rest)
      (misses : Misses job w e) : Offends job offset (w.chars ++ rest) e
  | fault {rest : List Char} {f : ScanFault} (h : FaultAt offset rest f) :
      Offends job offset rest (.ofScan f)

/-- Figures and points are a numeral if there are figures and at most one point. -/
theorem exists_writes_iff {run : List Char} (inside : ∀ c ∈ run, isLiteralChar c = true) :
    (∃ n, Numeral.Writes run n) ↔ (∃ c ∈ run, isFigure c = true) ∧ run.count '.' ≤ 1 := by
  have noPoint : ∀ {cs : List Char}, (∀ c ∈ cs, isFigure c = true) → cs.count '.' = 0 := by
    intro cs figures
    exact List.count_eq_zero.mpr fun h => absurd (figures '.' h) (by decide)
  have figures : ∀ {cs : List Char}, (∀ c ∈ cs, isLiteralChar c = true) → '.' ∉ cs →
      ∀ c ∈ cs, isFigure c = true := by
    intro cs literal none c hc
    exact (isLiteralChar_iff.mp (literal c hc)).resolve_right fun h => none (h ▸ hc)
  constructor
  · rintro ⟨n, writes⟩
    cases writes with
    | @numeral sign mantissa exponent before after negative power hsign hmantissa hexponent =>
      -- signs and marks of exponents are other characters, so there is a mantissa only
      have noSign : sign = [] := by
        cases hsign with
        | none => rfl
        | plus | minus => exact absurd (inside _ (List.mem_append_left _ (.head _))) (by decide)
      have noExponent : exponent = [] := by
        cases hexponent with
        | none => rfl
        | some hmark _ _ _ =>
          have marked := inside _ (List.mem_append_right _ (List.mem_append_right _ (.head _)))
          rcases hmark with rfl | rfl <;> exact absurd marked (by decide)
      subst noSign noExponent
      rw [List.nil_append, List.append_nil]
      cases hmantissa with
      | whole figures present =>
        obtain ⟨c, hc⟩ := List.exists_mem_of_ne_nil _ present
        exact ⟨⟨c, hc, figures c hc⟩, by rw [noPoint figures]; exact Nat.zero_le 1⟩
      | pointed left right present =>
        refine ⟨?_, ?_⟩
        · rcases present with present | present
          · obtain ⟨c, hc⟩ := List.exists_mem_of_ne_nil _ present
            exact ⟨c, List.mem_append_left _ hc, left c hc⟩
          · obtain ⟨c, hc⟩ := List.exists_mem_of_ne_nil _ present
            exact ⟨c, List.mem_append_right _ (List.mem_cons_of_mem _ hc), right c hc⟩
        · rw [List.count_append, List.count_cons_self, noPoint left, noPoint right]
  · rintro ⟨⟨c, hc, figure⟩, hcount⟩
    by_cases point : '.' ∈ run
    · obtain ⟨before, after, rfl, hbefore⟩ := List.eq_append_cons_of_mem point
      have hafter : '.' ∉ after := by
        rw [List.count_append, List.count_cons_self] at hcount
        exact List.count_eq_zero.mp (by omega)
      have left := figures (fun c hc => inside c (List.mem_append_left _ hc)) hbefore
      have right := figures
        (fun c hc => inside c (List.mem_append_right _ (List.mem_cons_of_mem _ hc))) hafter
      have present : before ≠ [] ∨ after ≠ [] := by
        rcases List.mem_append.mp hc with hc | hc
        · exact .inl (List.ne_nil_of_mem hc)
        rcases List.mem_cons.mp hc with rfl | hc
        · exact absurd figure (by decide)
        · exact .inr (List.ne_nil_of_mem hc)
      have writes := Numeral.Writes.numeral .none (.pointed left right present) .none
      exact ⟨_, by simpa using writes⟩
    · have writes := Numeral.Writes.numeral .none
        (.whole (figures inside point) (List.ne_nil_of_mem hc)) .none
      exact ⟨_, by simpa using writes⟩

theorem contribution?_eq_some_iff {v : Json} {x : Float} :
    contribution? v = some x ↔ Contributes v x := by
  unfold contribution?
  rw [Option.filter_eq_some_iff]
  constructor
  · rintro ⟨reading, finite⟩
    cases v with
    | num n =>
      obtain rfl := Option.some.inj reading
      exact .number finite
    | str s =>
      cases visible : Text.isBlankText s with
      | true => simp [visible] at reading
      | false =>
        simp only [visible] at reading
        obtain ⟨n, writes, rfl⟩ := (Json.textReading?_eq_some_iff visible).mp reading
        exact .text visible writes finite
    | null | bool b | arr items | obj members => cases reading
  · intro h
    cases h with
    | number finite => exact ⟨rfl, finite⟩
    | @text s n visible writes finite =>
      refine ⟨?_, finite⟩
      simp only [visible]
      exact (Json.textReading?_eq_some_iff visible).mpr ⟨n, writes, rfl⟩

theorem resolveLiteral_eq_ok_iff {run : List Char} {x : Float} :
    resolveLiteral run = .ok x ↔ ∃ n, Numeral.Writes run n ∧ n.toFloat = x := by
  simp only [← Numeral.read?_eq_some_iff]
  unfold resolveLiteral
  cases Numeral.read? run <;> simp

theorem resolveLiteral_eq_error_iff {run : List Char} {e : FormulaError} :
    resolveLiteral run = .error e ↔
      (¬ ∃ n, Numeral.Writes run n) ∧ e = .invalidNumber (String.ofList run) := by
  simp only [← Numeral.read?_eq_some_iff]
  unfold resolveLiteral
  cases Numeral.read? run <;> simp [eq_comm]

theorem resolveName_eq_ok_iff {job : Record} {name : String} {x : Float} :
    resolveName job name = .ok x ↔ ∃ v, job.find? name = some v ∧ Contributes v x := by
  simp only [← contribution?_eq_some_iff]
  unfold resolveName
  cases job.find? name with
  | none => simp
  | some v => cases hv : contribution? v <;> simp [hv]

theorem resolveName_eq_error_iff {job : Record} {name : String} {e : FormulaError} :
    resolveName job name = .error e ↔
      (job.find? name = none ∧ e = .unresolvedPlaceholder name) ∨
        ∃ v, job.find? name = some v ∧ (∀ x, ¬ Contributes v x) ∧
          e = .nonNumericPlaceholder name := by
  simp only [← contribution?_eq_some_iff]
  unfold resolveName
  cases job.find? name with
  | none => simp [eq_comm]
  | some v => cases hv : contribution? v <;> simp [hv, eq_comm]

theorem resolveToken_eq_ok_iff {job : Record} {w : Token Operand} {t : Token Float} :
    resolveToken job w = .ok t ↔ Gives job w t := by
  constructor
  · intro h
    match w with
    | .symbol s =>
      cases h
      exact .symbol s
    | .operand (.literal run) =>
      obtain ⟨x, hx, rfl⟩ := Outcome.map_eq_ok_iff.mp h
      obtain ⟨n, writes, rfl⟩ := resolveLiteral_eq_ok_iff.mp hx
      exact .literal writes
    | .operand (.placeholder name) =>
      obtain ⟨x, hx, rfl⟩ := Outcome.map_eq_ok_iff.mp h
      obtain ⟨v, found, contributes⟩ := resolveName_eq_ok_iff.mp hx
      exact .placeholder found contributes
  · intro h
    cases h with
    | symbol s => rfl
    | literal writes =>
      exact Outcome.map_eq_ok_iff.mpr ⟨_, resolveLiteral_eq_ok_iff.mpr ⟨_, writes, rfl⟩, rfl⟩
    | placeholder found contributes =>
      exact Outcome.map_eq_ok_iff.mpr ⟨_, resolveName_eq_ok_iff.mpr ⟨_, found, contributes⟩, rfl⟩

/-- Of figures and points that are no numeral, either there are no figures or too many points. -/
theorem invalid_iff {run : List Char} (inside : ∀ c ∈ run, isLiteralChar c = true) :
    (¬ ∃ n, Numeral.Writes run n) ↔ (∀ c ∈ run, isFigure c = false) ∨ 1 < run.count '.' := by
  rw [exists_writes_iff inside, not_and_or, Nat.not_le]
  simp only [not_exists, not_and, Bool.not_eq_true]

theorem resolveToken_eq_error_iff {job : Record} {w : Token Operand} {rest : List Char}
    (lexeme : IsLexeme w rest) {e : FormulaError} :
    resolveToken job w = .error e ↔ Misses job w e := by
  cases lexeme with
  | symbol s =>
    constructor
    · intro h
      cases h
    · intro h
      cases h
  | @literal run _ inside present ends =>
    rw [resolveToken, Outcome.map_eq_error_iff, resolveLiteral_eq_error_iff, invalid_iff inside]
    constructor
    · rintro ⟨h, rfl⟩
      exact .invalidNumber h
    · intro h
      cases h with
      | invalidNumber h => exact ⟨h, rfl⟩
  | @placeholder name _ inside =>
    rw [resolveToken, Outcome.map_eq_error_iff, resolveName_eq_error_iff]
    constructor
    · rintro (⟨absent, rfl⟩ | ⟨v, found, nothing, rfl⟩)
      · exact .unresolved absent
      · exact .nonNumeric found nothing
    · intro h
      cases h with
      | unresolved absent => exact .inl ⟨absent, rfl⟩
      | nonNumeric found nothing => exact .inr ⟨_, found, nothing, rfl⟩

/-! ## Texts -/

theorem resolved_iff {job : Record} {ws : List (Token Operand)} {ts : List (Token Float)} :
    ws.mapM (resolveToken job) = .ok ts ↔ List.Forall₂ (Gives job) ws ts := by
  rw [Outcome.mapM_eq_ok_iff]
  simp only [resolveToken_eq_ok_iff]

theorem tokenize_eq_ok_iff {formula : String} {job : Record} {ts : List (Token Float)} :
    tokenize formula job = .ok ts ↔
      List.Forall₂ (Gives job) (scan formula).tokens ts ∧ (scan formula).fault = none := by
  rw [← resolved_iff]
  unfold tokenize
  cases hresolved : (scan formula).tokens.mapM (resolveToken job) <;>
    cases hfault : (scan formula).fault <;> simp [hresolved, hfault, bind, Except.bind]

theorem tokenize_eq_error_iff {formula : String} {job : Record} {e : FormulaError} :
    tokenize formula job = .error e ↔
      (scan formula).tokens.mapM (resolveToken job) = .error e ∨
        ∃ ts fault, List.Forall₂ (Gives job) (scan formula).tokens ts ∧
          (scan formula).fault = some fault ∧ e = .ofScan fault := by
  simp only [← resolved_iff]
  unfold tokenize
  cases hresolved : (scan formula).tokens.mapM (resolveToken job) <;>
    cases hfault : (scan formula).fault <;> simp [hresolved, hfault, bind, Except.bind, eq_comm]

/-- A text is tokenized exactly when it is cut to its end and every lexeme gives a token. -/
theorem tokenize_ok_iff_cut {formula : String} {job : Record} {ts : List (Token Float)} :
    tokenize formula job = .ok ts ↔
      ∃ ws, Cut formula.toList ws [] ∧ List.Forall₂ (Gives job) ws ts := by
  rw [tokenize_eq_ok_iff]
  constructor
  · rintro ⟨gives, none⟩
    obtain ⟨front, rest, -, cut, ⟨rfl, -⟩ | ⟨fault, -, some⟩⟩ := cut_scanFrom 0 formula.toList
    · exact ⟨_, cut, gives⟩
    · exact absurd (none.symm.trans some) nofun
  · rintro ⟨ws, cut, gives⟩
    obtain ⟨front, -, scanned⟩ := scanFrom_of_cut cut
    have whole : scan formula = ⟨ws, none⟩ := by
      rw [scan, scanned, scanFrom_nil, List.append_nil]
    rw [whole]
    exact ⟨gives, rfl⟩

/-- The bytes in front of a place are counted as they are in a text. -/
theorem byteCount_eq_utf8ByteSize (cs : List Char) :
    byteCount cs = (String.ofList cs).utf8ByteSize := by
  induction cs with
  | nil => rfl
  | cons c cs ih =>
    rw [← List.singleton_append, String.ofList_append, String.utf8ByteSize_append, ← ih,
      byteCount_append, ← String.singleton_eq_ofList, String.utf8ByteSize_singleton]
    rfl

/-- What tokenizing reports is what the text is refused for behind lexemes that all give tokens. -/
theorem tokenize_error_iff_offends {formula : String} {job : Record} {e : FormulaError} :
    tokenize formula job = .error e ↔
      ∃ front rest ws ts, formula.toList = front ++ rest ∧ Cut (front ++ rest) ws rest ∧
        List.Forall₂ (Gives job) ws ts ∧ Offends job (String.ofList front).utf8ByteSize rest e := by
  rw [tokenize_eq_error_iff]
  constructor
  · obtain ⟨front, rest, hformula, cut, stops⟩ := cut_scanFrom 0 formula.toList
    rintro (unresolved | ⟨ts, fault, gives, hfault, rfl⟩)
    · -- the lexeme that gives no token may have others behind it
      obtain ⟨before, w, after, ts, hws, gives, misses⟩ := Outcome.mapM_eq_error_iff.mp unresolved
      change Cut formula.toList (scan formula).tokens rest at cut
      rw [hws] at cut
      obtain ⟨more, cutBefore, lexeme⟩ := cut.split
      obtain ⟨front, hfront, -⟩ := scanFrom_of_cut cutBefore
      have given := gives.imp fun _ _ => resolveToken_eq_ok_iff.mp
      exact ⟨front, w.chars ++ more, before, ts, hfront, hfront ▸ cutBefore, given,
        .lexeme lexeme ((resolveToken_eq_error_iff lexeme).mp misses)⟩
    · rcases stops with ⟨-, none⟩ | ⟨found, h, some⟩
      · exact absurd (none.symm.trans hfault) nofun
      · obtain rfl : found = fault := Option.some.inj (some.symm.trans hfault)
        rw [Nat.zero_add, byteCount_eq_utf8ByteSize] at h
        exact ⟨front, rest, _, ts, hformula, hformula ▸ cut, gives, .fault h⟩
  · rintro ⟨front, rest, ws, ts, hformula, cut, gives, offends⟩
    obtain ⟨front', hfront, scanned⟩ := scanFrom_of_cut cut
    obtain rfl : front = front' := List.append_cancel_right hfront
    have scannedAll : scan formula = ⟨ws ++ (scanFrom (byteCount front) rest).tokens,
        (scanFrom (byteCount front) rest).fault⟩ := by
      rw [scan, hformula, scanned, Nat.zero_add]
    cases offends with
    | @lexeme w more e lexeme misses =>
      have hws : (scan formula).tokens =
          ws ++ w :: (scanFrom (byteCount front + byteCount w.chars) more).tokens := by
        rw [scannedAll, scanFrom_lexeme lexeme]
        rfl
      have resolved := gives.imp fun _ _ => resolveToken_eq_ok_iff.mpr
      have unresolved := (resolveToken_eq_error_iff lexeme).mpr misses
      exact .inl (Outcome.mapM_eq_error_iff.mpr ⟨ws, w, _, ts, hws, resolved, unresolved⟩)
    | fault h =>
      rw [← byteCount_eq_utf8ByteSize] at h
      rw [scannedAll, scanFrom_fault h]
      exact .inr ⟨ts, _, by rwa [List.append_nil], rfl, rfl⟩

/-- **A formula's text gives one token per lexeme or its leftmost fault.** Tokenizing succeeds
exactly when the whole text is cut into lexemes, with white space between them, and each lexeme
gives a token on the job; the tokens are then these, in the order of the text. It reports an error
exactly when the text can be cut up to some place, every lexeme up to there gives a token, and the
error is what the text is refused for at that place: a number without figures or with two points, a
placeholder without a finite number, a name that is not closed, or a character that begins nothing,
each of the last two with the number of bytes in front of it. Evaluating the formula reports this
error, whatever the tokens in front of it are. -/
theorem tokenize_leftmost (formula : String) (job : Record) :
    (∀ ts, tokenize formula job = .ok ts ↔
      ∃ ws, Cut formula.toList ws [] ∧ List.Forall₂ (Gives job) ws ts) ∧
    (∀ e, tokenize formula job = .error e ↔
      ∃ front rest ws ts, formula.toList = front ++ rest ∧ Cut (front ++ rest) ws rest ∧
        List.Forall₂ (Gives job) ws ts ∧ Offends job (String.ofList front).utf8ByteSize rest e) ∧
    ∀ e, tokenize formula job = .error e → evaluate formula job = .error e := by
  refine ⟨fun ts => tokenize_ok_iff_cut, fun e => tokenize_error_iff_offends, fun e h => ?_⟩
  unfold evaluate
  rw [h]
  rfl

end ReportRules.Formula
