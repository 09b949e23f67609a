import Mathlib.Data.List.TakeWhile
import ReportRules.Formula.Scan
import ReportRules.Proofs.Text.Figures
import ReportRules.Proofs.Text.Runs

/-!
# ReportRules.Proofs.Formula.Lexemes -- how a formula's text is cut

A lexeme is a symbol, a run of figures and points that is as long as it can be, or a name between
braces that ends at the first closing one (`IsLexeme`). A text is cut into lexemes from the left,
with white space dropped between them (`Cut`). Where no lexeme and no white space begins, there is a
fault (`FaultAt`).

Every text begins with one of these (`begins`), and scanning does with each what it should. So
scanning cuts a text as far as it can be cut, and every way of cutting is a part of that.
-/

namespace ReportRules.Formula

open Text (Ends isBlank isFigure)

/-! ## Lexemes -/

/-- A token as it is written. -/
def Token.chars : Token Operand → List Char
  | .symbol s => [s.char]
  | .operand (.literal run) => run
  | .operand (.placeholder name) => nameOpening :: (name ++ [nameClosing])

/-- A token is a whole lexeme, given the text behind it. -/
inductive IsLexeme : Token Operand → List Char → Prop
  | symbol (s : Symbol) (rest : List Char) : IsLexeme (.symbol s) rest
  | literal {run rest : List Char} (inside : ∀ c ∈ run, isLiteralChar c = true) (present : run ≠ [])
      (ends : Ends isLiteralChar rest) : IsLexeme (.operand (.literal run)) rest
  | placeholder {name : List Char} (rest : List Char) (inside : nameClosing ∉ name) :
      IsLexeme (.operand (.placeholder name)) rest

/-- A text begins with lexemes and white space between them, and goes on with `rest`. -/
inductive Cut : List Char → List (Token Operand) → List Char → Prop
  | nothing (rest : List Char) : Cut rest [] rest
  | blank {c : Char} {text rest : List Char} {ws : List (Token Operand)} (h : isBlank c = true)
      (more : Cut text ws rest) : Cut (c :: text) ws rest
  | lexeme {w : Token Operand} {text rest : List Char} {ws : List (Token Operand)}
      (h : IsLexeme w text) (more : Cut text ws rest) : Cut (w.chars ++ text) (w :: ws) rest

/-- The fault with which a text begins that stands at an offset. -/
inductive FaultAt (offset : Nat) : List Char → ScanFault → Prop
  | unterminated {more : List Char} (h : nameClosing ∉ more) :
      FaultAt offset (nameOpening :: more) (.unterminated offset)
  | unexpected {c : Char} {more : List Char} (blank : isBlank c = false)
      (symbol : ∀ s : Symbol, s.char ≠ c) (brace : c ≠ nameOpening)
      (literal : isLiteralChar c = false) : FaultAt offset (c :: more) (.unexpected c offset)

/-! ## Characters -/

theorem Symbol.ofChar?_eq_some_iff {c : Char} {s : Symbol} :
    Symbol.ofChar? c = some s ↔ s.char = c := by
  constructor
  · intro h
    simpa using List.find?_some h
  · rintro rfl
    cases s <;> rfl

theorem Symbol.ofChar?_eq_none_iff {c : Char} :
    Symbol.ofChar? c = none ↔ ∀ s : Symbol, s.char ≠ c := by
  rw [Option.eq_none_iff_forall_ne_some]
  exact forall_congr' fun s => not_congr Symbol.ofChar?_eq_some_iff

theorem isBlank_symbol (s : Symbol) : isBlank s.char = false := by
  cases s <;> decide

theorem isLiteralChar_iff {c : Char} :
    isLiteralChar c = true ↔ isFigure c = true ∨ c = '.' := by
  simp [isLiteralChar]

theorem isBlank_of_isLiteralChar {c : Char} (h : isLiteralChar c = true) : isBlank c = false := by
  rcases isLiteralChar_iff.mp h with h | rfl
  · have range := Text.isFigure_iff_toNat.mp h
    simp only [isBlank, Bool.or_eq_false_iff, Bool.and_eq_false_iff, decide_eq_false_iff_not,
      beq_eq_false_iff_ne]
    omega
  · decide

/-- The characters of number literals begin nothing else. -/
theorem ofChar?_of_isLiteralChar {c : Char} (h : isLiteralChar c = true) :
    Symbol.ofChar? c = none := by
  rw [Symbol.ofChar?_eq_none_iff]
  rintro s rfl
  cases s <;> exact absurd h (by decide)

theorem ne_nameOpening_of_isLiteralChar {c : Char} (h : isLiteralChar c = true) :
    c ≠ nameOpening := by
  rintro rfl
  exact absurd h (by decide)

theorem isNameChar_of_not_mem {name : List Char} (h : nameClosing ∉ name) :
    ∀ c ∈ name, isNameChar c = true := by
  intro c hc
  simp only [isNameChar, bne_iff_ne]
  rintro rfl
  exact h hc

/-! ## Scanning what a text begins with -/

theorem byteCount_append (cs ds : List Char) :
    byteCount (cs ++ ds) = byteCount cs + byteCount ds := by
  induction cs with
  | nil => exact (Nat.zero_add _).symm
  | cons c cs ih =>
    change c.utf8Size + byteCount (cs ++ ds) = c.utf8Size + byteCount cs + byteCount ds
    rw [ih, Nat.add_assoc]

theorem scanFrom_nil (offset : Nat) : scanFrom offset [] = ⟨[], none⟩ := by
  -- the equation of the whole definition is at hand, those of its cases take seconds to make
  rw [scanFrom.eq_def]

theorem scanFrom_blank {c : Char} (h : isBlank c = true) (offset : Nat) (rest : List Char) :
    scanFrom offset (c :: rest) = scanFrom (offset + c.utf8Size) rest := by
  rw [scanFrom.eq_def]
  simp only [if_pos h]

theorem scanFrom_symbol (s : Symbol) (offset : Nat) (rest : List Char) :
    scanFrom offset (s.char :: rest) =
      (scanFrom (offset + s.char.utf8Size) rest).cons (.symbol s) := by
  have hs : Symbol.ofChar? s.char = some s := Symbol.ofChar?_eq_some_iff.mpr rfl
  have visible : ¬ isBlank s.char = true := by simp [isBlank_symbol]
  rw [scanFrom.eq_def]
  simp only [if_neg visible, hs]

theorem scanFrom_literal {c : Char} (h : isLiteralChar c = true) (offset : Nat) (rest : List Char) :
    scanFrom offset (c :: rest) =
      (scanFrom (offset + byteCount (c :: rest.takeWhile isLiteralChar))
        (rest.dropWhile isLiteralChar)).cons
          (.operand (.literal (c :: rest.takeWhile isLiteralChar))) := by
  have visible : ¬ isBlank c = true := by simp [isBlank_of_isLiteralChar h]
  rw [scanFrom.eq_def]
  simp only [if_neg visible, ofChar?_of_isLiteralChar h, if_neg (ne_nameOpening_of_isLiteralChar h),
    if_pos h]

theorem scanFrom_nameOpening (offset : Nat) (rest : List Char) :
    scanFrom offset (nameOpening :: rest) =
      match rest.dropWhile isNameChar with
      | [] => ⟨[], some (.unterminated offset)⟩
      | closing :: more =>
        (scanFrom (offset + byteCount (nameOpening :: rest.takeWhile isNameChar ++ [closing]))
          more).cons (.operand (.placeholder (rest.takeWhile isNameChar))) := by
  have visible : ¬ isBlank nameOpening = true := by decide
  have other : Symbol.ofChar? nameOpening = none := by decide
  rw [scanFrom.eq_def]
  simp only [if_neg visible, other, if_true]
  split <;> rename_i hdrop <;> simp only [hdrop]

theorem scanFrom_lexeme {w : Token Operand} {rest : List Char} (h : IsLexeme w rest)
    (offset : Nat) :
    scanFrom offset (w.chars ++ rest) = (scanFrom (offset + byteCount w.chars) rest).cons w := by
  cases h with
  | symbol s rest => exact scanFrom_symbol s offset rest
  | @literal run _ inside present ends =>
    obtain ⟨c, others, rfl⟩ := List.exists_cons_of_ne_nil present
    have within : ∀ d ∈ others, isLiteralChar d = true :=
      fun d hd => inside d (List.mem_cons_of_mem c hd)
    change scanFrom offset (c :: (others ++ rest)) = _
    rw [scanFrom_literal (inside c List.mem_cons_self), Text.takeWhile_run within ends,
      Text.dropWhile_run within ends]
    rfl
  | @placeholder name _ inside =>
    have names := isNameChar_of_not_mem inside
    have ends : Ends isNameChar (nameClosing :: rest) := Text.ends_cons (by decide) rest
    change scanFrom offset (nameOpening :: (name ++ [nameClosing] ++ rest)) = _
    rw [List.append_assoc, List.singleton_append, scanFrom_nameOpening,
      Text.takeWhile_run names ends, Text.dropWhile_run names ends]
    rfl

theorem scanFrom_fault {offset : Nat} {text : List Char} {fault : ScanFault}
    (h : FaultAt offset text fault) : scanFrom offset text = ⟨[], some fault⟩ := by
  cases h with
  | @unterminated more h =>
    have open_ : more.dropWhile isNameChar = [] :=
      List.dropWhile_eq_nil_iff.mpr (isNameChar_of_not_mem h)
    rw [scanFrom_nameOpening, open_]
  | @unexpected c more blank symbol brace literal =>
    have visible : ¬ isBlank c = true := by simp [blank]
    rw [scanFrom.eq_def]
    simp only [if_neg visible, Symbol.ofChar?_eq_none_iff.mpr symbol, if_neg brace, literal]
    rfl

/-! ## Cutting a text -/

/-- What a text begins with. -/
theorem begins (offset : Nat) (text : List Char) :
    text = [] ∨ (∃ c rest, text = c :: rest ∧ isBlank c = true) ∨
      (∃ w rest, text = Token.chars w ++ rest ∧ IsLexeme w rest) ∨
      ∃ fault, FaultAt offset text fault := by
  cases text with
  | nil => exact .inl rfl
  | cons c rest =>
    by_cases blank : isBlank c = true
    · exact .inr (.inl ⟨c, rest, rfl, blank⟩)
    refine .inr (.inr ?_)
    by_cases symbol : ∃ s : Symbol, s.char = c
    · obtain ⟨s, rfl⟩ := symbol
      exact .inl ⟨.symbol s, rest, rfl, .symbol s rest⟩
    by_cases brace : c = nameOpening
    · subst brace
      by_cases closed : nameClosing ∈ rest
      · obtain ⟨name, more, rfl, inside⟩ := List.eq_append_cons_of_mem closed
        refine .inl ⟨.operand (.placeholder name), more, ?_, .placeholder more inside⟩
        simp [Token.chars]
      · exact .inr ⟨_, .unterminated closed⟩
    by_cases literal : isLiteralChar c = true
    · refine .inl ⟨.operand (.literal (c :: rest.takeWhile isLiteralChar)),
        rest.dropWhile isLiteralChar, ?_, .literal ?_ (List.cons_ne_nil _ _)
          (Text.ends_dropWhile _ _)⟩
      · simp [Token.chars]
      · intro d hd
        rcases List.mem_cons.mp hd with rfl | hd
        · exact literal
        · exact List.mem_takeWhile_imp hd
    · simp only [Bool.not_eq_true] at blank literal
      exact .inr ⟨_, .unexpected blank (fun s hs => symbol ⟨s, hs⟩) brace literal⟩

theorem chars_ne_nil {w : Token Operand} {rest : List Char} (h : IsLexeme w rest) :
    w.chars ≠ [] := by
  cases h with
  | symbol s rest => exact List.cons_ne_nil _ _
  | literal inside present ends => exact present
  | placeholder rest inside => exact List.cons_ne_nil _ _

/-- Scanning cuts a text up to its end or to the first fault. -/
theorem cut_scanFrom (offset : Nat) (text : List Char) :
    ∃ front rest, text = front ++ rest ∧ Cut text (scanFrom offset text).tokens rest ∧
      (rest = [] ∧ (scanFrom offset text).fault = none ∨
        ∃ fault, FaultAt (offset + byteCount front) rest fault ∧
          (scanFrom offset text).fault = some fault) := by
  induction hlength : text.length using Nat.strong_induction_on generalizing offset text with
  | _ length ih =>
    subst hlength
    rcases begins offset text with rfl | ⟨c, more, rfl, blank⟩ | ⟨w, more, rfl, lexeme⟩ | ⟨fault, h⟩
    · rw [scanFrom_nil]
      exact ⟨[], [], rfl, .nothing [], .inl ⟨rfl, rfl⟩⟩
    · rw [scanFrom_blank blank]
      obtain ⟨front, rest, hmore, cut, stops⟩ :=
        ih more.length (Nat.lt_succ_self _) (offset + c.utf8Size) more rfl
      refine ⟨c :: front, rest, congrArg (c :: ·) hmore, .blank blank cut, ?_⟩
      rwa [Nat.add_assoc] at stops
    · have shorter : more.length < (w.chars ++ more).length := by
        have present := List.length_pos_iff.mpr (chars_ne_nil lexeme)
        rw [List.length_append]
        omega
      rw [scanFrom_lexeme lexeme]
      obtain ⟨front, rest, hmore, cut, stops⟩ :=
        ih more.length shorter (offset + byteCount w.chars) more rfl
      refine ⟨w.chars ++ front, rest, ?_, .lexeme lexeme cut, ?_⟩
      · rw [List.append_assoc, ← hmore]
      · rwa [byteCount_append, ← Nat.add_assoc]
    · rw [scanFrom_fault h]
      exact ⟨[], text, rfl, .nothing text, .inr ⟨fault, h, rfl⟩⟩

/-- However a text is cut, scanning begins with the same lexemes and goes on with the rest. -/
theorem scanFrom_of_cut {text rest : List Char} {ws : List (Token Operand)} (h : Cut text ws rest) :
    ∃ front, text = front ++ rest ∧ ∀ offset, scanFrom offset text =
      ⟨ws ++ (scanFrom (offset + byteCount front) rest).tokens,
        (scanFrom (offset + byteCount front) rest).fault⟩ := by
  induction h with
  | nothing rest => exact ⟨[], rfl, fun offset => rfl⟩
  | @blank c text rest ws blank _ ih =>
    obtain ⟨front, rfl, scanned⟩ := ih
    refine ⟨c :: front, rfl, fun offset => ?_⟩
    rw [scanFrom_blank blank, scanned, Nat.add_assoc]
    rfl
  | @lexeme w text rest ws lexeme _ ih =>
    obtain ⟨front, rfl, scanned⟩ := ih
    refine ⟨w.chars ++ front, (List.append_assoc _ _ _).symm, fun offset => ?_⟩
    rw [scanFrom_lexeme lexeme, scanned, byteCount_append, Nat.add_assoc]
    rfl

/-- A text that is cut can be cut in front of any one of its lexemes. -/
theorem Cut.split {text rest : List Char} {before after : List (Token Operand)} {w : Token Operand}
    (h : Cut text (before ++ w :: after) rest) :
    ∃ more, Cut text before (w.chars ++ more) ∧ IsLexeme w more := by
  generalize hws : before ++ w :: after = ws at h
  induction h generalizing before with
  | nothing rest => simp at hws
  | blank blank _ ih =>
    obtain ⟨more, cut, lexeme⟩ := ih hws
    exact ⟨more, .blank blank cut, lexeme⟩
  | @lexeme v text rest ws lexeme _ ih =>
    cases before with
    | nil =>
      obtain ⟨rfl, rfl⟩ := List.cons.inj hws
      exact ⟨text, .nothing _, lexeme⟩
    | cons u before =>
      obtain ⟨rfl, htail⟩ := List.cons.inj hws
      obtain ⟨more, cut, found⟩ := ih htail
      exact ⟨more, .lexeme lexeme cut, found⟩

end ReportRules.Formula
