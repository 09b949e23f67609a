import Mathlib.Data.List.TakeWhile
import ReportRules.Decimal.Numeral
import ReportRules.Proofs.Text.Runs

/-!
# ReportRules.Proofs.Decimal.Grammar -- the grammar of numerals

    numeral   =  [ "+" | "-" ] mantissa [ exponent ]
    mantissa  =  figures [ "." [ figures ] ]  |  "." figures
    exponent  =  ( "e" | "E" ) [ "+" | "-" ] figures

Each part is a relation between a text and what the text stands for, so `Writes` is the grammar
together with the number that a numeral names. The reader of numerals accepts the grammar and
nothing else, and yields that number (`read?_eq_some_iff`).
-/

namespace ReportRules.Decimal.Numeral

open Text (Ends figuresValue isFigure)

/-- A sign that may be left out, and whether it is a minus sign. -/
inductive SignWrites : List Char → Bool → Prop
  | none : SignWrites [] false
  | plus : SignWrites ['+'] false
  | minus : SignWrites ['-'] true

/-- Figures with or without a point: the figures before it and those behind it. -/
inductive MantissaWrites : List Char → List Char → List Char → Prop
  | whole {before : List Char} (figures : ∀ c ∈ before, isFigure c = true) (present : before ≠ []) :
      MantissaWrites before before []
  | pointed {before after : List Char} (left : ∀ c ∈ before, isFigure c = true)
      (right : ∀ c ∈ after, isFigure c = true) (present : before ≠ [] ∨ after ≠ []) :
      MantissaWrites (before ++ '.' :: after) before after

/-- The power of ten behind a mantissa, which may be left out. -/
inductive ExponentWrites : List Char → Int → Prop
  | none : ExponentWrites [] 0
  | some {mark : Char} {sign figures : List Char} {negative : Bool}
      (hmark : mark = 'e' ∨ mark = 'E') (hsign : SignWrites sign negative)
      (hfigures : ∀ c ∈ figures, isFigure c = true)
      (present : figures ≠ []) :
      ExponentWrites (mark :: (sign ++ figures))
        (if negative then -(figuresValue figures : Int) else figuresValue figures)

/-- The numerals, each with the number that it names. -/
inductive Writes : List Char → Numeral → Prop
  | numeral {sign mantissa exponent before after : List Char} {negative : Bool} {power : Int}
      (hsign : SignWrites sign negative) (hmantissa : MantissaWrites mantissa before after)
      (hexponent : ExponentWrites exponent power) :
      Writes (sign ++ (mantissa ++ exponent))
        ⟨negative, figuresValue (before ++ after), power - after.length⟩

/-! ## Signs -/

theorem exists_of_takeSign {cs rest : List Char} {negative : Bool}
    (h : takeSign cs = (negative, rest)) :
    ∃ sign, SignWrites sign negative ∧ cs = sign ++ rest := by
  unfold takeSign at h
  split at h <;> cases h
  · exact ⟨_, .minus, rfl⟩
  · exact ⟨_, .plus, rfl⟩
  · exact ⟨_, .none, rfl⟩

/-- A sign is taken off a text that goes on with something else. -/
theorem takeSign_append {sign rest : List Char} {negative : Bool} (h : SignWrites sign negative)
    (hrest : ∀ more, rest ≠ '-' :: more ∧ rest ≠ '+' :: more) :
    takeSign (sign ++ rest) = (negative, rest) := by
  cases h with
  | plus => rfl
  | minus => rfl
  | none =>
    unfold takeSign
    split
    · rename_i more hmore
      exact absurd hmore (hrest more).1
    · rename_i more hmore
      exact absurd hmore (hrest more).2
    · rfl

/-- What begins with a figure has no sign in front. -/
theorem no_sign_of_isFigure {c : Char} (h : isFigure c = true) (rest more : List Char) :
    c :: rest ≠ '-' :: more ∧ c :: rest ≠ '+' :: more := by
  constructor <;> rintro ⟨rfl, -⟩ <;> exact absurd h (by decide)

/-! ## Exponents -/

theorem readExponent?_eq_some_iff {cs : List Char} {power : Int} :
    readExponent? cs = some power ↔ ExponentWrites cs power := by
  constructor
  · intro h
    unfold readExponent? at h
    split at h
    · cases h
      exact .none
    · rename_i c rest
      split at h
      · rename_i hmark
        cases hsign : takeSign rest with
        | mk negative figures =>
          obtain ⟨sign, writes, rfl⟩ := exists_of_takeSign hsign
          simp only [hsign] at h
          split at h
          · cases h
          · rename_i proper
            simp only [Bool.or_eq_true, List.isEmpty_iff, Bool.not_eq_true', not_or,
              Bool.not_eq_false, List.all_eq_true] at proper
            cases h
            simp only [Bool.or_eq_true, beq_iff_eq] at hmark
            exact .some hmark writes proper.2 proper.1
      · cases h
  · intro h
    cases h with
    | none => rfl
    | @some mark sign figures negative hmark hsign hfigures present =>
      obtain ⟨c, more, rfl⟩ := List.exists_cons_of_ne_nil present
      have hc : isFigure c = true := hfigures c List.mem_cons_self
      have marked : (mark == 'e' || mark == 'E') = true := by simpa using hmark
      have proper : ((c :: more).isEmpty || !(c :: more).all isFigure) = false := by
        simpa using hfigures
      unfold readExponent?
      simp only [marked, if_true, takeSign_append hsign (no_sign_of_isFigure hc more), proper]
      rfl

/-- The mark of an exponent is neither a figure nor a point. -/
theorem ExponentWrites.stops {exponent : List Char} {power : Int}
    (h : ExponentWrites exponent power) :
    Ends isFigure exponent ∧ ∀ more, exponent ≠ '.' :: more := by
  cases h with
  | none => exact ⟨Text.ends_nil _, nofun⟩
  | some hmark hsign hfigures present =>
    rcases hmark with rfl | rfl
    · exact ⟨Text.ends_cons rfl _, fun _ h => absurd (List.cons.inj h).1 (by decide)⟩
    · exact ⟨Text.ends_cons rfl _, fun _ h => absurd (List.cons.inj h).1 (by decide)⟩

/-! ## Numerals -/

/-- A mantissa is taken off a text that goes on with an exponent. -/
theorem readUnsigned?_append {mantissa before after exponent : List Char} {power : Int}
    (negative : Bool) (hmantissa : MantissaWrites mantissa before after)
    (hexponent : ExponentWrites exponent power) :
    readUnsigned? negative (mantissa ++ exponent) =
      some ⟨negative, figuresValue (before ++ after), power - after.length⟩ := by
  obtain ⟨ends, noPoint⟩ := hexponent.stops
  have hread := readExponent?_eq_some_iff.mpr hexponent
  have proper : (before.isEmpty && after.isEmpty) = false := by
    cases hmantissa with
    | whole _ present => simpa using present
    | pointed _ _ present => simpa [Classical.or_iff_not_imp_left] using present
  cases hmantissa with
  | whole figures present =>
    unfold readUnsigned?
    rw [Text.takeWhile_run figures ends, Text.dropWhile_run figures ends]
    split
    rename_i after rest hsplit
    split at hsplit
    · rename_i more
      exact absurd rfl (noPoint more)
    · cases hsplit
      rw [if_neg (by simpa using proper), hread]
      rfl
  | pointed left right present =>
    have hpoint : Ends isFigure ('.' :: (after ++ exponent)) := Text.ends_cons rfl _
    unfold readUnsigned?
    rw [List.append_assoc, List.cons_append, Text.takeWhile_run left hpoint,
      Text.dropWhile_run left hpoint]
    simp only [Text.takeWhile_run right ends, Text.dropWhile_run right ends, hread]
    rw [if_neg (by simpa using proper)]
    rfl

theorem exists_of_readUnsigned? {cs : List Char} {negative : Bool} {n : Numeral}
    (h : readUnsigned? negative cs = some n) :
    ∃ mantissa exponent before after power, cs = mantissa ++ exponent ∧
      MantissaWrites mantissa before after ∧ ExponentWrites exponent power ∧
      n = ⟨negative, figuresValue (before ++ after), power - after.length⟩ := by
  have figures : ∀ {text : List Char}, ∀ c ∈ text.takeWhile isFigure, isFigure c = true :=
    fun c hc => List.mem_takeWhile_imp hc
  have whole : cs.takeWhile isFigure ++ cs.dropWhile isFigure = cs :=
    List.takeWhile_append_dropWhile
  unfold readUnsigned? at h
  split at h
  rename_i after rest hsplit
  dsimp only at h
  split at h
  · cases h
  · rename_i proper
    obtain ⟨power, hpower, hn⟩ := Option.bind_eq_some_iff.mp h
    have hexponent := readExponent?_eq_some_iff.mp hpower
    obtain rfl := Option.some.inj hn
    split at hsplit
    · rename_i more hmore
      cases hsplit
      refine ⟨cs.takeWhile isFigure ++ '.' :: more.takeWhile isFigure, _, _, _, power, ?_,
        .pointed figures figures ?_, hexponent, rfl⟩
      · rw [List.append_assoc, List.cons_append, List.takeWhile_append_dropWhile, ← hmore, whole]
      · simpa [Classical.or_iff_not_imp_left] using proper
    · cases hsplit
      refine ⟨cs.takeWhile isFigure, _, _, [], power, whole.symm, .whole figures ?_, hexponent, rfl⟩
      simpa using proper

/-- A mantissa begins with a figure or a point, and not with a sign. -/
theorem MantissaWrites.no_sign {mantissa before after : List Char}
    (h : MantissaWrites mantissa before after) (rest more : List Char) :
    mantissa ++ rest ≠ '-' :: more ∧ mantissa ++ rest ≠ '+' :: more := by
  cases h with
  | whole figures present =>
    obtain ⟨c, others, rfl⟩ := List.exists_cons_of_ne_nil present
    exact no_sign_of_isFigure (figures c List.mem_cons_self) _ more
  | pointed left right present =>
    cases before with
    | nil =>
      constructor <;> intro h <;> exact absurd (List.cons.inj h).1 (by decide)
    | cons c others => exact no_sign_of_isFigure (left c List.mem_cons_self) _ more

/-- Numerals are what the grammar has, and they name the number that the grammar has for them. -/
theorem read?_eq_some_iff {cs : List Char} {n : Numeral} : read? cs = some n ↔ Writes cs n := by
  unfold read?
  constructor
  · intro h
    cases hsign : takeSign cs with
    | mk negative rest =>
      obtain ⟨sign, writes, rfl⟩ := exists_of_takeSign hsign
      simp only [hsign] at h
      obtain ⟨mantissa, exponent, before, after, power, rfl, hmantissa, hexponent, rfl⟩ :=
        exists_of_readUnsigned? h
      exact .numeral writes hmantissa hexponent
  · intro h
    cases h with
    | @numeral sign mantissa exponent before after negative power hsign hmantissa hexponent =>
      rw [takeSign_append hsign (hmantissa.no_sign exponent)]
      exact readUnsigned?_append negative hmantissa hexponent

/-- A numeral has no characters but figures, signs, a point and the mark of an exponent. -/
theorem Writes.forall_mem {p : Char → Prop} (figure : ∀ c, isFigure c = true → p c)
    (marks : ∀ c ∈ ['+', '-', '.', 'e', 'E'], p c) {cs : List Char} {n : Numeral}
    (h : Writes cs n) : ∀ c ∈ cs, p c := by
  have signs : ∀ {sign : List Char} {negative : Bool}, SignWrites sign negative →
      ∀ c ∈ sign, p c := by
    intro sign negative hsign c hc
    cases hsign with
    | none => cases hc
    | plus | minus =>
      obtain rfl := List.mem_singleton.mp hc
      exact marks _ (by decide)
  cases h with
  | numeral hsign hmantissa hexponent =>
    refine List.forall_mem_append.mpr ⟨signs hsign, List.forall_mem_append.mpr ⟨?_, ?_⟩⟩
    · cases hmantissa with
      | whole figures present => exact fun c hc => figure c (figures c hc)
      | pointed left right present =>
        refine List.forall_mem_append.mpr ⟨fun c hc => figure c (left c hc), ?_⟩
        exact List.forall_mem_cons.mpr ⟨marks _ (by decide), fun c hc => figure c (right c hc)⟩
    · cases hexponent with
      | none => exact List.forall_mem_nil p
      | some hmark hexponentSign figures present =>
        refine List.forall_mem_cons.mpr ⟨?_, List.forall_mem_append.mpr
          ⟨signs hexponentSign, fun c hc => figure c (figures c hc)⟩⟩
        rcases hmark with rfl | rfl <;> exact marks _ (by decide)

end ReportRules.Decimal.Numeral
