import Mathlib.Tactic.SplitIfs
import ReportRules.Json.Reader
import ReportRules.Proofs.Decimal.Nearest

/-!
# ReportRules.Proofs.Json.Numbers -- the numbers of a JSON value

A JSON value holds an integer of 64 bits, signed or unsigned, or a finite double. A text may write
other numbers, but the reader makes a double of a longer integer and lets a number beyond the
largest double only be passed over, so every number that can be wanted of a text fits
(`numbersFit_root`).

It matters where a number is read as a double: the double nearest to a number that fits is finite,
and only finite doubles can be written.
-/

namespace ReportRules

/-- Whether a number is one that a JSON value can hold. -/
def Number.Fits : Number → Prop
  | .int n => -2 ^ 63 ≤ n ∧ n < 2 ^ 64
  | .float x => x.isFinite = true

instance : DecidablePred Number.Fits
  | .int _ => inferInstanceAs (Decidable (_ ∧ _))
  | .float _ => inferInstanceAs (Decidable (_ = _))

theorem Number.Fits.isFinite_toFloat {n : Number} (h : n.Fits) : n.toFloat.isFinite = true := by
  cases n with
  | int n => exact Decimal.isFinite_ofInt h.1 h.2
  | float x => exact h

namespace Json

namespace Document

mutual
/-- Whether every number that can be wanted of a document fits. -/
def NumbersFit : Document → Prop
  | .num n => n.Fits
  | .arr items _ => ItemsFit items
  | .obj members _ => MembersFit members
  | .null | .bool _ | .str _ | .broken _ _ _ | .lax _ _ => True

/-- The same for a list of elements. -/
def ItemsFit : List Document → Prop
  | [] => True
  | d :: rest => NumbersFit d ∧ ItemsFit rest

/-- The same for a list of members. -/
def MembersFit : List (Key × Document) → Prop
  | [] => True
  | (_, d) :: rest => NumbersFit d ∧ MembersFit rest
end

mutual
/-- Whether the numbers of a document fit can be computed. -/
instance decidableNumbersFit : (d : Document) → Decidable d.NumbersFit
  | .num n => inferInstanceAs (Decidable n.Fits)
  | .arr items _ => decidableItemsFit items
  | .obj members _ => decidableMembersFit members
  | .null | .bool _ | .str _ | .broken _ _ _ | .lax _ _ => .isTrue trivial

instance decidableItemsFit : (items : List Document) → Decidable (ItemsFit items)
  | [] => .isTrue trivial
  | d :: rest => @instDecidableAnd _ _ (decidableNumbersFit d) (decidableItemsFit rest)

instance decidableMembersFit : (members : List (Key × Document)) → Decidable (MembersFit members)
  | [] => .isTrue trivial
  | (_, d) :: rest => @instDecidableAnd _ _ (decidableNumbersFit d) (decidableMembersFit rest)
end

theorem itemsFit_iff {items : List Document} : ItemsFit items ↔ ∀ d ∈ items, d.NumbersFit := by
  induction items with
  | nil => exact ⟨fun _ _ h => (List.not_mem_nil h).elim, fun _ => trivial⟩
  | cons d rest ih => rw [List.forall_mem_cons, ← ih]; rfl

end Document

/-- Whether every number of a value is one that a JSON value can hold. -/
def NumbersFit (j : Json) : Prop :=
  (Document.ofJson j).NumbersFit

instance (j : Json) : Decidable j.NumbersFit :=
  inferInstanceAs (Decidable (Document.ofJson j).NumbersFit)

/-- The documents that come from JSON: those of texts, and those of values. -/
inductive Document.IsJson : Document → Prop
  | text (s : String) : IsJson (Source.read s).root
  | value (j : Json) (fit : j.NumbersFit) : IsJson (.ofJson j)

/-! ## Reading -/

namespace Reader

open Document (NumbersFit ItemsFit MembersFit)

/-- More turns than the power of ten has parts change nothing. -/
theorem scaled_eq_of_le {turns more : Nat} (le : turns ≤ more) {exponent : Int}
    (enough : exponent.natAbs < 308 * turns) (x : Float) :
    scaled more x exponent = scaled turns x exponent := by
  induction turns generalizing more exponent x with
  | zero => exact absurd enough (Nat.not_lt_zero _)
  | succ turns ih =>
    obtain ⟨more, rfl⟩ : ∃ k, more = k + 1 := ⟨more - 1, by omega⟩
    unfold scaled
    split
    · rfl
    · split
      · rfl
      · split
        · rfl
        · -- a power below zero, which has one part less after this turn
          have fewer : (exponent + 308).natAbs < 308 * turns := by omega
          exact ih (Nat.le_of_succ_le_succ le) fewer _

/-- A significand stays one of 64 bits. -/
theorem takeFigures_lt {significand : Nat} (fits : significand < 2 ^ 64) (figures : List Char) :
    (takeFigures significand figures).1 < 2 ^ 64 := by
  induction figures generalizing significand with
  | nil => exact fits
  | cons c rest ih =>
    unfold takeFigures
    simp only
    split
    · rename_i longer
      exact ih longer
    · exact fits

theorem fits_of_integerOrDouble {n : Decimal.Numeral} (fits : n.significand < 2 ^ 64) {i : Int}
    (h : integerOrDouble n = .int i) : (Number.int i).Fits := by
  unfold integerOrDouble at h
  split_ifs at h with dropped negative small
  · obtain rfl := Number.int.inj h
    rw [Bool.and_eq_true, decide_eq_true_iff, decide_eq_true_iff] at small
    have : n.significand ≤ 2 ^ 63 := small.2
    exact ⟨by omega, by omega⟩
  · obtain rfl := Number.int.inj h
    exact ⟨by omega, by omega⟩

theorem numbersFit_float (x : Float) : (numberDocument (.float x)).NumbersFit := by
  simp only [numberDocument]
  split
  · assumption
  · trivial

theorem numbersFit_integerOrDouble {n : Decimal.Numeral} (fits : n.significand < 2 ^ 64) :
    (numberDocument (integerOrDouble n)).NumbersFit := by
  cases h : integerOrDouble n with
  | int i => exact fits_of_integerOrDouble fits h
  | float x => exact numbersFit_float x

theorem numbersFit_readLiteral {first : Char} {value : Document} (fit : value.NumbersFit)
    (expected cs : List Char) : (readLiteral first value expected cs).1.NumbersFit := by
  induction expected generalizing cs with
  | nil => exact fit
  | cons e more ih =>
    cases cs with
    | nil => trivial
    | cons c rest =>
      unfold readLiteral
      split
      · exact ih rest
      · trivial

theorem numbersFit_readStringValue (cs : List Char) : (readStringValue cs).1.NumbersFit := by
  unfold readStringValue
  split <;> trivial

theorem numbersFit_readExponent (first : Char) (n : Decimal.Numeral) (cs : List Char) :
    (readExponent first n cs).1.NumbersFit := by
  unfold readExponent
  simp only
  split
  · trivial
  · exact numbersFit_float _

theorem numbersFit_readAfterInteger (first : Char) {n : Decimal.Numeral}
    (fits : n.significand < 2 ^ 64) (cs : List Char) :
    (readAfterInteger first n cs).1.NumbersFit := by
  unfold readAfterInteger
  split
  · simp only
    split
    · trivial
    · split
      · exact numbersFit_readExponent _ _ _
      · exact numbersFit_readExponent _ _ _
      · exact numbersFit_float _
  · exact numbersFit_readExponent _ _ _
  · exact numbersFit_readExponent _ _ _
  · exact numbersFit_integerOrDouble fits

theorem numbersFit_readNumber (first : Char) (negative : Bool) (cs : List Char) :
    (readNumber first negative cs).1.NumbersFit := by
  unfold readNumber
  split
  · trivial
  · trivial
  · exact numbersFit_readAfterInteger _ (takeFigures_lt (Nat.two_pow_pos 64) _) _

theorem numbersFit_readScalar (c : Char) (rest : List Char) :
    (readScalar c rest).1.NumbersFit := by
  unfold readScalar
  split_ifs
  · exact numbersFit_readStringValue rest
  · apply numbersFit_readLiteral
    trivial
  · apply numbersFit_readLiteral
    trivial
  · apply numbersFit_readLiteral
    trivial
  · exact numbersFit_readNumber _ _ _
  · exact numbersFit_readNumber _ _ _
  · trivial

theorem numbersFit_nested {d : Document} (fit : d.NumbersFit) (level : Nat) :
    (nested level d).NumbersFit := by
  unfold nested
  split
  · exact fit
  · trivial

/-- What holds of the values that are read in a number of steps holds of one step more. -/
theorem numbersFit_readValue_succ {steps : Nat}
    (items : ∀ level cs, ItemsFit (readItems steps level cs).1.1)
    (members : ∀ level cs, MembersFit (readMembers steps level cs).1.1) (level : Nat)
    (cs : List Char) : (readValue (steps + 1) level cs).1.NumbersFit := by
  unfold readValue
  split
  · trivial
  · refine numbersFit_nested ?_ level
    split
    · trivial
    · trivial
    · exact items _ _
  · split <;> apply numbersFit_nested
    · trivial
    · trivial
    · exact members _ _
    · trivial
  · exact numbersFit_readScalar _ _

theorem numbersFit_readItems_succ {steps : Nat}
    (value : ∀ level cs, (readValue steps level cs).1.NumbersFit)
    (items : ∀ level cs, ItemsFit (readItems steps level cs).1.1) (level : Nat)
    (cs : List Char) : ItemsFit (readItems (steps + 1) level cs).1.1 := by
  have fit := value level cs
  unfold readItems
  simp only
  split
  · exact ⟨fit, trivial⟩
  · exact ⟨fit, trivial⟩
  · exact ⟨fit, trivial⟩
  · split
    · exact ⟨fit, trivial, trivial⟩
    · exact ⟨fit, trivial, trivial⟩
    · exact ⟨fit, items _ _⟩
  · exact ⟨fit, trivial⟩

/-- Behind a key there is a colon and a value, or else a document that stops. -/
theorem numbersFit_behindKey {read : List Char → Result Document}
    (value : ∀ cs, (read cs).1.NumbersFit) (cs : List Char) :
    (match cs with
      | [] => stop none (.cutOff .object)
      | ':' :: rest => read rest
      | _ => stop none .expectedColon : Result Document).1.NumbersFit := by
  split
  · trivial
  · exact value _
  · trivial

theorem numbersFit_readMembers_succ {steps : Nat}
    (value : ∀ level cs, (readValue steps level cs).1.NumbersFit)
    (members : ∀ level cs, MembersFit (readMembers steps level cs).1.1) (level : Nat)
    (cs : List Char) : MembersFit (readMembers (steps + 1) level cs).1.1 := by
  unfold readMembers
  split
  · trivial
  · rename_i text afterKey _
    have fit := numbersFit_behindKey (value level) (dropSpace afterKey)
    simp only
    split
    · exact ⟨fit, trivial⟩
    · exact ⟨fit, trivial⟩
    · exact ⟨fit, trivial⟩
    · split
      · exact ⟨fit, trivial⟩
      · exact ⟨fit, members _ _⟩
      · exact ⟨fit, trivial⟩
      · exact ⟨fit, trivial⟩
    · exact ⟨fit, trivial⟩

theorem numbersFit_read (steps : Nat) :
    (∀ level cs, (readValue steps level cs).1.NumbersFit) ∧
      (∀ level cs, ItemsFit (readItems steps level cs).1.1) ∧
      ∀ level cs, MembersFit (readMembers steps level cs).1.1 := by
  induction steps with
  | zero => exact ⟨fun _ _ => trivial, fun _ _ => trivial, fun _ _ => trivial⟩
  | succ steps ih =>
    obtain ⟨value, items, members⟩ := ih
    exact ⟨numbersFit_readValue_succ items members, numbersFit_readItems_succ value items,
      numbersFit_readMembers_succ value members⟩

end Reader

/-- Every number that can be wanted of a text fits. -/
theorem numbersFit_root (s : String) : (Source.read s).root.NumbersFit := by
  have fit := (Reader.numbersFit_read (2 * s.toList.length + 2)).1 0 s.toList
  unfold Source.read
  simp only
  generalize Reader.readValue (2 * s.toList.length + 2) 0 s.toList = result at fit ⊢
  rcases result with ⟨root, _ | rest⟩ <;> exact fit

theorem Document.IsJson.numbersFit {d : Document} (h : d.IsJson) : d.NumbersFit := by
  cases h with
  | text s => exact numbersFit_root s
  | value j fit => exact fit

end Json

end ReportRules
