import ReportRules.Decimal.Numeral
import ReportRules.Proofs.Decimal.Nearest

/-!
# ReportRules.Proofs.Decimal.Numeric -- a numeral names a number

The double nearest to a numeral may be infinite, but it is never NaN. NaN comes from operations
whose operands are infinite or both zero; a numeral is rounded once, from a product or a quotient of
finite numbers of which the power of ten is not zero.
-/

namespace ReportRules.Decimal

open Float.Model (Format UnpackedFloat)
open Float.Model.UnpackedFloat (Accuracy div mul pack packComponents packedInfinity
  roundWithAccuracy unpack unpackExponent unpackMantissa)

/-! ## Packing -/

theorem isNaN_of_isFinite {u : UnpackedFloat} (finite : u.isFinite = true) : u.isNaN = false := by
  cases u with
  | notANumber | infinity _ => cases finite
  | zero _ | finite _ _ _ _ => rfl

/-- What marks a finite number in the bits of a double. -/
theorem isFinite_unpack {b : BitVec Format.binary64.numBits} :
    (unpack Format.binary64 b).isFinite = true ↔ unpackExponent b ≠ -1#11 := by
  unfold unpack
  dsimp only
  by_cases extreme : unpackExponent b = -1#11
  · rw [if_pos extreme]
    refine iff_of_false ?_ (not_not_intro extreme)
    split <;> exact Bool.false_ne_true
  · rw [if_neg extreme]
    refine iff_of_true ?_ extreme
    by_cases least : unpackExponent b = 0#11
    · rw [if_pos least]
      by_cases zero : unpackMantissa b = 0#52
      · rw [dif_pos zero]
        rfl
      · rw [dif_neg zero]
        rfl
    · rw [if_neg least]
      rfl

/-- What marks NaN in the bits of a double. -/
theorem isNaN_unpack {b : BitVec Format.binary64.numBits} :
    (unpack Format.binary64 b).isNaN = true ↔
      unpackExponent b = -1#11 ∧ unpackMantissa b ≠ 0#52 := by
  by_cases extreme : unpackExponent b = -1#11
  · unfold unpack
    dsimp only
    rw [if_pos extreme]
    by_cases zero : unpackMantissa b = 0#52
    · rw [if_pos zero]
      exact iff_of_false Bool.false_ne_true fun h => h.2 zero
    · rw [if_neg zero]
      exact iff_of_true rfl ⟨extreme, zero⟩
  · have number := isNaN_of_isFinite (isFinite_unpack.mpr extreme)
    exact iff_of_false (Bool.eq_false_iff.mp number) fun h => extreme h.1

theorem isNaN_packComponents {s : UnpackedFloat.Sign} {exponent : BitVec 11} {mantissa : BitVec 52}
    (h : exponent ≠ -1#11 ∨ mantissa = 0#52) :
    (unpack Format.binary64 (packComponents Format.binary64 s exponent mantissa)).isNaN = false := by
  refine Bool.eq_false_iff.mpr fun nan => ?_
  have marks := isNaN_unpack.mp nan
  rw [UnpackedFloat.unpackExponent_packComponents, UnpackedFloat.unpackMantissa_packComponents]
    at marks
  exact h.elim (fun usual => usual marks.1) marks.2

/-- Rounding to the bits of a double makes no NaN. -/
theorem isNaN_pack {u : UnpackedFloat} (h : u.isNaN = false) :
    (Float.Model.pack u).isNaN = false := by
  have infinite (s : UnpackedFloat.Sign) :
      (unpack Format.binary64 (packedInfinity Format.binary64 s)).isNaN = false :=
    isNaN_packComponents (.inr rfl)
  change (unpack Format.binary64 (pack Format.binary64 u)).isNaN = false
  cases u with
  | notANumber => cases h
  | infinity s => exact infinite s
  | zero s => exact isNaN_packComponents (.inr rfl)
  | finite s m e positive =>
    unfold pack
    dsimp only
    split
    · exact infinite s
    · rename_i low
      split
      · -- an exponent that is in range with its bias is not the one that marks NaN
        refine isNaN_packComponents (.inl fun extreme => low ?_)
        have same := congrArg BitVec.toNat extreme
        rw [BitVec.toNat_ofNat] at same
        change (e + 1023 + 52).toNat % 2048 = 2047 at same
        change 2048 ≤ (e + 1023 + 52).toNat + 1
        omega
      · exact isNaN_packComponents (.inl (by decide))

/-! ## Operations -/

theorem isNaN_neg {x : Float} (h : x.isNaN = false) : (-x).isNaN = false := by
  have number : x.toModel.unpack.isNaN = false := h
  refine isNaN_pack ?_
  generalize x.toModel.unpack = u at number
  cases u with
  | notANumber => cases number
  | infinity _ | zero _ | finite _ _ _ _ => rfl

theorem isNaN_roundWithAccuracy (s : UnpackedFloat.Sign) (m : Nat) (e : Int)
    (accuracy : Accuracy) :
    (roundWithAccuracy Format.binary64 s m e accuracy).isNaN = false := by
  unfold roundWithAccuracy
  dsimp only
  -- neither a zero nor a significand is NaN
  rw [apply_dite UnpackedFloat.isNaN]
  exact ite_self false

theorem isNaN_mul {u v : UnpackedFloat} (hu : u.isFinite = true) (hv : v.isFinite = true) :
    (mul Format.binary64 u v).isNaN = false := by
  cases u with
  | notANumber | infinity _ => cases hu
  | zero _ =>
    cases v with
    | notANumber | infinity _ => cases hv
    | zero _ | finite _ _ _ _ => rfl
  | finite _ _ _ _ =>
    cases v with
    | notANumber | infinity _ => cases hv
    | zero _ => rfl
    | finite _ _ _ _ => exact isNaN_roundWithAccuracy _ _ _ _

/-- A number that is finite and not zero. -/
inductive Solid : UnpackedFloat → Prop
  | finite {s : UnpackedFloat.Sign} {m : Nat} {e : Int} {positive : 0 < m} :
      Solid (.finite s m e positive)

instance : DecidablePred Solid
  | .finite _ _ _ _ => .isTrue .finite
  | .notANumber | .infinity _ | .zero _ => .isFalse nofun

theorem Solid.isFinite {u : UnpackedFloat} (h : Solid u) : u.isFinite = true := by
  cases h
  rfl

theorem isNaN_div {u v : UnpackedFloat} (hu : u.isFinite = true) (hv : Solid v) :
    (div Format.binary64 u v).isNaN = false := by
  cases hv
  cases u with
  | notANumber | infinity _ => cases hu
  | zero _ => rfl
  | finite _ _ _ _ => exact isNaN_roundWithAccuracy _ _ _ _

/-! ## Numerals -/

/-- The powers of ten that doubles hold exactly. -/
theorem solid_powersOfTen :
    ∀ i : Fin 23, Solid Float.exactlyRepresentablePowersOfTen[i].toModel.unpack := by
  decide +kernel

/-- A decimal is rounded from a product with a power of ten or a quotient by one. -/
theorem isNaN_decimal (m : Nat) (e : Int) :
    (UnpackedFloat.ofScientific Format.binary64 m e).isNaN = false := by
  unfold UnpackedFloat.ofScientific
  by_cases nothing : m = 0
  · rw [dif_pos nothing]
    rfl
  rw [dif_neg nothing]
  by_cases above : e > 2 ^ Format.binary64.exponentBits
  · rw [if_pos above]
    rfl
  rw [if_neg above]
  by_cases below : e < -(2 ^ Format.binary64.exponentBits + (m.log2 : Int))
  · rw [if_pos below]
    rfl
  rw [if_neg below]
  by_cases whole : 0 ≤ e
  · rw [if_pos whole]
    exact isNaN_mul rfl rfl
  · rw [if_neg whole]
    exact isNaN_div rfl .finite

theorem isNaN_ofScientific (m : Nat) (s : Bool) (e : Nat) :
    (Float.ofScientific m s e).isNaN = false := by
  unfold Float.ofScientific
  split
  · -- few figures and a small power of ten are both exact, and are multiplied or divided
    rename_i small
    have same : m.toUInt64.toNat = m := Nat.mod_eq_of_lt (by omega)
    have converted := (holds_toFloat (same.symm ▸ small.1)).isFinite
    have power := solid_powersOfTen ⟨e, by omega⟩
    dsimp only
    split
    · exact isNaN_pack (isNaN_div converted power)
    · exact isNaN_pack (isNaN_mul converted power.isFinite)
  · exact isNaN_pack (isNaN_decimal m _)

/-- The double nearest to a numeral is a number, though it may be infinite. -/
theorem Numeral.isNaN_toFloat (n : Numeral) : n.toFloat.isNaN = false := by
  have size : ∀ x : Float, x.isNaN = false → (if n.negative then -x else x).isNaN = false := by
    intro x number
    split
    · exact isNaN_neg number
    · exact number
  refine size _ ?_
  split
  · rfl
  · dsimp only
    split
    · rfl
    · split
      · rfl
      · exact isNaN_ofScientific _ _ _

end ReportRules.Decimal
