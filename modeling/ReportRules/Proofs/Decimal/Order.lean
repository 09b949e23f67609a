import Mathlib.Algebra.Order.Ring.Int
import Mathlib.Order.Compare
import Mathlib.Tactic.Ring
import ReportRules.Json.Value

/-!
# ReportRules.Proofs.Decimal.Order -- how doubles compare

Doubles are compared by their unpacked parts: by the sign, then by the exponent, then by the
significand. Exchanging the two sides exchanges less and greater, so equality is symmetric, even
though it is not reflexive (NaN) and not the equality of terms (the two zeros). Significands have
their full length, which is why the exponent may go first: doubles that hold integers compare like
these integers (`Holds.compare_eq`).
-/

namespace ReportRules.Decimal

open Float.Model (UnpackedFloat)
open Float.Model.UnpackedFloat (Sign)

/-! ## Exchanging the sides -/

theorem compare_swap (u v : UnpackedFloat) : v.compare u = (u.compare v).map Ordering.swap := by
  have exponents (e f : Int) : compare f e = (compare e f).swap := Std.OrientedOrd.eq_swap
  have significands (m n : Nat) : compare n m = (compare m n).swap := Std.OrientedOrd.eq_swap
  cases u with
  | notANumber => cases v <;> rfl
  | infinity s =>
    cases v with
    | infinity t => cases s <;> cases t <;> rfl
    | notANumber | zero _ | finite _ _ _ _ => cases s <;> rfl
  | zero s =>
    cases v with
    | infinity t | finite t _ _ _ => cases t <;> rfl
    | notANumber | zero _ => rfl
  | finite s m e _ =>
    cases v with
    | notANumber => rfl
    | infinity t => cases t <;> rfl
    | zero _ => cases s <;> rfl
    | finite t n f _ =>
      cases s <;> cases t
      case negative.positive | positive.negative => rfl
      all_goals
        dsimp only [UnpackedFloat.compare]
        rw [Option.map_some, exponents e f, significands m n, ← Ordering.swap_then]

theorem beq_eq_compare (x y : Float) :
    (x == y) = (x.toModel.unpack.compare y.toModel.unpack == some .eq) :=
  rfl

theorem lt_iff_compare (x y : Float) :
    x < y ↔ x.toModel.unpack.compare y.toModel.unpack = some .lt := by
  show decide (x.toModel < y.toModel) = true ↔ _
  rw [decide_eq_true_iff]
  show (x.toModel.unpack.compare y.toModel.unpack == some .lt) = true ↔ _
  rw [beq_iff_eq]

theorem beq_comm (x y : Float) : (x == y) = (y == x) := by
  rw [beq_eq_compare, beq_eq_compare, compare_swap]
  cases y.toModel.unpack.compare x.toModel.unpack with
  | none => rfl
  | some order => cases order <;> rfl

/-! ## Doubles that hold integers -/

/-- The value of unpacked parts is an integer: they are a zero, or a significand of 53 binary figures
and an exponent that no integer needs to go below. -/
inductive Holds : UnpackedFloat → Int → Prop
  | zero (s : Sign) : Holds (.zero s) 0
  | finite (s : Sign) {m n : Nat} {e : Int} (positive : 0 < m) (long : 2 ^ 52 ≤ m)
      (narrow : m < 2 ^ 53) (low : -52 ≤ e) (value : m * 2 ^ (e + 52).toNat = n * 2 ^ 52) :
      Holds (.finite s m e positive) (s.apply n)

theorem compare_mul_right {k : Nat} (positive : 0 < k) (a b : Nat) :
    compare (a * k) (b * k) = compare a b := by
  have increasing : StrictMono fun n => n * k :=
    fun _ _ less => Nat.mul_lt_mul_of_pos_right less positive
  rw [← cmp_eq_compare, ← cmp_eq_compare]
  exact increasing.cmp_map_eq a b

theorem compare_cast (a b : Nat) : compare (a : Int) (b : Int) = compare a b := by
  rw [← cmp_eq_compare, ← cmp_eq_compare]
  exact Int.natCast_strictMono.cmp_map_eq a b

theorem compare_neg_cast (a b : Nat) : compare (-(a : Int)) (-(b : Int)) = compare b a := by
  rw [← compare_cast, ← cmp_eq_compare, ← cmp_eq_compare]
  have decreasing : StrictAnti fun n : Int => -n := fun _ _ less => Int.neg_lt_neg less
  exact decreasing.cmp_map_eq a b

/-- Of two significands of full length the one with the higher exponent is the greater one. -/
theorem scaled_lt {m m' d d' : Nat} (narrow : m < 2 ^ 53) (long : 2 ^ 52 ≤ m') (lower : d < d') :
    m * 2 ^ d < m' * 2 ^ d' := by
  calc m * 2 ^ d < 2 ^ 53 * 2 ^ d := Nat.mul_lt_mul_of_pos_right narrow (Nat.pow_pos (by decide))
    _ = 2 ^ 52 * 2 ^ (d + 1) := by ring
    _ ≤ m' * 2 ^ d' := Nat.mul_le_mul long (Nat.pow_le_pow_right (by decide) lower)

/-- The exponents decide, and between equal ones the significands. -/
theorem compare_scaled {m m' n n' : Nat} {e e' : Int} (long : 2 ^ 52 ≤ m) (narrow : m < 2 ^ 53)
    (low : -52 ≤ e) (value : m * 2 ^ (e + 52).toNat = n * 2 ^ 52) (long' : 2 ^ 52 ≤ m')
    (narrow' : m' < 2 ^ 53) (low' : -52 ≤ e') (value' : m' * 2 ^ (e' + 52).toNat = n' * 2 ^ 52) :
    (compare e e').then (compare m m') = compare n n' := by
  rw [← compare_mul_right (show 0 < 2 ^ 52 by decide) n n', ← value, ← value']
  rcases lt_trichotomy e e' with less | rfl | greater
  · have before := scaled_lt narrow long' (show (e + 52).toNat < (e' + 52).toNat by omega)
    rw [compare_lt_iff_lt.mpr less, compare_lt_iff_lt.mpr before]
    rfl
  · rw [compare_eq_iff_eq.mpr rfl, compare_mul_right (Nat.pow_pos (by decide))]
    rfl
  · have behind := scaled_lt narrow' long (show (e' + 52).toNat < (e + 52).toNat by omega)
    rw [compare_gt_iff_gt.mpr greater, compare_gt_iff_gt.mpr behind]
    rfl

theorem pos_of_scaled {m n d : Nat} (positive : 0 < m) (value : m * 2 ^ d = n * 2 ^ 52) : 0 < n := by
  have product : 0 < n * 2 ^ 52 := value ▸ Nat.mul_pos positive (Nat.pow_pos (by decide))
  exact Nat.pos_of_mul_pos_right product

/-- Doubles that hold integers compare like them. -/
theorem Holds.compare_eq {u v : UnpackedFloat} {a b : Int} (hu : Holds u a) (hv : Holds v b) :
    u.compare v = some (compare a b) := by
  cases hu with
  | zero _ =>
    cases hv with
    | zero _ => rfl
    | finite t positive _ _ _ value =>
      have size := pos_of_scaled positive value
      cases t
      · exact congrArg some (compare_gt_iff_gt.mpr (by simp only [Sign.apply]; omega)).symm
      · exact congrArg some (compare_lt_iff_lt.mpr (by simp only [Sign.apply]; omega)).symm
  | finite s positive long narrow low value =>
    have size := pos_of_scaled positive value
    cases hv with
    | zero _ =>
      cases s
      · exact congrArg some (compare_lt_iff_lt.mpr (by simp only [Sign.apply]; omega)).symm
      · exact congrArg some (compare_gt_iff_gt.mpr (by simp only [Sign.apply]; omega)).symm
    | finite t positive' long' narrow' low' value' =>
      have size' := pos_of_scaled positive' value'
      have sizes := compare_scaled long narrow low value long' narrow' low' value'
      cases s <;> cases t
      case negative.negative =>
        show some (Ordering.swap _) = some (compare (-_) (-_))
        rw [sizes, compare_neg_cast, Std.OrientedOrd.eq_swap, Ordering.swap_swap]
      case negative.positive =>
        exact congrArg some (compare_lt_iff_lt.mpr (by simp only [Sign.apply]; omega)).symm
      case positive.negative =>
        exact congrArg some (compare_gt_iff_gt.mpr (by simp only [Sign.apply]; omega)).symm
      case positive.positive =>
        exact congrArg some (sizes.trans (compare_cast _ _).symm)

end ReportRules.Decimal
