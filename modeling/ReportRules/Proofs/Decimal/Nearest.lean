import Mathlib.Data.Nat.Log
import ReportRules.Proofs.Decimal.Order

/-!
# ReportRules.Proofs.Decimal.Nearest -- the double nearest to an integer

A double holds 53 significant binary figures. `nearest` cuts a natural number to that many, with a
half going to the even neighbour, and the double made of the number holds exactly what `nearest`
gives. Cutting keeps the order, though it may make equal what was not, and a number of at most 53
figures is kept as it is. An integer of 64 bits is far below where doubles end, so its double is
finite.

On the way the significand is shifted bit by bit, with a round bit and a sticky bit in place of what
was shifted out. `IsQuotient` says what the three stand for.
-/

namespace ReportRules.Decimal

open Float.Model (Format UnpackedFloat totalExponent)
open Float.Model.UnpackedFloat (ExtendedMantissa Sign mul pack packComponents roundWithAccuracy
  shiftToTargetExponent unpack unpackSign)

/-! ## Rounding natural numbers -/

/-- A quotient rounded to the nearest natural number, a half to the even neighbour. -/
def roundedQuotient (m unit : Nat) : Nat :=
  if 2 * (m % unit) < unit ∨ 2 * (m % unit) = unit ∧ m / unit % 2 = 0 then m / unit
  else m / unit + 1

/-- The value of the last of 53 significant figures of a number. -/
def lastPlace (n : Nat) : Nat :=
  2 ^ (n.log2 - 52)

/-- A number cut to 53 significant figures. -/
def nearest (n : Nat) : Nat :=
  roundedQuotient n (lastPlace n) * lastPlace n

theorem roundedQuotient_bounds (m unit : Nat) :
    m / unit ≤ roundedQuotient m unit ∧ roundedQuotient m unit ≤ m / unit + 1 := by
  unfold roundedQuotient
  split <;> omega

theorem roundedQuotient_mul_right {k : Nat} (positive : 0 < k) (m unit : Nat) :
    roundedQuotient (m * k) (unit * k) = roundedQuotient m unit := by
  unfold roundedQuotient
  rw [Nat.mul_div_mul_right _ _ positive, Nat.mul_mod_mul_right, ← Nat.mul_assoc]
  simp only [Nat.mul_lt_mul_right positive, Nat.mul_left_inj (Nat.pos_iff_ne_zero.mp positive)]

theorem roundedQuotient_one (m : Nat) : roundedQuotient m 1 = m := by
  simp [roundedQuotient, Nat.mod_one]

theorem roundedQuotient_mul_self {k : Nat} (positive : 0 < k) (m : Nat) :
    roundedQuotient (m * k) k = m := by
  have scaled := roundedQuotient_mul_right positive m 1
  rwa [Nat.one_mul, roundedQuotient_one] at scaled

theorem roundedQuotient_mono {m n unit : Nat} (le : m ≤ n) :
    roundedQuotient m unit ≤ roundedQuotient n unit := by
  have quotients : m / unit ≤ n / unit := Nat.div_le_div_right le
  have above := (roundedQuotient_bounds m unit).2
  have below := (roundedQuotient_bounds n unit).1
  rcases quotients.lt_or_eq with less | same
  · omega
  · -- with one quotient the remainders decide
    have remainders : m % unit ≤ n % unit := by
      have := Nat.div_add_mod m unit
      have := Nat.div_add_mod n unit
      rw [same] at *
      omega
    unfold roundedQuotient
    rw [same]
    split <;> split <;> omega

/-- From `2 ^ 52` on the figures are cut, and the rounded ones may carry into one figure more. -/
theorem roundedQuotient_lastPlace {n : Nat} (long : 2 ^ 52 ≤ n) :
    2 ^ 52 ≤ roundedQuotient n (lastPlace n) ∧ roundedQuotient n (lastPlace n) ≤ 2 ^ 53 := by
  have present : n ≠ 0 := by omega
  have figures : 52 ≤ n.log2 := (Nat.le_log2 present).mpr long
  have bounds := roundedQuotient_bounds n (lastPlace n)
  have least : 2 ^ 52 ≤ n / lastPlace n := by
    rw [lastPlace, Nat.le_div_iff_mul_le (Nat.pow_pos (by decide)), ← Nat.pow_add,
      Nat.add_sub_cancel' figures]
    exact Nat.log2_self_le present
  have most : n / lastPlace n < 2 ^ 53 := by
    rw [lastPlace, Nat.div_lt_iff_lt_mul (Nat.pow_pos (by decide)), ← Nat.pow_add,
      show 53 + (n.log2 - 52) = n.log2 + 1 by omega]
    exact Nat.lt_log2_self
  omega

/-- A number of at most 53 figures has no figure to cut. -/
theorem lastPlace_of_lt {n : Nat} (short : n < 2 ^ 53) : lastPlace n = 1 := by
  have few : n.log2 ≤ 52 := by
    rcases Nat.eq_zero_or_pos n with rfl | positive
    · decide
    · exact Nat.le_of_lt_succ ((Nat.log2_lt (Nat.pos_iff_ne_zero.mp positive)).mpr short)
  rw [lastPlace, Nat.sub_eq_zero_of_le few, Nat.pow_zero]

theorem nearest_of_lt {n : Nat} (short : n < 2 ^ 53) : nearest n = n := by
  rw [nearest, lastPlace_of_lt short, roundedQuotient_one, Nat.mul_one]

theorem nearest_of_le {n : Nat} (short : n ≤ 2 ^ 53) : nearest n = n := by
  rcases short.lt_or_eq with short | rfl
  · exact nearest_of_lt short
  · decide +kernel

/-- A number of more figures lies between two powers of two, and so does the rounded one. -/
theorem nearest_bounds {n : Nat} (long : 2 ^ 52 ≤ n) :
    2 ^ n.log2 ≤ nearest n ∧ nearest n ≤ 2 ^ (n.log2 + 1) := by
  have figures : 52 ≤ n.log2 := (Nat.le_log2 (by omega)).mpr long
  obtain ⟨least, most⟩ := roundedQuotient_lastPlace long
  constructor
  · calc 2 ^ n.log2 = 2 ^ 52 * lastPlace n := by
          rw [lastPlace, ← Nat.pow_add, Nat.add_sub_cancel' figures]
      _ ≤ nearest n := Nat.mul_le_mul_right _ least
  · calc nearest n ≤ 2 ^ 53 * lastPlace n := Nat.mul_le_mul_right _ most
      _ = 2 ^ (n.log2 + 1) := by
          rw [lastPlace, ← Nat.pow_add, show 53 + (n.log2 - 52) = n.log2 + 1 by omega]

theorem nearest_mono {m n : Nat} (le : m ≤ n) : nearest m ≤ nearest n := by
  -- between numbers of different length there is a power of two, which is kept
  by_cases short : m < 2 ^ 53
  · by_cases short' : n < 2 ^ 53
    · rwa [nearest_of_lt short, nearest_of_lt short']
    · have long : 2 ^ 53 ≤ n := by omega
      have figures : 53 ≤ n.log2 := (Nat.le_log2 (by omega)).mpr long
      calc nearest m = m := nearest_of_lt short
        _ ≤ 2 ^ 53 := short.le
        _ ≤ 2 ^ n.log2 := Nat.pow_le_pow_right (by decide) figures
        _ ≤ nearest n := (nearest_bounds (by omega)).1
  · have long : 2 ^ 53 ≤ m := by omega
    have figures : m.log2 ≤ n.log2 := by
      rw [Nat.log2_eq_log_two, Nat.log2_eq_log_two]
      exact Nat.log_mono_right le
    rcases figures.lt_or_eq with fewer | same
    · calc nearest m ≤ 2 ^ (m.log2 + 1) := (nearest_bounds (by omega)).2
        _ ≤ 2 ^ n.log2 := Nat.pow_le_pow_right (by decide) fewer
        _ ≤ nearest n := (nearest_bounds (by omega)).1
    · unfold nearest lastPlace
      rw [same]
      exact Nat.mul_le_mul_right _ (roundedQuotient_mono le)

/-! ## Rounding significands -/

/-- What is left of a significand, and the bits for what was shifted out: whether this is at least
half a unit, and whether it is neither nothing nor exactly half a unit. -/
structure IsQuotient (em : ExtendedMantissa) (m unit : Nat) : Prop where
  mantissa : em.mantissa = m / unit
  roundBit : em.roundBit = true ↔ unit ≤ 2 * (m % unit)
  stickyBit : em.stickyBit = true ↔ 2 * (m % unit) ≠ 0 ∧ 2 * (m % unit) ≠ unit

namespace IsQuotient

variable {em : ExtendedMantissa} {m unit : Nat}

theorem exact (m : Nat) : IsQuotient ⟨m, false, false⟩ m 1 := by
  constructor <;> simp [Nat.mod_one]

theorem shiftRightOne (positive : 0 < unit) (h : IsQuotient em m unit) :
    IsQuotient em.shiftRightOne m (unit * 2) := by
  have remainder : m % (unit * 2) = m % unit + unit * (m / unit % 2) := Nat.mod_mul
  have below : m % unit < unit := Nat.mod_lt m positive
  have parity : m / unit % 2 = 0 ∨ m / unit % 2 = 1 := by omega
  refine ⟨?_, ?_, ?_⟩
  · show em.mantissa / 2 = m / (unit * 2)
    rw [h.mantissa, Nat.div_div_eq_div_mul]
  · show (em.mantissa % 2 != 0) = true ↔ _
    rw [bne_iff_ne, h.mantissa, remainder]
    rcases parity with even | odd
    · rw [even, Nat.mul_zero]
      omega
    · rw [odd, Nat.mul_one]
      omega
  · show (em.roundBit || em.stickyBit) = true ↔ _
    rw [Bool.or_eq_true, h.roundBit, h.stickyBit, remainder]
    rcases parity with even | odd
    · rw [even, Nat.mul_zero]
      omega
    · rw [odd, Nat.mul_one]
      omega

theorem shiftRight (m s : Nat) :
    IsQuotient ((⟨m, false, false⟩ : ExtendedMantissa) >>> s) m (2 ^ s) := by
  induction s with
  | zero => exact exact m
  | succ s ih => exact ih.shiftRightOne (Nat.pow_pos (by decide))

/-- The bits decide the rounding as the remainder does. -/
theorem roundedMantissa (positive : 0 < unit) (h : IsQuotient em m unit) :
    em.roundedMantissa = roundedQuotient m unit := by
  obtain ⟨mantissa, roundBit, stickyBit⟩ := h
  rcases em with ⟨q, r, s⟩
  dsimp only at mantissa roundBit stickyBit
  subst mantissa
  have below : m % unit < unit := Nat.mod_lt m positive
  unfold roundedQuotient
  cases r <;> cases s <;>
    simp only [Bool.false_eq_true, false_iff, true_iff, not_and, not_not, not_le]
      at roundBit stickyBit
  case false.false =>
    rw [if_pos (.inl roundBit)]
    rfl
  case false.true =>
    rw [if_pos (.inl roundBit)]
    rfl
  case true.false =>
    -- exactly half a unit
    show m / unit + m / unit % 2 = _
    split <;> omega
  case true.true =>
    show m / unit + 1 = _
    rw [if_neg (by omega)]

end IsQuotient

/-- A significand of more than 53 figures is brought to 53. -/
theorem shiftToTargetExponent_long {m k : Nat} {e : Int} (figures : m.log2 = 52 + k)
    (low : -52 ≤ e + k) : shiftToTargetExponent Format.binary64 m e .exact =
      ((⟨m, false, false⟩ : ExtendedMantissa) >>> k, e + k) := by
  have amount : (Format.targetExponent Format.binary64 (totalExponent m e) - e).toNat = k := by
    show (max ((m.log2 : Int) + 1 + e - 53) (-1074) - e).toNat = k
    omega
  show ((⟨m, false, false⟩ : ExtendedMantissa) >>>
      (Format.targetExponent Format.binary64 (totalExponent m e) - e).toNat,
    e + ((Format.targetExponent Format.binary64 (totalExponent m e) - e).toNat : Int)) = _
  rw [amount]

theorem log2_of_full {m : Nat} (long : 2 ^ 52 ≤ m) (narrow : m < 2 ^ 53) : m.log2 = 52 :=
  (Nat.log2_eq_iff (by omega)).mpr ⟨long, narrow⟩

/-- Rounding gives a significand of 53 figures, or of one more whose last figure is a zero. -/
theorem holds_roundWithAccuracy (s : Sign) {m k v : Nat} {e : Int} (figures : m.log2 = 52 + k)
    (low : -52 ≤ e + k)
    (value : roundedQuotient m (2 ^ k) * 2 ^ (e + k + 52).toNat = v * 2 ^ 52) :
    Holds (roundWithAccuracy Format.binary64 s m e .exact) (s.apply v) := by
  have present : m ≠ 0 := by
    rintro rfl
    exact absurd figures (by rw [Nat.log2_zero]; omega)
  have long : 2 ^ 52 ≤ m := (Nat.le_log2 present).mp (by omega)
  have place : lastPlace m = 2 ^ k := by rw [lastPlace, figures, Nat.add_sub_cancel_left]
  obtain ⟨least, most⟩ := roundedQuotient_lastPlace long
  rw [place] at least most
  have rounded : ((⟨m, false, false⟩ : ExtendedMantissa) >>> k).roundedMantissa =
      roundedQuotient m (2 ^ k) :=
    (IsQuotient.shiftRight m k).roundedMantissa (Nat.pow_pos (by decide))
  unfold roundWithAccuracy
  rw [shiftToTargetExponent_long figures low]
  dsimp only
  rw [rounded]
  generalize roundedQuotient m (2 ^ k) = q at least most value
  rcases most.lt_or_eq with narrow | rfl
  · have kept : (⟨q, false, false⟩ : ExtendedMantissa) >>> 0 = ⟨q, false, false⟩ := rfl
    rw [shiftToTargetExponent_long (k := 0) (log2_of_full least narrow) (by omega), kept]
    dsimp only
    rw [dif_neg (by omega)]
    exact .finite s _ least narrow (by omega) (by rwa [Nat.cast_zero, Int.add_zero])
  · have halved : (⟨2 ^ 53, false, false⟩ : ExtendedMantissa) >>> 1 = ⟨2 ^ 52, false, false⟩ := rfl
    have doubled : (e + k + (1 : Nat) + 52).toNat = (e + k + 52).toNat + 1 := by omega
    rw [shiftToTargetExponent_long (k := 1) (by decide +kernel) (by omega), halved]
    dsimp only
    rw [dif_neg (by decide)]
    refine .finite s _ (Nat.le_refl _) (by decide) (by omega) ?_
    rw [doubled, ← value]
    ring

theorem log2_mul_two_pow {n : Nat} (present : n ≠ 0) (c : Nat) :
    (n * 2 ^ c).log2 = n.log2 + c := by
  have present' : n * 2 ^ c ≠ 0 := Nat.mul_ne_zero present (Nat.pow_pos (by decide)).ne'
  refine (Nat.log2_eq_iff present').mpr ⟨?_, ?_⟩
  · rw [Nat.pow_add]
    exact Nat.mul_le_mul_right _ (Nat.log2_self_le present)
  · rw [Nat.add_right_comm, Nat.pow_add]
    exact Nat.mul_lt_mul_of_pos_right Nat.lt_log2_self (Nat.pow_pos (by decide))

/-- A number that is shifted far enough to have 53 figures is rounded to the nearest double. -/
theorem holds_roundWithAccuracy_nearest (s : Sign) {n c : Nat} (present : n ≠ 0)
    (far : 52 ≤ n.log2 + c) :
    Holds (roundWithAccuracy Format.binary64 s (n * 2 ^ c) (-c) .exact) (s.apply (nearest n)) := by
  obtain ⟨k, figures⟩ := Nat.exists_eq_add_of_le far
  have scale : (-(c : Int) + k + 52).toNat = n.log2 := by omega
  refine holds_roundWithAccuracy s ((log2_mul_two_pow present c).trans figures) (by omega) ?_
  rw [scale]
  rcases Nat.le_total k c with few | many
  · -- there is no figure to cut
    have short : n < 2 ^ 53 :=
      Nat.lt_log2_self.trans_le (Nat.pow_le_pow_right (by decide) (by omega))
    have split : n * 2 ^ c = n * 2 ^ (c - k) * 2 ^ k := by
      rw [Nat.mul_assoc, ← Nat.pow_add, Nat.sub_add_cancel few]
    have quotient : roundedQuotient (n * 2 ^ c) (2 ^ k) = n * 2 ^ (c - k) := by
      rw [split, roundedQuotient_mul_self (Nat.pow_pos (by decide))]
    rw [nearest_of_lt short, quotient, Nat.mul_assoc, ← Nat.pow_add,
      show c - k + n.log2 = 52 by omega]
  · have split : 2 ^ k = lastPlace n * 2 ^ c := by
      rw [lastPlace, ← Nat.pow_add, show n.log2 - 52 + c = k by omega]
    rw [split, roundedQuotient_mul_right (Nat.pow_pos (by decide)), nearest, lastPlace,
      Nat.mul_assoc, ← Nat.pow_add, show n.log2 - 52 + 52 = n.log2 by omega]

/-! ## Packing -/

theorem unpackSign_packComponents {format : Format} {s : Sign}
    {exponent : BitVec format.exponentBits}
    {mantissa : BitVec format.mantissaBitsWithoutImplicit} :
    unpackSign (packComponents format s exponent mantissa) = s.toBitVec := by
  ext i hi
  obtain rfl : i = 0 := by omega
  delta unpackSign
  simp [packComponents, BitVec.getLsbD_eq_getElem, BitVec.getLsbD_append,
    BitVec.getElem_append]

theorem ofBitVec_toBitVec (s : Sign) : Sign.ofBitVec s.toBitVec = s := by
  cases s <;> rfl

/-- The leading figure of a full significand is left out and put back. -/
theorem toNat_one_append {m : Nat} (long : 2 ^ 52 ≤ m) (narrow : m < 2 ^ 53) :
    (1#1 ++ BitVec.ofNat 52 m).toNat = m := by
  rw [BitVec.toNat_append, BitVec.toNat_ofNat]
  show 1 <<< 52 ||| m % 2 ^ 52 = m
  rw [← Nat.shiftLeft_add_eq_or_of_lt (Nat.mod_lt _ (by decide)), Nat.shiftLeft_eq]
  omega

/-- A full significand is packed beside its exponent, which is moved up to be positive. -/
theorem pack_full (s : Sign) {m : Nat} {e : Int} (positive : 0 < m) (long : 2 ^ 52 ≤ m)
    (narrow : m < 2 ^ 53) (high : e ≤ 971) :
    pack Format.binary64 (.finite s m e positive) =
      packComponents Format.binary64 s (BitVec.ofNat 11 (e + 1023 + 52).toNat)
        (BitVec.ofNat 52 m) := by
  have bound : ¬ 2 ^ Format.binary64.exponentBits ≤ (e + Format.binary64.exponentBias +
      Format.binary64.mantissaBitsWithoutImplicit).toNat + 1 := by
    show ¬ 2048 ≤ (e + 1023 + 52).toNat + 1
    omega
  have full : m.log2 + 1 = Format.binary64.mantissaBits := by rw [log2_of_full long narrow]; rfl
  unfold pack
  dsimp only
  rw [if_neg bound, if_pos full]
  rfl

/-- The first and the last exponent have a meaning of their own, all others are moved back. -/
theorem unpack_full (s : Sign) {m biased : Nat} (positive : 0 < m) (long : 2 ^ 52 ≤ m)
    (narrow : m < 2 ^ 53) (first : 0 < biased) (last : biased < 2047) :
    unpack Format.binary64 (packComponents Format.binary64 s (BitVec.ofNat 11 biased)
      (BitVec.ofNat 52 m)) = .finite s m (biased - 1075) positive := by
  have kept : (BitVec.ofNat 11 biased).toNat = biased := by
    rw [BitVec.toNat_ofNat]
    omega
  have notLast : BitVec.ofNat 11 biased ≠ -1#11 := by
    intro same
    have : biased = 2047 := by rw [← kept, same]; rfl
    omega
  have notFirst : BitVec.ofNat 11 biased ≠ 0#11 := by
    intro same
    have : biased = 0 := by rw [← kept, same]; rfl
    omega
  unfold unpack
  dsimp only
  rw [UnpackedFloat.unpackExponent_packComponents, if_neg notLast, if_neg notFirst,
    unpackSign_packComponents, ofBitVec_toBitVec, kept]
  rw [UnpackedFloat.finite.injEq, UnpackedFloat.unpackMantissa_packComponents]
  exact ⟨rfl, toNat_one_append long narrow, rfl⟩

namespace Holds

variable {u : UnpackedFloat} {a : Int}

theorem isFinite (h : Holds u a) : u.isFinite = true := by
  cases h <;> rfl

/-- The double of an integer of 64 bits is packed without loss. -/
theorem unpack_pack (h : Holds u a) (small : a.natAbs ≤ 2 ^ 64) :
    Holds (unpack Format.binary64 (pack Format.binary64 u)) a := by
  cases h with
  | zero s => cases s <;> exact zero _
  | @finite s m n e positive long narrow low value =>
    have small' : n ≤ 2 ^ 64 := by cases s <;> simpa [Sign.apply] using small
    have high : e ≤ 12 := by
      by_contra higher
      have : 2 ^ 52 * 2 ^ 65 ≤ m * 2 ^ (e + 52).toNat :=
        Nat.mul_le_mul long (Nat.pow_le_pow_right (by decide) (by omega))
      omega
    have moved : ((e + 1023 + 52).toNat : Int) - 1075 = e := by omega
    rw [pack_full s positive long narrow (by omega),
      unpack_full s positive long narrow (by omega) (by omega), moved]
    exact finite s positive long narrow low value

theorem neg (h : Holds u a) : Holds u.neg (-a) := by
  cases h with
  | zero s => exact zero _
  | finite s positive long narrow low value =>
    cases s
    · rw [Sign.apply, Int.neg_neg]
      exact finite .positive positive long narrow low value
    · exact finite .negative positive long narrow low value

/-- Nothing is lost in a multiplication by one. -/
theorem mul_one (h : Holds u a) :
    Holds (mul Format.binary64 u (.finite .positive (2 ^ 52) (-52) (by decide))) a := by
  cases h with
  | zero s => exact zero _
  | @finite s m n e positive long narrow low value =>
    have sign : s * .positive = s := by cases s <;> rfl
    show Holds (roundWithAccuracy Format.binary64 (s * .positive) (m * 2 ^ 52) (e + -52) .exact) _
    rw [sign]
    have figures : (m * 2 ^ 52).log2 = 52 + 52 := by
      rw [log2_mul_two_pow (Nat.pos_iff_ne_zero.mp positive), log2_of_full long narrow]
    refine holds_roundWithAccuracy s figures (by omega) ?_
    have scale : e + -52 + (52 : Nat) + 52 = e + 52 := by omega
    rw [roundedQuotient_mul_self (by decide), ← value, scale]

end Holds

/-! ## The doubles of integers -/

theorem nearest_le {n : Nat} (small : n ≤ 2 ^ 64) : nearest n ≤ 2 ^ 64 :=
  (nearest_mono small).trans_eq (by decide +kernel)

theorem unpack_one : (Float.ofBits 0x3FF0000000000000).toModel.unpack =
    .finite .positive (2 ^ 52) (-52) (by decide) :=
  rfl

/-- A machine number of at most 53 figures is converted without loss. -/
theorem holds_toFloat {n : UInt64} (short : n.toNat < 2 ^ 53) :
    Holds n.toFloat.toModel.unpack n.toNat := by
  refine Holds.unpack_pack ?_ (by omega)
  show Holds (UnpackedFloat.normalize Format.binary64 n.toNat 0 .positive) n.toNat
  generalize n.toNat = n at short
  by_cases present : n = 0
  · subst present
    exact .zero _
  · have figures : n.log2 ≤ 52 := Nat.le_of_lt_succ ((Nat.log2_lt present).mpr short)
    have target : Format.targetExponent Format.binary64 (totalExponent n 0) =
        -((52 - n.log2 : Nat) : Int) := by
      show max ((n.log2 : Int) + 1 + 0 - 53) (-1074) = _
      omega
    have rounds : UnpackedFloat.normalize Format.binary64 n 0 .positive =
        roundWithAccuracy Format.binary64 .positive (n * 2 ^ (52 - n.log2))
          (-(52 - n.log2 : Nat)) .exact := by
      have greater : compare (n : Int) 0 = .gt := compare_gt_iff_gt.mpr (by omega)
      unfold UnpackedFloat.normalize
      rw [greater]
      show UnpackedFloat.round Format.binary64 .positive n 0 = _
      unfold UnpackedFloat.round UnpackedFloat.decreaseExponent
      dsimp only
      rw [target, Int.zero_sub, Int.neg_neg, Int.toNat_natCast, Nat.shiftLeft_eq, Int.zero_sub]
    have rounded := holds_roundWithAccuracy_nearest .positive present
      (show 52 ≤ n.log2 + (52 - n.log2) by omega)
    rw [nearest_of_lt short] at rounded
    rwa [rounds]

/-- The double made of a natural number of at most 64 bits holds the nearest number of 53
significant figures. -/
theorem holds_ofNat {n : Nat} (small : n < 2 ^ 64) :
    Holds (Float.ofNat n).toModel.unpack (nearest n) := by
  have small' : ((nearest n : Nat) : Int).natAbs ≤ 2 ^ 64 := nearest_le small.le
  show Holds (Float.ofScientific n false 0).toModel.unpack _
  unfold Float.ofScientific
  split
  · have short : n < 2 ^ 53 := by omega
    have same : n.toUInt64.toNat = n := Nat.mod_eq_of_lt small
    have converted := holds_toFloat (same.symm ▸ short)
    rw [same] at converted
    have product := converted.mul_one.unpack_pack (by omega)
    rw [← unpack_one] at product
    rw [nearest_of_lt short]
    exact product
  · have present : n ≠ 0 := by
      rintro rfl
      exact absurd (show 0 < 2 ^ 53 ∧ 0 ≤ 22 by decide) ‹_›
    have modest : ¬ (0 : Int) < -(2 ^ Format.binary64.exponentBits + (n.log2 : Int)) := by
      show ¬ (0 : Int) < -(2048 + (n.log2 : Int))
      omega
    refine Holds.unpack_pack ?_ small'
    show Holds (UnpackedFloat.ofScientific Format.binary64 n 0) _
    unfold UnpackedFloat.ofScientific
    rw [dif_neg present, if_neg (by decide), if_neg modest, if_pos (Int.le_refl 0)]
    show Holds (roundWithAccuracy Format.binary64 .positive (n <<< 53 * 1) (-(53 : Nat)) .exact) _
    rw [Nat.mul_one, Nat.shiftLeft_eq]
    exact holds_roundWithAccuracy_nearest .positive present (by omega)

/-- The integer of 53 significant figures nearest to an integer. -/
def nearestInt : Int → Int
  | .ofNat n => nearest n
  | .negSucc n => -nearest (n + 1)

theorem holds_ofInt {n : Int} (low : -2 ^ 63 ≤ n) (high : n < 2 ^ 64) :
    Holds (Float.ofInt n).toModel.unpack (nearestInt n) := by
  cases n with
  | ofNat n => exact holds_ofNat (Int.ofNat_lt.mp high)
  | negSucc n =>
    have small : n + 1 < 2 ^ 64 := by omega
    refine (holds_ofNat small).neg.unpack_pack ?_
    rw [Int.natAbs_neg]
    exact nearest_le small.le

/-- Every integer of 64 bits, signed or not, has a finite double nearest to it. -/
theorem isFinite_ofInt {n : Int} (low : -2 ^ 63 ≤ n) (high : n < 2 ^ 64) :
    (Float.ofInt n).isFinite = true :=
  (holds_ofInt low high).isFinite

theorem nearestInt_of_le {n : Int} (short : n.natAbs ≤ 2 ^ 53) : nearestInt n = n := by
  cases n with
  | ofNat n => exact congrArg Nat.cast (nearest_of_le short)
  | negSucc n =>
    have same : nearest (n + 1) = n + 1 := nearest_of_le short
    show -((nearest (n + 1) : Nat) : Int) = _
    rw [same]
    rfl

theorem nearestInt_mono {a b : Int} (le : a ≤ b) : nearestInt a ≤ nearestInt b := by
  cases a with
  | ofNat m =>
    cases b with
    | ofNat n => exact Int.ofNat_le.mpr (nearest_mono (Int.ofNat_le.mp le))
    | negSucc n => exact absurd le (by simp only [Int.ofNat_eq_natCast]; omega)
  | negSucc m =>
    cases b with
    | ofNat n =>
      show -((nearest (m + 1) : Nat) : Int) ≤ (nearest n : Nat)
      omega
    | negSucc n =>
      have : nearest (n + 1) ≤ nearest (m + 1) := nearest_mono (by omega)
      show -((nearest (m + 1) : Nat) : Int) ≤ -((nearest (n + 1) : Nat) : Int)
      omega

end ReportRules.Decimal
