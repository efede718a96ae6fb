import DiceOdds.Proofs.Numeric.Exact
import Mathlib

/-!
# Whole Numbers in Doubles

A double is a mantissa of 53 bits, a sign and an exponent.  A whole number below `2 ^ 53` has
exactly one such form, its mantissa being shifted until all bits are filled (`standard`).  An
operation on doubles first gives a mantissa with more bits, or with fewer, and then rounds it.
Where the exact result is a whole number below `2 ^ 53`, the bits that rounding drops are noughts,
so that the standard form of the result comes out (`roundWithAccuracy_eq`).

**Main statement**: `exactBelow_float`.
-/

namespace DiceOdds

open Float.Model Float.Model.UnpackedFloat

namespace Double

/-! ## §1 Whole numbers in 53 bits -/

/-- How far a whole number is shifted to fill the 53 bits of a double. -/
def lift (n : Nat) : Nat := 52 - n.log2

theorem log2_mul_two_pow {n : Nat} (hn : 0 < n) (k : Nat) : (n * 2 ^ k).log2 = n.log2 + k := by
  have hne : n ≠ 0 := Nat.ne_of_gt hn
  rw [Nat.log2_eq_iff (Nat.ne_of_gt (Nat.mul_pos hn (Nat.two_pow_pos k)))]
  constructor
  · rw [Nat.pow_add]
    exact Nat.mul_le_mul_right _ (Nat.log2_self_le hne)
  · rw [Nat.add_right_comm, Nat.pow_add]
    exact Nat.mul_lt_mul_of_pos_right Nat.lt_log2_self (Nat.two_pow_pos k)

theorem log2_le_of_lt {n : Nat} (h : n < 2 ^ 53) : n.log2 ≤ 52 := by
  by_cases hn : n = 0
  · subst hn
    decide
  · exact Nat.le_of_lt_succ ((Nat.log2_lt hn).mpr h)

/-- The double of a whole number, with a sign. -/
def standard (s : Sign) (n : Nat) : UnpackedFloat :=
  if h : n = 0 then .zero .positive
  else .finite s (n * 2 ^ lift n) (-(lift n : Int))
    (Nat.mul_pos (Nat.pos_of_ne_zero h) (Nat.two_pow_pos _))

theorem standard_of_pos (s : Sign) {n : Nat} (h : 0 < n) :
    standard s n = .finite s (n * 2 ^ lift n) (-(lift n : Int))
      (Nat.mul_pos h (Nat.two_pow_pos _)) := dif_neg (Nat.ne_of_gt h)

/-! ## §2 Rounding -/

theorem shiftRight_exact (m j : Nat) :
    ExtendedMantissa.ofMantissaAndAccuracy (m * 2 ^ j) .exact >>> j =
      ExtendedMantissa.ofMantissaAndAccuracy m .exact := by
  show j.repeat ExtendedMantissa.shiftRightOne _ = _
  induction j generalizing m with
  | zero =>
    rw [Nat.pow_zero, Nat.mul_one]
    rfl
  | succ j ih =>
    -- all but the last bit go first, and that bit is nought
    rw [Nat.repeat, Nat.pow_succ, Nat.mul_comm (2 ^ j) 2, ← Nat.mul_assoc, ih]
    show ExtendedMantissa.mk (m * 2 / 2) (m * 2 % 2 != 0) (false || false) = ⟨m, false, false⟩
    rw [Nat.mul_div_cancel m (by decide), Nat.mul_mod_left]
    rfl

theorem targetExponent_eq {n : Nat} (hn : 0 < n) (h : n < 2 ^ 53) (k : Nat) :
    Format.binary64.targetExponent (totalExponent (n * 2 ^ k) (-(k : Int))) = -(lift n : Int) := by
  have hlog := log2_le_of_lt h
  have hmin : Format.binary64.minExponent = -1074 := by decide
  have hbits : Format.binary64.mantissaBits = 53 := rfl
  rw [Format.targetExponent, totalExponent, log2_mul_two_pow hn, hmin, hbits]
  unfold lift
  omega

theorem shiftToTargetExponent_eq {n : Nat} (hn : 0 < n) (h : n < 2 ^ 53) {k : Nat}
    (hk : lift n ≤ k) :
    shiftToTargetExponent Format.binary64 (n * 2 ^ k) (-(k : Int)) .exact =
      (ExtendedMantissa.ofMantissaAndAccuracy (n * 2 ^ lift n) .exact, -(lift n : Int)) := by
  have hamount : (-(lift n : Int) - -(k : Int)).toNat = k - lift n := by omega
  have hsplit : n * 2 ^ k = n * 2 ^ lift n * 2 ^ (k - lift n) := by
    rw [Nat.mul_assoc, ← Nat.pow_add, Nat.add_sub_cancel' hk]
  rw [shiftToTargetExponent, targetExponent_eq hn h]
  simp only [shiftToExponent, hamount]
  rw [hsplit, shiftRight_exact]
  congr 1
  omega

/-- A whole number, however far it is shifted, is rounded to its double. -/
theorem roundWithAccuracy_eq (s : Sign) {n : Nat} (hn : 0 < n) (h : n < 2 ^ 53) {k : Nat}
    (hk : lift n ≤ k) :
    roundWithAccuracy Format.binary64 s (n * 2 ^ k) (-(k : Int)) .exact = standard s n := by
  have hpos : n * 2 ^ lift n ≠ 0 := Nat.ne_of_gt (Nat.mul_pos hn (Nat.two_pow_pos _))
  have hround : (ExtendedMantissa.ofMantissaAndAccuracy (n * 2 ^ lift n) .exact).roundedMantissa =
      n * 2 ^ lift n := rfl
  unfold roundWithAccuracy
  simp only [shiftToTargetExponent_eq hn h hk, hround,
    shiftToTargetExponent_eq hn h (Nat.le_refl (lift n))]
  rw [dif_neg (by exact hpos), standard_of_pos s hn]
  rfl

theorem round_eq (s : Sign) {n : Nat} (hn : 0 < n) (h : n < 2 ^ 53) (k : Nat) :
    UnpackedFloat.round Format.binary64 s (n * 2 ^ k) (-(k : Int)) = standard s n := by
  unfold UnpackedFloat.round
  simp only [targetExponent_eq hn h, decreaseExponent]
  -- the number is shifted until it fills the 53 bits
  have hamount : (-(k : Int) - -(lift n : Int)).toNat = lift n - k := by omega
  have hexponent : -(k : Int) - ((lift n - k : Nat) : Int) = -((max k (lift n) : Nat) : Int) := by
    omega
  have hmantissa : n * 2 ^ k * 2 ^ (lift n - k) = n * 2 ^ max k (lift n) := by
    rw [Nat.mul_assoc, ← Nat.pow_add]
    congr 2
    omega
  rw [hamount, hexponent, Nat.shiftLeft_eq, hmantissa]
  exact roundWithAccuracy_eq s hn h (Nat.le_max_right _ _)

/-- The sign of a whole number; nought counts as positive. -/
def signOf (a : Int) : Sign := if a < 0 then .negative else .positive

/-- The double of a whole number. -/
def image (a : Int) : UnpackedFloat := standard (signOf a) a.natAbs

theorem image_of_neg {a : Int} (h : a < 0) : image a = standard .negative a.natAbs := by
  rw [image, signOf, if_pos h]

theorem image_of_nonneg {a : Int} (h : 0 ≤ a) : image a = standard .positive a.natAbs := by
  rw [image, signOf, if_neg (Int.not_lt.mpr h)]

theorem normalize_eq {a : Int} (h : a.natAbs < 2 ^ 53) (k : Nat) :
    UnpackedFloat.normalize Format.binary64 (a * 2 ^ k) (-(k : Int)) .positive = image a := by
  have hpow : (0 : Int) < 2 ^ k := Int.pow_pos (by decide)
  have habs : (a * 2 ^ k).natAbs = a.natAbs * 2 ^ k := by
    rw [Int.natAbs_mul, Int.natAbs_pow]
    rfl
  unfold UnpackedFloat.normalize
  rcases Int.lt_trichotomy a 0 with hneg | rfl | hpos
  · have hlt : a * 2 ^ k < 0 := Int.mul_neg_of_neg_of_pos hneg hpow
    have hmantissa : (-(a * 2 ^ k)).toNat = a.natAbs * 2 ^ k := by
      rw [← habs]
      omega
    have hcompare : compare (a * 2 ^ k) 0 = .lt := Int.compare_eq_lt.mpr hlt
    simp only [hcompare, hmantissa]
    rw [round_eq _ (by omega) h, image_of_neg hneg]
  · rw [Int.zero_mul]
    rfl
  · have hgt : 0 < a * 2 ^ k := Int.mul_pos hpos hpow
    have hmantissa : (a * 2 ^ k).toNat = a.natAbs * 2 ^ k := by
      rw [← habs]
      omega
    have hcompare : compare (a * 2 ^ k) 0 = .gt := Int.compare_eq_gt.mpr hgt
    simp only [hcompare, hmantissa]
    rw [round_eq _ (by omega) h, image_of_nonneg (Int.le_of_lt hpos)]

/-! ## §3 Packing -/

theorem log2_filled {n : Nat} (hn : 0 < n) (h : n < 2 ^ 53) : (n * 2 ^ lift n).log2 = 52 := by
  have hlog := log2_le_of_lt h
  rw [log2_mul_two_pow hn]
  unfold lift
  omega

theorem filled_bounds {n : Nat} (hn : 0 < n) (h : n < 2 ^ 53) :
    2 ^ 52 ≤ n * 2 ^ lift n ∧ n * 2 ^ lift n < 2 ^ 53 := by
  have hlog := log2_filled hn h
  have hne : n * 2 ^ lift n ≠ 0 := Nat.ne_of_gt (Nat.mul_pos hn (Nat.two_pow_pos _))
  constructor
  · exact hlog ▸ Nat.log2_self_le hne
  · exact (Nat.log2_lt hne).mp (by omega)

/-- The exponent of a whole number is neither the least one nor the greatest. -/
theorem pack_standard (s : Sign) {n : Nat} (hn : 0 < n) (h : n < 2 ^ 53) :
    UnpackedFloat.pack Format.binary64 (standard s n) =
      packComponents Format.binary64 s (BitVec.ofNat 11 (1075 - lift n))
        (BitVec.ofNat 52 (n * 2 ^ lift n)) := by
  have hlift : lift n ≤ 52 := Nat.sub_le _ _
  have hlog := log2_filled hn h
  have hbiased : (-(lift n : Int) + 1023 + 52).toNat = 1075 - lift n := by omega
  rw [standard_of_pos s hn]
  show (if 2 ^ 11 ≤ (-(lift n : Int) + 1023 + 52).toNat + 1 then _
    else if (n * 2 ^ lift n).log2 + 1 = 53 then packComponents Format.binary64 s
      (BitVec.ofNat 11 (-(lift n : Int) + 1023 + 52).toNat) _ else _) = _
  rw [hbiased, if_neg (by omega), if_pos (by omega)]

theorem unpack_pack_standard (s : Sign) {n : Nat} (hn : 0 < n) (h : n < 2 ^ 53) :
    (pack (standard s n)).unpack = standard s n := by
  have hlift : lift n ≤ 52 := Nat.sub_le _ _
  obtain ⟨hlow, hhigh⟩ := filled_bounds hn h
  have hexponent : (BitVec.ofNat 11 (1075 - lift n)).toNat = 1075 - lift n :=
    Nat.mod_eq_of_lt (by omega)
  have hinfinite : BitVec.ofNat 11 (1075 - lift n) ≠ -1#11 := by
    intro heq
    have hgreatest : (-1#11).toNat = 2047 := by decide
    rw [← heq, hexponent] at hgreatest
    omega
  have hsubnormal : BitVec.ofNat 11 (1075 - lift n) ≠ 0#11 := by
    intro heq
    have hleast : (0#11).toNat = 0 := by decide
    rw [← heq, hexponent] at hleast
    omega
  -- the leading bit of the mantissa is left out in packing, and put back in unpacking
  have himplicit : (1#1 ++ BitVec.ofNat 52 (n * 2 ^ lift n)).toNat = n * 2 ^ lift n := by
    rw [BitVec.toNat_append, ← Nat.shiftLeft_add_eq_or_of_lt (BitVec.isLt _), BitVec.toNat_ofNat,
      BitVec.toNat_ofNat, Nat.shiftLeft_eq]
    omega
  show UnpackedFloat.unpack Format.binary64 (UnpackedFloat.pack Format.binary64 _) = _
  rw [pack_standard s hn h, standard_of_pos s hn]
  unfold UnpackedFloat.unpack
  simp only [unpackMantissa_packComponents, unpackExponent_packComponents,
    unpackSign_packComponents, Sign.ofBitVec_toBitVec]
  rw [if_neg hinfinite, if_neg hsubnormal]
  simp only [himplicit, hexponent]
  congr 1
  show ((1075 - lift n : Nat) : Int) - (1023 + 52) = _
  omega

theorem unpack_pack_image {a : Int} (h : a.natAbs < 2 ^ 53) :
    (pack (image a)).unpack = image a := by
  by_cases ha : a = 0
  · subst ha
    rfl
  · exact unpack_pack_standard _ (by omega) h

/-! ## §4 Operations -/

theorem image_of_ne_zero {a : Int} (h : a ≠ 0) :
    image a = .finite (signOf a) (a.natAbs * 2 ^ lift a.natAbs) (-(lift a.natAbs : Int))
      (Nat.mul_pos (Int.natAbs_pos.mpr h) (Nat.two_pow_pos _)) :=
  standard_of_pos _ (Int.natAbs_pos.mpr h)

theorem signOf_apply_natAbs (a : Int) : (signOf a).apply a.natAbs = a := by
  unfold signOf
  split
  · show -(a.natAbs : Int) = a
    omega
  · show (a.natAbs : Int) = a
    omega

/-- The mantissa of a double, brought to a smaller exponent. -/
theorem decreaseExponent_eq (n : Nat) {l k : Nat} (h : l ≤ k) :
    decreaseExponent (n * 2 ^ l) (-(l : Int)) (-(k : Int)) = (n * 2 ^ k, -(k : Int)) := by
  have hamount : (-(l : Int) - -(k : Int)).toNat = k - l := by omega
  unfold decreaseExponent
  simp only [hamount, Nat.shiftLeft_eq, Nat.mul_assoc, ← Nat.pow_add, Nat.add_sub_cancel' h]
  congr 1
  omega

theorem signOf_natCast (n : Nat) : signOf n = .positive :=
  if_neg (Int.not_lt.mpr (Int.natCast_nonneg n))

theorem signOf_mul {a : Int} {n : Nat} (hn : 0 < n) : signOf (a * n) = signOf a := by
  have hn' : (0 : Int) < n := by omega
  unfold signOf
  by_cases ha : a < 0
  · rw [if_pos ha, if_pos (Int.mul_neg_of_neg_of_pos ha hn')]
  · rw [if_neg ha, if_neg (Int.not_lt.mpr (Int.mul_nonneg (by omega) (by omega)))]

theorem div_positive (s : Sign) : s / .positive = s := by
  cases s <;> rfl

theorem apply_mul (s : Sign) (n m : Nat) : s.apply ((n * m : Nat) : Int) = s.apply n * m := by
  cases s with
  | negative =>
    show -((n * m : Nat) : Int) = -(n : Int) * m
    rw [Int.natCast_mul, Int.neg_mul]
  | positive => rfl

theorem add_image {a b : Int} (h : a.natAbs + b.natAbs < 2 ^ 53) :
    UnpackedFloat.add Format.binary64 (image a) (image b) = image (a + b) := by
  by_cases ha : a = 0
  · subst ha
    rw [Int.zero_add]
    by_cases hb : b = 0
    · subst hb
      rfl
    · rw [image_of_ne_zero hb]
      rfl
  · by_cases hb : b = 0
    · subst hb
      rw [Int.add_zero, image_of_ne_zero ha]
      rfl
    · -- both mantissas are brought to the smaller exponent and added there
      have hsum := Int.natAbs_add_le a b
      have hmin : min (-(lift a.natAbs : Int)) (-(lift b.natAbs : Int)) =
          -((max (lift a.natAbs) (lift b.natAbs) : Nat) : Int) := by omega
      rw [image_of_ne_zero ha, image_of_ne_zero hb,
        ← normalize_eq (by omega) (max (lift a.natAbs) (lift b.natAbs))]
      unfold UnpackedFloat.add
      simp only [hmin, decreaseExponent_eq _ (Nat.le_max_left _ _),
        decreaseExponent_eq _ (Nat.le_max_right _ _), apply_mul, signOf_apply_natAbs]
      rw [Int.add_mul]
      rfl

theorem log2_mul_le {q n : Nat} (hq : 0 < q) (hn : 0 < n) :
    n.log2 ≤ (q * n).log2 ∧ (q * n).log2 ≤ q.log2 + n.log2 + 1 := by
  have hpos : q * n ≠ 0 := Nat.ne_of_gt (Nat.mul_pos hq hn)
  constructor
  · rw [Nat.le_log2 hpos]
    exact Nat.le_trans (Nat.log2_self_le (Nat.ne_of_gt hn)) (Nat.le_mul_of_pos_left n hq)
  · apply Nat.le_of_lt_succ
    rw [Nat.log2_lt hpos]
    calc q * n < 2 ^ (q.log2 + 1) * 2 ^ (n.log2 + 1) :=
          Nat.mul_lt_mul'' Nat.lt_log2_self Nat.lt_log2_self
      _ = 2 ^ (q.log2 + n.log2 + 1).succ := by
          rw [← Nat.pow_add]
          congr 1
          omega

/-- Where the division comes out even, the quotient of the mantissas is exact. -/
theorem divCore_eq {q n : Nat} (hq : 0 < q) (hn : 0 < n) (h : q * n < 2 ^ 53) :
    ∃ k, lift q ≤ k ∧
      divCore Format.binary64 (q * n * 2 ^ lift (q * n)) (-(lift (q * n) : Int))
        (n * 2 ^ lift n) (-(lift n : Int)) = (q * 2 ^ k, -(k : Int), .exact) := by
  obtain ⟨hmono, hmul⟩ := log2_mul_le hq hn
  have hlog := log2_le_of_lt h
  have hmin : Format.binary64.minExponent = -1074 := by decide
  have hbits : Format.binary64.mantissaBits = 53 := rfl
  refine ⟨lift (q * n) + 53 - lift n, by unfold lift; omega, ?_⟩
  have htarget : min (-(lift (q * n) : Int) - -(lift n : Int))
      (Format.binary64.targetExponent
        (totalExponent (q * n * 2 ^ lift (q * n)) (-(lift (q * n) : Int)) -
          totalExponent (n * 2 ^ lift n) (-(lift n : Int)))) =
      -((lift (q * n) + 53 - lift n : Nat) : Int) := by
    rw [Format.targetExponent, totalExponent, totalExponent, log2_mul_two_pow (Nat.mul_pos hq hn),
      log2_mul_two_pow hn, hmin, hbits]
    unfold lift
    omega
  have hamount : (-(lift (q * n) : Int) - -(lift n : Int) -
      -((lift (q * n) + 53 - lift n : Nat) : Int)).toNat = 53 := by
    unfold lift
    omega
  have hquotient : q * n * 2 ^ lift (q * n) * 2 ^ 53 =
      q * 2 ^ (lift (q * n) + 53 - lift n) * (n * 2 ^ lift n) := by
    have hpow : 2 ^ lift (q * n) * 2 ^ 53 = 2 ^ (lift (q * n) + 53 - lift n) * 2 ^ lift n := by
      rw [← Nat.pow_add, ← Nat.pow_add]
      congr 1
      unfold lift
      omega
    rw [Nat.mul_assoc, hpow]
    ac_rfl
  have hpos : 0 < n * 2 ^ lift n := Nat.mul_pos hn (Nat.two_pow_pos _)
  unfold divCore
  simp only [htarget, hamount, Nat.shiftLeft_eq, hquotient, Nat.mul_div_cancel _ hpos,
    Nat.mul_mod_left]
  rfl

theorem div_image {a : Int} {n : Nat} (hn : 0 < n) (h : (a * n).natAbs < 2 ^ 53) :
    UnpackedFloat.div Format.binary64 (image (a * n)) (image n) = image a := by
  have hn' : (n : Int) ≠ 0 := by omega
  by_cases ha : a = 0
  · subst ha
    rw [Int.zero_mul, image_of_ne_zero hn', signOf_natCast]
    rfl
  · have habs : (a * n).natAbs = a.natAbs * n := by rw [Int.natAbs_mul, Int.natAbs_natCast]
    have hsmall : a.natAbs < 2 ^ 53 :=
      Nat.lt_of_le_of_lt (Nat.le_mul_of_pos_right _ hn) (habs ▸ h)
    obtain ⟨k, hk, hcore⟩ := divCore_eq (Int.natAbs_pos.mpr ha) hn (habs ▸ h)
    rw [image_of_ne_zero (Int.mul_ne_zero ha hn'), image_of_ne_zero hn']
    unfold UnpackedFloat.div
    simp only [habs, Int.natAbs_natCast, hcore, signOf_mul hn, signOf_natCast, div_positive]
    exact roundWithAccuracy_eq _ (Int.natAbs_pos.mpr ha) hsmall hk

theorem mul_image_one {n : Nat} (h : n < 2 ^ 53) :
    UnpackedFloat.mul Format.binary64 (image n) (image 1) = image n := by
  by_cases hn : n = 0
  · subst hn
    rfl
  · have hpos := Nat.pos_of_ne_zero hn
    have hmantissa : n * 2 ^ lift n * (1 * 2 ^ 52) = n * 2 ^ (lift n + 52) := by
      rw [Nat.one_mul, Nat.mul_assoc, ← Nat.pow_add]
    have hexponent : -(lift n : Int) + -((52 : Nat) : Int) = -((lift n + 52 : Nat) : Int) := by
      omega
    have hproduct : UnpackedFloat.mul Format.binary64 (standard .positive n) (image 1) =
        roundWithAccuracy Format.binary64 .positive (n * 2 ^ lift n * (1 * 2 ^ 52))
          (-(lift n : Int) + -((52 : Nat) : Int)) .exact := by
      rw [standard_of_pos .positive hpos]
      rfl
    rw [image_of_nonneg (Int.natCast_nonneg n), Int.natAbs_natCast, hproduct, hmantissa, hexponent]
    exact roundWithAccuracy_eq .positive hpos h (Nat.le_add_right (lift n) 52)

theorem neg_standard {n : Nat} (h : 0 < n) :
    (standard .positive n).neg = standard .negative n := by
  rw [standard_of_pos .positive h, standard_of_pos .negative h]
  rfl

/-! ## §5 Floats -/

/-- The double of a whole number. -/
def ofImage (a : Int) : Float := .ofModel (pack (image a))

theorem toFloat_eq {n : Nat} (h : n < 2 ^ 53) : n.toUInt64.toFloat = ofImage n := by
  have hword : n.toUInt64.toNat = n := Nat.mod_eq_of_lt (by omega)
  have hnormal := normalize_eq (a := n) h 0
  rw [Int.pow_zero, Int.mul_one] at hnormal
  show Float.ofModel (pack
    (UnpackedFloat.normalize Format.binary64 (n.toUInt64.toNat : Int) 0 .positive)) = _
  rw [hword]
  exact congrArg (fun u => Float.ofModel (pack u)) hnormal

theorem ofNat_eq {n : Nat} (h : n < 2 ^ 53) : Float.ofNat n = ofImage n := by
  have hn : (n : Int).natAbs < 2 ^ 53 := h
  have hone : Float.exactlyRepresentablePowersOfTen[0].toModel.unpack = image 1 := rfl
  show Float.ofScientific n false 0 = _
  unfold Float.ofScientific
  rw [dif_pos ⟨h, by decide⟩]
  show n.toUInt64.toFloat * Float.exactlyRepresentablePowersOfTen[0] = _
  rw [toFloat_eq h]
  show Float.ofModel (pack (UnpackedFloat.mul Format.binary64 (pack (image n)).unpack
    Float.exactlyRepresentablePowersOfTen[0].toModel.unpack)) = _
  rw [unpack_pack_image hn, hone, mul_image_one h]
  rfl

theorem ofInt_eq {a : Int} (h : a.natAbs < 2 ^ 53) : Float.ofInt a = ofImage a := by
  cases a with
  | ofNat n => exact ofNat_eq h
  | negSucc n =>
    have hn : n + 1 < 2 ^ 53 := h
    show Float.neg (Float.ofNat (n + 1)) = _
    rw [ofNat_eq hn]
    show Float.ofModel (pack (UnpackedFloat.neg (pack (image (n + 1 : Nat))).unpack)) = _
    rw [unpack_pack_image (by exact hn), image_of_nonneg (Int.natCast_nonneg (n + 1)),
      Int.natAbs_natCast, neg_standard (Nat.succ_pos n)]
    exact congrArg (fun u => Float.ofModel (pack u)) (image_of_neg (Int.negSucc_lt_zero n)).symm

end Double

open Double

/-- **Doubles are exact below `2 ^ 53`.** -/
theorem exactBelow_float : Numeric.ExactBelow Float (2 ^ 53) where
  add a b h := by
    have hsum := Int.natAbs_add_le a b
    show Float.add (Float.ofInt a) (Float.ofInt b) = Float.ofInt (a + b)
    rw [ofInt_eq (by omega), ofInt_eq (by omega), ofInt_eq (by omega)]
    show Float.ofModel (pack (UnpackedFloat.add Format.binary64 (pack (image a)).unpack
      (pack (image b)).unpack)) = _
    rw [unpack_pack_image (by omega), unpack_pack_image (by omega), add_image h]
    rfl
  div a n hn hn' h := by
    have hn'' : (n : Int).natAbs < 2 ^ 53 := hn'
    have ha : a.natAbs < 2 ^ 53 := by
      rw [Int.natAbs_mul, Int.natAbs_natCast] at h
      exact Nat.lt_of_le_of_lt (Nat.le_mul_of_pos_right _ hn) h
    show Float.div (Float.ofInt (a * n)) (Float.ofInt n) = Float.ofInt a
    rw [ofInt_eq h, ofInt_eq hn'', ofInt_eq ha]
    show Float.ofModel (pack (UnpackedFloat.div Format.binary64 (pack (image (a * n))).unpack
      (pack (image n)).unpack)) = _
    rw [unpack_pack_image h, unpack_pack_image hn'', div_image hn h]
    rfl

end DiceOdds
