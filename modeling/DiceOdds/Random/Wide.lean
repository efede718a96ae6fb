/-!
# Words of 128 Bits

Two machine words side by side, with sum and product modulo `2 ^ 128`.
-/

namespace DiceOdds.Random

/-- A word of 128 bits. -/
structure Wide where
  high : UInt64
  low : UInt64
  deriving DecidableEq, Repr

namespace Wide

/-- The number that a word stands for. -/
def toNat (w : Wide) : Nat := 18446744073709551616 * w.high.toNat + w.low.toNat

/-- The word of a number modulo `2 ^ 128`. -/
def ofNat (n : Nat) : Wide := ⟨(n / 18446744073709551616).toUInt64, n.toUInt64⟩

/-- The upper half of the product of two machine words, from the products of their halves. -/
@[inline] def mulHigh (a b : UInt64) : UInt64 :=
  let a0 := a % 4294967296
  let a1 := a / 4294967296
  let b0 := b % 4294967296
  let b1 := b / 4294967296
  let middle := a0 * b0 / 4294967296 + a1 * b0 % 4294967296 + a0 * b1 % 4294967296
  a1 * b1 + a1 * b0 / 4294967296 + a0 * b1 / 4294967296 + middle / 4294967296

/-- The sum of two words. -/
@[inline] def add (v w : Wide) : Wide :=
  let low := v.low + w.low
  -- a sum below its terms has wrapped around
  { high := v.high + w.high + (if low < v.low then 1 else 0), low }

/-- The product of two words. -/
@[inline] def mul (v w : Wide) : Wide :=
  { high := mulHigh v.low w.low + v.high * w.low + v.low * w.high
    low := v.low * w.low }

instance : Add Wide := ⟨add⟩
instance : Mul Wide := ⟨mul⟩

/-! ## Laws -/

theorem toNat_ofNat (n : Nat) :
    (ofNat n).toNat = n % 340282366920938463463374607431768211456 := by
  simp only [toNat, ofNat, Nat.toUInt64, UInt64.toNat_ofNat']
  omega

theorem toNat_add (v w : Wide) :
    (v + w).toNat = (v.toNat + w.toNat) % 340282366920938463463374607431768211456 := by
  have := v.low.toNat_lt
  have := w.low.toNat_lt
  have := v.high.toNat_lt
  have := w.high.toNat_lt
  show (add v w).toNat = _
  simp only [toNat, add, UInt64.lt_iff_toNat_lt, UInt64.toNat_add]
  split
  · simp only [UInt64.reduceToNat]
    omega
  · simp only [UInt64.reduceToNat]
    omega

/-- The product of two numbers from the products of their halves. -/
theorem mul_halves (m n : Nat) :
    m * n = 18446744073709551616 * (m / 4294967296 * (n / 4294967296))
      + 4294967296 * (m / 4294967296 * (n % 4294967296))
      + 4294967296 * (m % 4294967296 * (n / 4294967296))
      + m % 4294967296 * (n % 4294967296) := by
  have hm := Nat.div_add_mod m 4294967296
  have hn := Nat.div_add_mod n 4294967296
  generalize m / 4294967296 = m1 at *
  generalize m % 4294967296 = m0 at *
  generalize n / 4294967296 = n1 at *
  generalize n % 4294967296 = n0 at *
  rw [← hm, ← hn]
  grind

/-- The product of two halves fits into a machine word. -/
theorem mul_half_le {m n : Nat} (hm : m < 4294967296) (hn : n < 4294967296) :
    m * n ≤ 18446744065119617025 :=
  Nat.mul_le_mul (Nat.le_of_lt_succ hm) (Nat.le_of_lt_succ hn)

theorem toNat_mulHigh (a b : UInt64) :
    (mulHigh a b).toNat = a.toNat * b.toNat / 18446744073709551616 := by
  have ha := a.toNat_lt
  have hb := b.toNat_lt
  have ha1 : a.toNat / 4294967296 < 4294967296 := by omega
  have hb1 : b.toNat / 4294967296 < 4294967296 := by omega
  have ha0 : a.toNat % 4294967296 < 4294967296 := Nat.mod_lt _ (by decide)
  have hb0 : b.toNat % 4294967296 < 4294967296 := Nat.mod_lt _ (by decide)
  have h11 := mul_half_le ha1 hb1
  have h10 := mul_half_le ha1 hb0
  have h01 := mul_half_le ha0 hb1
  have h00 := mul_half_le ha0 hb0
  rw [mul_halves a.toNat b.toNat]
  simp only [mulHigh, UInt64.toNat_add, UInt64.toNat_mul, UInt64.toNat_div, UInt64.toNat_mod,
    UInt64.reduceToNat]
  generalize a.toNat / 4294967296 * (b.toNat / 4294967296) = p11 at *
  generalize a.toNat / 4294967296 * (b.toNat % 4294967296) = p10 at *
  generalize a.toNat % 4294967296 * (b.toNat / 4294967296) = p01 at *
  generalize a.toNat % 4294967296 * (b.toNat % 4294967296) = p00 at *
  omega

theorem toNat_mul (v w : Wide) :
    (v * w).toNat = v.toNat * w.toNat % 340282366920938463463374607431768211456 := by
  show (mul v w).toNat = _
  have hexpand : v.toNat * w.toNat =
      340282366920938463463374607431768211456 * (v.high.toNat * w.high.toNat)
        + 18446744073709551616 * (v.high.toNat * w.low.toNat)
        + 18446744073709551616 * (v.low.toNat * w.high.toNat)
        + v.low.toNat * w.low.toNat := by
    simp only [toNat]
    generalize v.high.toNat = a
    generalize v.low.toNat = b
    generalize w.high.toNat = c
    generalize w.low.toNat = d
    grind
  rw [hexpand]
  simp only [toNat, mul, UInt64.toNat_add, UInt64.toNat_mul, toNat_mulHigh]
  generalize v.high.toNat * w.high.toNat = p11
  generalize v.high.toNat * w.low.toNat = p10
  generalize v.low.toNat * w.high.toNat = p01
  generalize v.low.toNat * w.low.toNat = p00
  omega

end Wide

end DiceOdds.Random
