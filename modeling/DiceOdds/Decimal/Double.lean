/-!
# Doubles as Numbers

A finite double is a sign and a dyadic number `mantissa * 2 ^ exponent`.  All decimal
texts of doubles start from this decoding, so they are computed in exact arithmetic.
-/

namespace DiceOdds.Decimal

/-- The power `2 ^ k`. -/
def twoTo (k : Nat) : Nat := Nat.pow 2 k

/-- The power `10 ^ k`. -/
def tenTo (k : Nat) : Nat := Nat.pow 10 k

/-- What the 64 bits of a double stand for. -/
inductive Double where
  | nan
  | infinite (negative : Bool)
  | finite (negative : Bool) (mantissa : Nat) (exponent : Int)
  deriving DecidableEq, Repr

/-- Decodes sign, exponent field and fraction field. -/
def Double.ofBits (bits : Nat) : Double :=
  let negative := decide (bits / twoTo 63 % 2 = 1)
  let field : Nat := bits / twoTo 52 % twoTo 11
  let fraction : Nat := bits % twoTo 52
  if field = 2047 then
    if fraction = 0 then .infinite negative else .nan
  else if field = 0 then .finite negative fraction (-1074)
  else .finite negative (twoTo 52 + fraction) ((field : Int) - 1075)

/-- The number that a double stands for. -/
def Double.ofFloat (x : Float) : Double :=
  .ofBits x.toBits.toNat

/-! ## §1 Ratios -/

/-- A non-negative rational number, not necessarily in lowest terms. -/
structure Ratio where
  num : Nat
  den : Nat

/-- The number `m * 2 ^ e`. -/
def Ratio.dyadic (m : Nat) (e : Int) : Ratio :=
  if 0 ≤ e then ⟨m * twoTo e.toNat, 1⟩ else ⟨m, twoTo (-e).toNat⟩

/-- The number `r * 10 ^ k`. -/
def Ratio.scale (r : Ratio) (k : Int) : Ratio :=
  if 0 ≤ k then ⟨r.num * tenTo k.toNat, r.den⟩ else ⟨r.num, r.den * tenTo (-k).toNat⟩

/-- The quotient rounded to a whole number, a half to the even neighbour. -/
def Ratio.round (r : Ratio) : Nat :=
  let q := r.num / r.den
  let rest := 2 * (r.num % r.den)
  if rest < r.den then q
  else if rest = r.den then q + q % 2
  else q + 1

/-! ## §2 Decimal exponents -/

/-- Raises `k` while `10 ^ (k + 1)` does not exceed the number. -/
def Ratio.climb (r : Ratio) : (steps : Nat) → Int → Int
  | 0, k => k
  | steps + 1, k =>
    let next := r.scale (-(k + 1))
    if next.den ≤ next.num then r.climb steps (k + 1) else k

/-- The exponent `k` with `10 ^ k ≤ r < 10 ^ (k + 1)`, for a positive number. -/
def Ratio.exponent (r : Ratio) : Int :=
  -- a binary exponent of the number or one less; 0.30103 turns it into a decimal one
  let binary : Int := (r.num.log2 : Int) - r.den.log2 - 1
  r.climb 4 (binary * 30103 / 100000 - 1)

/-! ## §3 Rounding is to nearest -/

/-- A rounded quotient is within half a unit of the number. -/
theorem Ratio.round_near (r : Ratio) (h : 0 < r.den) :
    2 * r.num ≤ (2 * r.round + 1) * r.den ∧ 2 * r.round * r.den ≤ 2 * r.num + r.den := by
  have hdiv := Nat.div_add_mod r.num r.den
  have hmod := Nat.mod_lt r.num h
  generalize hq : r.num / r.den = q at hdiv
  generalize hm : r.num % r.den = m at hdiv hmod
  have hround : r.round =
      if 2 * m < r.den then q else if 2 * m = r.den then q + q % 2 else q + 1 := by
    simp [round, hq, hm]
  have hcomm : r.den * q = q * r.den := Nat.mul_comm _ _
  have hparity : q % 2 = 0 ∨ q % 2 = 1 := by omega
  rw [hround]
  split
  · constructor <;> grind
  · split
    · rcases hparity with h2 | h2 <;> rw [h2] <;> constructor <;> grind
    · constructor <;> grind

end DiceOdds.Decimal
