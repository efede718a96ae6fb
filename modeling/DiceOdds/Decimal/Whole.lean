import DiceOdds.Decimal.Double

/-!
# Whole Numbers as Doubles

A double holds 53 significant bits, so a whole number with more of them gives way to the
nearest one that fits, and different numbers may become the same.
-/

namespace DiceOdds.Decimal

/-- The distance between neighbouring doubles around a whole number, if it is above 1. -/
def spacing (n : Nat) : Nat := twoTo (n.log2 - 52)

/-- The double nearest to a natural number; a tie goes to the even neighbour. -/
def nearestNat (n : Nat) : Nat := Ratio.round ⟨n, spacing n⟩ * spacing n

/-- The double nearest to a whole number; a tie goes to the even neighbour. -/
def nearest (x : Int) : Int :=
  if x < 0 then -(nearestNat x.natAbs : Int) else (nearestNat x.natAbs : Int)

theorem spacing_pos (n : Nat) : 0 < spacing n := Nat.pow_pos (by decide)

/-- A number below `2 ^ 53` fits. -/
theorem nearestNat_of_lt {n : Nat} (h : n < 9007199254740992) : nearestNat n = n := by
  have hlog : n.log2 - 52 = 0 := by
    by_cases hn : n = 0
    · subst hn; decide
    · have := (Nat.log2_lt (k := 53) hn).mpr h
      omega
  simp [nearestNat, spacing, hlog, twoTo, Ratio.round, Nat.mod_one]

/-- A whole number between `-2 ^ 53` and `2 ^ 53` fits. -/
theorem nearest_of_natAbs_lt {x : Int} (h : x.natAbs < 9007199254740992) : nearest x = x := by
  unfold nearest
  rw [nearestNat_of_lt h]
  split <;> omega

end DiceOdds.Decimal
