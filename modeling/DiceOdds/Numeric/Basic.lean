import DiceOdds.Decimal.Shortest
import DiceOdds.Numeric.NearOne

/-!
# Numbers for Probabilities

The few operations that probabilities, means and normalised curves are computed
with.  Doubles run; any field with exact operations gives the same formulas their
mathematical meaning.
-/

namespace DiceOdds

/-- Arithmetic in which probabilities are computed. -/
class Numeric (α : Type) extends Add α, Sub α, Mul α, Div α where
  /-- A whole number. -/
  ofInt : Int → α
  /-- `x ^ k`. -/
  power : α → Nat → α
  /-- `1 - (1 - p) ^ k`, the chance of a success among `k` trials. -/
  hitWithin : α → Nat → α
  /-- The larger of two numbers. -/
  larger : α → α → α
  /-- Whether the first number is at most the second. -/
  atMost : α → α → Bool
  /-- How a number is written in a message. -/
  text : α → String

namespace Numeric

variable {α : Type} [Numeric α]

/-- The number nought. -/
def nought : α := ofInt 0

/-- Whether a number lies between 0 and 1. -/
def isChance (p : α) : Bool := atMost nought p && atMost p (ofInt 1)

/-- Whether a number is nought. -/
def isNought (p : α) : Bool := atMost nought p && atMost p nought

end Numeric

/-! ## §1 Doubles -/

/-- The larger of two doubles; not a number if either is not a number. -/
def largerFloat (x y : Float) : Float :=
  if x.isNaN then x else if y.isNaN then y else if x < y then y else x

instance : Numeric Float where
  ofInt := Float.ofInt
  power x k := Float.pow x (Float.ofNat k)
  hitWithin p k :=
    let h := -(expMinusOne (logOnePlus (-p) * Float.ofNat k))
    if h < 0 then 0 else if 1 < h then 1 else h
  larger := largerFloat
  atMost x y := x ≤ y
  text := Decimal.shortest

end DiceOdds
