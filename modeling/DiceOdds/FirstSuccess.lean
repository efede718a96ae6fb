import DiceOdds.Odds.Outcome
import DiceOdds.Session
import DiceOdds.Storage

/-!
# Rolls Until the First Success

With a chance `p` on every roll, the first success falls on roll `k` with probability
`(1 - p) ^ (k - 1) * p`, and on one of the first `k` rolls with probability
`1 - (1 - p) ^ k`.  A distribution covers the rolls from 1 to a horizon.
-/

namespace DiceOdds

/-! ## §1 Plotting sizes -/

/-- A number of rolls over which a distribution is plotted, in about ten points. -/
inductive PlotSize where
  | small | medium | large | extraLarge
  deriving DecidableEq, Repr

namespace PlotSize

/-- The number of rolls. -/
def rolls : PlotSize → Nat
  | small => 10
  | medium => 100
  | large => 1000
  | extraLarge => 10000

/-- All sizes. -/
def all : List PlotSize := [small, medium, large, extraLarge]

/-- The name of a size. -/
def name : PlotSize → String
  | small => "SMALL"
  | medium => "MEDIUM"
  | large => "LARGE"
  | extraLarge => "EXTRA_LARGE"

/-- The size with a given number of rolls, or a complaint that there is none. -/
def ofRolls (n : Int) : Except Fault PlotSize :=
  match all.find? fun s => (s.rolls : Int) == n with
  | some s => .ok s
  | none => .error (.unknownWord (toString n) "PlotKSize")

/-- The distance between two points. -/
def step (s : PlotSize) : Nat := s.rolls / 10

/-- The rolls that are shown: every step up to the size and, beyond the smallest size,
the very first roll. -/
def ticks (s : PlotSize) : List Nat :=
  let steps := (List.range 10).map fun i => (i + 1) * s.step
  if s = small then steps else 1 :: steps

end PlotSize

/-! ## §2 The distribution -/

variable {α : Type} [Numeric α]

/-- The chances that the first success falls on roll `k`, and on one of the rolls up to
`k`. -/
structure SuccessPoint (α : Type) where
  k : Nat
  mass : α
  cumulative : α
  deriving DecidableEq, Repr

/-- The distribution of the roll on which the first success falls. -/
structure FirstSuccess (α : Type) where
  chance : α
  /-- The number of rolls that the distribution covers. -/
  horizon : Nat
  status : Status

/-- The point for roll `k`.  Without a chance the first success never comes. -/
def SuccessPoint.at (p : α) (k : Nat) : SuccessPoint α :=
  if Numeric.isNought p then { k, mass := Numeric.nought, cumulative := Numeric.nought }
  else
    { k
      mass := Numeric.power (Numeric.ofInt 1 - p) (k - 1) * p
      cumulative := Numeric.hitWithin p k }

namespace FirstSuccess

/-- A distribution that has not been computed. -/
def unpopulated (p : α) : FirstSuccess α := { chance := p, horizon := 0, status := .empty }

/-- The distribution over the rolls from 1 to `horizon`. -/
def upTo (p : α) (horizon : Nat) : FirstSuccess α :=
  { chance := p, horizon, status := .populated }

/-- The points for the rolls from 1 to the horizon. -/
def points (d : FirstSuccess α) : List (SuccessPoint α) :=
  (List.range d.horizon).map fun i => SuccessPoint.at d.chance (i + 1)

/-- The point for roll `k`, if the distribution covers it. -/
def point? (d : FirstSuccess α) (k : Nat) : Option (SuccessPoint α) :=
  if 1 ≤ k ∧ k ≤ d.horizon then some (SuccessPoint.at d.chance k) else none

@[simp] theorem length_points (d : FirstSuccess α) : d.points.length = d.horizon := by
  simp [points]

/-- The point for roll `k` stands at position `k - 1`. -/
theorem point?_succ (d : FirstSuccess α) (i : Nat) : d.point? (i + 1) = d.points[i]? := by
  by_cases h : i < d.horizon
  · simp [point?, points, h, Nat.succ_le_of_lt h]
  · rw [point?, if_neg (by omega), List.getElem?_eq_none (by rw [length_points]; omega)]

/-- Accepts numbers from 0 to 1. -/
def requireChance (p : α) : Except Fault Unit :=
  if Numeric.isChance p then .ok () else .error (.notAChance (Numeric.text p))

/-- The distribution over a horizon of at least one roll, whose rolls are stored in a row.
Without a chance there is a row of noughts beside it, as long as the horizon. -/
def ofHorizon [Memory] (p : α) (horizon : Int) : Except Fault (FirstSuccess α) :=
  if horizon < 1 then .error (.naming [horizon] (.emptyHorizon horizon))
  else do
    let rolls ← Storage.rowLength horizon
    if Numeric.isNought p then Storage.require [horizon]
    return upTo p rolls

/-- The points shown at a size.  A distribution that has not been computed shows none. -/
def atResolution (d : FirstSuccess α) (size : PlotSize) :
    Except Fault (List (SuccessPoint α)) :=
  if d.status ≠ .populated then .ok []
  else if d.horizon < size.rolls then .error (.beyondHorizon size.rolls d.horizon)
  else .ok (size.ticks.filterMap d.point?)

end FirstSuccess

/-! ## §3 The mean -/

/-- The mean number of rolls to the first success. -/
inductive Waiting (α : Type) where
  /-- The first success never comes. -/
  | endless
  | rolls (mean : α)
  /-- There is no chance to speak of. -/
  | undefined

/-- The mean number of rolls to the first success. -/
def FirstSuccess.expected (d : FirstSuccess α) : Waiting α :=
  if Numeric.isNought d.chance then .endless
  else if Numeric.isChance d.chance then .rolls (Numeric.ofInt 1 / d.chance)
  else .undefined

/-- The mean as a double. -/
def Waiting.toFloat : Waiting Float → Float
  | .endless => 1.0 / 0.0
  | .rolls mean => mean
  | .undefined => 0.0 / 0.0

/-! ## §4 Requests -/

/-- The distribution for a chance, over the given horizon or that of the settings. -/
def Request.firstSuccess [Memory] {σ : Type} (p : α) (horizon : Option Int) :
    Request σ (FirstSuccess α) := do
  ofExcept (FirstSuccess.requireChance p)
  let horizon ← match horizon with
    | some n => pure n
    | none => do
      let cfg ← settings
      pure cfg.horizon
  ofExcept (FirstSuccess.ofHorizon p horizon)

end DiceOdds
