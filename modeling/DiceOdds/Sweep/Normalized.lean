import DiceOdds.Fault
import DiceOdds.Numeric.Basic

/-!
# Normalised Curves

Curves and grids scaled to their peak.  A peak that is not above nought leaves nothing to
scale to; then everything becomes nought.
-/

namespace DiceOdds

variable {α : Type} [Numeric α]

/-- The largest of some numbers; nought if there are none. -/
def peak : List α → α
  | [] => Numeric.nought
  | y :: ys => ys.foldl Numeric.larger y

/-- A number as a share of the peak. -/
def shareOf (top y : α) : α :=
  if Numeric.atMost top Numeric.nought then Numeric.nought else y / top

/-- A series scaled to its peak. -/
def normalize (ys : List α) : List α := ys.map (shareOf (peak ys))

/-- A grid scaled to the peak of all its cells. -/
def normalizeGrid (rows : List (List α)) : List (List α) :=
  rows.map fun row => row.map (shareOf (peak rows.flatten))

/-- Rows scaled to the peak of all their cells, if they form a grid. -/
def normalizeRows (rows : List (List α)) : Except Fault (List (List α)) :=
  if rows.all fun row => row.length = (rows.headD []).length then .ok (normalizeGrid rows)
  else .error .ragged

end DiceOdds
