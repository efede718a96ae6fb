import DiceOdds.Random.Source
import DiceOdds.Storage

/-!
# Lists of Draws

Whole numbers drawn from given ranges, one range after the other.
-/

namespace DiceOdds

/-- A range to draw from, and how many numbers to draw. -/
structure DrawRange where
  low : Int
  /-- The first number behind the range. -/
  high : Int
  count : Int
  deriving DecidableEq, Repr

namespace DrawRange

variable [Memory] {σ : Type} [Source σ]

/-- Draws from one range of machine words, which must not be empty.  Where no number is
asked for, the range does not matter. -/
def draw (r : DrawRange) (s : σ) : Except Fault (List Int × σ) :=
  if r.count = 0 then .ok ([], s)
  else if r.low < Word.least ∨ Word.greatest < r.high - 1 then .error .wideRange
  else if h : r.low < r.high then
    if r.count < 0 then .error .negativeCount
    else (Storage.require [r.count]).map fun _ =>
      Source.collect (Source.drawFrom r.low (r.high - r.low).toNat (by omega)) r.count.toNat s
  else .error .emptyRange

/-- Draws from several ranges in turn. -/
def drawAll : List DrawRange → σ → Except Fault (List (List Int))
  | [], _ => .ok []
  | r :: rs, s =>
    match r.draw s with
    | .error f => .error f
    | .ok (xs, s') => (drawAll rs s').map (xs :: ·)

end DrawRange

end DiceOdds
