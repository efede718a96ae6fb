import DiceOdds.Clause.Words
import DiceOdds.Clause.Span
import DiceOdds.Die

/-!
# Draft Clauses

A clause while it is being edited.  Everything except the numbers may still be
missing; checking a draft is the business of `DiceOdds.Clause.Check`.
-/

namespace DiceOdds

/-- A clause whose choices may be incomplete. -/
structure Draft where
  bound : Option Bound := none
  quantity : Int := 1
  die : Option Die := none
  reduction : Option Reduction := none
  comparison : Option Comparison := none
  value : Int := 1
  span : Span := ⟨1, 1⟩
  link : Option Link := none
  deriving DecidableEq, Repr

namespace Draft

/-- The draft for another die. -/
def withDie (d : Draft) (die : Option Die) : Draft := { d with die }

/-- The draft for a die, with `exactly`, `each` and `equals` where nothing was chosen.
The link is left alone. -/
def withDefaults (d : Draft) (die : Option Die) : Draft :=
  { d with
    die
    bound := some (d.bound.getD .exactly)
    reduction := some (d.reduction.getD .each)
    comparison := some (d.comparison.getD .equals) }

/-- The draft with one parameter replaced. -/
def set (d : Draft) (axis : Axis) (x : Int) : Draft :=
  match axis with
  | .value => { d with value := x }
  | .quantity => { d with quantity := x }
  | .rangeLower => { d with span := { d.span with lower := x } }
  | .rangeUpper => { d with span := { d.span with upper := x } }

end Draft

end DiceOdds
