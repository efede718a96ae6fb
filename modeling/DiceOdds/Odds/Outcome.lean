import DiceOdds.Odds.Estimate
import DiceOdds.Decimal.Fixed

/-!
# Outcomes

What is reported for a named event: nothing yet, an estimate, or the reason why the
simulation was rejected.
-/

namespace DiceOdds

/-! ## §1 Status -/

/-- How far a report has come. -/
inductive Status where
  | empty | populated | error
  deriving DecidableEq, Repr

instance : Vocabulary Status where
  title := "SimulationStatus"
  all := [.empty, .populated, .error]
  word
    | .empty => "empty"
    | .populated => "populated"
    | .error => "error"

/-! ## §2 Outcomes -/

/-- What is reported for an event. -/
inductive Outcome (α : Type) where
  /-- Nothing has been simulated; the figures are placeholders. -/
  | blank (probability sum average : α)
  | estimated (e : Estimate α)
  /-- The simulation over so many rolls was rejected. -/
  | rejected (reason : Rejection) (total : Int)
  deriving DecidableEq, Repr

namespace Outcome

variable {α : Type}

/-- How far the report has come. -/
def status : Outcome α → Status
  | blank _ _ _ => .empty
  | estimated _ => .populated
  | rejected _ _ => .error

/-- The probability, if it is known. -/
def probability : Outcome α → Option α
  | blank p _ _ => some p
  | estimated e => some e.probability
  | rejected _ _ => none

/-- The mean total, if it is known. -/
def sum : Outcome α → Option α
  | blank _ s _ => some s
  | estimated e => e.sum
  | rejected _ _ => none

/-- The mean per-die average, if it is known. -/
def average : Outcome α → Option α
  | blank _ _ a => some a
  | estimated e => e.average
  | rejected _ _ => none

/-- The number of successes. -/
def successes : Outcome α → Nat
  | estimated e => e.successes
  | _ => 0

/-- The number of rolls. -/
def total : Outcome α → Int
  | blank _ _ _ => 0
  | estimated e => e.total
  | rejected _ total => total

/-- The reason of a rejection. -/
def reason? : Outcome α → Option Rejection
  | rejected reason _ => some reason
  | _ => none

end Outcome

/-! ## §3 Texts -/

/-- A mean as it is shown: with two places, or dashes if it is not known. -/
def meanText : Option Float → String
  | none => "--"
  | some x => if x.isNaN then "--" else Decimal.fixed 2 x

end DiceOdds
