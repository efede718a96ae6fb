import DiceOdds.Vocabulary

/-!
# The Words of a Clause

The closed vocabularies from which clauses are built: how a count is bounded, how a
number is compared, how a roll is reduced before the comparison, how clauses are
linked, and which parameter of a clause may be varied.
-/

namespace DiceOdds

/-! ## §1 Bounds on a count -/

/-- How a count relates to the wanted quantity. -/
inductive Bound where
  | exactly | atMost | atLeast | lessThan | greaterThan
  deriving DecidableEq, Repr

instance : Vocabulary Bound where
  title := "Bound"
  all := [.exactly, .atMost, .atLeast, .lessThan, .greaterThan]
  word
    | .exactly => "exactly"
    | .atMost => "at_most"
    | .atLeast => "at_least"
    | .lessThan => "less_than"
    | .greaterThan => "greater_than"

/-- Whether a count satisfies a bound on the quantity. -/
def Bound.admits (b : Bound) (quantity count : Int) : Bool :=
  match b with
  | .exactly => count == quantity
  | .atMost => count ≤ quantity
  | .atLeast => quantity ≤ count
  | .lessThan => count < quantity
  | .greaterThan => quantity < count

/-! ## §2 Comparisons of a number -/

/-- How a face, or a statistic, relates to the target. -/
inductive Comparison where
  | equals | notEquals | atMost | atLeast | lessThan | greaterThan | between
  deriving DecidableEq, Repr

instance : Vocabulary Comparison where
  title := "Comparison"
  all := [.equals, .notEquals, .atMost, .atLeast, .lessThan, .greaterThan, .between]
  word
    | .equals => "equals"
    | .notEquals => "not_equals"
    | .atMost => "at_most"
    | .atLeast => "at_least"
    | .lessThan => "less_than"
    | .greaterThan => "greater_than"
    | .between => "between"

/-! ## §3 Reductions of a roll -/

/-- A single number computed from a whole roll. -/
inductive Statistic where
  | sum | average | median | minimum | maximum | mode
  deriving DecidableEq, Repr

/-- How a roll is reduced before it is compared. -/
inductive Reduction where
  /-- Count the matching dice. -/
  | each
  /-- Measure the stretches of neighbouring matching dice. -/
  | consecutive
  /-- Look for given faces in a row. -/
  | sequence
  /-- Compare one statistic of the roll. -/
  | statistic (s : Statistic)
  deriving DecidableEq, Repr

instance : Vocabulary Reduction where
  title := "Reduction"
  all := [.each, .consecutive, .sequence, .statistic .sum, .statistic .average,
    .statistic .median, .statistic .minimum, .statistic .maximum, .statistic .mode]
  word
    | .each => "each"
    | .consecutive => "consecutive"
    | .sequence => "sequence"
    | .statistic .sum => "sum"
    | .statistic .average => "average"
    | .statistic .median => "median"
    | .statistic .minimum => "minimum"
    | .statistic .maximum => "maximum"
    | .statistic .mode => "mode"

/-- The statistic that a reduction computes, if it computes one. -/
def Reduction.statistic? : Reduction → Option Statistic
  | .statistic s => some s
  | _ => none

/-- Whether a reduction computes a statistic. -/
def Reduction.isStatistic (r : Reduction) : Bool := r.statistic?.isSome

/-! ## §4 Links between clauses -/

/-- How a clause is linked to the one before it. -/
inductive Link where
  | first | and | or
  deriving DecidableEq, Repr

instance : Vocabulary Link where
  title := "Conjunction"
  all := [.first, .and, .or]
  word
    | .first => "first"
    | .and => "and"
    | .or => "or"

/-! ## §5 Parameters that vary -/

/-- A parameter of a clause. -/
inductive Axis where
  | value | rangeLower | rangeUpper | quantity
  deriving DecidableEq, Repr

instance : Vocabulary Axis where
  title := "SweepAxis"
  all := [.value, .rangeLower, .rangeUpper, .quantity]
  word
    | .value => "value"
    | .rangeLower => "range_lower"
    | .rangeUpper => "range_upper"
    | .quantity => "quantity"

/-! ## §6 Every member is listed and its word reads back -/

@[simp] theorem Bound.ofWord?_word (b : Bound) :
    Vocabulary.ofWord? (Vocabulary.word b) = some b := by cases b <;> rfl

@[simp] theorem Comparison.ofWord?_word (c : Comparison) :
    Vocabulary.ofWord? (Vocabulary.word c) = some c := by cases c <;> rfl

@[simp] theorem Reduction.ofWord?_word (r : Reduction) :
    Vocabulary.ofWord? (Vocabulary.word r) = some r := by
  cases r with
  | statistic s => cases s <;> rfl
  | _ => rfl

@[simp] theorem Link.ofWord?_word (l : Link) :
    Vocabulary.ofWord? (Vocabulary.word l) = some l := by cases l <;> rfl

@[simp] theorem Axis.ofWord?_word (a : Axis) :
    Vocabulary.ofWord? (Vocabulary.word a) = some a := by cases a <;> rfl

end DiceOdds
