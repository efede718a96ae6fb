import DiceOdds.Clause.Draft

/-!
# Clauses

A complete clause: the die it speaks about, its link to the clause before it, and a
test that carries exactly what it decides a roll by.
-/

namespace DiceOdds

/-! ## §1 Targets and quotas -/

/-- What a face, or a statistic, is compared with. -/
structure Target where
  comparison : Comparison
  value : Int
  span : Span
  deriving DecidableEq, Repr

/-- Whether a number meets a comparison with the value, or lies in the span. -/
def Comparison.holds (c : Comparison) (value : Int) (span : Span) (x : Int) : Bool :=
  match c with
  | .equals => x == value
  | .notEquals => x != value
  | .atMost => x ≤ value
  | .atLeast => value ≤ x
  | .lessThan => x < value
  | .greaterThan => value < x
  | .between => span.contains x

/-- Whether a number meets the target. -/
def Target.hits (t : Target) (x : Int) : Bool :=
  t.comparison.holds t.value t.span x

/-- How many are wanted. -/
structure Quota where
  bound : Bound
  quantity : Int
  deriving DecidableEq, Repr

/-- Whether a count fills the quota. -/
def Quota.admits (q : Quota) (count : Int) : Bool := q.bound.admits q.quantity count

/-! ## §2 Tests and clauses -/

/-- How a clause decides a roll. -/
inductive Test where
  /-- The number of dice that meet the target fills the quota. -/
  | each (quota : Quota) (target : Target)
  /-- The length of some stretch of neighbours that meet the target fills the quota. -/
  | run (quota : Quota) (target : Target)
  /-- The numbers of the span stand side by side somewhere, in the order of its walk. -/
  | sequence (span : Span)
  /-- A statistic of the roll meets the target. -/
  | statistic (s : Statistic) (target : Target)
  deriving DecidableEq, Repr

/-- A complete clause. -/
structure Clause where
  die : Die
  link : Link
  test : Test
  deriving DecidableEq, Repr

namespace Test

/-- The reduction that a test starts with. -/
def reduction : Test → Reduction
  | each _ _ => .each
  | run _ _ => .consecutive
  | sequence _ => .sequence
  | statistic s _ => .statistic s

/-- The bound on the count; a test without a count is met exactly. -/
def bound : Test → Bound
  | each quota _ => quota.bound
  | run quota _ => quota.bound
  | sequence _ => .exactly
  | statistic _ _ => .exactly

/-- The comparison with the target; a sequence lies between its ends. -/
def comparison : Test → Comparison
  | each _ target => target.comparison
  | run _ target => target.comparison
  | sequence _ => .between
  | statistic _ target => target.comparison

/-- The range ends. -/
def span : Test → Span
  | each _ target => target.span
  | run _ target => target.span
  | sequence span => span
  | statistic _ target => target.span

/-- The wanted quantity, where there is one. -/
def quantity? : Test → Option Int
  | each quota _ => some quota.quantity
  | run quota _ => some quota.quantity
  | sequence _ => none
  | statistic _ _ => none

/-- The target value, where there is one. -/
def value? : Test → Option Int
  | each _ target => some target.value
  | run _ target => some target.value
  | sequence _ => none
  | statistic _ target => some target.value

end Test

/-! ## §3 Replacing a parameter -/

/-- The span with one end replaced; other parameters leave it alone. -/
def Span.set (s : Span) (axis : Axis) (x : Int) : Span :=
  match axis with
  | .rangeLower => { s with lower := x }
  | .rangeUpper => { s with upper := x }
  | _ => s

/-- The target with one parameter replaced; the quantity is none of its parameters. -/
def Target.set (t : Target) (axis : Axis) (x : Int) : Target :=
  match axis with
  | .value => { t with value := x }
  | _ => { t with span := t.span.set axis x }

/-- The quota with the quantity replaced; other parameters leave it alone. -/
def Quota.set (q : Quota) (axis : Axis) (x : Int) : Quota :=
  match axis with
  | .quantity => { q with quantity := x }
  | _ => q

/-- The test with one parameter replaced.  A parameter that the test does not decide by
leaves it alone. -/
def Test.set (t : Test) (axis : Axis) (x : Int) : Test :=
  match t with
  | .each quota target => .each (quota.set axis x) (target.set axis x)
  | .run quota target => .run (quota.set axis x) (target.set axis x)
  | .sequence span => .sequence (span.set axis x)
  | .statistic s target => .statistic s (target.set axis x)

/-- The clause with one parameter of its test replaced. -/
def Clause.set (c : Clause) (axis : Axis) (x : Int) : Clause :=
  { c with test := c.test.set axis x }

@[simp] theorem Clause.die_set (c : Clause) (axis : Axis) (x : Int) : (c.set axis x).die = c.die :=
  rfl

@[simp] theorem Clause.link_set (c : Clause) (axis : Axis) (x : Int) :
    (c.set axis x).link = c.link := rfl

/-- Quantity and value are replaced in either order. -/
theorem Test.set_quantity_set_value (t : Test) (quantity value : Int) :
    (t.set .quantity quantity).set .value value = (t.set .value value).set .quantity quantity := by
  cases t <;> rfl

@[simp] theorem Test.reduction_set (t : Test) (axis : Axis) (x : Int) :
    (t.set axis x).reduction = t.reduction := by cases t <;> rfl

@[simp] theorem Test.bound_set (t : Test) (axis : Axis) (x : Int) :
    (t.set axis x).bound = t.bound := by cases t <;> cases axis <;> rfl

@[simp] theorem Test.comparison_set (t : Test) (axis : Axis) (x : Int) :
    (t.set axis x).comparison = t.comparison := by cases t <;> cases axis <;> rfl

/-- The ends of the range are replaced in every test. -/
theorem Test.span_set (t : Test) (axis : Axis) (x : Int) :
    (t.set axis x).span = t.span.set axis x := by cases t <;> cases axis <;> rfl

/-- The value is replaced where there is one. -/
theorem Test.value?_set (t : Test) (axis : Axis) (x : Int) :
    (t.set axis x).value? = t.value?.map fun v => if axis = .value then x else v := by
  cases t <;> cases axis <;> rfl

/-- The quantity is replaced where there is one. -/
theorem Test.quantity?_set (t : Test) (axis : Axis) (x : Int) :
    (t.set axis x).quantity? = t.quantity?.map fun q => if axis = .quantity then x else q := by
  cases t <;> cases axis <;> rfl

end DiceOdds
