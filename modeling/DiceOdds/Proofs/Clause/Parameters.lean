import DiceOdds.Proofs.Clause.Completeness

/-!
# Replacing a Parameter

A parameter may be replaced in a draft or in the clause that the draft becomes: checking
commutes with replacing (`check_set`).  A draft holds all parameters and a test only those that
it decides by, so on the draft the replacement may write to a field that checking then drops.

Quantity and value have no part in what keeps a test from deciding a roll
(`obstacle?_set_of_ne`); only the ends of a range do.
-/

namespace DiceOdds

/-! ## §1 Drafts -/

namespace Draft

@[simp] theorem die_set (d : Draft) (axis : Axis) (x : Int) : (d.set axis x).die = d.die := by
  cases axis <;> rfl

@[simp] theorem link_set (d : Draft) (axis : Axis) (x : Int) : (d.set axis x).link = d.link := by
  cases axis <;> rfl

@[simp] theorem reduction_set (d : Draft) (axis : Axis) (x : Int) :
    (d.set axis x).reduction = d.reduction := by
  cases axis <;> rfl

@[simp] theorem comparison_set (d : Draft) (axis : Axis) (x : Int) :
    (d.set axis x).comparison = d.comparison := by
  cases axis <;> rfl

@[simp] theorem bound_set (d : Draft) (axis : Axis) (x : Int) :
    (d.set axis x).bound = d.bound := by
  cases axis <;> rfl

theorem span_set (d : Draft) (axis : Axis) (x : Int) :
    (d.set axis x).span = d.span.set axis x := by
  cases axis <;> rfl

theorem quota_set (d : Draft) (axis : Axis) (x : Int) (b : Bound) :
    (d.set axis x).quota b = (d.quota b).set axis x := by
  cases axis <;> rfl

theorem target_set (d : Draft) (axis : Axis) (x : Int) (c : Comparison) :
    (d.set axis x).target c = (d.target c).set axis x := by
  cases axis <;> rfl

/-- The draft with a parameter replaced describes the test with that parameter replaced. -/
theorem test?_set (d : Draft) (axis : Axis) (x : Int) :
    (d.set axis x).test? = d.test?.map fun t => t.set axis x := by
  simp only [test?, reduction_set, comparison_set, bound_set]
  -- every reduction, with and without a comparison and a bound
  rcases d.reduction with _ | _ | _ | _ | s <;> rcases d.comparison with _ | c <;>
    rcases d.bound with _ | b <;> simp [Test.set, span_set, quota_set, target_set]

theorem clause?_set (d : Draft) (axis : Axis) (x : Int) (lead : Bool) :
    (d.set axis x).clause? lead = (d.clause? lead).map fun c => c.set axis x := by
  simp only [clause?, effectiveLink?, die_set, link_set, test?_set]
  cases d.die <;> cases (if lead then some Link.first else d.link) <;> cases d.test? <;> rfl

/-- **Checking commutes with replacing a parameter.** -/
theorem check_set (d : Draft) (axis : Axis) (x : Int) (lead : Bool) (index : Int) :
    (d.set axis x).check lead index = (d.check lead index).map fun c => c.set axis x := by
  simp only [check, clause?_set]
  cases d.clause? lead <;> rfl

end Draft

/-! ## §2 Tests -/

namespace Test

variable [Memory] {axis : Axis}

/-- Quantity and value have no part in what is laid out. -/
theorem layoutFault?_set_of_ne (hlower : axis ≠ .rangeLower) (hupper : axis ≠ .rangeUpper)
    (t : Test) (x : Int) : (t.set axis x).layoutFault? = t.layoutFault? := by
  cases t with
  | sequence span =>
    -- the walk runs between the ends of the range
    cases axis with
    | rangeLower => contradiction
    | rangeUpper => contradiction
    | _ => rfl
  | _ => rfl

/-- Nor have they a part in what keeps a test from deciding a roll. -/
theorem obstacle?_set_of_ne (hlower : axis ≠ .rangeLower) (hupper : axis ≠ .rangeUpper)
    (t : Test) (x : Int) : (t.set axis x).obstacle? = t.obstacle? := by
  funext r
  cases t with
  | sequence span =>
    exact congrFun (congrFun (layoutFault?_set_of_ne hlower hupper (sequence span) x) 1) r.length
  | statistic s target => cases s <;> rfl
  | _ => rfl

end Test

end DiceOdds
