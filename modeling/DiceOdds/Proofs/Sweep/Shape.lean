import DiceOdds.Proofs.Clause.Parameters
import DiceOdds.Proofs.Roll.Verdicts
import DiceOdds.Sweep.Basic

/-!
# Lines and Grids Written Out

A clause on its own is estimated if it meets no obstacle on any roll, and then by the rolls that
its test accepts (`estimate_single_eq_ok_iff`).  So a line, or a grid, that is returned can be
written out: its entries are the estimates of the edited clauses, in the order of the swept
values (`line_eq_ok_iff`, `grid_eq_ok_iff`).

A column of a grid is a sweep along quantity for one value, and a row is a sweep along value for
one quantity.  They start the lines of the clause that has been edited once
(`exists_line_of_column`, `exists_line_of_row`); only clauses that compare a sum have longer
lines.
-/

namespace DiceOdds

variable {α : Type} [Numeric α]

/-! ## §1 Clauses on their own -/

namespace RollTable

/-- There is a cell. -/
theorem forall_mem_cells_iff {P : Prop} (t : RollTable) (die : Die) :
    (∀ q ∈ intsFrom 0 (t.width : Int), ∀ v ∈ intsFrom 1 (die.faces : Int), P) ↔ P := by
  have hquantity : 0 ∈ intsFrom 0 (t.width : Int) := mem_intsFrom.mpr (by omega)
  have hvalue : 1 ∈ intsFrom 1 (die.faces : Int) :=
    mem_intsFrom.mpr (by have := die.faces_pos; omega)
  exact ⟨fun h => h 0 hquantity 1 hvalue, fun h _ _ _ _ => h⟩

variable [Memory]

/-- A test meets no obstacle on a table, neither on the rolls together nor on one of them. -/
def Scorable (t : RollTable) (test : Test) : Prop :=
  test.layoutFault? t.size t.width = none ∧ ∀ r ∈ t.rows, test.obstacle? r = none

/-- The estimate of a test, from the rolls that it accepts. -/
def tested (α : Type) [Numeric α] (t : RollTable) (test : Test) : Estimate α :=
  .ofVerdicts t (t.rows.map test.accepts)

theorem verdicts_single_eq_ok_iff (t : RollTable) (c : Clause) (vs : List Bool) :
    t.verdicts [c] = .ok vs ↔ t.Scorable c.test ∧ vs = t.rows.map c.test.accepts := by
  rw [verdicts_single]
  constructor
  · intro h
    have hnone : t.testObstacle? c.test = none := by
      rw [← faultOf_score, h]
      rfl
    have hscorable : t.Scorable c.test := testObstacle?_eq_none_iff.mp hnone
    rw [score_eq_ok hscorable.1 hscorable.2] at h
    exact ⟨hscorable, (Except.ok.inj h).symm⟩
  · rintro ⟨⟨hlayout, hrolls⟩, rfl⟩
    exact score_eq_ok hlayout hrolls

theorem estimate_single_eq_ok_iff (t : RollTable) (c : Clause) (e : Estimate α) :
    t.estimate [c] = .ok e ↔ t.Scorable c.test ∧ e = t.tested α c.test :=
  map_eq_ok_iff_of_iff (t.verdicts_single_eq_ok_iff c)

theorem scorable_set_iff {axis : Axis} (hlower : axis ≠ .rangeLower) (hupper : axis ≠ .rangeUpper)
    {t : RollTable} {test : Test} (x : Int) :
    t.Scorable (test.set axis x) ↔ t.Scorable test := by
  rw [Scorable, Scorable, Test.obstacle?_set_of_ne hlower hupper,
    Test.layoutFault?_set_of_ne hlower hupper]

/-- A table can be scored by all tests but two: a sequence whose walk cannot be laid out and
compared with the windows of the table, and a mode if some roll cannot be counted. -/
theorem scorable_iff {t : RollTable} {test : Test} :
    t.Scorable test ↔ test.layoutFault? t.size t.width = none ∧
      (test.reduction = .statistic .mode → ∀ r ∈ t.rows, r.Countable) := by
  have hmode : (∃ target, test = .statistic .mode target) ↔ test.reduction = .statistic .mode := by
    cases test <;> simp [Test.reduction]
  have hsome := t.isSome_testObstacle?_iff test
  rw [hmode] at hsome
  rw [Scorable, ← testObstacle?_eq_none_iff, ← Option.not_isSome_iff_eq_none, hsome, not_or,
    Option.not_isSome_iff_eq_none]
  simp only [not_and, not_exists, not_not]

@[simp] theorem scorable_set_quantity {t : RollTable} {test : Test} {x : Int} :
    t.Scorable (test.set .quantity x) ↔ t.Scorable test :=
  scorable_set_iff (by decide) (by decide) x

@[simp] theorem scorable_set_value {t : RollTable} {test : Test} {x : Int} :
    t.Scorable (test.set .value x) ↔ t.Scorable test :=
  scorable_set_iff (by decide) (by decide) x

/-! ## §2 Lines -/

/-- The estimates of a test for values of a parameter, each with its value. -/
def testedAlong (α : Type) [Numeric α] (t : RollTable) (test : Test) (axis : Axis)
    (xs : List Int) : List (Int × Estimate α) :=
  xs.map fun x => (x, t.tested α (test.set axis x))

/-- A line is returned if no point meets an obstacle, and then it is written out. -/
theorem line_eq_ok_iff {t : RollTable} {c : Clause} {axis : Axis} {l : Line α} :
    t.line c axis = .ok l ↔
      (∀ x ∈ axis.domain c t.width, t.Scorable (c.test.set axis x)) ∧
        l = { axis, points := t.testedAlong α c.test axis (axis.domain c t.width) } := by
  rw [line_eq]
  refine map_eq_ok_iff_of_iff fun points => ?_
  exact mapM_eq_ok_iff_of_iff fun x p =>
    map_eq_ok_iff_of_iff (estimate_single_eq_ok_iff t (c.set axis x))

/-- A clause that meets no obstacle has lines along its quantity and its value. -/
theorem line_of_scorable {t : RollTable} {c : Clause} {axis : Axis} (hlower : axis ≠ .rangeLower)
    (hupper : axis ≠ .rangeUpper) (h : t.Scorable c.test) :
    t.line c axis =
      .ok { axis, points := t.testedAlong α c.test axis (axis.domain c t.width) } :=
  line_eq_ok_iff.mpr ⟨fun x _ => (scorable_set_iff hlower hupper x).mpr h, rfl⟩

/-! ## §3 Grids -/

/-- A grid is returned if the clause meets no obstacle, and then it is written out. -/
theorem grid_eq_ok_iff {t : RollTable} {c : Clause} {g : Grid α} :
    t.grid c = .ok g ↔
      t.Scorable c.test ∧
        g = { quantities := intsFrom 0 t.width
              values := intsFrom 1 c.die.faces
              cells := (intsFrom 0 t.width).map fun q => (intsFrom 1 c.die.faces).map fun v =>
                t.tested α ((c.test.set .quantity q).set .value v) } := by
  -- whether a cell meets an obstacle does not depend on the cell
  have hcells : (∀ q ∈ intsFrom 0 (t.width : Int), ∀ v ∈ intsFrom 1 (c.die.faces : Int),
      t.Scorable ((c.test.set .quantity q).set .value v)) ↔ t.Scorable c.test := by
    simp only [scorable_set_quantity, scorable_set_value, forall_mem_cells_iff]
  rw [grid_eq, ← hcells]
  refine map_eq_ok_iff_of_iff fun cells => ?_
  exact mapM_eq_ok_iff_of_iff fun q row => mapM_eq_ok_iff_of_iff fun v e =>
    estimate_single_eq_ok_iff t ((c.set .quantity q).set .value v) e

end RollTable

namespace Grid

/-- The estimates for one value, each with its quantity. -/
def column (g : Grid α) (j : Nat) : List (Int × Estimate α) :=
  (g.quantities.zip g.cells).filterMap fun p => p.2[j]?.map fun e => (p.1, e)

/-- The estimates for one quantity, each with its value. -/
def row (g : Grid α) (i : Nat) : List (Int × Estimate α) :=
  g.values.zip (g.cells.getD i [])

end Grid

theorem zip_map_self {β γ : Type} (f : β → γ) (xs : List β) :
    xs.zip (xs.map f) = xs.map fun x => (x, f x) := by
  rw [List.zip, List.zipWith_map_right, List.zipWith_self]

section Edges

variable [Memory] {t : RollTable} {c : Clause} {g : Grid α}

/-- A column is a sweep along quantity. -/
theorem Grid.column_of_grid (h : t.grid c = .ok g) {j : Nat} {v : Int}
    (hv : g.values[j]? = some v) :
    g.column j = t.testedAlong α (c.test.set .value v) .quantity (intsFrom 0 t.width) := by
  obtain ⟨-, rfl⟩ := RollTable.grid_eq_ok_iff.mp h
  dsimp only at hv
  simp only [column, zip_map_self, List.filterMap_map, RollTable.testedAlong,
    ← Test.set_quantity_set_value]
  -- each row has an entry at `j`
  rw [← List.filterMap_eq_map]
  refine List.filterMap_congr fun q _ => ?_
  simp [hv]

/-- A clause that meets no obstacle and compares no sum is swept along quantity from nought to
the number of dice: by its line, and for each value by a column of its grid. -/
theorem RollTable.exists_sweeps_along_quantity (h : t.Scorable c.test)
    (hsum : c.test.reduction ≠ .statistic .sum) :
    (∃ l, t.line c .quantity = .ok l ∧
      l.points = t.testedAlong α c.test .quantity (intsFrom 0 t.width)) ∧
    ∃ g, t.grid c = .ok g ∧ g.values.length = c.die.faces ∧ ∀ j < c.die.faces,
      g.column j =
        t.testedAlong α (c.test.set .value (1 + j)) .quantity (intsFrom 0 t.width) := by
  constructor
  · -- the domain is not scaled
    refine ⟨_, line_of_scorable (by decide) (by decide) h, ?_⟩
    simp [Axis.domain, Axis.ends, hsum]
  · refine ⟨_, grid_eq_ok_iff.mpr ⟨h, rfl⟩, by simp, fun j hj => ?_⟩
    exact Grid.column_of_grid (grid_eq_ok_iff.mpr ⟨h, rfl⟩) (getElem?_intsFrom (by omega))

end Edges

end DiceOdds
