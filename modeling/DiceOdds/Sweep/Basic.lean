import DiceOdds.Odds.Simulation
import DiceOdds.Roll.Reading
import DiceOdds.Sweep.Domain
import DiceOdds.Sweep.Normalized
import DiceOdds.Sweep.Rows

/-!
# Sweeps

One clause estimated for many values of a parameter over one fixed table, so that the
points differ by the clause alone.  A line varies one parameter; a grid varies quantity
and value together.  Rolls are read only as often as the parameters that take part in
reading change; every point is still the estimate of the clause with its parameters
replaced (`line_eq`, `grid_eq`).
-/

namespace DiceOdds

variable {α : Type} [Numeric α]

/-! ## §1 Figures of an estimate -/

/-- A figure that is read off an estimate. -/
inductive Figure where
  | probability | sum | average
  deriving DecidableEq, Repr

/-- The figure as it is plotted: nought where nothing succeeded. -/
def Figure.of (f : Figure) (e : Estimate α) : α :=
  match f with
  | .probability => e.probability
  | .sum => e.sum.getD Numeric.nought
  | .average => e.average.getD Numeric.nought

/-! ## §2 Lines -/

/-- One figure as a function of the swept parameter. -/
structure Series (α : Type) where
  xs : List Int
  ys : List α

/-- The figures scaled to their peak. -/
def Series.normalized (s : Series α) : List α := normalize s.ys

/-- The estimates of a clause along one parameter. -/
structure Line (α : Type) where
  axis : Axis
  points : List (Int × Estimate α)

/-- One figure along the line. -/
def Line.series (l : Line α) (f : Figure) : Series α :=
  { xs := l.points.map Prod.fst, ys := l.points.map fun p => f.of p.2 }

variable [Memory]

/-- The estimate of a clause on its own with one parameter replaced. -/
def RollTable.point (t : RollTable) (c : Clause) (axis : Axis) (x : Int) :
    Except Fault (Int × Estimate α) :=
  (t.estimate [c.set axis x]).map (x, ·)

/-- The estimate of a test from its readings and the totals of the rolls. -/
def Estimate.ofReadings (width : Nat) (totals : List Int) (test : Test)
    (readings : List Reading) : Estimate α :=
  .ofTotals width totals (readings.map test.judge)

/-- A clause on its own is estimated from its readings. -/
theorem RollTable.estimate_single (t : RollTable) (c : Clause) :
    (t.estimate [c] : Except Fault (Estimate α)) =
      (t.readings c.test).map (Estimate.ofReadings t.width t.totals c.test) := by
  rw [estimate, verdicts_single, score_eq_readings]
  cases t.readings c.test with
  | error f => rfl
  | ok readings =>
    exact congrArg Except.ok (Estimate.ofTotals_eq t (readings.map c.test.judge)).symm

/-- Varies one parameter of a clause over a table.  Unless the parameter takes part in
reading, the rolls are read only once. -/
def RollTable.line (t : RollTable) (c : Clause) (axis : Axis) : Except Fault (Line α) :=
  let xs := axis.domain c t.width
  let totals := t.totals
  let points :=
    if c.test.readsWith axis then
      xs.mapM fun x =>
        let test := c.test.set axis x
        (t.readings test).map fun readings => (x, .ofReadings t.width totals test readings)
    else
      let shared := t.readings c.test
      xs.mapM fun x =>
        shared.map fun readings =>
          (x, .ofReadings t.width totals (c.test.set axis x) readings)
  points.map fun points => { axis, points }

/-- Every point of a line is the estimate of the clause with its parameter replaced. -/
theorem RollTable.line_eq (t : RollTable) (c : Clause) (axis : Axis) :
    (t.line c axis : Except Fault (Line α)) =
      ((axis.domain c t.width).mapM (t.point c axis)).map fun points => { axis, points } := by
  have hpoint : (t.point c axis : Int → Except Fault (Int × Estimate α)) = fun x =>
      (t.readings (c.test.set axis x)).map fun readings =>
        (x, .ofReadings t.width t.totals (c.test.set axis x) readings) := by
    funext x
    rw [point, estimate_single]
    show (Except.map _ (t.readings (c.test.set axis x))).map _ = _
    cases t.readings (c.test.set axis x) <;> rfl
  have hread : c.test.readsWith axis = false →
      ∀ x, t.readings (c.test.set axis x) = t.readings c.test := fun h x => t.readings_set h x
  rw [line, hpoint]
  split
  · rfl
  · next h => simp only [hread (Bool.eq_false_iff.mpr h)]

/-! ## §3 Grids -/

/-- The estimates of a clause for all quantities and values, a row for each quantity. -/
structure Grid (α : Type) where
  quantities : List Int
  values : List Int
  cells : List (List (Estimate α))

/-- One figure over the grid. -/
def Grid.figure (g : Grid α) (f : Figure) : List (List α) := g.cells.map fun row => row.map f.of

/-- One figure over the grid, scaled to its peak. -/
def Grid.normalized (g : Grid α) (f : Figure) : List (List α) := normalizeGrid (g.figure f)

/-- The row of a grid for one quantity. -/
def RollTable.gridRow (t : RollTable) (c : Clause) (values : List Int) (quantity : Int) :
    Except Fault (List (Estimate α)) :=
  values.mapM fun value => t.estimate [(c.set .quantity quantity).set .value value]

/-- The column of a grid for one value, whose estimates judge the same readings. -/
def RollTable.gridColumn (t : RollTable) (totals : List Int) (c : Clause)
    (quantities : List Int) (value : Int) : Except Fault (List (Estimate α)) :=
  let test := c.test.set .value value
  (t.readings test).map fun readings =>
    quantities.map fun quantity =>
      .ofReadings t.width totals (test.set .quantity quantity) readings

/-- Varies quantity and value of a clause over a table.  The rolls are read once for each
value. -/
def RollTable.grid (t : RollTable) (c : Clause) : Except Fault (Grid α) :=
  let quantities := intsFrom 0 t.width
  let values := intsFrom 1 c.die.faces
  let totals := t.totals
  (values.mapM (t.gridColumn totals c quantities)).map fun columns =>
    { quantities, values, cells := rowsOf quantities.length columns }

/-- Every cell of a grid is the estimate of the clause with both parameters replaced. -/
theorem RollTable.grid_eq (t : RollTable) (c : Clause) :
    (t.grid c : Except Fault (Grid α)) =
      ((intsFrom 0 t.width).mapM (t.gridRow c (intsFrom 1 c.die.faces))).map fun cells =>
        { quantities := intsFrom 0 t.width, values := intsFrom 1 c.die.faces, cells } := by
  have hquantities : intsFrom 0 t.width ≠ [] :=
    List.ne_nil_of_mem (mem_intsFrom.mpr ⟨Int.le_refl 0, Int.natCast_nonneg _⟩)
  have hcell : ∀ quantity value,
      (t.estimate [(c.set .quantity quantity).set .value value] : Except Fault (Estimate α)) =
        (t.readings (c.test.set .value value)).map fun readings =>
          .ofReadings t.width t.totals ((c.test.set .value value).set .quantity quantity)
            readings := fun quantity value => by
    have hread : t.readings ((c.test.set .value value).set .quantity quantity) =
        t.readings (c.test.set .value value) :=
      t.readings_set (by cases c.test <;> rfl) quantity
    rw [estimate_single]
    show Except.map (Estimate.ofReadings t.width t.totals
      ((c.test.set .quantity quantity).set .value value))
      (t.readings ((c.test.set .quantity quantity).set .value value)) = _
    rw [Test.set_quantity_set_value, hread]
  have hrow : (t.gridRow c (intsFrom 1 c.die.faces) : Int → Except Fault (List (Estimate α))) =
      fun quantity => (intsFrom 1 c.die.faces).mapM fun value =>
        (t.readings (c.test.set .value value)).map fun readings =>
          .ofReadings t.width t.totals ((c.test.set .value value).set .quantity quantity)
            readings := funext fun quantity => by
    rw [gridRow]
    exact congrArg ((intsFrom 1 c.die.faces).mapM ·) (funext (hcell quantity))
  rw [hrow, mapM_rows (fun value => t.readings (c.test.set .value value))
    (fun value readings quantity => Estimate.ofReadings t.width t.totals
      ((c.test.set .value value).set .quantity quantity) readings) hquantities, grid]
  show Except.map _ ((intsFrom 1 c.die.faces).mapM fun value =>
    (t.readings (c.test.set .value value)).map fun readings => (intsFrom 0 t.width).map
      fun quantity => Estimate.ofReadings t.width t.totals
        ((c.test.set .value value).set .quantity quantity) readings) = _
  cases (intsFrom 1 c.die.faces).mapM fun value =>
    (t.readings (c.test.set .value value)).map fun readings => (intsFrom 0 t.width).map
      fun quantity => (Estimate.ofReadings t.width t.totals
        ((c.test.set .value value).set .quantity quantity) readings : Estimate α) <;> rfl

/-! ## §4 Requests -/

variable {σ : Type} [Source σ]

/-- Varies one parameter of a draft, taken as the lead clause. -/
def Request.sweepLine (d : Draft) (axis : Axis) (supply : Supply) : Request σ (Line α) := do
  let c ← ofChecked (d.check true 0)
  let t ← table supply
  ofExcept (t.line c axis)

/-- Varies quantity and value of a draft, taken as the lead clause. -/
def Request.sweepGrid (d : Draft) (supply : Supply) : Request σ (Grid α) := do
  let c ← ofChecked (d.check true 0)
  let t ← table supply
  ofExcept (t.grid c)

end DiceOdds
