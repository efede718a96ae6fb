import DiceOdds.Chain
import DiceOdds.Numeric.Mean

/-!
# Estimates

What a table of rolls says about a chain of clauses: how many rolls satisfy it, and the
mean total and mean per-die average of those that do.  The per-die average of a roll is
the same number that the `average` statistic compares.
-/

namespace DiceOdds

/-- The outcome of a chain over a table, in some arithmetic. -/
structure Estimate (α : Type) where
  /-- The number of rolls. -/
  total : Nat
  /-- The number of rolls that satisfy the chain. -/
  successes : Nat
  /-- The share of successes. -/
  probability : α
  /-- The mean total of the successes, if there are any. -/
  sum : Option α
  /-- The mean per-die average of the successes, if there are any. -/
  average : Option α
  deriving DecidableEq, Repr

/-- The rolls whose verdict is true. -/
def RollTable.winners (t : RollTable) (verdicts : List Bool) : List Roll :=
  ((t.rows.zip verdicts).filter Prod.snd).map Prod.fst

/-- The mean of whole numbers, if there are any. -/
def mean? {α : Type} [Numeric α] (xs : List Int) : Option α :=
  if xs.isEmpty then none else some (Numeric.mean xs)

/-- The estimate from a verdict on each roll. -/
def Estimate.ofVerdicts {α : Type} [Numeric α] (t : RollTable) (verdicts : List Bool) :
    Estimate α :=
  let winners := t.winners verdicts
  { total := t.size
    successes := winners.length
    probability := Numeric.ofInt winners.length / Numeric.ofInt t.size
    sum := mean? (winners.map Roll.total)
    average := mean? (winners.map Roll.average) }

/-- The totals of all rolls. -/
def RollTable.totals (t : RollTable) : List Int := t.rows.map Roll.total

/-- The estimate from the totals of rolls of so many dice and a verdict on each. -/
def Estimate.ofTotals {α : Type} [Numeric α] (width : Nat) (totals : List Int)
    (verdicts : List Bool) : Estimate α :=
  let won := ((totals.zip verdicts).filter Prod.snd).map Prod.fst
  { total := totals.length
    successes := won.length
    probability := Numeric.ofInt won.length / Numeric.ofInt totals.length
    sum := mean? won
    average := mean? (won.map fun total => total / width) }

/-- The winners are rolls of the table. -/
theorem RollTable.mem_of_mem_winners {t : RollTable} {verdicts : List Bool} {r : Roll}
    (h : r ∈ t.winners verdicts) : r ∈ t.rows := by
  obtain ⟨e, he, rfl⟩ := List.mem_map.mp h
  exact (List.of_mem_zip (List.mem_filter.mp he).1).1

/-- The totals of the winners are the winning totals. -/
theorem RollTable.map_total_winners (t : RollTable) (verdicts : List Bool) :
    (t.winners verdicts).map Roll.total =
      ((t.totals.zip verdicts).filter Prod.snd).map Prod.fst := by
  rw [totals, List.zip_map_left, List.filter_map, winners, List.map_map, List.map_map]
  rfl

/-- The averages of the winners are the winning totals, shared out among the dice. -/
theorem RollTable.map_average_winners (t : RollTable) (verdicts : List Bool) :
    (t.winners verdicts).map Roll.average =
      ((t.winners verdicts).map Roll.total).map fun total => total / (t.width : Int) := by
  rw [List.map_map]
  refine List.map_congr_left fun r hr => ?_
  rw [Function.comp, ← t.length_of_mem r (mem_of_mem_winners hr)]
  rfl

/-- The totals of the rolls are enough for an estimate. -/
theorem Estimate.ofTotals_eq {α : Type} [Numeric α] (t : RollTable) (verdicts : List Bool) :
    (ofTotals t.width t.totals verdicts : Estimate α) = ofVerdicts t verdicts := by
  have hwon := t.map_total_winners verdicts
  have haverage := t.map_average_winners verdicts
  have hlength : ((t.winners verdicts).map Roll.total).length = (t.winners verdicts).length :=
    List.length_map ..
  have htotal : t.totals.length = t.size := List.length_map ..
  simp only [ofTotals, ofVerdicts, ← hwon, haverage, hlength, htotal]

/-- The estimate from verdicts of any origin; as soon as one of them is true, there has to
be one for each roll. -/
def RollTable.summarize {α : Type} [Numeric α] (t : RollTable) (verdicts : List Bool) :
    Except Fault (Estimate α) :=
  if verdicts.contains true ∧ verdicts.length ≠ t.size then .error .misaligned
  else .ok (Estimate.ofVerdicts t verdicts)

/-- The estimate of a chain over a table. -/
def RollTable.estimate [Memory] {α : Type} [Numeric α] (t : RollTable) (cs : List Clause) :
    Except Fault (Estimate α) :=
  (t.verdicts cs).map (Estimate.ofVerdicts t)

/-- The verdicts of a clause on its own are its scores. -/
theorem RollTable.verdicts_single [Memory] (t : RollTable) (c : Clause) :
    t.verdicts [c] = t.score c := by
  have hscores : [c].mapM t.score = (t.score c).map fun score => [score] := by
    rw [List.mapM_cons]
    cases t.score c <;> rfl
  rw [verdicts, hscores]
  cases t.score c <;> rfl

end DiceOdds
