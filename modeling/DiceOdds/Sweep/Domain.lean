import DiceOdds.Clause.Basic
import DiceOdds.Storage

/-!
# Domains of Sweeps

The values that a parameter of a clause runs through.
-/

namespace DiceOdds

/-- The whole numbers from `low` to `high`. -/
def intsFrom (low high : Int) : List Int :=
  (List.range (high + 1 - low).toNat).map fun (i : Nat) => low + i

/-- A number is listed exactly if it lies between the ends. -/
theorem mem_intsFrom {low high x : Int} : x ∈ intsFrom low high ↔ low ≤ x ∧ x ≤ high := by
  simp only [intsFrom, List.mem_map, List.mem_range]
  constructor
  · rintro ⟨i, hi, rfl⟩; omega
  · intro h
    exact ⟨(x - low).toNat, by omega, by omega⟩

@[simp] theorem length_intsFrom (low high : Int) :
    (intsFrom low high).length = (high + 1 - low).toNat := by
  simp [intsFrom]

theorem getElem?_intsFrom {low high : Int} {i : Nat} (h : low + i ≤ high) :
    (intsFrom low high)[i]? = some (low + i) := by
  have hi : i < (high + 1 - low).toNat := by omega
  simp [intsFrom, hi]

theorem head?_intsFrom {low high : Int} (h : low ≤ high) :
    (intsFrom low high).head? = some low := by
  rw [List.head?_eq_getElem?, getElem?_intsFrom (by omega)]
  simp

theorem getLast?_intsFrom {low high : Int} (h : low ≤ high) :
    (intsFrom low high).getLast? = some high := by
  rw [List.getLast?_eq_getElem?, length_intsFrom, getElem?_intsFrom (by omega)]
  congr 1
  omega

/-- The numbers ascend, so none is listed twice. -/
theorem pairwise_intsFrom (low high : Int) : (intsFrom low high).Pairwise (· < ·) := by
  rw [intsFrom, List.pairwise_map]
  exact List.pairwise_lt_range.imp fun h => by omega

/-- The ends between which a parameter runs: quantities from 0 to the number of dice, all
others from 1 to the number of faces.  The upper end is multiplied by the number of dice
for clauses that compare a sum. -/
def Axis.ends (axis : Axis) (c : Clause) (dice : Int) : Int × Int :=
  let factor := if c.test.reduction = .statistic .sum then dice else 1
  match axis with
  | .quantity => (0, dice * factor)
  | _ => (1, c.die.faces * factor)

/-- The values of a parameter. -/
def Axis.domain (axis : Axis) (c : Clause) (dice : Int) : List Int :=
  intsFrom (axis.ends c dice).1 (axis.ends c dice).2

/-- The values of a parameter for a number of dice that no table stands for.  They are
stored in a row. -/
def Axis.openDomain [Memory] (axis : Axis) (c : Clause) (dice : Int) : Except Fault (List Int) :=
  let ends := axis.ends c dice
  (Storage.rowLength (ends.2 + 1 - ends.1)).map fun length =>
    (List.range length).map fun (i : Nat) => ends.1 + i

end DiceOdds
