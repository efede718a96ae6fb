/-!
# Spans

A pair of range ends in the order in which they were entered.  As a set of numbers a
span lies between its lowest and its highest end; as a walk it runs from the lower end
to the upper end, upwards or downwards.
-/

namespace DiceOdds

/-- Two range ends in the order in which they were entered. -/
structure Span where
  lower : Int
  upper : Int
  deriving DecidableEq, Repr

namespace Span

/-- The smaller end. -/
def lowest (s : Span) : Int := min s.lower s.upper

/-- The larger end. -/
def highest (s : Span) : Int := max s.lower s.upper

/-- Whether the walk runs from high to low. -/
def descending (s : Span) : Bool := s.upper < s.lower

/-- Whether a number lies between the ends, in whichever order they stand. -/
def contains (s : Span) (x : Int) : Bool := s.lowest ≤ x && x ≤ s.highest

/-- The number of whole numbers in the span. -/
def size (s : Span) : Nat := (s.highest - s.lowest).toNat + 1

/-- The `j`-th number of the walk from the lower end to the upper end. -/
def stepAt (s : Span) (j : Nat) : Int := if s.descending then s.lower - j else s.lower + j

/-- The whole numbers of the span, from the lower end to the upper end. -/
def walk (s : Span) : List Int := (List.range s.size).map s.stepAt

theorem lowest_le_highest (s : Span) : s.lowest ≤ s.highest := by
  unfold lowest highest; omega

theorem contains_iff (s : Span) (x : Int) :
    s.contains x = true ↔ s.lowest ≤ x ∧ x ≤ s.highest := by simp [contains]

@[simp] theorem length_walk (s : Span) : s.walk.length = s.size := by simp [walk]

theorem size_pos (s : Span) : 0 < s.size := Nat.succ_pos _

theorem size_eq (s : Span) : s.size = (s.upper - s.lower).natAbs + 1 := by
  unfold size highest lowest; omega

end Span

end DiceOdds
