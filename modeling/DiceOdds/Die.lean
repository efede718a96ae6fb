/-!
# Dice

The dice that can be rolled, named by their number of faces.
-/

namespace DiceOdds

/-- A die with the faces `1 .. faces`. -/
inductive Die where
  | d2 | d3 | d4 | d5 | d6 | d7 | d8 | d9 | d10 | d11 | d12 | d20 | d40 | d100
  deriving DecidableEq, Repr

namespace Die

/-- The number of faces. -/
def faces : Die → Nat
  | d2 => 2
  | d3 => 3
  | d4 => 4
  | d5 => 5
  | d6 => 6
  | d7 => 7
  | d8 => 8
  | d9 => 9
  | d10 => 10
  | d11 => 11
  | d12 => 12
  | d20 => 20
  | d40 => 40
  | d100 => 100

/-- All dice, by ascending number of faces. -/
def all : List Die :=
  [d2, d3, d4, d5, d6, d7, d8, d9, d10, d11, d12, d20, d40, d100]

/-- The usual name, such as `D6`. -/
def name (d : Die) : String := s!"D{d.faces}"

/-- The die with a given number of faces. -/
def ofFaces? (n : Int) : Option Die := all.find? fun d => (d.faces : Int) == n

/-- The die with a given name. -/
def ofName? (s : String) : Option Die := all.find? fun d => d.name == s

theorem mem_all (d : Die) : d ∈ all := by cases d <;> decide

theorem two_le_faces (d : Die) : 2 ≤ d.faces := by cases d <;> decide

theorem faces_le (d : Die) : d.faces ≤ 100 := by cases d <;> decide

theorem faces_pos (d : Die) : 0 < d.faces := Nat.lt_of_lt_of_le (by decide) d.two_le_faces

@[simp] theorem ofFaces?_faces (d : Die) : ofFaces? d.faces = some d := by cases d <;> decide

end Die

end DiceOdds
