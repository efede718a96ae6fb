import DiceOdds.Random.Permuted

/-!
# Scripted Sources

Sources whose draws are easy to foresee, for examples and rehearsals: a linear
congruential one, and one that repeats a list of numbers.  `Generator` is a source of
either kind or a permuted generator.
-/

namespace DiceOdds.Random

/-! ## §1 Linear congruential draws -/

/-- The state of a linear congruential generator of 64 bits. -/
structure Linear where
  state : UInt64
  deriving DecidableEq, Repr

/-- The upper bits of the next state, reduced below the bound. -/
def Linear.below (n : Nat) (h : 0 < n) (g : Linear) : Fin n × Linear :=
  let state := g.state * 6364136223846793005 + 1442695040888963407
  (⟨(state >>> 33).toNat % n, Nat.mod_lt _ h⟩, ⟨state⟩)

instance : Source Linear := ⟨Linear.below⟩

/-! ## §2 Repeated numbers -/

/-- Numbers that are drawn in order, again and again. -/
structure Cycle where
  /-- The numbers of one round. -/
  round : List Int
  /-- What is left of the current round. -/
  rest : List Int
  deriving DecidableEq, Repr

/-- The next number of the round, and the cycle behind it. -/
def Cycle.next (c : Cycle) : Int × Cycle :=
  match c.rest with
  | x :: rest => (x, { c with rest })
  | [] =>
    match c.round with
    | x :: rest => (x, { c with rest })
    | [] => (0, c)

/-- An integer reduced below a bound. -/
def reduce (n : Nat) (h : 0 < n) (x : Int) : Fin n :=
  ⟨(x % n).toNat, by
    have hpos : (0 : Int) < n := by omega
    have := Int.emod_lt_of_pos x hpos
    have := Int.emod_nonneg x (Int.ne_of_gt hpos)
    omega⟩

/-- The next number, reduced below the bound. -/
def Cycle.below (n : Nat) (h : 0 < n) (c : Cycle) : Fin n × Cycle :=
  (reduce n h c.next.1, c.next.2)

instance : Source Cycle := ⟨Cycle.below⟩

/-! ## §3 Any of the three -/

/-- A source of one of three kinds. -/
inductive Generator where
  | permuted (g : Permuted)
  | linear (g : Linear)
  | cycle (g : Cycle)
  deriving DecidableEq, Repr

namespace Generator

/-- A number below a bound. -/
def below (n : Nat) (h : 0 < n) : Generator → Fin n × Generator
  | permuted g => let (x, g') := Source.below n h g; (x, permuted g')
  | linear g => let (x, g') := Source.below n h g; (x, linear g')
  | cycle g => let (x, g') := Source.below n h g; (x, cycle g')

instance : Source Generator := ⟨below⟩

end Generator

end DiceOdds.Random
