import DiceOdds.Roll.Nested
import DiceOdds.Storage

/-!
# Statistics of a Roll

The six numbers to which a roll can be reduced.  Totals are kept in machine words;
divisions round down.  The mode is the lowest of the most frequent faces.  It is looked up
in a row with one counter for each face from nought to the largest, so it exists only if
no face is below nought and the row can be stored.
-/

namespace DiceOdds

namespace Roll

/-! ## §1 Totals and ranks -/

/-- The total of the faces. -/
def pips (r : Roll) : Int := r.foldr (· + ·) 0

/-- The total of the faces, as a machine word. -/
def total (r : Roll) : Int := Word.wrap r.pips

/-- The total shared out evenly among the dice, rounded down. -/
def average (r : Roll) : Int := total r / r.length

/-- The faces in ascending order. -/
def sorted (r : Roll) : List Int := r.mergeSort

/-- The face of a given rank, counted from 0. -/
def ranked (r : Roll) (i : Nat) : Int := (sorted r).getD i 0

/-- The middle face, or the mean of the two middle faces rounded down. -/
def median (r : Roll) : Int :=
  if r.length % 2 = 0 then Word.wrap (ranked r (r.length / 2) + ranked r (r.length / 2 - 1)) / 2
  else ranked r ((r.length - 1) / 2)

/-- The smallest face. -/
def minimum : Roll → Int
  | [] => 0
  | x :: xs => xs.foldl min x

/-- The largest face. -/
def maximum : Roll → Int
  | [] => 0
  | x :: xs => xs.foldl max x

/-! ## §2 Frequencies -/

/-- Counts one more face, which is at most as large as those that were tallied. -/
def tally (x : Int) : List (Int × Nat) → List (Int × Nat)
  | (y, n) :: rest => if x = y then (y, n + 1) :: rest else (x, 1) :: (y, n) :: rest
  | [] => [(x, 1)]

/-- The different faces of a roll in ascending order, each with its frequency. -/
def tallies (r : Roll) : List (Int × Nat) := (sorted r).foldr tally []

/-- The more frequent of two faces; the first one if they tie. -/
def moreFrequent (best next : Int × Nat) : Int × Nat := if best.2 < next.2 then next else best

/-- The lowest of the most frequent faces. -/
def mode (r : Roll) : Int :=
  match tallies r with
  | [] => 0
  | first :: rest => (rest.foldl moreFrequent first).1

/-- The tallies of a sorted list have ascending faces, and exactly the frequencies that
occur. -/
theorem foldr_tally {l : List Int} (h : l.Pairwise (· ≤ ·)) :
    (l.foldr tally []).Pairwise (·.1 < ·.1) ∧
      ∀ x n, (x, n) ∈ l.foldr tally [] ↔ x ∈ l ∧ n = l.count x := by
  induction l with
  | nil => simp
  | cons a l ih =>
    obtain ⟨hle, hl⟩ := List.pairwise_cons.mp h
    obtain ⟨hlt, hmem⟩ := ih hl
    rw [List.foldr_cons]
    cases htallies : l.foldr tally [] with
    | nil =>
      have hnil : l = [] := by
        cases l with
        | nil => rfl
        | cons b l => simpa [htallies] using hmem b ((b :: l).count b)
      subst hnil
      simp only [tally]
      grind
    | cons e rest =>
      obtain ⟨y, m⟩ := e
      rw [htallies] at hlt hmem
      obtain ⟨hrest, hltrest⟩ := List.pairwise_cons.mp hlt
      obtain ⟨hy, hm⟩ := (hmem y m).mp List.mem_cons_self
      simp only [tally]
      split
      · next hay =>
        subst hay
        refine ⟨List.pairwise_cons.mpr ⟨hrest, hltrest⟩, fun x n => ?_⟩
        have hx := hmem x n
        by_cases hxa : x = a
        · subst hxa
          have : (x, n) ∉ rest := fun hin => Int.lt_irrefl x (hrest _ hin)
          simp [this, hm]
        · have hax : ¬a = x := fun e => hxa e.symm
          simpa [hxa, hax, List.count_cons] using hx
      · next hay =>
        -- a face above `a` comes first, so `a` itself is new
        have hnew : a ∉ l := fun ha => by
          rcases List.mem_cons.mp ((hmem a _).mpr ⟨ha, rfl⟩) with heq | hin
          · exact hay (congrArg Prod.fst heq)
          · exact Int.lt_irrefl a (Int.lt_of_le_of_lt (hle y hy) (hrest _ hin))
        refine ⟨List.pairwise_cons.mpr ⟨fun e he => ?_, hlt⟩, fun x n => ?_⟩
        · have he' := (hmem e.1 e.2).mp he
          have := hle e.1 he'.1
          have : e.1 ≠ a := fun eq => hnew (eq ▸ he'.1)
          omega
        · have hx := hmem x n
          by_cases hxa : x = a
          · subst hxa
            simp [List.count_eq_zero.mpr hnew, hx, hnew]
          · have hax : ¬a = x := fun e => hxa e.symm
            simpa [hxa, hax, List.count_cons] using hx

theorem pairwise_sorted (r : Roll) : (sorted r).Pairwise (· ≤ ·) := by
  have : (r.mergeSort fun a b => decide (a ≤ b)).Pairwise fun a b => decide (a ≤ b) = true :=
    List.pairwise_mergeSort
      (fun a b c hab hbc => by simp only [decide_eq_true_eq] at *; omega)
      (fun a b => by simp only [Bool.or_eq_true, decide_eq_true_eq]; omega) r
  simpa [sorted] using this

/-- A face is tallied with its frequency in the roll. -/
theorem mem_tallies {r : Roll} {x : Int} {n : Nat} :
    (x, n) ∈ tallies r ↔ x ∈ r ∧ n = r.count x := by
  have hperm : (sorted r).Perm r := List.mergeSort_perm r _
  rw [tallies, (foldr_tally (pairwise_sorted r)).2, hperm.mem_iff, hperm.count_eq]

/-- The tallied faces ascend. -/
theorem pairwise_tallies (r : Roll) : (tallies r).Pairwise (·.1 < ·.1) :=
  (foldr_tally (pairwise_sorted r)).1

end Roll

/-! ## §3 Statistics -/

variable [Memory]

/-- What keeps the faces of a roll from being counted. -/
def Roll.uncountable? (r : Roll) : Option Fault :=
  if r.any (· < 0) then some .negativeFace else Storage.obstacle? [r.maximum + 1]

/-- The statistic of a roll. -/
def Statistic.ofRoll (s : Statistic) (r : Roll) : Except Fault Int :=
  match s with
  | .sum => .ok (Roll.total r)
  | .average => .ok (Roll.average r)
  | .median => .ok (Roll.median r)
  | .minimum => .ok (Roll.minimum r)
  | .maximum => .ok (Roll.maximum r)
  | .mode =>
    match r.uncountable? with
    | some fault => .error fault
    | none => .ok (Roll.mode r)

/-- The statistic of every roll of a table, if the reduction yields one. -/
def RollTable.aggregate (t : RollTable) (reduction : Reduction) : Except Fault (List Int) :=
  match reduction.statistic? with
  | none => .error (.notAStatistic reduction)
  | some s => t.rows.mapM s.ofRoll

end DiceOdds
