/-!
# Rankings

Dense ranks of final scores in descending order: tied scores share a rank, and the next
lower score takes the next rank.
-/

namespace DiceOdds

/-- Ranks of the scores behind one whose score and rank are given.  The rank goes up
where a score is lower than the one before it. -/
def ranksFrom (previous : Int) (rank : Nat) : List Int → List Nat
  | [] => []
  | s :: ss =>
    let next := if s < previous then rank + 1 else rank
    next :: ranksFrom s next ss

/-- Dense ranks of scores in descending order. -/
def rankings : List Int → List Nat
  | [] => []
  | s :: ss => 1 :: ranksFrom s 1 ss

end DiceOdds
