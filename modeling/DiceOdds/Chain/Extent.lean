import DiceOdds.Chain

/-!
# Scores of Different Extent

Scores of a chain need not cover equally many rolls: a single truth value, or a score of
one roll, is stretched to the extent of the score that it is combined with.  Other scores
of different extent cannot be combined; a chain fails where it first tries to.
-/

namespace DiceOdds

/-! ## §1 Scores -/

/-- A score of some extent. -/
inductive Score where
  /-- One truth value that stands for any number of rolls. -/
  | single (b : Bool)
  /-- One truth value for each roll. -/
  | each (bs : List Bool)
  deriving DecidableEq, Repr

namespace Score

/-- Combines truth values one by one, stretching a score of one roll. -/
def combineEach (f : Bool → Bool → Bool) (as bs : List Bool) : Option (List Bool) :=
  if as.length = bs.length then some (List.zipWith f as bs)
  else
    match as, bs with
    | [a], bs => some (bs.map (f a))
    | as, [b] => some (as.map (f · b))
    | _, _ => none

/-- Combines two scores, if one of them can be stretched to the other. -/
def combine (f : Bool → Bool → Bool) : Score → Score → Option Score
  | single a, single b => some (single (f a b))
  | single a, each bs => some (each (bs.map (f a)))
  | each as, single b => some (each (as.map (f · b)))
  | each as, each bs => (combineEach f as bs).map each

end Score

/-- Scores that could not be combined spoil what they are combined with. -/
instance : Verdict (Option Score) :=
  ⟨fun a b => a.bind fun a => b.bind (a.combine and),
   fun a b => a.bind fun a => b.bind (a.combine or)⟩

/-! ## §2 Verdicts -/

namespace Chain

/-- Whether some scores among the first `n` are linked by `and` and cannot be combined. -/
def spoiltWithin (n : Nat) (links : List (Option Link)) (scores : List Score) : Bool :=
  match (scores.take n).map some with
  | [] => false
  | score :: rest =>
    match gather 1 score (links.take n).tail rest with
    | .ok groups => groups.any Option.isNone
    | .error _ => false

/-- The number of clauses that are looked at before a fault of the chain is found. -/
def seenBefore (links : List (Option Link)) : ChainFault → Nat
  | .empty => 0
  | .uneven _ _ => 0
  | .unlinked index => index
  | .strayFirst => links.length

/-- The verdict of a chain of linked scores of any extent. -/
def resolveScores (links : List (Option Link)) (scores : List Score) : Except Fault Score :=
  match resolve links (scores.map some) with
  | .ok (some score) => .ok score
  | .ok none => .error .misfit
  | .error fault =>
    if spoiltWithin (seenBefore links fault) links scores then .error .misfit
    else .error (.rejected (.malformed fault))

/-! ## §3 Single truth values -/

theorem respects_single : Respects fun b : Bool => some (Score.single b) :=
  ⟨fun _ _ => rfl, fun _ _ => rfl⟩

theorem map_some_single (bs : List Bool) :
    (bs.map Score.single).map some = bs.map fun b => some (Score.single b) := by
  simp

/-- Single truth values can always be combined. -/
theorem spoiltWithin_single (n : Nat) (links : List (Option Link)) (bs : List Bool) :
    spoiltWithin n links (bs.map .single) = false := by
  unfold spoiltWithin
  rw [← List.map_take, map_some_single]
  cases bs.take n with
  | nil => rfl
  | cons b rest =>
    simp only [List.map_cons]
    rw [gather_map respects_single]
    cases gather 1 b (links.take n).tail rest with
    | error e => rfl
    | ok groups => simp [Except.map]

/-- On single truth values the verdict is the plain one. -/
theorem resolveScores_single (links : List (Option Link)) (bs : List Bool) :
    resolveScores links (bs.map .single) =
      ((resolve links bs).map Score.single).mapError fun e => .rejected (.malformed e) := by
  unfold resolveScores
  rw [map_some_single, resolve_map respects_single]
  cases resolve links bs with
  | ok b => rfl
  | error e =>
    have plain := spoiltWithin_single (seenBefore links e) links bs
    exact if_neg (by rw [plain]; exact Bool.false_ne_true)

end Chain

end DiceOdds
