import DiceOdds.Proofs.Roll.MaximalRuns
import DiceOdds.Proofs.Roll.Search
import Mathlib.Data.Int.Order.Basic
import Mathlib.Data.List.Perm.Basic
import Mathlib.Order.Basic

/-!
# Symmetries of Scores

Counts and statistics do not see the order of the dice: they are worked out from the sorted roll,
from its faces one by one, or from a sum.  Stretches see the order, but not its direction: a
maximal run, read from the other end, is a maximal run of the same length
(`IsMaximalRun.reverse`).  A sequence sees the direction as well, and turns round with the roll
(`scoreWalk_reverse`).

**Main statement**: `scores_are_symmetric`.
-/

namespace DiceOdds

/-! ## §1 Rearranged rolls -/

section Rearranged

variable {r r' : Roll} (h : r.Perm r')
include h

namespace Roll

theorem sorted_eq_of_perm : r.sorted = r'.sorted := by
  have hperm : r.sorted.Perm r'.sorted :=
    (List.mergeSort_perm r _).trans (h.trans (List.mergeSort_perm r' _).symm)
  exact hperm.eq_of_pairwise (fun _ _ _ _ => Int.le_antisymm) (pairwise_sorted r)
    (pairwise_sorted r')

theorem total_eq_of_perm : r.total = r'.total := congrArg Word.wrap (h.foldr_eq 0)

theorem average_eq_of_perm : r.average = r'.average := by
  rw [average, average, total_eq_of_perm h, h.length_eq]

theorem median_eq_of_perm : r.median = r'.median := by
  simp only [median, ranked, sorted_eq_of_perm h, h.length_eq]

theorem mode_eq_of_perm : r.mode = r'.mode := by
  simp only [mode, tallies, sorted_eq_of_perm h]

/-- The least face is known by what lies below it. -/
theorem minimum_eq_of_perm : r.minimum = r'.minimum := by
  rcases eq_or_ne r [] with rfl | hr
  · rw [h.nil_eq]
  · have hr' : r' ≠ [] := fun hnil => hr (hnil ▸ h).eq_nil
    refine eq_of_forall_lt_iff fun m => ?_
    simp only [lt_minimum_iff hr, lt_minimum_iff hr', h.mem_iff]

theorem maximum_eq_of_perm : r.maximum = r'.maximum := by
  rcases eq_or_ne r [] with rfl | hr
  · rw [h.nil_eq]
  · have hr' : r' ≠ [] := fun hnil => hr (hnil ▸ h).eq_nil
    refine eq_of_forall_gt_iff fun m => ?_
    simp only [maximum_lt_iff hr, maximum_lt_iff hr', h.mem_iff]

theorem uncountable?_eq_of_perm [Memory] : r.uncountable? = r'.uncountable? := by
  rw [uncountable?, uncountable?, h.any_eq, maximum_eq_of_perm h]

end Roll

/-- Statistics do not see the order of the dice, nor does what keeps them from being worked out. -/
theorem Statistic.ofRoll_eq_of_perm [Memory] (s : Statistic) : s.ofRoll r = s.ofRoll r' := by
  cases s with
  | sum => exact congrArg Except.ok (Roll.total_eq_of_perm h)
  | average => exact congrArg Except.ok (Roll.average_eq_of_perm h)
  | median => exact congrArg Except.ok (Roll.median_eq_of_perm h)
  | minimum => exact congrArg Except.ok (Roll.minimum_eq_of_perm h)
  | maximum => exact congrArg Except.ok (Roll.maximum_eq_of_perm h)
  | mode =>
    simp only [ofRoll, Roll.uncountable?_eq_of_perm h, Roll.mode_eq_of_perm h]

end Rearranged

/-! ## §2 Reversed rolls -/

namespace Roll

variable {p : Int → Bool} {r : Roll} {a b i : Nat}

theorem holdsAt_reverse (hi : i < r.length) :
    HoldsAt p r.reverse i ↔ HoldsAt p r (r.length - 1 - i) := by
  rw [HoldsAt, HoldsAt, List.getElem?_reverse hi]

/-- **A maximal run, read from the other end, is a maximal run.** -/
theorem IsMaximalRun.reverse (h : IsMaximalRun p r a b) :
    IsMaximalRun p r.reverse (r.length - 1 - b) (r.length - 1 - a) := by
  have hle := h.le
  have hlt := h.lt_length
  refine ⟨by omega, by rw [List.length_reverse]; omega, fun i hi hia => ?_, fun i hi => ?_, ?_⟩
  · rw [holdsAt_reverse (by omega)]
    exact h.holds _ (by omega) (by omega)
  · -- the die before the run is the one that stood after it
    rw [holdsAt_reverse (by omega), show r.length - 1 - i = b + 1 by omega]
    exact h.not_after
  · intro hafter
    have hinside := hafter.lt_length
    rw [List.length_reverse] at hinside
    rw [holdsAt_reverse hinside] at hafter
    exact h.not_before _ (by omega) hafter

/-- A roll and its reversal have stretches of the same lengths. -/
theorem any_stretches_reverse (admits : Nat → Bool) (r : Roll) :
    (stretches p r.reverse).any admits = (stretches p r).any admits := by
  have himp : ∀ r : Roll, (stretches p r).any admits = true →
      (stretches p r.reverse).any admits = true := by
    intro r h
    obtain ⟨a, b, hrun, hadmits⟩ := any_stretches_iff.mp h
    have hle := hrun.le
    have hlt := hrun.lt_length
    refine any_stretches_iff.mpr ⟨_, _, hrun.reverse, ?_⟩
    rwa [show r.length - 1 - a - (r.length - 1 - b) = b - a by omega]
  refine Bool.eq_iff_iff.mpr ⟨fun h => ?_, himp r⟩
  have hback := himp r.reverse h
  rwa [List.reverse_reverse] at hback

end Roll

/-! ## §3 Turned walks -/

namespace Span

variable (a b : Int)

theorem size_comm : size ⟨a, b⟩ = size ⟨b, a⟩ := by
  simp only [size_eq]
  omega

theorem lowest_comm : lowest ⟨a, b⟩ = lowest ⟨b, a⟩ := Int.min_comm a b

theorem highest_comm : highest ⟨a, b⟩ = highest ⟨b, a⟩ := Int.max_comm a b

theorem coarse_comm : coarse ⟨a, b⟩ = coarse ⟨b, a⟩ := by
  rw [coarse, coarse, lowest_comm a b, highest_comm a b]

theorem layOut_comm [Memory] : layOut ⟨a, b⟩ = layOut ⟨b, a⟩ := by
  funext rolls dice
  rw [layOut, layOut, size_comm a b]

/-- A row turns round with its span.  A span of a single number has a row of one. -/
theorem reverse_row {length : Nat} (h : a = b → length = 1) :
    (row ⟨a, b⟩ length).reverse = row ⟨b, a⟩ length := by
  have hclimb : climb ⟨a, b⟩ length = climb ⟨b, a⟩ length := by
    rw [climb, climb, lowest_comm a b]
  have hcoarseClimb : coarseClimb ⟨a, b⟩ length = coarseClimb ⟨b, a⟩ length := by
    rw [coarseClimb, coarseClimb, lowest_comm a b]
  rw [row, row, coarse_comm b a, hclimb, hcoarseClimb]
  simp only [descending, decide_eq_true_eq]
  rcases Int.lt_trichotomy a b with hlt | rfl | hgt
  · rw [if_neg (Int.not_lt.mpr (Int.le_of_lt hlt)), if_pos hlt]
  · rw [if_neg (Int.lt_irrefl a), h rfl]
    -- a row of a single number
    split <;> rfl
  · rw [if_pos hgt, if_neg (Int.not_lt.mpr (Int.le_of_lt hgt)), List.reverse_reverse]

end Span

namespace Roll

variable (a b : Int) (r : Roll)

theorem shows_reverse (faces : List Int) : shows faces r.reverse = shows faces.reverse r := by
  rw [Bool.eq_iff_iff, shows_iff, shows_iff, ← List.reverse_infix, List.reverse_reverse]

theorem follows_reverse {length : Nat} (h : a = b → length = 1) :
    follows ⟨a, b⟩ length r.reverse = follows ⟨b, a⟩ length r := by
  rw [follows, follows, List.length_reverse, ← Span.reverse_row a b h, Span.coarse_comm b a,
    ← shows_reverse]
  split
  · rw [List.map_reverse]
  · rfl

/-- **A sequence turns round with the roll.** -/
theorem scoreWalk_reverse [Memory] : scoreWalk ⟨a, b⟩ r.reverse = scoreWalk ⟨b, a⟩ r := by
  rw [scoreWalk, scoreWalk, Span.layOut_comm a b, List.length_reverse]
  cases hlength : Span.layOut ⟨b, a⟩ 1 r.length with
  | error f => rfl
  | ok length =>
    refine congrArg Except.ok (follows_reverse a b r fun heq => ?_)
    obtain ⟨hrow, -⟩ := Span.layOut_eq_ok_iff.mp hlength
    have hsize : (Span.size ⟨b, a⟩ : Int) = 1 := by
      simp only [Span.size_eq, heq, Int.sub_self, Int.natAbs_zero]
      rfl
    have hone := Storage.settings_lt_rowRoom
    rw [hsize, Storage.rowLength_of_lt (by decide) (by omega)] at hrow
    exact (Except.ok.inj hrow).symm

end Roll

/-! ## §4 Tables -/

/-- The table with every roll read from its other end. -/
def RollTable.reversed (t : RollTable) : RollTable where
  width := t.width
  rows := t.rows.map List.reverse
  width_pos := t.width_pos
  rows_ne_nil := by
    rw [Ne, List.map_eq_nil_iff]
    exact t.rows_ne_nil
  length_of_mem := by
    intro _ hmem
    obtain ⟨r, hr, rfl⟩ := List.mem_map.mp hmem
    rw [List.length_reverse]
    exact t.length_of_mem r hr
  holds_of_mem := by
    intro _ hmem x hx
    obtain ⟨r, hr, rfl⟩ := List.mem_map.mp hmem
    exact t.holds_of_mem r hr x (List.mem_reverse.mp hx)

/-- **Symmetries of scores.**  Where the dice of every roll are put into another order, tests that
count dice decide as before, and a statistic has the values that it had, or the fault that it had;
it does have values, unless it is a mode and some roll cannot be counted.  Where every roll is read
from its other end, tests for stretches decide as before, and a sequence from one number to another
decides as the sequence back did. -/
theorem scores_are_symmetric [Memory] {t u : RollTable}
    (h : List.Forall₂ List.Perm t.rows u.rows) (die : Die) (link : Link) :
    (∀ quota target, ∃ verdicts, t.score ⟨die, link, .each quota target⟩ = .ok verdicts ∧
      u.score ⟨die, link, .each quota target⟩ = .ok verdicts) ∧
    (∀ s : Statistic, u.aggregate (.statistic s) = t.aggregate (.statistic s) ∧
      ((s = .mode → ∀ r ∈ t.rows, r.Countable) →
        ∃ values, t.aggregate (.statistic s) = .ok values)) ∧
    (∀ quota target, ∃ verdicts, t.score ⟨die, link, .run quota target⟩ = .ok verdicts ∧
      t.reversed.score ⟨die, link, .run quota target⟩ = .ok verdicts) ∧
    ∀ lower upper, t.reversed.score ⟨die, link, .sequence ⟨lower, upper⟩⟩ =
      t.score ⟨die, link, .sequence ⟨upper, lower⟩⟩ := by
  have hsize : t.reversed.size = t.size := List.length_map _
  have hreversed : ∀ c d : Clause, d.test.layOut = c.test.layOut →
      (∀ r, d.score r.reverse = c.score r) → t.reversed.score d = t.score c := by
    intro c d hlayout hscore
    have hrows : t.reversed.rows.mapM d.score = t.rows.mapM c.score :=
      mapM_eq_of_forall₂ (List.forall₂_map_left_iff.mpr (List.forall₂_same.mpr fun r _ => hscore r))
    rw [RollTable.score_eq_mapM, RollTable.score_eq_mapM, hrows, hlayout, hsize]
    rfl
  refine ⟨fun quota target => ?_, fun s => ⟨?_, fun hmode => ?_⟩, fun quota target => ?_,
    fun lower upper => hreversed _ _ ?_ fun r => Roll.scoreWalk_reverse lower upper r⟩
  · have hscore := t.score_eq_ok (c := ⟨die, link, .each quota target⟩) rfl fun _ _ => rfl
    refine ⟨_, hscore, ?_⟩
    rw [← hscore, RollTable.score_of_layOut rfl, RollTable.score_of_layOut rfl]
    refine (mapM_eq_of_forall₂ (h.imp fun r r' hperm => ?_)).symm
    exact congrArg (fun n : Nat => Except.ok (quota.admits n)) (hperm.countP_eq _)
  · exact (mapM_eq_of_forall₂ (h.imp fun r r' hperm => s.ofRoll_eq_of_perm hperm)).symm
  · exact exists_mapM_eq_ok_iff.mpr fun r hr => Statistic.exists_ofRoll fun hs => hmode hs r hr
  · have hscore := t.score_eq_ok (c := ⟨die, link, .run quota target⟩) rfl fun _ _ => rfl
    refine ⟨_, hscore, ?_⟩
    rw [← hscore]
    exact hreversed _ _ rfl fun r => congrArg Except.ok (Roll.any_stretches_reverse _ r)
  · funext rolls dice
    rw [Test.layOut, Test.layOut, Span.layOut_comm lower upper]

/-- The dice of a climb and a descent in another order. -/
def climbAndDescentShuffled : RollTable where
  width := 6
  rows := [[3, 1, 4, 2, 5, 3], [4, 2, 1, 2, 3, 2]]
  width_pos := Nat.succ_pos 5
  rows_ne_nil := by decide
  length_of_mem := by decide
  holds_of_mem := by decide

/-- The other order shows as many threes, and it has the modes that there were.  From the other
end, a stretch of small dice is as long, and the climb from one to four is a descent. -/
theorem climb_is_a_descent :
    List.Forall₂ List.Perm climbAndDescent.rows climbAndDescentShuffled.rows ∧
    (∃ verdicts,
      climbAndDescent.score ⟨.d6, .first, .each ⟨.exactly, 2⟩ ⟨.equals, 3, ⟨1, 1⟩⟩⟩ = .ok verdicts ∧
      climbAndDescentShuffled.score ⟨.d6, .first, .each ⟨.exactly, 2⟩ ⟨.equals, 3, ⟨1, 1⟩⟩⟩ =
        .ok verdicts ∧
      verdicts = [true, false]) ∧
    (∀ r ∈ climbAndDescent.rows, r.Countable) ∧
    (∃ modes, climbAndDescent.aggregate (.statistic .mode) = .ok modes ∧
      climbAndDescentShuffled.aggregate (.statistic .mode) = .ok modes) ∧
    climbAndDescent.reversed.score
      ⟨.d6, .first, .run ⟨.exactly, 3⟩ ⟨.atMost, 3, ⟨1, 1⟩⟩⟩ = .ok [true, true] ∧
    climbAndDescent.reversed.score ⟨.d6, .first, .sequence ⟨4, 1⟩⟩ = .ok [true, false] := by
  have hshuffled : List.Forall₂ List.Perm climbAndDescent.rows climbAndDescentShuffled.rows :=
    .cons (by decide) (.cons (by decide) .nil)
  have hcountable : ∀ r ∈ climbAndDescent.rows, r.Countable := by decide
  obtain ⟨heach, hstatistic, hrun, hsequence⟩ := scores_are_symmetric hshuffled .d6 .first
  obtain ⟨verdicts, hverdicts, hshuffledVerdicts⟩ := heach ⟨.exactly, 2⟩ ⟨.equals, 3, ⟨1, 1⟩⟩
  obtain ⟨hmodes, hexists⟩ := hstatistic .mode
  obtain ⟨modes, hvalues⟩ := hexists fun _ => hcountable
  obtain ⟨ran, hran, hback⟩ := hrun ⟨.exactly, 3⟩ ⟨.atMost, 3, ⟨1, 1⟩⟩
  refine ⟨hshuffled, ⟨verdicts, hverdicts, hshuffledVerdicts, ?_⟩, hcountable,
    ⟨modes, hvalues, hmodes.trans hvalues⟩, ?_, (hsequence 4 1).trans rfl⟩
  · have hscore : climbAndDescent.score
        ⟨.d6, .first, .each ⟨.exactly, 2⟩ ⟨.equals, 3, ⟨1, 1⟩⟩⟩ = .ok [true, false] := rfl
    rw [hscore] at hverdicts
    exact (Except.ok.inj hverdicts).symm
  · exact hback.trans (hran.symm.trans rfl)

end DiceOdds
