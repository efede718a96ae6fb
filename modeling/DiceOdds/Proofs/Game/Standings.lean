import DiceOdds.Game.Ranking
import Mathlib.Data.Finset.Card
import Mathlib.Order.Interval.Finset.Nat

/-!
# Standings

The dense rank of a score is one more than the number of distinct scores above it (`denseRank`).
A walk down sorted scores compares each score with the one before it only, and counts how often it
gets lower; as all scores that are still to come are at most the present one, what has been counted
are the distinct scores above (`card_scoresAbove_cons`).  So the ranks that the walk gives are the
dense ranks (`rankings_eq_map`), which have their properties in whatever order the scores stand.

**Main statement**: `rankings_are_dense`.
-/

namespace DiceOdds

/-! ## §1 Dense ranks -/

/-- The distinct scores above a score. -/
def scoresAbove (scores : List Int) (s : Int) : Finset Int := scores.toFinset.filter (s < ·)

/-- One more than the number of distinct scores above a score. -/
def denseRank (scores : List Int) (s : Int) : Nat := (scoresAbove scores s).card + 1

section Ranks

variable {scores : List Int} {s t : Int}

theorem mem_scoresAbove : t ∈ scoresAbove scores s ↔ t ∈ scores ∧ s < t := by
  rw [scoresAbove, Finset.mem_filter, List.mem_toFinset]

/-- A higher score has a smaller rank. -/
theorem denseRank_lt (ht : t ∈ scores) (h : s < t) : denseRank scores t < denseRank scores s := by
  have hsubset : scoresAbove scores t ⊂ scoresAbove scores s := by
    refine (Finset.ssubset_iff_of_subset fun u hu => ?_).mpr ⟨t, ?_, ?_⟩
    · obtain ⟨hmem, hlt⟩ := mem_scoresAbove.mp hu
      exact mem_scoresAbove.mpr ⟨hmem, Int.lt_trans h hlt⟩
    · -- the higher score is above the lower one, and not above itself
      exact mem_scoresAbove.mpr ⟨ht, h⟩
    · exact fun hself => Int.lt_irrefl t (mem_scoresAbove.mp hself).2
  exact Nat.succ_lt_succ (Finset.card_lt_card hsubset)

theorem denseRank_eq_iff (hs : s ∈ scores) (ht : t ∈ scores) :
    denseRank scores s = denseRank scores t ↔ s = t := by
  constructor
  · intro h
    rcases Int.lt_trichotomy s t with hlt | heq | hgt
    · exact absurd h (Nat.ne_of_gt (denseRank_lt ht hlt))
    · exact heq
    · exact absurd h (Nat.ne_of_lt (denseRank_lt hs hgt))
  · exact congrArg (denseRank scores)

/-- There are no more ranks than distinct scores. -/
theorem denseRank_le (hs : s ∈ scores) : denseRank scores s ≤ scores.toFinset.card := by
  have hsubset : scoresAbove scores s ⊂ scores.toFinset := by
    refine (Finset.ssubset_iff_of_subset (Finset.filter_subset _ _)).mpr ⟨s, ?_, ?_⟩
    · exact List.mem_toFinset.mpr hs
    · exact fun hself => Int.lt_irrefl s (mem_scoresAbove.mp hself).2
  exact Finset.card_lt_card hsubset

/-- The ranks in use are the numbers from 1 up to the number of distinct scores. -/
theorem image_denseRank (scores : List Int) :
    scores.toFinset.image (denseRank scores) = Finset.Icc 1 scores.toFinset.card := by
  apply Finset.eq_of_subset_of_card_le
  · intro r hr
    obtain ⟨s, hs, rfl⟩ := Finset.mem_image.mp hr
    exact Finset.mem_Icc.mpr ⟨Nat.succ_pos _, denseRank_le (List.mem_toFinset.mp hs)⟩
  · -- distinct scores have distinct ranks, so none of those numbers is left over
    have hinjective : Set.InjOn (denseRank scores) scores.toFinset := by
      intro s hs t ht heq
      exact (denseRank_eq_iff (List.mem_toFinset.mp hs) (List.mem_toFinset.mp ht)).mp heq
    rw [Finset.card_image_of_injOn hinjective, Nat.card_Icc, Nat.add_sub_cancel]

end Ranks

/-! ## §2 Walking down -/

/-- In front of sorted scores, a score is one more above those to come if it is higher than the
first of them, and makes no difference if it ties with it. -/
theorem card_scoresAbove_cons {previous s : Int} {ss : List Int}
    (hsorted : (previous :: s :: ss).Pairwise (· ≥ ·)) {t : Int} (ht : t ∈ s :: ss) :
    (scoresAbove (previous :: s :: ss) t).card =
      (scoresAbove (s :: ss) t).card + if s < previous then 1 else 0 := by
  obtain ⟨hprevious, hrest⟩ := List.pairwise_cons.mp hsorted
  have hfirst : ∀ u ∈ s :: ss, u ≤ s := by
    intro u hu
    rcases List.mem_cons.mp hu with rfl | hu
    · exact Int.le_refl u
    · exact (List.pairwise_cons.mp hrest).1 u hu
  by_cases hlower : s < previous
  · have hnew : previous ∉ scoresAbove (s :: ss) t := by
      intro hmem
      have := hfirst previous (mem_scoresAbove.mp hmem).1
      omega
    have habove : t < previous := Int.lt_of_le_of_lt (hfirst t ht) hlower
    rw [if_pos hlower, scoresAbove, List.toFinset_cons, Finset.filter_insert, if_pos habove]
    exact Finset.card_insert_of_notMem hnew
  · have htie : previous = s := by
      have := hprevious s List.mem_cons_self
      omega
    have hold : previous ∈ (s :: ss).toFinset := by
      rw [htie, List.mem_toFinset]
      exact List.mem_cons_self
    rw [if_neg hlower, scoresAbove, List.toFinset_cons, Finset.insert_eq_self.mpr hold]
    rfl

theorem scoresAbove_head {s : Int} {ss : List Int} (hsorted : (s :: ss).Pairwise (· ≥ ·)) :
    scoresAbove (s :: ss) s = ∅ := by
  refine Finset.eq_empty_of_forall_notMem fun u hu => ?_
  obtain ⟨hmem, hlt⟩ := mem_scoresAbove.mp hu
  rcases List.mem_cons.mp hmem with rfl | hmem
  · exact Int.lt_irrefl u hlt
  · have := (List.pairwise_cons.mp hsorted).1 u hmem
    omega

/-- The rank with which a walk goes on is raised by the number of distinct scores above. -/
theorem ranksFrom_eq {previous : Int} {ss : List Int} (rank : Nat)
    (hsorted : (previous :: ss).Pairwise (· ≥ ·)) :
    ranksFrom previous rank ss =
      ss.map fun t => rank + (scoresAbove (previous :: ss) t).card := by
  induction ss generalizing previous rank with
  | nil => rfl
  | cons s ss ih =>
    have hrest := (List.pairwise_cons.mp hsorted).2
    have hnext : (if s < previous then rank + 1 else rank) =
        rank + if s < previous then 1 else 0 := by
      split <;> rfl
    rw [ranksFrom, List.map_cons, ih _ hrest, hnext]
    congr 1
    · -- nothing that is still to come is above the present score
      rw [card_scoresAbove_cons hsorted List.mem_cons_self, scoresAbove_head hrest,
        Finset.card_empty, Nat.zero_add]
    · refine List.map_congr_left fun t ht => ?_
      rw [card_scoresAbove_cons hsorted (List.mem_cons_of_mem s ht)]
      omega

/-- The rankings of sorted scores are their dense ranks. -/
theorem rankings_eq_map {scores : List Int} (hsorted : scores.Pairwise (· ≥ ·)) :
    rankings scores = scores.map (denseRank scores) := by
  cases scores with
  | nil => rfl
  | cons s ss =>
    rw [rankings, ranksFrom_eq 1 hsorted, List.map_cons, denseRank, scoresAbove_head hsorted]
    refine congrArg (1 :: ·) (List.map_congr_left fun t _ => ?_)
    exact Nat.add_comm 1 _

/-! ## §3 Standings -/

/-- The players of a game, each with a score and a rank. -/
def standings (scores : List Int) : List (Int × Nat) := scores.zip (rankings scores)

theorem mem_standings {scores : List Int} (hsorted : scores.Pairwise (· ≥ ·)) {p : Int × Nat} :
    p ∈ standings scores ↔ p.1 ∈ scores ∧ p.2 = denseRank scores p.1 := by
  rw [standings, rankings_eq_map hsorted, ← List.map_prod_left_eq_zip, List.mem_map]
  constructor
  · rintro ⟨s, hs, rfl⟩
    exact ⟨hs, rfl⟩
  · rintro ⟨hs, hrank⟩
    exact ⟨p.1, hs, Prod.ext rfl hrank.symm⟩

/-- **Rankings of sorted scores are dense.**  Each player has the rank that counts the distinct
scores above; so two players share a rank if and only if they tie, the higher score has the smaller
rank, and no rank is left out. -/
theorem rankings_are_dense {scores : List Int} (hsorted : scores.Pairwise (· ≥ ·)) :
    (rankings scores).length = scores.length ∧
    (∀ (i : Nat) (s : Int), scores[i]? = some s →
      (rankings scores)[i]? = some (1 + (scores.toFinset.filter (s < ·)).card)) ∧
    (∀ p ∈ standings scores, ∀ q ∈ standings scores,
      (p.2 = q.2 ↔ p.1 = q.1) ∧ (q.1 < p.1 → p.2 < q.2)) ∧
    (rankings scores).toFinset = Finset.Icc 1 scores.toFinset.card := by
  have hrankings := rankings_eq_map hsorted
  refine ⟨?_, fun i s hs => ?_, fun p hp q hq => ?_, ?_⟩
  · rw [hrankings, List.length_map]
  · rw [hrankings, List.getElem?_map, hs, Option.map_some, denseRank, Nat.add_comm]
    rfl
  · obtain ⟨hscore, hrank⟩ := (mem_standings hsorted).mp hp
    obtain ⟨hscore', hrank'⟩ := (mem_standings hsorted).mp hq
    rw [hrank, hrank']
    exact ⟨denseRank_eq_iff hscore hscore', denseRank_lt hscore⟩
  · ext r
    rw [hrankings, ← image_denseRank, List.mem_toFinset, List.mem_map, Finset.mem_image]
    simp only [List.mem_toFinset]

/-- Seven players with five different scores: two ties, and no rank is left out. -/
theorem two_ties_leave_no_gap :
    ([5, 5, 4, 3, 3, 2, 1] : List Int).Pairwise (· ≥ ·) ∧
    rankings [5, 5, 4, 3, 3, 2, 1] = [1, 1, 2, 3, 3, 4, 5] ∧
    (rankings [5, 5, 4, 3, 3, 2, 1]).toFinset = Finset.Icc 1 5 :=
  have hsorted : ([5, 5, 4, 3, 3, 2, 1] : List Int).Pairwise (· ≥ ·) := by decide
  ⟨hsorted, rfl, (rankings_are_dense hsorted).2.2.2⟩

end DiceOdds
