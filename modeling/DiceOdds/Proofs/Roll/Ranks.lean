import DiceOdds.Proofs.Roll.Bounds
import DiceOdds.Proofs.Roll.Shift

/-!
# Ranks and Middle Faces

A face has a rank in a roll if no more dice than that lie below it, while more than that do not lie
above it (`HasRank`).  This does not speak of sorting; but in ascending order the dice below a bound
are those in front (`lt_countP_iff_of_pairwise`), so the die at a place has the rank of its place
(`hasRank_ranked`), and no other face has that rank (`HasRank.unique`).

The median is half of the faces of the two middle ranks, which are one and the same if the number of
dice is odd (`median_eq_half`).  So at most half of the dice lie below it, and at most half above.

**Main statement**: `statistics_are_in_order`.
-/

namespace DiceOdds

namespace Roll

variable {r : Roll} {i j : Nat} {x y : Int}

/-! ## §1 Ranks -/

private theorem countP_le_of_imp {p q : Int → Prop} [DecidablePred p] [DecidablePred q]
    (h : ∀ x, p x → q x) : r.countP (p ·) ≤ r.countP (q ·) := by
  apply List.countP_mono_left
  intro x _ hx
  exact decide_eq_true (h x (of_decide_eq_true hx))

/-- The roll shows the face; no more than `i` dice lie below it, and more than `i` do not lie
above it. -/
structure HasRank (r : Roll) (i : Nat) (x : Int) : Prop where
  mem : x ∈ r
  countP_lt_le : r.countP (· < x) ≤ i
  lt_countP_le : i < r.countP (· ≤ x)

/-- A face of a higher rank is not lower. -/
theorem HasRank.le (hx : r.HasRank i x) (hy : r.HasRank j y) (hij : i ≤ j) : x ≤ y := by
  by_contra hlt
  -- what does not lie above the one would lie below the other
  have hbelow : r.countP (· ≤ y) ≤ r.countP (· < x) := countP_le_of_imp fun z hz => by omega
  have := hx.countP_lt_le
  have := hy.lt_countP_le
  omega

theorem HasRank.unique (hx : r.HasRank i x) (hy : r.HasRank i y) : x = y :=
  Int.le_antisymm (hx.le hy (Nat.le_refl i)) (hy.le hx (Nat.le_refl i))

/-- In ascending order, a property that passes on to lower faces holds of the dice in front, as many
as it holds of. -/
theorem lt_countP_iff_of_pairwise {p : Int → Prop} [DecidablePred p]
    (hp : ∀ x y, x ≤ y → p y → p x) {l : List Int} (hl : l.Pairwise (· ≤ ·)) {i : Nat}
    (hi : i < l.length) : i < l.countP (p ·) ↔ p l[i] := by
  -- from the first die on, wherever the place is
  induction l generalizing i with
  | nil => exact absurd hi (Nat.not_lt_zero i)
  | cons a l ih =>
    obtain ⟨hle, hl⟩ := List.pairwise_cons.mp hl
    by_cases ha : p a
    · rw [List.countP_cons_of_pos (p := fun x => decide (p x)) (decide_eq_true ha)]
      cases i with
      | zero => exact iff_of_true (Nat.succ_pos _) ha
      | succ i =>
        rw [List.getElem_cons_succ, ← ih hl (Nat.lt_of_succ_lt_succ hi)]
        exact Nat.succ_lt_succ_iff
    · -- the least face does not have the property, so none has
      have hnone : ∀ y ∈ a :: l, ¬p y := by
        intro y hy hpy
        rcases List.mem_cons.mp hy with rfl | hy
        · exact ha hpy
        · exact ha (hp a y (hle y hy) hpy)
      have hzero : (a :: l).countP (p ·) = 0 := by
        rw [List.countP_eq_zero]
        intro y hy
        simpa using hnone y hy
      rw [hzero]
      exact iff_of_false (Nat.not_lt_zero i) (hnone _ (List.getElem_mem hi))

/-- The die at a place of the sorted roll has the rank of its place. -/
theorem hasRank_ranked (hi : i < r.length) : r.HasRank i (r.ranked i) := by
  have hperm : (sorted r).Perm r := List.mergeSort_perm r _
  have hi' : i < (sorted r).length := by rwa [hperm.length_eq]
  have hface : r.ranked i = (sorted r)[i] := by
    rw [ranked, List.getD_eq_getElem?_getD, List.getElem?_eq_getElem hi', Option.getD_some]
  have hbelow := lt_countP_iff_of_pairwise (p := (· < r.ranked i)) (fun x y => Int.lt_of_le_of_lt)
    (pairwise_sorted r) hi'
  have hupTo := lt_countP_iff_of_pairwise (p := (· ≤ r.ranked i)) (fun x y => Int.le_trans)
    (pairwise_sorted r) hi'
  rw [hperm.countP_eq, ← hface] at hbelow hupTo
  exact ⟨ranked_mem hi, Nat.not_lt.mp (mt hbelow.mp (Int.lt_irrefl _)),
    hupTo.mpr (Int.le_refl _)⟩

/-! ## §2 The middle -/

/-- The face in the middle, or the lower one of two. -/
def lowerMiddle (r : Roll) : Int := r.ranked ((r.length - 1) / 2)

/-- The face in the middle, or the upper one of two. -/
def upperMiddle (r : Roll) : Int := r.ranked (r.length / 2)

section Middle

variable (hr : r ≠ [])
include hr

theorem hasRank_lowerMiddle : r.HasRank ((r.length - 1) / 2) r.lowerMiddle := by
  have hlength := List.length_pos_iff.mpr hr
  exact hasRank_ranked (by omega)

theorem hasRank_upperMiddle : r.HasRank (r.length / 2) r.upperMiddle := by
  have hlength := List.length_pos_iff.mpr hr
  exact hasRank_ranked (by omega)

variable [Memory]

theorem median_eq_half (h : Statistic.median.ExactOn r) :
    r.median = (r.lowerMiddle + r.upperMiddle) / 2 := by
  have hlength := List.length_pos_iff.mpr hr
  rw [median, lowerMiddle, upperMiddle]
  split
  · next heven =>
    have hlower : (r.length - 1) / 2 = r.length / 2 - 1 := by omega
    rw [Word.wrap_of_holds (h heven), hlower, Int.add_comm]
  · -- half of a face and itself
    have hmiddle : r.length / 2 = (r.length - 1) / 2 := by omega
    rw [hmiddle]
    omega

theorem median_mem_middle (h : Statistic.median.ExactOn r) :
    r.lowerMiddle ≤ r.median ∧ r.median ≤ r.upperMiddle := by
  have hle : r.lowerMiddle ≤ r.upperMiddle :=
    (hasRank_lowerMiddle hr).le (hasRank_upperMiddle hr) (by omega)
  rw [median_eq_half hr h]
  omega

/-- At most half of the dice lie below the median. -/
theorem two_mul_countP_lt_median (h : Statistic.median.ExactOn r) :
    2 * r.countP (· < r.median) ≤ r.length := by
  have hupper := (median_mem_middle hr h).2
  have hbelow : r.countP (· < r.median) ≤ r.countP (· < r.upperMiddle) :=
    countP_le_of_imp fun x hx => by omega
  have hrank := (hasRank_upperMiddle hr).countP_lt_le
  omega

/-- At most half of the dice lie above the median. -/
theorem two_mul_countP_median_lt (h : Statistic.median.ExactOn r) :
    2 * r.countP (r.median < ·) ≤ r.length := by
  have hlower := (median_mem_middle hr h).1
  have habove : r.countP (r.median < ·) ≤ r.countP (¬· ≤ r.lowerMiddle) :=
    countP_le_of_imp fun x hx => by omega
  -- what does not lie above the lower middle takes up its rank, and one die more
  have hrank := (hasRank_lowerMiddle hr).lt_countP_le
  have hsplit : r.length = r.countP (· ≤ r.lowerMiddle) + r.countP (¬· ≤ r.lowerMiddle) := by
    simpa only [decide_eq_true_eq] using
      List.length_eq_countP_add_countP fun x => decide (x ≤ r.lowerMiddle)
  omega

end Middle

end Roll

/-! ## §3 Statistics in order -/

/-- The number to which a roll is reduced, if it can be. -/
def Statistic.value (s : Statistic) (r : Roll) : Int :=
  match s with
  | .sum => r.total
  | .average => r.average
  | .median => r.median
  | .minimum => r.minimum
  | .maximum => r.maximum
  | .mode => r.mode

section Order

variable [Memory]

theorem Statistic.ofRoll_eq_value {s : Statistic} {r : Roll} (h : s = .mode → r.Countable) :
    s.ofRoll r = .ok (s.value r) := by
  cases s with
  | mode => exact Roll.ofRoll_mode (h rfl)
  | _ => rfl

theorem RollTable.aggregate_eq_value {t : RollTable} {s : Statistic}
    (h : s = .mode → ∀ r ∈ t.rows, r.Countable) :
    t.aggregate (.statistic s) = .ok (t.rows.map s.value) :=
  mapM_eq_ok_map fun r hr => Statistic.ofRoll_eq_value fun hs => h hs r hr

/-- The median is half of the two middle faces, rounded down, with at most half of the dice on
either side of it.  It lies between the least and the greatest face, and so does the average.  The
sum is as many times as large as there are dice, up to what an average leaves over. -/
structure Roll.InOrder (r : Roll) : Prop where
  middle : ∃ a b, r.HasRank ((r.length - 1) / 2) a ∧ r.HasRank (r.length / 2) b ∧
    r.median = (a + b) / 2
  below_median : 2 * r.countP (· < r.median) ≤ r.length
  above_median : 2 * r.countP (r.median < ·) ≤ r.length
  median : r.minimum ≤ r.median ∧ r.median ≤ r.maximum
  average : r.minimum ≤ r.average ∧ r.average ≤ r.maximum
  sum : r.length * r.minimum ≤ r.total ∧ r.total ≤ r.length * r.maximum
  left_over : r.length * r.average ≤ r.total ∧ r.total < r.length * r.average + r.length

theorem Roll.inOrder {r : Roll} (hr : r ≠ []) (hsum : Statistic.sum.ExactOn r)
    (hmedian : Statistic.median.ExactOn r) : r.InOrder := by
  have hlength : 0 < (r.length : Int) := Int.natCast_pos.mpr (List.length_pos_iff.mpr hr)
  have hbounds : ∀ x ∈ r, r.minimum ≤ x ∧ x ≤ r.maximum := fun x hx =>
    ⟨minimum_le hx, le_maximum hx⟩
  refine ⟨⟨_, _, hasRank_lowerMiddle hr, hasRank_upperMiddle hr, median_eq_half hr hmedian⟩,
    two_mul_countP_lt_median hr hmedian, two_mul_countP_median_lt hr hmedian,
    median_between hbounds hr hmedian, average_between hbounds hr hsum, ?_, ?_⟩
  · rw [total, Word.wrap_of_holds hsum, Int.mul_comm, Int.mul_comm _ r.maximum]
    exact pips_between hbounds
  · exact ⟨Int.mul_ediv_self_le (Int.ne_of_gt hlength), Int.lt_mul_ediv_self_add hlength⟩

/-- **The statistics of a roll are in order.**  Where sums stay within the words, every roll of a
table has a sum, an average, a median, a least and a greatest face, and they lie as they should; and
where all rolls can be counted, they have a mode, which lies between the least and the greatest
face. -/
theorem RollTable.statistics_are_in_order (t : RollTable)
    (h : ∀ r ∈ t.rows, Statistic.sum.ExactOn r ∧ Statistic.median.ExactOn r) :
    (∀ s ≠ .mode, t.aggregate (.statistic s) = .ok (t.rows.map s.value)) ∧
    (∀ r ∈ t.rows, r.InOrder) ∧
    ((∀ r ∈ t.rows, r.Countable) →
      t.aggregate (.statistic .mode) = .ok (t.rows.map Roll.mode) ∧
      ∀ r ∈ t.rows, r.minimum ≤ r.mode ∧ r.mode ≤ r.maximum) := by
  refine ⟨fun s hs => aggregate_eq_value fun hmode => absurd hmode hs, fun r hr => ?_,
    fun hcountable => ⟨aggregate_eq_value fun _ => hcountable, fun r hr => ?_⟩⟩
  · obtain ⟨hsum, hmedian⟩ := h r hr
    exact Roll.inOrder (ne_nil_of_mem_rows hr) hsum hmedian
  · have hmem := (Roll.isLowestMode_mode (ne_nil_of_mem_rows hr)).mem
    exact ⟨Roll.minimum_le hmem, Roll.le_maximum hmem⟩

end Order

/-- Two dice whose faces come to an odd number below nought. -/
def oddMiddle : RollTable where
  width := 2
  rows := [[2, -5]]
  width_pos := Nat.two_pos
  rows_ne_nil := by decide
  length_of_mem := by decide
  holds_of_mem := by decide

/-- The half of minus three is rounded down, with one die on either side of it. -/
theorem odd_middle_is_rounded_down :
    (∀ r ∈ oddMiddle.rows, Statistic.sum.ExactOn r ∧ Statistic.median.ExactOn r) ∧
    oddMiddle.aggregate (.statistic .median) = .ok [-2] ∧
    ∀ r ∈ oddMiddle.rows, r.InOrder := by
  have hexact : ∀ r ∈ oddMiddle.rows, Statistic.sum.ExactOn r ∧ Statistic.median.ExactOn r := by
    intro r hr
    rw [List.mem_singleton.mp hr]
    exact ⟨by decide, fun _ => Roll.holds_middle_of_between (-5) 2 (by decide) (by decide)
      (by decide) (by decide)⟩
  obtain ⟨haggregate, horder, -⟩ := RollTable.statistics_are_in_order oddMiddle hexact
  refine ⟨hexact, ?_, horder⟩
  -- the middle faces are the only ones of their ranks
  obtain ⟨a, b, ha, hb, hmedian⟩ := (horder [2, -5] (by decide)).middle
  have hlower := ha.unique (y := -5) ⟨by decide, by decide, by decide⟩
  have hupper := hb.unique (y := 2) ⟨by decide, by decide, by decide⟩
  have hhalf : Roll.median [2, -5] = -2 := by
    rw [hmedian, hlower, hupper]
    rfl
  rw [haggregate .median (by decide)]
  exact congrArg (Except.ok [·]) hhalf

/-- Two equal faces, both too large for their counters to be stored. -/
def hugePair : RollTable where
  width := 2
  rows := [[2305843009213693952, 2305843009213693952]]
  width_pos := Nat.two_pos
  rows_ne_nil := by decide
  length_of_mem := by decide
  holds_of_mem := by decide

/-- All sums stay within the words and no face is below nought, but there is no mode that could lie
between the least and the greatest face. -/
theorem huge_pair_has_no_mode :
    (∀ r ∈ hugePair.rows, Statistic.sum.ExactOn r ∧ Statistic.median.ExactOn r ∧ ∀ x ∈ r, 0 ≤ x) ∧
    ¬∃ modes, hugePair.aggregate (.statistic .mode) = .ok modes := by
  constructor
  · intro r hr
    rw [List.mem_singleton.mp hr]
    exact ⟨by decide, fun _ => Roll.holds_middle_of_between 0 2305843009213693952 (by decide)
      (by decide) (by decide) (by decide), by decide⟩
  rintro ⟨modes, hmodes⟩
  have hfault : hugePair.aggregate (.statistic .mode) = .error .tableTooLarge := rfl
  rw [hfault] at hmodes
  cases hmodes

end DiceOdds
