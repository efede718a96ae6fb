import DiceOdds.FirstSuccess
import DiceOdds.Proofs.Numeric.Exact
import DiceOdds.Proofs.Session
import DiceOdds.Proofs.Traversal
import DiceOdds.Workstation
import Mathlib.Algebra.Order.BigOperators.Group.List
import Mathlib.Tactic.Ring

/-!
# One Distribution at Every Horizon

With exact numbers, the point for a roll is given by one formula, which holds without a chance as
well (`SuccessPoint.at_eq`).  Each further roll takes its mass from the share of those that have not
succeeded yet, so the cumulative chances are the running sums of the masses (`sum_mass_points`).  No
point depends on the horizon: a shorter distribution is a beginning of a longer one (`take_points`),
and what is shown at a size is the same at every horizon that suffices (`atResolution_upTo`).

A horizon is refused if its rolls cannot be stored in a row.

**Main statement**: `first_success_is_one_distribution`.
-/

namespace DiceOdds

variable {p : ℚ}

/-! ## §1 Points -/

theorem Numeric.isChance_iff : Numeric.isChance p = true ↔ 0 ≤ p ∧ p ≤ 1 := by
  show (decide (((0 : Int) : ℚ) ≤ p) && decide (p ≤ ((1 : Int) : ℚ))) = true ↔ _
  simp

theorem Numeric.isNought_iff : Numeric.isNought p = true ↔ p = 0 := by
  show (decide (((0 : Int) : ℚ) ≤ p) && decide (p ≤ ((0 : Int) : ℚ))) = true ↔ _
  rw [Bool.and_eq_true, decide_eq_true_eq, decide_eq_true_eq, Int.cast_zero, le_antisymm_iff,
    and_comm]

namespace SuccessPoint

/-- The first success falls on roll `k` after `k - 1` failures.  Without a chance this gives the
noughts that the point holds. -/
theorem at_eq (p : ℚ) (k : Nat) :
    SuccessPoint.at p k = { k, mass := (1 - p) ^ (k - 1) * p, cumulative := 1 - (1 - p) ^ k } := by
  unfold SuccessPoint.at
  by_cases hp : Numeric.isNought p = true
  · rw [if_pos hp, Numeric.isNought_iff.mp hp]
    have hmass : (Numeric.nought : ℚ) = (1 - 0) ^ (k - 1) * 0 := (mul_zero _).symm
    have hcumulative : (Numeric.nought : ℚ) = 1 - (1 - 0) ^ k := by
      rw [sub_zero, one_pow, sub_self]
      rfl
    rw [← hmass, ← hcumulative]
  · rw [if_neg hp]
    have hone : (Numeric.ofInt 1 : ℚ) = 1 := Int.cast_one
    rw [hone]
    rfl

@[simp] theorem k_at (p : ℚ) (k : Nat) : (SuccessPoint.at p k).k = k := by rw [at_eq]

theorem mass_nonneg (h0 : 0 ≤ p) (h1 : p ≤ 1) (k : Nat) : 0 ≤ (SuccessPoint.at p k).mass := by
  rw [at_eq]
  exact mul_nonneg (pow_nonneg (sub_nonneg.mpr h1) _) h0

theorem cumulative_le {k l : Nat} (h0 : 0 ≤ p) (h1 : p ≤ 1) (h : k ≤ l) :
    (SuccessPoint.at p k).cumulative ≤ (SuccessPoint.at p l).cumulative := by
  rw [at_eq, at_eq]
  exact sub_le_sub_left (pow_le_pow_of_le_one (sub_nonneg.mpr h1) (sub_le_self 1 h0) h) 1

/-- What the cumulative chance leaves is the chance of failures only. -/
theorem one_sub_cumulative (p : ℚ) (k : Nat) :
    1 - (SuccessPoint.at p k).cumulative = (1 - p) ^ k := by
  rw [at_eq, sub_sub_cancel]

theorem cumulative_le_one (h1 : p ≤ 1) (k : Nat) : (SuccessPoint.at p k).cumulative ≤ 1 := by
  rw [at_eq]
  exact sub_le_self 1 (pow_nonneg (sub_nonneg.mpr h1) k)

/-- The next roll adds its mass. -/
theorem cumulative_succ (p : ℚ) (k : Nat) :
    (SuccessPoint.at p (k + 1)).cumulative =
      (SuccessPoint.at p k).cumulative + (SuccessPoint.at p (k + 1)).mass := by
  rw [at_eq, at_eq, Nat.add_sub_cancel, pow_succ]
  ring

end SuccessPoint

/-! ## §2 Distributions -/

namespace FirstSuccess

/-- The points of a distribution, roll by roll. -/
theorem points_upTo (p : ℚ) (n : Nat) :
    (upTo p n).points = (List.range' 1 n).map (SuccessPoint.at p) := by
  rw [List.range'_eq_map_range, List.map_map]
  refine List.map_congr_left fun i _ => ?_
  exact congrArg (SuccessPoint.at p) (Nat.add_comm i 1)

theorem getElem?_points {n i : Nat} {q : SuccessPoint ℚ} (h : (upTo p n).points[i]? = some q) :
    i + 1 ≤ n ∧ q = SuccessPoint.at p (i + 1) := by
  rw [← point?_succ, point?] at h
  split at h
  · next hroll => exact ⟨hroll.2, (Option.some.inj h).symm⟩
  · cases h

theorem points_upTo_succ (p : ℚ) (n : Nat) :
    (upTo p (n + 1)).points = (upTo p n).points ++ [SuccessPoint.at p (n + 1)] := by
  rw [points_upTo, points_upTo, List.range'_1_concat, List.map_append, Nat.add_comm 1 n]
  rfl

/-- A shorter distribution is a beginning of a longer one. -/
theorem take_points {m n : Nat} (h : m ≤ n) : (upTo p n).points.take m = (upTo p m).points := by
  rw [points, ← List.map_take]
  show ((List.range n).take m).map _ = _
  rw [List.take_range, Nat.min_eq_left h]
  rfl

/-- **The masses add up to the cumulative chance.** -/
theorem sum_mass_points (p : ℚ) (n : Nat) :
    ((upTo p n).points.map SuccessPoint.mass).sum = (SuccessPoint.at p n).cumulative := by
  induction n with
  | zero =>
    rw [SuccessPoint.at_eq, pow_zero, sub_self]
    rfl
  | succ n ih =>
    rw [points_upTo_succ, List.map_append, List.sum_append, ih, SuccessPoint.cumulative_succ]
    exact congrArg _ (List.sum_singleton)

/-- Points that make up the distribution of the first success over the rolls from 1 to `n`. -/
structure IsDistribution (p : ℚ) (n : Nat) (points : List (SuccessPoint ℚ)) : Prop where
  rolls : points.map SuccessPoint.k = List.range' 1 n
  mass_nonneg : ∀ q ∈ points, 0 ≤ q.mass
  /-- The cumulative chance of a roll is the sum of the masses up to it. -/
  running_sum : ∀ (i : Nat) (q : SuccessPoint ℚ), points[i]? = some q →
    q.cumulative = ((points.take (i + 1)).map SuccessPoint.mass).sum
  rising : (points.map SuccessPoint.cumulative).Pairwise (· ≤ ·)
  cumulative_le_one : ∀ q ∈ points, q.cumulative ≤ 1
  failures : ∀ q ∈ points, 1 - q.cumulative = (1 - p) ^ q.k

theorem isDistribution_points (h0 : 0 ≤ p) (h1 : p ≤ 1) (n : Nat) :
    IsDistribution p n (upTo p n).points := by
  have hpoint : ∀ q ∈ (upTo p n).points, ∃ k, SuccessPoint.at p k = q := by
    intro q hq
    rw [points_upTo] at hq
    obtain ⟨k, -, hk⟩ := List.mem_map.mp hq
    exact ⟨k, hk⟩
  refine ⟨?_, fun q hq => ?_, fun i q hq => ?_, ?_, fun q hq => ?_, fun q hq => ?_⟩
  · rw [points_upTo, List.map_map]
    exact (List.map_congr_left fun k _ => SuccessPoint.k_at p k).trans (List.map_id _)
  · obtain ⟨k, rfl⟩ := hpoint q hq
    exact SuccessPoint.mass_nonneg h0 h1 k
  · -- up to its roll the distribution is the one over so many rolls
    obtain ⟨hi, hq⟩ := getElem?_points hq
    rw [take_points hi, sum_mass_points, hq]
  · rw [points_upTo, List.map_map, List.pairwise_map]
    exact (List.pairwise_lt_range').imp fun hlt =>
      SuccessPoint.cumulative_le h0 h1 (Nat.le_of_lt hlt)
  · obtain ⟨k, rfl⟩ := hpoint q hq
    exact SuccessPoint.cumulative_le_one h1 k
  · obtain ⟨k, rfl⟩ := hpoint q hq
    rw [SuccessPoint.one_sub_cumulative, SuccessPoint.k_at]

end FirstSuccess

/-! ## §3 Sizes -/

namespace PlotSize

/-- What is shown at a size starts with the first roll, runs upwards, and ends at the size. -/
theorem ticks_ordered (size : PlotSize) :
    size.ticks.Pairwise (· < ·) ∧ size.ticks.head? = some 1 ∧
      size.ticks.getLast? = some size.rolls := by
  cases size <;> decide

theorem mem_ticks (size : PlotSize) : ∀ k ∈ size.ticks, 1 ≤ k ∧ k ≤ size.rolls := by
  cases size <;> decide

end PlotSize

namespace FirstSuccess

/-- **What is shown at a size does not depend on the horizon**, as long as that suffices. -/
theorem atResolution_upTo (p : ℚ) (n : Nat) (size : PlotSize) :
    (upTo p n).atResolution size =
      if n < size.rolls then .error (.beyondHorizon size.rolls n)
      else .ok (size.ticks.map (SuccessPoint.at p)) := by
  have hpopulated : ¬(upTo p n).status ≠ .populated := by simp [upTo]
  rw [atResolution, if_neg hpopulated]
  show (if n < size.rolls then _ else _) = _
  by_cases hn : n < size.rolls
  · rw [if_pos hn, if_pos hn]
    rfl
  · -- every roll that is shown is covered
    have hcovered : ∀ k ∈ size.ticks, (upTo p n).point? k = some (SuccessPoint.at p k) := by
      intro k hk
      have hroll := size.mem_ticks k hk
      exact if_pos ⟨hroll.1, Nat.le_trans hroll.2 (Nat.not_lt.mp hn)⟩
    rw [if_neg hn, if_neg hn, List.filterMap_congr hcovered, List.filterMap_eq_map']

/-- Points that are shown at a size. -/
structure Shows (size : PlotSize) (points shown : List (SuccessPoint ℚ)) : Prop where
  mem : ∀ q ∈ shown, q ∈ points
  increasing : (shown.map SuccessPoint.k).Pairwise (· < ·)
  head : (shown.map SuccessPoint.k).head? = some 1
  getLast : (shown.map SuccessPoint.k).getLast? = some size.rolls

theorem shows_ticks {size : PlotSize} {n : Nat} (h : size.rolls ≤ n) :
    Shows size (upTo p n).points (size.ticks.map (SuccessPoint.at p)) := by
  obtain ⟨hincreasing, hhead, hlast⟩ := size.ticks_ordered
  have hrolls : (size.ticks.map (SuccessPoint.at p)).map SuccessPoint.k = size.ticks := by
    rw [List.map_map]
    exact (List.map_congr_left fun k _ => SuccessPoint.k_at p k).trans (List.map_id _)
  refine ⟨fun q hq => ?_, ?_, ?_, ?_⟩
  · obtain ⟨k, hk, rfl⟩ := List.mem_map.mp hq
    have hroll := size.mem_ticks k hk
    rw [points_upTo]
    exact List.mem_map_of_mem (List.mem_range'_1.mpr (by omega))
  · rwa [hrolls]
  · rwa [hrolls]
  · rwa [hrolls]

/-! ## §4 Requests -/

/-- A horizon whose rolls can be stored is answered with its distribution. -/
theorem ofHorizon_eq_ok [Memory] {α : Type} [Numeric α] (p : α) {n : Nat} (hn : 1 ≤ n)
    (hroom : (n : Int) < Storage.rowRoom) : ofHorizon p n = .ok (upTo p n) := by
  have hrow : Storage.rowLength n = .ok n := Storage.rowLength_of_lt (Int.natCast_nonneg n) hroom
  have hstored : Storage.require [(n : Int)] = .ok () := by
    obtain ⟨hmemory, hexact⟩ := Int.lt_min.mp hroom
    have hword : (n : Int) ≤ Word.greatest := by
      unfold Word.greatest
      omega
    have hobstacle : Storage.obstacle? [(n : Int)] = none :=
      Storage.obstacle?_eq_none (by simpa using hword) (by simpa [Storage.entries] using hmemory)
    rw [Storage.require, hobstacle]
  rw [ofHorizon, if_neg (by omega), hrow]
  -- the row of noughts is as long as the row of rolls
  show (if Numeric.isNought p = true then Storage.require [(n : Int)] >>= _ else _) = _
  split
  · rw [hstored]
    rfl
  · rfl

end FirstSuccess

/-- A horizon that is given is the same in every session, and the settings are not even read. -/
theorem Request.runIn_firstSuccess_given [Memory] {α σ : Type} [Numeric α] (p : α) (n : Int)
    (s : Session σ) : (firstSuccess p (some n)).runIn s =
      (FirstSuccess.requireChance p >>= fun _ => FirstSuccess.ofHorizon p n, s) := by
  rw [firstSuccess, runIn_bind, runIn_ofExcept]
  cases FirstSuccess.requireChance p with
  | error f => rfl
  | ok u => rfl

theorem Request.runIn_firstSuccess [Memory] {σ : Type} (h0 : 0 ≤ p) (h1 : p ≤ 1) {n : Nat}
    (hn : 1 ≤ n) (hroom : (n : Int) < Storage.rowRoom) (s : Session σ) :
    (firstSuccess p (some (n : Int))).runIn s = (.ok (FirstSuccess.upTo p n), s) := by
  have hchance : FirstSuccess.requireChance p = .ok () :=
    if_pos (Numeric.isChance_iff.mpr ⟨h0, h1⟩)
  rw [runIn_firstSuccess_given, hchance, FirstSuccess.ofHorizon_eq_ok p hn hroom]
  rfl

/-- **The first success has one distribution, whatever the horizon.**  Every chance and every
horizon whose rolls can be stored are answered with the points of that distribution, roll by roll; a
shorter horizon gives a beginning of them.  At a size, some of the points are shown, from the first
roll to the size, and the same ones at every horizon that suffices; a horizon that does not is
refused. -/
theorem first_success_is_one_distribution [Memory] {σ : Type} (h0 : 0 ≤ p) (h1 : p ≤ 1) {n : Nat}
    (hn : 1 ≤ n) (hroom : (n : Int) < Storage.rowRoom) (s : Session σ) :
    ∃ d, (Request.firstSuccess p (some (n : Int))).runIn s = (.ok d, s) ∧
      FirstSuccess.IsDistribution p n d.points ∧
      (∀ m : Nat, 1 ≤ m → m ≤ n → ∃ d',
        (Request.firstSuccess p (some (m : Int))).runIn s = (.ok d', s) ∧ d'.points <+: d.points) ∧
      ∀ size : PlotSize,
        (n < size.rolls → d.atResolution size = .error (.beyondHorizon size.rolls n)) ∧
        (size.rolls ≤ n → ∃ shown, d.atResolution size = .ok shown ∧
          FirstSuccess.Shows size d.points shown ∧
          ∀ m : Nat, size.rolls ≤ m → (m : Int) < Storage.rowRoom → ∃ d',
            (Request.firstSuccess p (some (m : Int))).runIn s = (.ok d', s) ∧
            d'.atResolution size = .ok shown) := by
  have hanswer : ∀ {m : Nat}, 1 ≤ m → (m : Int) < Storage.rowRoom →
      (Request.firstSuccess p (some (m : Int))).runIn s = (.ok (FirstSuccess.upTo p m), s) :=
    fun hm hm' => Request.runIn_firstSuccess h0 h1 hm hm' s
  refine ⟨_, hanswer hn hroom, FirstSuccess.isDistribution_points h0 h1 n, fun m hm hmn => ?_,
    fun size => ⟨fun hsize => ?_, fun hsize => ?_⟩⟩
  · refine ⟨_, hanswer hm (by omega), ?_⟩
    rw [← FirstSuccess.take_points hmn]
    exact List.take_prefix m _
  · rw [FirstSuccess.atResolution_upTo, if_pos hsize]
  · have hshown : ∀ {m : Nat}, size.rolls ≤ m → (FirstSuccess.upTo p m).atResolution size =
        .ok (size.ticks.map (SuccessPoint.at p)) := by
      intro m hm
      rw [FirstSuccess.atResolution_upTo, if_neg (Nat.not_lt.mpr hm)]
    have hpos : 1 ≤ size.rolls := by cases size <;> decide
    exact ⟨_, hshown hsize, FirstSuccess.shows_ticks hsize, fun m hm hm' =>
      ⟨_, hanswer (Nat.le_trans hpos hm) hm', hshown hm⟩⟩

/-- Without a chance there is a distribution all the same.  Over a thousand rolls it is shown at the
medium size, but not at the greatest one. -/
theorem hopeless_rolls_have_a_distribution :
    (0 : ℚ) ≤ 0 ∧ (0 : ℚ) ≤ 1 ∧ 1 ≤ 1000 ∧ ((1000 : Nat) : Int) < Storage.rowRoom ∧
    ∃ d, (Request.firstSuccess (0 : ℚ) (some ((1000 : Nat) : Int))).runIn ({} : Session Unit) =
        (.ok d, {}) ∧
      FirstSuccess.IsDistribution 0 1000 d.points ∧
      d.atResolution .extraLarge = .error (.beyondHorizon 10000 1000) ∧
      ∃ shown, d.atResolution .medium = .ok shown ∧
        FirstSuccess.Shows .medium d.points shown := by
  have h1 : (0 : ℚ) ≤ 1 := by decide
  have hroom : ((1000 : Nat) : Int) < Storage.rowRoom := by decide
  obtain ⟨d, hd, hpoints, -, hsizes⟩ :=
    first_success_is_one_distribution le_rfl h1 (by decide) hroom ({} : Session Unit)
  obtain ⟨shown, hshown, hshows, -⟩ := (hsizes .medium).2 (by decide)
  exact ⟨le_rfl, h1, by decide, hroom, d, hd, hpoints, (hsizes .extraLarge).1 (by decide), shown,
    hshown, hshows⟩

/-! ## §5 A horizon that is too long -/

/-- The chance is one and the horizon is above nought, but there are more rolls than can be listed,
and no distribution is answered. -/
theorem endless_horizon_is_refused :
    Numeric.isChance (1 / 2 : ℚ) = true ∧ (1 : Int) ≤ 1152921504606846975 ∧
    faultOf ((Request.firstSuccess (1 / 2 : ℚ) (some 1152921504606846975)).runIn
      ({} : Session Unit)).1 = some .tableTooLarge := by
  decide +kernel

end DiceOdds
