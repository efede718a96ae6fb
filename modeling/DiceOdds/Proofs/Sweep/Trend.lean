import DiceOdds.Proofs.Odds.Winners
import DiceOdds.Proofs.Sweep.Points

/-!
# Trends

Two tests on one table may be ordered roll by roll: whatever the one accepts, the other accepts
too.  Then their verdicts, their successes and their shares of successes come in that order.
A sweep goes in one direction if its points are ordered this way, and it turns at a value if it
goes in one direction up to there and in the other from there on.
-/

namespace DiceOdds

/-! ## §1 Directions -/

/-- The direction in which a quantity goes while another one grows. -/
inductive Trend where
  | rising | falling
  deriving DecidableEq, Repr

namespace Trend

/-- The opposite direction. -/
def flip : Trend → Trend
  | rising => falling
  | falling => rising

/-- The direction of what follows a quantity that itself goes in a direction. -/
def times : Trend → Trend → Trend
  | rising, trend => trend
  | falling, trend => trend.flip

section Order

variable {β : Type} [LE β]

/-- Two things come in this order.  Truth values are ordered by implication. -/
def Ordered (trend : Trend) (a b : β) : Prop :=
  match trend with
  | rising => a ≤ b
  | falling => b ≤ a

/-- Later entries come after earlier ones in this order. -/
def Along (trend : Trend) (ys : List β) : Prop := ys.Pairwise trend.Ordered

/-- The entries `ys` at `xs` go in this direction up to `turn`, and in the other one from
there on. -/
def TurnsAt (trend : Trend) (turn : Int) (xs : List Int) (ys : List β) : Prop :=
  (xs.zip ys).Pairwise fun p q =>
    (q.1 ≤ turn → trend.Ordered p.2 q.2) ∧ (turn ≤ p.1 → trend.flip.Ordered p.2 q.2)

variable {trend : Trend} {a b : β}

@[simp] theorem flip_ordered : trend.flip.Ordered a b ↔ trend.Ordered b a := by
  cases trend <;> rfl

theorem ordered_bool {p q : Bool} (hrising : trend = rising → p = true → q = true)
    (hfalling : trend = falling → q = true → p = true) : trend.Ordered p q := by
  cases trend with
  | rising => exact hrising rfl
  | falling => exact hfalling rfl

end Order

end Trend

/-! ## §2 Ordered tests -/

/-- A statistic follows its target.  A roll without the statistic is accepted for none. -/
theorem Test.ordered_accepts_statistic [Memory] {trend : Trend} {s : Statistic}
    {target target' : Target} (h : ∀ n, trend.Ordered (target.hits n) (target'.hits n)) (r : Roll) :
    trend.Ordered ((statistic s target).accepts r) ((statistic s target').accepts r) := by
  simp only [accepts, score]
  cases s.ofRoll r with
  | error f => cases trend <;> exact Bool.le_refl false
  | ok n => exact h n

namespace RollTable

variable [Memory] {t : RollTable} {trend : Trend} {test test' : Test}

/-- On every roll of the table the two tests come in this order. -/
def Ordered (t : RollTable) (trend : Trend) (test test' : Test) : Prop :=
  ∀ r ∈ t.rows, trend.Ordered (test.accepts r) (test'.accepts r)

theorem ordered_flip : t.Ordered trend.flip test test' ↔ t.Ordered trend test' test := by
  simp [Ordered]

namespace Ordered

variable (h : t.Ordered trend test test')
include h

theorem verdicts : List.Forall₂ trend.Ordered (t.rows.map test.accepts)
    (t.rows.map test'.accepts) := by
  rw [List.forall₂_map_left_iff, List.forall₂_map_right_iff, List.forall₂_same]
  exact h

theorem successes (α : Type) [Numeric α] :
    trend.Ordered (t.tested α test).successes (t.tested α test').successes := by
  simp only [tested, Estimate.successes_ofVerdicts_map]
  cases trend with
  | rising => exact List.countP_mono_left h
  | falling => exact List.countP_mono_left h

/-- All shares are taken of the same number of rolls. -/
theorem probability :
    trend.Ordered (t.tested ℚ test).probability (t.tested ℚ test').probability := by
  have hshare : ∀ test : Test, (t.tested ℚ test).probability =
      ((t.tested ℚ test).successes : ℚ) / (t.size : ℚ) := by
    intro test
    rw [eq_div_iff (Nat.cast_ne_zero.mpr (Nat.ne_of_gt t.size_pos)), mul_comm]
    exact Estimate.size_mul_probability t _
  have hsize : (0 : ℚ) ≤ t.size := Nat.cast_nonneg t.size
  have hsuccesses := h.successes ℚ
  rw [hshare, hshare]
  cases trend with
  | rising => exact div_le_div_of_nonneg_right (Nat.cast_le.mpr hsuccesses) hsize
  | falling => exact div_le_div_of_nonneg_right (Nat.cast_le.mpr hsuccesses) hsize

end Ordered

/-! ## §3 Sweeps -/

section Sweeps

variable {β : Type} [LE β] {f : Test → β} {axis : Axis} {xs : List Int}

/-- What follows the order of tests goes in one direction if the tests do. -/
theorem along_map
    (hf : ∀ {test test'}, t.Ordered trend test test' → trend.Ordered (f test) (f test'))
    (hxs : xs.Pairwise (· < ·))
    (h : ∀ x x' : Int, x ≤ x' → t.Ordered trend (test.set axis x) (test.set axis x')) :
    trend.Along (xs.map fun x => f (test.set axis x)) := by
  rw [Trend.Along, List.pairwise_map]
  exact hxs.imp fun hlt => hf (h _ _ (Int.le_of_lt hlt))

/-- What follows the order of tests turns where the tests do. -/
theorem turnsAt_map {turn : Int}
    (hf : ∀ {trend test test'}, t.Ordered trend test test' → trend.Ordered (f test) (f test'))
    (hxs : xs.Pairwise (· < ·))
    (h : ∀ x ∈ xs, ∀ x' ∈ xs, x ≤ x' →
      (x' ≤ turn → t.Ordered trend (test.set axis x) (test.set axis x')) ∧
      (turn ≤ x → t.Ordered trend.flip (test.set axis x) (test.set axis x'))) :
    trend.TurnsAt turn xs (xs.map fun x => f (test.set axis x)) := by
  rw [Trend.TurnsAt, zip_map_self, List.pairwise_map]
  refine hxs.imp_of_mem fun hx hx' hlt => ?_
  obtain ⟨hbefore, hbehind⟩ := h _ hx _ hx' (Int.le_of_lt hlt)
  exact ⟨fun hle => hf (hbefore hle), fun hle => hf (hbehind hle)⟩

end Sweeps

end RollTable

end DiceOdds
