import DiceOdds.Proofs.Numeric.Exact
import Mathlib.Algebra.BigOperators.Ring.List
import Mathlib.Algebra.Order.BigOperators.Group.List
import Mathlib.Tactic.Ring

/-!
# Exact Means

What is known of every one of some whole numbers, as a bound or up to a common factor, is known
of their exact mean: it lies between common bounds (`le_mean`, `mean_le`), it does not depend on
the order (`mean_perm`), and a factor common to all of them may be taken out
(`mean_map_mul_add`).  So the mean of shares that are rounded down falls short by less than a unit
of each share (`mean_ediv_between`).
-/

namespace DiceOdds.Numeric

/-! ## §1 Order -/

/-- Means do not depend on the order of the numbers. -/
theorem mean_perm {xs ys : List Int} (h : xs.Perm ys) : (mean xs : ℚ) = mean ys := by
  rw [mean_eq, mean_eq, h.sum_eq, h.length_eq]

/-! ## §2 Bounds -/

section Bounds

variable {xs : List Int} {bound : Int}

private theorem length_pos_rat (hne : xs ≠ []) : (0 : ℚ) < xs.length :=
  Nat.cast_pos.mpr (List.length_pos_iff.mpr hne)

/-- A mean is at least a common lower bound. -/
theorem le_mean (hne : xs ≠ []) (h : ∀ x ∈ xs, bound ≤ x) : (bound : ℚ) ≤ mean xs := by
  have hsum : (xs.length : Int) * bound ≤ xs.sum := by
    simpa using List.card_nsmul_le_sum xs bound h
  rw [mean_eq, le_div_iff₀ (length_pos_rat hne), mul_comm]
  exact_mod_cast hsum

/-- A mean is at most a common upper bound. -/
theorem mean_le (hne : xs ≠ []) (h : ∀ x ∈ xs, x ≤ bound) : mean xs ≤ (bound : ℚ) := by
  have hsum : xs.sum ≤ (xs.length : Int) * bound := by
    simpa using List.sum_le_card_nsmul xs bound h
  rw [mean_eq, div_le_iff₀ (length_pos_rat hne), mul_comm]
  exact_mod_cast hsum

/-- The mean of numbers that are all the same is that number. -/
theorem mean_of_forall_eq (hne : xs ≠ []) (h : ∀ x ∈ xs, x = bound) : (mean xs : ℚ) = bound :=
  le_antisymm (mean_le hne fun x hx => (h x hx).le) (le_mean hne fun x hx => (h x hx).ge)

end Bounds

/-! ## §3 Multiples and remainders -/

/-- The mean of multiples and remainders is the multiple of the one mean and the other. -/
theorem mean_map_mul_add {β : Type} (k : Int) (f g : β → Int) (xs : List β) :
    (mean (xs.map fun x => k * f x + g x) : ℚ) = k * mean (xs.map f) + mean (xs.map g) := by
  have hsum : (xs.map fun x => k * f x + g x).sum = k * (xs.map f).sum + (xs.map g).sum := by
    rw [List.sum_map_add, List.sum_map_mul_left]
  simp only [mean_eq, hsum, List.length_map]
  push_cast
  ring

/-- Shares that are rounded down lose less than a unit of each share: the mean is what the mean
share comes to, and at most one less than the number of shares more. -/
theorem mean_ediv_between {k : Int} (hk : 0 < k) {xs : List Int} (hne : xs ≠ []) :
    (k : ℚ) * mean (xs.map (· / k)) ≤ mean xs ∧
      mean xs ≤ (k : ℚ) * mean (xs.map (· / k)) + (k - 1) := by
  -- every number is what its share comes to, and a remainder
  have hsplit : (mean xs : ℚ) = k * mean (xs.map (· / k)) + mean (xs.map (· % k)) := by
    rw [← mean_map_mul_add]
    simp only [Int.mul_ediv_add_emod, List.map_id']
  have hrests : xs.map (· % k) ≠ [] := by simpa using hne
  have hlow : ((0 : Int) : ℚ) ≤ mean (xs.map (· % k)) := by
    apply le_mean hrests
    exact List.forall_mem_map.mpr fun x _ => Int.emod_nonneg x hk.ne'
  have hhigh : mean (xs.map (· % k)) ≤ ((k - 1 : Int) : ℚ) := by
    apply mean_le hrests
    exact List.forall_mem_map.mpr fun x _ => Int.le_sub_one_of_lt (Int.emod_lt_of_pos x hk)
  push_cast at hlow hhigh
  rw [hsplit]
  exact ⟨le_add_of_nonneg_right hlow, add_le_add_right hhigh _⟩

end DiceOdds.Numeric
