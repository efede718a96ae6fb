import DiceOdds.Numeric.Mean
import Mathlib.Algebra.BigOperators.Group.List.Basic
import Mathlib.Algebra.Order.Field.Rat

/-!
# Exact Numbers

Some numbers for probabilities add whole numbers, and share them out evenly, without rounding, as
long as they stay below a limit (`ExactBelow`).  There the blocks of a long sum make no difference:
however it is split into stretches, halves and lanes, it is the sum of its terms
(`longSum_map_ofInt`), provided that the terms weigh less than the limit, whatever their signs.

The rationals are exact below every limit, so that a mean is the total over the number of terms
(`mean_eq`).
-/

namespace DiceOdds.Numeric

/-! ## §1 Exact arithmetic -/

/-- Below the limit, whole numbers are added and shared out evenly without rounding. -/
structure ExactBelow (α : Type) [Numeric α] (limit : Nat) : Prop where
  add : ∀ a b : Int, a.natAbs + b.natAbs < limit → (ofInt a + ofInt b : α) = ofInt (a + b)
  div : ∀ (a : Int) (n : Nat), 0 < n → n < limit → (a * n).natAbs < limit →
    (ofInt (a * n) / ofInt n : α) = ofInt a

/-- The total of whole numbers, whatever their signs. -/
def weight (xs : List Int) : Nat := (xs.map Int.natAbs).sum

@[simp] theorem weight_nil : weight [] = 0 := rfl

@[simp] theorem weight_cons (x : Int) (xs : List Int) : weight (x :: xs) = x.natAbs + weight xs :=
  List.sum_cons

theorem weight_append (xs ys : List Int) : weight (xs ++ ys) = weight xs + weight ys := by
  rw [weight, List.map_append, List.sum_append]
  rfl

theorem weight_take_add_weight_drop (n : Nat) (xs : List Int) :
    weight (xs.take n) + weight (xs.drop n) = weight xs := by
  rw [← weight_append, List.take_append_drop]

theorem natAbs_sum_le (xs : List Int) : xs.sum.natAbs ≤ weight xs := by
  induction xs with
  | nil => exact Nat.le_refl 0
  | cons x xs ih =>
    rw [List.sum_cons, weight_cons]
    exact Nat.le_trans (Int.natAbs_add_le x xs.sum) (Nat.add_le_add_left ih x.natAbs)

/-- Sums of stretches weigh no more than what the stretches hold. -/
theorem weight_map_sum_le (xss : List (List Int)) :
    weight (xss.map List.sum) ≤ weight xss.flatten := by
  induction xss with
  | nil => exact Nat.le_refl 0
  | cons xs xss ih =>
    rw [List.map_cons, weight_cons, List.flatten_cons, weight_append]
    exact Nat.add_le_add (natAbs_sum_le xs) ih

theorem weight_le_weight_flatten {xss : List (List Int)} {xs : List Int} (h : xs ∈ xss) :
    weight xs ≤ weight xss.flatten := by
  obtain ⟨before, after, rfl⟩ := List.append_of_mem h
  rw [List.flatten_append, List.flatten_cons, weight_append, weight_append]
  omega

/-! ## §2 Lanes -/

/-- Adding term by term adds up to both totals. -/
theorem sum_zipWith_add (xs : List Int) : ∀ ys : List Int, xs.length = ys.length →
    (List.zipWith (· + ·) xs ys).sum = xs.sum + ys.sum := by
  induction xs with
  | nil =>
    intro ys h
    rw [List.eq_nil_of_length_eq_zero h.symm]
    rfl
  | cons x xs ih =>
    intro ys h
    cases ys with
    | nil => cases h
    | cons y ys =>
      rw [List.zipWith_cons_cons, List.sum_cons, List.sum_cons, List.sum_cons,
        ih ys (Nat.succ.inj h)]
      omega

theorem weight_zipWith_add_le (xs : List Int) : ∀ ys : List Int, 
    weight (List.zipWith (· + ·) xs ys) ≤ weight xs + weight ys := by
  induction xs with
  | nil => simp
  | cons x xs ih =>
    intro ys
    cases ys with
    | nil => simp
    | cons y ys =>
      have hrest := ih ys
      have hsum := Int.natAbs_add_le x y
      rw [List.zipWith_cons_cons, weight_cons, weight_cons, weight_cons]
      omega

theorem lanes_of_lt {α : Type} [Numeric α] (acc : List α) {xs : List α} (h : xs.length < 8) :
    lanes acc xs = (acc, xs) := by
  match xs with
  | [] | [_] | [_, _] | [_, _, _] | [_, _, _, _] | [_, _, _, _, _] | [_, _, _, _, _, _]
  | [_, _, _, _, _, _, _] => rfl
  | _ :: _ :: _ :: _ :: _ :: _ :: _ :: _ :: _ =>
    simp only [List.length_cons] at h
    omega

theorem lanes_of_le {α : Type} [Numeric α] (acc : List α) {xs : List α} (h : 8 ≤ xs.length) :
    lanes acc xs = lanes (List.zipWith (· + ·) acc (xs.take 8)) (xs.drop 8) := by
  match xs with
  | _ :: _ :: _ :: _ :: _ :: _ :: _ :: _ :: _ => rfl

/-! ## §3 Sums of blocks -/

section Sums

variable {α : Type} [Numeric α] {limit : Nat} (hα : ExactBelow α limit)
include hα

theorem sumInOrder_map_ofInt (xs : List Int) : ∀ {start : Int},
    start.natAbs + weight xs < limit →
    sumInOrder (ofInt start : α) (xs.map ofInt) = ofInt (start + xs.sum) := by
  induction xs with
  | nil =>
    intro start _
    rw [List.sum_nil, Int.add_zero]
    rfl
  | cons x xs ih =>
    intro start h
    rw [weight_cons] at h
    have hsum := Int.natAbs_add_le start x
    show sumInOrder (ofInt start + ofInt x) (xs.map ofInt) = _
    rw [hα.add start x (by omega), ih (by omega), List.sum_cons, Int.add_assoc]

/-- The terms in order, from nought. -/
theorem sumInOrder_nought (xs : List Int) (h : weight xs < limit) :
    sumInOrder (nought : α) (xs.map ofInt) = ofInt xs.sum := by
  have hstart : (0 : Int).natAbs + weight xs < limit := by
    rwa [Int.natAbs_zero, Nat.zero_add]
  have hsum := sumInOrder_map_ofInt hα xs hstart
  rwa [Int.zero_add] at hsum

theorem zipWith_map_ofInt (xs : List Int) : ∀ ys : List Int, weight xs + weight ys < limit →
    List.zipWith (· + ·) (xs.map ofInt) (ys.map ofInt) =
      ((List.zipWith (· + ·) xs ys).map ofInt : List α) := by
  induction xs with
  | nil => simp
  | cons x xs ih =>
    intro ys h
    cases ys with
    | nil => rfl
    | cons y ys =>
      rw [weight_cons, weight_cons] at h
      simp only [List.map_cons, List.zipWith_cons_cons]
      rw [hα.add x y (by omega), ih ys (by omega)]

/-- Eight lanes stay eight, lose nothing, and weigh no more than what goes into them. -/
theorem lanes_map_ofInt (xs acc : List Int) (hacc : acc.length = 8)
    (h : weight acc + weight xs < limit) :
    ∃ acc' rest : List Int, acc'.length = 8 ∧
      lanes (acc.map ofInt) (xs.map ofInt) = (acc'.map ofInt, (rest.map ofInt : List α)) ∧
      acc'.sum + rest.sum = acc.sum + xs.sum ∧
      weight acc' + weight rest ≤ weight acc + weight xs := by
  -- on the number of terms, eight at a time
  induction hn : xs.length using Nat.strong_induction_on generalizing xs acc with
  | _ n ih =>
    rcases Nat.lt_or_ge xs.length 8 with hfew | hmany
    · exact ⟨acc, xs, hacc, lanes_of_lt _ (by simpa using hfew), rfl, Nat.le_refl _⟩
    · have hlength : acc.length = (xs.take 8).length := by
        rw [List.length_take_of_le hmany, hacc]
      have hsum := sum_zipWith_add acc (xs.take 8) hlength
      have hweight := weight_zipWith_add_le acc (xs.take 8)
      have hterms := weight_take_add_weight_drop 8 xs
      have hsplit := List.sum_take_add_sum_drop xs 8
      obtain ⟨acc', rest, hlength', hlanes, hsum', hweight'⟩ :=
        ih (xs.drop 8).length (by rw [List.length_drop]; omega) (xs.drop 8)
          (List.zipWith (· + ·) acc (xs.take 8)) (by simp [← hlength, hacc]) (by omega) rfl
      refine ⟨acc', rest, hlength', ?_, by omega, by omega⟩
      rw [lanes_of_le _ (by simpa using hmany), ← List.map_take, ← List.map_drop,
        zipWith_map_ofInt hα acc (xs.take 8) (by omega), hlanes]

omit hα in
theorem natAbs_add_four_le (a b c d : Int) :
    (a + b + (c + d)).natAbs ≤ a.natAbs + b.natAbs + (c.natAbs + d.natAbs) :=
  Nat.le_trans (Int.natAbs_add_le (a + b) (c + d))
    (Nat.add_le_add (Int.natAbs_add_le a b) (Int.natAbs_add_le c d))

theorem add_four {a b c d : Int}
    (h : a.natAbs + b.natAbs + (c.natAbs + d.natAbs) < limit) :
    (ofInt a + ofInt b) + (ofInt c + ofInt d) = (ofInt (a + b + (c + d)) : α) := by
  have hab := Int.natAbs_add_le a b
  have hcd := Int.natAbs_add_le c d
  rw [hα.add a b (by omega), hα.add c d (by omega), hα.add (a + b) (c + d) (by omega)]

theorem blockSum_map_ofInt (xs : List Int) (h : weight xs < limit) :
    blockSum (xs.map ofInt : List α) = ofInt xs.sum := by
  unfold blockSum
  rw [← List.map_take, ← List.map_drop]
  rcases Nat.lt_or_ge xs.length 8 with hfew | hmany
  · -- fewer than eight terms never fill the lanes
    rw [List.take_of_length_le (by omega), List.drop_eq_nil_of_le (by omega),
      lanes_of_lt _ (by simp)]
    split
    · next heq =>
      have := congrArg (fun split => split.1.length) heq
      simp only [List.length_map, List.length_cons, List.length_nil] at this
      omega
    · exact sumInOrder_nought hα xs h
  · have hterms := weight_take_add_weight_drop 8 xs
    obtain ⟨acc, rest, hlength, hlanes, hsum, hweight⟩ := lanes_map_ofInt hα (xs.drop 8)
      (xs.take 8) (List.length_take_of_le hmany) (by omega)
    rw [List.sum_take_add_sum_drop] at hsum
    rw [hlanes]
    match acc, hlength with
    | [a, b, c, d, e, f, g, k], _ =>
      have htotal : a + b + (c + d) + (e + f + (g + k)) + rest.sum = xs.sum := by
        simp only [List.sum_cons, List.sum_nil] at hsum
        omega
      simp only [weight_cons, weight_nil] at hweight
      have hfour := natAbs_add_four_le a b c d
      have hfour' := natAbs_add_four_le e f g k
      have height := Int.natAbs_add_le (a + b + (c + d)) (e + f + (g + k))
      show sumInOrder (((ofInt a + ofInt b) + (ofInt c + ofInt d)) +
        ((ofInt e + ofInt f) + (ofInt g + ofInt k))) (rest.map ofInt) = _
      rw [add_four hα (by omega), add_four hα (by omega), hα.add _ _ (by omega),
        sumInOrder_map_ofInt hα rest (by omega), htotal]

theorem stretchSum_map_ofInt (xs : List Int) (h : weight xs < limit) :
    stretchSum (xs.map ofInt : List α) = ofInt xs.sum := by
  -- on the number of terms, as the recursion takes halves
  induction hn : xs.length using Nat.strong_induction_on generalizing xs with
  | _ n ih =>
    unfold stretchSum
    rw [List.length_map]
    split
    · exact sumInOrder_nought hα xs h
    · split
      · exact blockSum_map_ofInt hα xs h
      · next hlong =>
        dsimp only
        generalize hhalf : xs.length / 2 - xs.length / 2 % 8 = half
        have hterms := weight_take_add_weight_drop half xs
        have hbounds := natAbs_sum_le (xs.take half)
        have hbounds' := natAbs_sum_le (xs.drop half)
        rw [← List.map_take, ← List.map_drop,
          ih _ (by rw [List.length_take]; omega) (xs.take half) (by omega) rfl,
          ih _ (by rw [List.length_drop]; omega) (xs.drop half) (by omega) rfl,
          hα.add _ _ (by omega), List.sum_take_add_sum_drop]

omit hα in
theorem chunks_map {β γ : Type} (f : β → γ) (n : Nat) (xs : List β) :
    chunks n (xs.map f) = (chunks n xs).map (List.map f) := by
  fun_induction chunks n xs with
  | case1 => simp [chunks]
  | case2 x xs ih =>
    rw [List.map_cons, chunks, ← List.map_take, ← List.map_drop, ih]
    rfl

/-- **A long sum is the sum of its terms.** -/
theorem longSum_map_ofInt (xs : List Int) (h : weight xs < limit) :
    longSum (xs.map ofInt : List α) = ofInt xs.sum := by
  have hflatten := flatten_chunks 8192 xs
  have hstretch : ∀ ys ∈ chunks 8192 xs, stretchSum (ys.map ofInt : List α) = ofInt ys.sum := by
    intro ys hys
    have hweight := weight_le_weight_flatten hys
    rw [hflatten] at hweight
    exact stretchSum_map_ofInt hα ys (by omega)
  have hweight := weight_map_sum_le (chunks 8192 xs)
  rw [hflatten] at hweight
  calc longSum (xs.map ofInt : List α)
      = sumInOrder nought ((chunks 8192 xs).map fun ys => stretchSum (ys.map ofInt)) := by
        rw [longSum, chunks_map, List.map_map]
        rfl
    _ = sumInOrder nought (((chunks 8192 xs).map List.sum).map ofInt) := by
        rw [List.map_congr_left hstretch, List.map_map]
        rfl
    _ = ofInt ((chunks 8192 xs).map List.sum).sum :=
        sumInOrder_nought hα _ (by omega)
    _ = ofInt xs.sum := by rw [← List.sum_flatten, hflatten]

/-! ## §4 Means -/

/-- The mean of equal numbers is that number. -/
theorem mean_replicate {n : Nat} (hn : 0 < n) (hn' : n < limit) (a : Int)
    (h : n * a.natAbs < limit) :
    (mean (List.replicate n a) : α) = ofInt a := by
  have hsum : (List.replicate n a).sum = a * n := by
    rw [List.sum_replicate, nsmul_eq_mul, mul_comm]
  have hweight : weight (List.replicate n a) = n * a.natAbs := by
    rw [weight, List.map_replicate, List.sum_replicate, nsmul_eq_mul, Nat.cast_id]
  have hproduct : (a * n).natAbs < limit := by
    rwa [Int.natAbs_mul, Int.natAbs_natCast, Nat.mul_comm]
  show longSum ((List.replicate n a).map ofInt) / ofInt ((List.replicate n a).length : Int) = _
  rw [longSum_map_ofInt hα _ (hweight ▸ h), List.length_replicate, hsum, hα.div a n hn hn' hproduct]

end Sums

/-! ## §5 Rationals -/

instance : Numeric ℚ where
  ofInt := Int.cast
  power p k := p ^ k
  hitWithin p k := 1 - (1 - p) ^ k
  larger := max
  atMost p q := decide (p ≤ q)
  text := toString

theorem exactBelow_rat (limit : Nat) : ExactBelow ℚ limit where
  add a b _ := (Int.cast_add a b).symm
  div a n hn _ _ := by
    have hpos : (n : ℚ) ≠ 0 := Nat.cast_ne_zero.mpr (Nat.ne_of_gt hn)
    show ((a * n : Int) : ℚ) / ((n : Int) : ℚ) = (a : ℚ)
    rw [Int.cast_mul, Int.cast_natCast, mul_div_cancel_right₀ _ hpos]

/-- A mean is the total over the number of terms. -/
theorem mean_eq (xs : List Int) : (mean xs : ℚ) = (xs.sum : ℚ) / xs.length := by
  have hsum := longSum_map_ofInt (exactBelow_rat _) xs (Nat.lt_succ_self (weight xs))
  show longSum (xs.map ofInt) / ((xs.length : Int) : ℚ) = _
  rw [hsum, Int.cast_natCast]
  rfl

/-- The mean times the number of terms is the total. -/
theorem length_mul_mean {xs : List Int} (h : xs ≠ []) :
    (xs.length : ℚ) * mean xs = (xs.sum : ℚ) := by
  have hpos : (xs.length : ℚ) ≠ 0 :=
    Nat.cast_ne_zero.mpr (Nat.ne_of_gt (List.length_pos_iff.mpr h))
  rw [mean_eq, mul_div_cancel₀ _ hpos]

end DiceOdds.Numeric
