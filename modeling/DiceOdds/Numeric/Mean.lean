import DiceOdds.Numeric.Basic

/-!
# Means

The mean of a list of whole numbers.  The sum is taken in blocks: consecutive stretches
of 8192 terms, each halved down to blocks of at most 128 terms, which are summed in
eight interleaved lanes.  In exact arithmetic the blocks make no difference; in doubles
they keep the rounding error small.
-/

namespace DiceOdds.Numeric

variable {α : Type} [Numeric α]

/-- The sum from left to right. -/
def sumInOrder (start : α) (xs : List α) : α :=
  xs.foldl (· + ·) start

/-- Adds groups of eight terms to eight lanes; returns the lanes and the terms left over. -/
def lanes (acc : List α) : List α → List α × List α
  | a :: b :: c :: d :: e :: f :: g :: h :: rest =>
    lanes (List.zipWith (· + ·) acc [a, b, c, d, e, f, g, h]) rest
  | rest => (acc, rest)

/-- The sum of a block, eight lanes at a time. -/
def blockSum (xs : List α) : α :=
  -- the first eight terms start the lanes
  match lanes (xs.take 8) (xs.drop 8) with
  | ([a, b, c, d, e, f, g, h], rest) =>
    sumInOrder (((a + b) + (c + d)) + ((e + f) + (g + h))) rest
  | (_, _) => sumInOrder nought xs

/-- The sum of a stretch, by halves whose first part has a multiple of eight terms. -/
def stretchSum (xs : List α) : α :=
  if xs.length < 8 then sumInOrder nought xs
  else if xs.length ≤ 128 then blockSum xs
  else
    let half := xs.length / 2 - xs.length / 2 % 8
    stretchSum (xs.take half) + stretchSum (xs.drop half)
termination_by xs.length
decreasing_by
  all_goals simp only [List.length_take, List.length_drop]; omega

/-- Consecutive stretches of `n` members; the last one may be shorter. -/
def chunks {β : Type} (n : Nat) : List β → List (List β)
  | [] => []
  | x :: xs => (x :: xs.take (n - 1)) :: chunks n (xs.drop (n - 1))
termination_by xs => xs.length
decreasing_by simp only [List.length_drop, List.length_cons]; omega

/-- The stretches make up the list. -/
theorem flatten_chunks {β : Type} (n : Nat) (xs : List β) : (chunks n xs).flatten = xs := by
  fun_induction chunks n xs with
  | case1 => rfl
  | case2 x xs ih => rw [List.flatten_cons, ih, List.cons_append, List.take_append_drop]

/-- The sum of any number of terms. -/
def longSum (xs : List α) : α :=
  sumInOrder nought ((chunks 8192 xs).map stretchSum)

/-- The mean of whole numbers. -/
def mean (xs : List Int) : α :=
  longSum (xs.map ofInt) / ofInt xs.length

end DiceOdds.Numeric
