import DiceOdds.Roll.Table
import Mathlib.Algebra.Order.BigOperators.Group.Finset
import Mathlib.Order.Interval.Finset.Nat
import Mathlib.Data.Int.Interval

/-!
# Patterns and Peaks

A pattern asks for faces that are shown by so many dice.  Some patterns lie in others: more dice of
a kind in fewer, a long straight in a short one (§2).  Others exclude each other, because a roll has
only so many dice.  Its peak is the number of dice that show the most frequent face, and a pattern
leaves only some peaks open on so many dice (`Pattern.In.peakIn`).  Two patterns that leave
different peaks open do not stand in one roll.
-/

namespace DiceOdds

/-! ## §1 Patterns -/

/-- What events ask of the six usual faces. -/
inductive Pattern where
  /-- So many dice of a kind, or more. -/
  | atLeast (n : Nat)
  /-- So many dice of a kind, and no more. -/
  | exactly (n : Nat)
  /-- Two different faces, each shown by its number of dice. -/
  | twoFaces (m n : Nat)
  /-- So many faces, all shown by the same number of dice. -/
  | manyFaces (n k : Nat)
  /-- So many faces in a row. -/
  | straight (n : Nat)

namespace Pattern

/-- The pattern stands in a roll. -/
def In (r : Roll) : Pattern → Prop
  | atLeast n => ∃ v, 1 ≤ v ∧ v ≤ 6 ∧ n ≤ r.count v
  | exactly n => ∃ v, 1 ≤ v ∧ v ≤ 6 ∧ r.count v = n
  | twoFaces m n => ∃ a b, 1 ≤ a ∧ a ≤ 6 ∧ 1 ≤ b ∧ b ≤ 6 ∧ a ≠ b ∧ r.count a = m ∧ r.count b = n
  | manyFaces n k => ∃ s : Finset Int, s.card = n ∧ ∀ v ∈ s, 1 ≤ v ∧ v ≤ 6 ∧ r.count v = k
  | straight n => ∃ s : Int, 1 ≤ s ∧ s ≤ 7 - n ∧ ∀ v, s ≤ v → v < s + n → v ∈ r

/-! ## §2 Patterns inside others -/

variable {r : Roll} {m n : Nat}

theorem in_atLeast_of_atLeast (h : m ≤ n) (hr : (atLeast n).In r) : (atLeast m).In r := by
  obtain ⟨v, hv, hv', hcount⟩ := hr
  exact ⟨v, hv, hv', Nat.le_trans h hcount⟩

theorem in_atLeast_of_exactly (h : m ≤ n) (hr : (exactly n).In r) : (atLeast m).In r := by
  obtain ⟨v, hv, hv', rfl⟩ := hr
  exact ⟨v, hv, hv', h⟩

theorem in_atLeast_of_twoFaces (hr : (twoFaces m n).In r) : (atLeast m).In r := by
  obtain ⟨a, b, ha, ha', -, -, -, rfl, -⟩ := hr
  exact ⟨a, ha, ha', Nat.le_refl _⟩

theorem in_straight_of_straight (h : m ≤ n) (hr : (straight n).In r) : (straight m).In r := by
  obtain ⟨s, hs, hs', hrow⟩ := hr
  exact ⟨s, hs, by omega, fun v hlow hhigh => hrow v hlow (by omega)⟩

end Pattern

/-! ## §3 Peaks -/

namespace Roll

variable {r : Roll}

/-- The number of dice that show the most frequent face lies between the bounds. -/
structure PeakIn (r : Roll) (low high : Nat) : Prop where
  exists_le : ∃ v, low ≤ r.count v
  le : ∀ v, r.count v ≤ high

theorem PeakIn.le_of_peakIn {low high low' high' : Nat} (h : r.PeakIn low high)
    (h' : r.PeakIn low' high') : low' ≤ high := by
  obtain ⟨v, hv⟩ := h'.exists_le
  exact Nat.le_trans hv (h.le v)

/-- Different faces are shown by different dice. -/
theorem sum_count_le (r : Roll) (s : Finset Int) : ∑ v ∈ s, r.count v ≤ r.length :=
  calc ∑ v ∈ s, r.count v
      ≤ ∑ v ∈ r.toFinset, r.count v := by
        apply Finset.sum_le_sum_of_ne_zero
        intro v _ hv
        exact List.mem_toFinset.mpr (List.count_pos_iff.mp (Nat.pos_of_ne_zero hv))
    _ = r.length := List.sum_toFinset_count_eq_length r

/-- What a face leaves to the others. -/
theorem sum_count_le_sub {s : Finset Int} {v : Int} (hv : v ∉ s) :
    ∑ w ∈ s, r.count w ≤ r.length - r.count v := by
  -- the face and the others are different faces
  have hall := r.sum_count_le (insert v s)
  rw [Finset.sum_insert hv] at hall
  omega

/-- The faces of a row are all shown, so that no face is shown by the dice that the others take. -/
theorem count_le_of_row {s : Int} {n : Nat} (hrow : ∀ v, s ≤ v → v < s + n → v ∈ r) (v : Int) :
    r.count v ≤ r.length + 1 - n := by
  have hothers := sum_count_le_sub (r := r) (Finset.notMem_erase v (Finset.Ico s (s + n)))
  have hshown : ((Finset.Ico s (s + n)).erase v).card ≤
      ∑ w ∈ (Finset.Ico s (s + n)).erase v, r.count w := by
    rw [Finset.card_eq_sum_ones]
    apply Finset.sum_le_sum
    intro w hw
    obtain ⟨hlow, hhigh⟩ := Finset.mem_Ico.mp (Finset.mem_of_mem_erase hw)
    exact List.count_pos_iff.mpr (hrow w hlow hhigh)
  have hcard : n - 1 ≤ ((Finset.Ico s (s + n)).erase v).card := by
    have hrow' : (Finset.Ico s (s + n)).card = n := by
      rw [Int.card_Ico]
      omega
    have herase := Finset.pred_card_le_card_erase (s := Finset.Ico s (s + n)) (a := v)
    omega
  have hv := List.count_le_length (a := v) (l := r)
  omega

end Roll

/-- The least and the greatest peak that a pattern leaves open on so many dice. -/
def Pattern.peaks (width : Nat) : Pattern → Nat × Nat
  | atLeast n => (n, width)
  | exactly n => (n, width)
  | twoFaces m n => (max m n, max (max m n) (width - (m + n)))
  | manyFaces n k => (if n = 0 then 0 else k, max k (width - n * k))
  | straight n => (if n = 0 then 0 else 1, width + 1 - n)

/-- **A pattern bounds the peak of a roll.**  The faces that it names have their counts, and what
is left over is all that another face can have. -/
theorem Pattern.In.peakIn {p : Pattern} {r : Roll} (h : p.In r) :
    r.PeakIn (p.peaks r.length).1 (p.peaks r.length).2 := by
  cases p with
  | atLeast n =>
    obtain ⟨v, -, -, hcount⟩ := h
    exact ⟨⟨v, hcount⟩, fun w => List.count_le_length⟩
  | exactly n =>
    obtain ⟨v, -, -, hcount⟩ := h
    exact ⟨⟨v, hcount.ge⟩, fun w => List.count_le_length⟩
  | twoFaces m n =>
    obtain ⟨a, b, -, -, -, -, hne, rfl, rfl⟩ := h
    dsimp only [peaks]
    constructor
    · rcases Nat.le_total (r.count a) (r.count b) with hle | hle
      · exact ⟨b, by omega⟩
      · exact ⟨a, by omega⟩
    · intro v
      by_cases hmem : v ∈ ({a, b} : Finset Int)
      · rcases Finset.mem_insert.mp hmem with rfl | hmem
        · omega
        · rw [Finset.mem_singleton.mp hmem]
          omega
      · -- a third face has no more than what the two leave
        have hothers := Roll.sum_count_le_sub (r := r) hmem
        have hv := List.count_le_length (a := v) (l := r)
        rw [Finset.sum_pair hne] at hothers
        omega
  | manyFaces n k =>
    obtain ⟨s, rfl, hs⟩ := h
    dsimp only [peaks]
    constructor
    · split
      · exact ⟨0, Nat.zero_le _⟩
      · next hcard =>
        obtain ⟨v, hv⟩ := Finset.card_pos.mp (Nat.pos_of_ne_zero hcard)
        exact ⟨v, (hs v hv).2.2.ge⟩
    · intro v
      by_cases hmem : v ∈ s
      · rw [(hs v hmem).2.2]
        exact Nat.le_max_left _ _
      · -- another face has no more than what these leave
        have hothers := Roll.sum_count_le_sub (r := r) hmem
        have hv := List.count_le_length (a := v) (l := r)
        rw [Finset.sum_const_nat fun w hw => (hs w hw).2.2] at hothers
        omega
  | straight n =>
    obtain ⟨s, -, -, hrow⟩ := h
    dsimp only [peaks]
    constructor
    · split
      · exact ⟨0, Nat.zero_le _⟩
      · exact ⟨s, List.count_pos_iff.mpr (hrow s (Int.le_refl s) (by omega))⟩
    · exact Roll.count_le_of_row hrow

namespace Pattern

variable {r : Roll} {p q : Pattern}

/-- The patterns leave different peaks open on so many dice. -/
def Apart (width : Nat) (p q : Pattern) : Prop :=
  (p.peaks width).2 < (q.peaks width).1 ∨ (q.peaks width).2 < (p.peaks width).1

instance (width : Nat) (p q : Pattern) : Decidable (Apart width p q) :=
  inferInstanceAs (Decidable (_ ∨ _))

theorem not_in_of_apart (h : Apart r.length p q) (hp : p.In r) : ¬q.In r := by
  intro hq
  have hle := hp.peakIn.le_of_peakIn hq.peakIn
  have hge := hq.peakIn.le_of_peakIn hp.peakIn
  unfold Apart at h
  omega

end Pattern

/-! ## §4 Counting what excludes each other -/

/-- Of predicates that exclude each other at most one holds. -/
theorem countP_le_one {α : Type} {ps : List (α → Bool)} {x : α}
    (h : ps.Pairwise fun p q => ¬(p x = true ∧ q x = true)) : ps.countP (fun p => p x) ≤ 1 := by
  induction h with
  | nil => exact Nat.zero_le 1
  | @cons p ps hp _ ih =>
    rw [List.countP_cons]
    split
    · next hpx =>
      have hnone : ps.countP (fun q => q x) = 0 :=
        List.countP_eq_zero.mpr fun q hq hqx => hp q hq ⟨hpx, hqx⟩
      omega
    · exact ih

theorem sum_countP_cons {α : Type} (ps : List (α → Bool)) (x : α) (xs : List α) :
    (ps.map fun p => (x :: xs).countP p).sum =
      (ps.map fun p => xs.countP p).sum + ps.countP (fun p => p x) := by
  induction ps with
  | nil => rfl
  | cons p ps ih =>
    rw [List.map_cons, List.map_cons, List.sum_cons, List.sum_cons, ih, List.countP_cons,
      List.countP_cons]
    omega

/-- Under predicates that exclude each other nothing is counted twice. -/
theorem sum_countP_le {α : Type} {ps : List (α → Bool)} {xs : List α}
    (h : ∀ x ∈ xs, ps.Pairwise fun p q => ¬(p x = true ∧ q x = true)) :
    (ps.map fun p => xs.countP p).sum ≤ xs.length := by
  induction xs with
  | nil => simp
  | cons x xs ih =>
    obtain ⟨hx, hxs⟩ := List.forall_mem_cons.mp h
    rw [sum_countP_cons, List.length_cons]
    exact Nat.add_le_add (ih hxs) (countP_le_one hx)

end DiceOdds
