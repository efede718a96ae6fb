import DiceOdds.Proofs.Roll.LowestMode

/-!
# Where Statistics Lie

The least and the greatest face, the mode and the faces of any rank are faces of the roll, so
they lie where the dice do; and so do the median and the average, for a mean of whole numbers
that is rounded down is not pushed below them (`median_between`, `average_between`).  A total lies
as far out as the number of dice allows (`pips_between`).  On faces of a die this gives every
statistic its bounds (`exists_ofRoll_of_die`).
-/

namespace DiceOdds

/-- The roll shows faces of the die only. -/
def Roll.OfDie (die : Die) (r : Roll) : Prop := ∀ x ∈ r, 1 ≤ x ∧ x ≤ (die.faces : Int)

instance (die : Die) (r : Roll) : Decidable (r.OfDie die) :=
  inferInstanceAs (Decidable (∀ x ∈ r, 1 ≤ x ∧ x ≤ (die.faces : Int)))

namespace Roll

/-! ## §1 Statistics that are faces -/

private theorem foldl_mem {β : Type} {f : β → β → β} (hf : ∀ a b, f a b = a ∨ f a b = b)
    (xs : List β) : ∀ x, xs.foldl f x ∈ x :: xs := by
  induction xs with
  | nil => simp
  | cons y xs ih =>
    intro x
    rw [List.foldl_cons]
    rcases List.mem_cons.mp (ih (f x y)) with heq | hmem
    · -- the fold stops at the first two
      rw [heq]
      rcases hf x y with h | h <;> simp [h]
    · simp [hmem]

theorem minimum_mem {r : Roll} (hr : r ≠ []) : r.minimum ∈ r := by
  obtain ⟨x, xs, rfl⟩ := List.exists_cons_of_ne_nil hr
  exact foldl_mem (fun a b => by omega) xs x

theorem maximum_mem {r : Roll} (hr : r ≠ []) : r.maximum ∈ r := by
  obtain ⟨x, xs, rfl⟩ := List.exists_cons_of_ne_nil hr
  exact foldl_mem (fun a b => by omega) xs x

theorem minimum_le {r : Roll} {x : Int} (hx : x ∈ r) : r.minimum ≤ x := by
  have hleast := (lt_minimum_iff (List.ne_nil_of_mem hx) (m := x)).mp
  exact Int.not_lt.mp fun hlt => Int.lt_irrefl x (hleast hlt x hx)

theorem le_maximum {r : Roll} {x : Int} (hx : x ∈ r) : x ≤ r.maximum := by
  have hgreatest := (maximum_lt_iff (List.ne_nil_of_mem hx) (m := x)).mp
  exact Int.not_lt.mp fun hlt => Int.lt_irrefl x (hgreatest hlt x hx)

theorem ranked_mem {r : Roll} {i : Nat} (hi : i < r.length) : r.ranked i ∈ r := by
  have hperm : (sorted r).Perm r := List.mergeSort_perm r _
  have hi' : i < (sorted r).length := by rwa [hperm.length_eq]
  rw [ranked, List.getD_eq_getElem?_getD, List.getElem?_eq_getElem hi', Option.getD_some]
  exact hperm.mem_iff.mp (List.getElem_mem hi')

/-! ## §2 Statistics between two bounds -/

section Between

variable {r : Roll} {low high : Int}

theorem pips_between (h : ∀ x ∈ r, low ≤ x ∧ x ≤ high) :
    low * r.length ≤ r.pips ∧ r.pips ≤ high * r.length := by
  induction r with
  | nil => simp [pips]
  | cons x r ih =>
    obtain ⟨hx, hr⟩ := List.forall_mem_cons.mp h
    have hrest := ih hr
    -- one die more adds its face in the middle, and the bounds on both sides
    show low * ((r.length + 1 : Nat) : Int) ≤ x + pips r ∧
      x + pips r ≤ high * ((r.length + 1 : Nat) : Int)
    rw [Int.natCast_add, Int.mul_add, Int.mul_add]
    omega

theorem average_between (h : ∀ x ∈ r, low ≤ x ∧ x ≤ high) (hr : r ≠ [])
    (hpips : Word.Holds r.pips) : low ≤ r.average ∧ r.average ≤ high := by
  have hlength : 0 < (r.length : Int) := by
    have := List.length_pos_iff.mpr hr
    omega
  obtain ⟨hlow, hhigh⟩ := pips_between h
  rw [average, total, Word.wrap_of_holds hpips]
  exact ⟨Int.le_ediv_of_mul_le hlength hlow, Int.ediv_le_of_le_mul hlength hhigh⟩

theorem median_between (h : ∀ x ∈ r, low ≤ x ∧ x ≤ high) (hr : r ≠ [])
    (hmiddle : r.length % 2 = 0 →
      Word.Holds (r.ranked (r.length / 2) + r.ranked (r.length / 2 - 1))) :
    low ≤ r.median ∧ r.median ≤ high := by
  have hlength := List.length_pos_iff.mpr hr
  unfold median
  split
  · next heven =>
    -- half of two faces lies where both of them do
    have hlower := h _ (ranked_mem (i := r.length / 2 - 1) (by omega))
    have hupper := h _ (ranked_mem (i := r.length / 2) (by omega))
    rw [Word.wrap_of_holds (hmiddle heven)]
    omega
  · exact h _ (ranked_mem (by omega))

/-- Faces that are far from the ends of the words have middle faces whose sum is a word. -/
theorem holds_middle_of_between (low high : Int) (h : ∀ x ∈ r, low ≤ x ∧ x ≤ high) (hr : r ≠ [])
    (hlow : Word.least ≤ 2 * low) (hhigh : 2 * high ≤ Word.greatest) :
    Word.Holds (r.ranked (r.length / 2) + r.ranked (r.length / 2 - 1)) := by
  have hlength := List.length_pos_iff.mpr hr
  have hlower := h _ (ranked_mem (i := r.length / 2 - 1) (by omega))
  have hupper := h _ (ranked_mem (i := r.length / 2) (by omega))
  unfold Word.Holds
  omega

end Between

/-! ## §3 Statistics of a die -/

section OfDie

variable {die : Die} {r : Roll}

/-- Faces of a die can be counted. -/
theorem OfDie.countable [Memory] (h : r.OfDie die) : r.Countable := by
  intro x hx
  have hface := h x hx
  have hfaces := die.faces_le
  have hroom := Memory.settings_lt_room
  omega

theorem OfDie.pips (h : r.OfDie die) :
    (r.length : Int) ≤ r.pips ∧ r.pips ≤ die.faces * r.length := by
  have hbounds := pips_between h
  rwa [Int.one_mul] at hbounds

theorem OfDie.average (h : r.OfDie die) (hr : r ≠ []) (hpips : Word.Holds r.pips) :
    1 ≤ r.average ∧ r.average ≤ die.faces :=
  average_between h hr hpips

/-- Two faces of a die are far from the ends of the words. -/
theorem OfDie.holds_middle (h : r.OfDie die) (hr : r ≠ []) :
    Word.Holds (r.ranked (r.length / 2) + r.ranked (r.length / 2 - 1)) := by
  have hfaces := die.faces_le
  refine holds_middle_of_between 1 die.faces h hr (by decide) ?_
  unfold Word.greatest
  omega

theorem OfDie.median (h : r.OfDie die) (hr : r ≠ []) :
    1 ≤ r.median ∧ r.median ≤ die.faces :=
  median_between h hr fun _ => h.holds_middle hr

end OfDie

end Roll

/-- **On faces of a die every statistic exists**, and lies between one and the number of faces,
or in the case of the sum that number for each die. -/
theorem Statistic.exists_ofRoll_of_die [Memory] {die : Die} {r : Roll} (h : r.OfDie die)
    (hr : r ≠ []) (hpips : Word.Holds r.pips) (s : Statistic) :
    ∃ x, s.ofRoll r = .ok x ∧ 1 ≤ x ∧
      x ≤ die.faces * (if s = .sum then (r.length : Int) else 1) := by
  cases s with
  | sum =>
    have hbounds := h.pips
    have hlength := List.length_pos_iff.mpr hr
    refine ⟨r.total, rfl, ?_⟩
    rw [Roll.total, Word.wrap_of_holds hpips, if_pos rfl]
    exact ⟨by omega, hbounds.2⟩
  | average => exact ⟨r.average, rfl, by simpa using h.average hr hpips⟩
  | median => exact ⟨r.median, rfl, by simpa using h.median hr⟩
  | minimum => exact ⟨r.minimum, rfl, by simpa using h _ (Roll.minimum_mem hr)⟩
  | maximum => exact ⟨r.maximum, rfl, by simpa using h _ (Roll.maximum_mem hr)⟩
  | mode =>
    have hmem := (Roll.isLowestMode_mode hr).mem
    exact ⟨r.mode, Roll.ofRoll_mode h.countable, by simpa using h _ hmem⟩

end DiceOdds
