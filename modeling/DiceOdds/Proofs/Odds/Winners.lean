import DiceOdds.Odds.Estimate
import DiceOdds.Proofs.Numeric.Exact
import Mathlib.Data.List.Forall2

/-!
# Winners and Their Totals

Where a property of single rolls decides the verdicts, the winners of a table are the rolls
with that property (`winners_map`), and there are as many as the property counts.  In exact
arithmetic the number of winners times their mean total is what they show together
(`successes_mul_sum`).
-/

namespace DiceOdds

/-! ## §1 Members with a true verdict -/

section Selected

variable {β : Type}

/-- The members whose verdict is true. -/
def selected (xs : List β) (vs : List Bool) : List β :=
  ((xs.zip vs).filter Prod.snd).map Prod.fst

@[simp] theorem selected_nil (vs : List Bool) : selected ([] : List β) vs = [] := rfl

@[simp] theorem selected_cons_true (x : β) (xs : List β) (vs : List Bool) :
    selected (x :: xs) (true :: vs) = x :: selected xs vs := rfl

@[simp] theorem selected_cons_false (x : β) (xs : List β) (vs : List Bool) :
    selected (x :: xs) (false :: vs) = selected xs vs := rfl

theorem mem_selected_iff {xs : List β} {vs : List Bool} {x : β} :
    x ∈ selected xs vs ↔ (x, true) ∈ xs.zip vs := by
  simp [selected]

/-- Where a property decides the verdicts, the members with that property are selected. -/
theorem selected_of_forall₂ {p : β → Bool} {xs : List β} {vs : List Bool}
    (h : List.Forall₂ (fun x v => p x = v) xs vs) : selected xs vs = xs.filter p := by
  induction h with
  | nil => rfl
  | @cons x v xs vs hx _ ih =>
    cases v with
    | true => rw [selected_cons_true, ih, List.filter_cons_of_pos hx]
    | false => rw [selected_cons_false, ih, List.filter_cons_of_neg (by simp [hx])]

end Selected

namespace RollTable

variable {t : RollTable} {p : Roll → Bool}

theorem winners_of_forall₂ {vs : List Bool} (h : List.Forall₂ (fun r b => p r = b) t.rows vs) :
    t.winners vs = t.rows.filter p :=
  selected_of_forall₂ h

@[simp] theorem winners_map : t.winners (t.rows.map p) = t.rows.filter p :=
  winners_of_forall₂ (List.forall₂_map_right_iff.mpr (List.forall₂_same.mpr fun _ _ => rfl))

theorem mem_winners_iff {vs : List Bool} {r : Roll} :
    r ∈ t.winners vs ↔ (r, true) ∈ t.rows.zip vs :=
  mem_selected_iff

/-- A true verdict on some roll makes a winner. -/
theorem winners_ne_nil {vs : List Bool} (hlength : vs.length = t.size) (h : true ∈ vs) :
    t.winners vs ≠ [] := by
  have hsnd : (t.rows.zip vs).map Prod.snd = vs := List.map_snd_zip (Nat.le_of_eq hlength)
  rw [← hsnd] at h
  obtain ⟨⟨r, b⟩, hmem, rfl⟩ := List.mem_map.mp h
  exact List.ne_nil_of_mem (mem_winners_iff.mpr hmem)

/-- Verdicts are summed up if they fit the table, or if none of them is true. -/
theorem summarize_eq_ok {α : Type} [Numeric α] {vs : List Bool}
    (h : true ∈ vs → vs.length = t.size) :
    t.summarize vs = .ok (Estimate.ofVerdicts t vs : Estimate α) :=
  if_neg fun hmisaligned => hmisaligned.2 (h (List.contains_iff_mem.mp hmisaligned.1))

end RollTable

/-! ## §2 Totals of winners -/

/-- Totals that are words are not wrapped. -/
theorem map_total_eq {rows : List Roll} (h : ∀ r ∈ rows, Word.Holds r.pips) :
    rows.map Roll.total = rows.map Roll.pips :=
  List.map_congr_left fun r hr => Word.wrap_of_holds (h r hr)

theorem mean?_eq_none_iff {α : Type} [Numeric α] {xs : List Int} :
    (mean? xs : Option α) = none ↔ xs.length = 0 := by
  cases xs <;> simp [mean?]

theorem mean?_of_ne_nil {α : Type} [Numeric α] {xs : List Int} (h : xs ≠ []) :
    (mean? xs : Option α) = some (Numeric.mean xs) :=
  if_neg (by simpa using h)

/-- The number of whole numbers times their mean is their total, also if there are none. -/
theorem length_mul_mean? (xs : List Int) :
    (xs.length : ℚ) * (mean? xs : Option ℚ).getD 0 = (xs.sum : ℚ) := by
  by_cases hxs : xs = []
  · subst hxs
    simp [mean?]
  · rw [mean?_of_ne_nil hxs]
    exact Numeric.length_mul_mean hxs

/-! ## §3 Estimates -/

namespace Estimate

variable (t : RollTable)

/-- As many rolls succeed as have the property that decides. -/
@[simp] theorem successes_ofVerdicts_map {α : Type} [Numeric α] (p : Roll → Bool) :
    (ofVerdicts t (t.rows.map p) : Estimate α).successes = t.rows.countP p := by
  rw [List.countP_eq_length_filter, ← RollTable.winners_map]
  rfl

/-- The number of rolls times the share of successes is the number of successes. -/
theorem size_mul_probability (vs : List Bool) :
    (t.size : ℚ) * (ofVerdicts t vs : Estimate ℚ).probability =
      ((ofVerdicts t vs : Estimate ℚ).successes : ℚ) := by
  have hpos : (t.size : ℚ) ≠ 0 := Nat.cast_ne_zero.mpr (Nat.ne_of_gt t.size_pos)
  show (t.size : ℚ) * ((((t.winners vs).length : Int) : ℚ) / ((t.size : Int) : ℚ)) =
    ((t.winners vs).length : ℚ)
  rw [Int.cast_natCast, Int.cast_natCast, mul_div_cancel₀ _ hpos]

/-- The number of successes times their mean total is the total of the winners. -/
theorem successes_mul_sum_eq_total (vs : List Bool) :
    ((ofVerdicts t vs : Estimate ℚ).successes : ℚ) * (ofVerdicts t vs : Estimate ℚ).sum.getD 0 =
      (((t.winners vs).map Roll.total).sum : ℚ) := by
  have hmean := length_mul_mean? ((t.winners vs).map Roll.total)
  rwa [List.length_map] at hmean

/-- The number of successes times their mean average is what the averages of the winners come
to. -/
theorem successes_mul_average (vs : List Bool) :
    ((ofVerdicts t vs : Estimate ℚ).successes : ℚ) *
        (ofVerdicts t vs : Estimate ℚ).average.getD 0 =
      (((t.winners vs).map Roll.average).sum : ℚ) := by
  have hmean := length_mul_mean? ((t.winners vs).map Roll.average)
  rwa [List.length_map] at hmean

/-- The number of successes times their mean total is what the winners show together. -/
theorem successes_mul_sum {vs : List Bool} (h : ∀ r ∈ t.winners vs, Word.Holds r.pips) :
    ((ofVerdicts t vs : Estimate ℚ).successes : ℚ) * (ofVerdicts t vs : Estimate ℚ).sum.getD 0 =
      (((t.winners vs).map Roll.pips).sum : ℚ) := by
  rw [successes_mul_sum_eq_total, map_total_eq h]

end Estimate

end DiceOdds
