import DiceOdds.Proofs.Odds.Winners
import DiceOdds.Proofs.Roll.Stretches
import DiceOdds.Proofs.Sweep.Points

/-!
# Sweeps along Quantity

Asking for more dice is harder, and allowing more dice is easier: along quantity the successes
fall if the bound is a lower one, and rise if it is an upper one.  At the easy end no count is
turned down any more.  There a number of dice is admitted on every roll, but a stretch only on
the rolls in which some die meets the target: a roll without a match has no stretch to be
short enough.

**Main statement**: `successes_follow_bound`.
-/

namespace DiceOdds

/-! ## §1 Bounds -/

namespace Bound

/-- The bounds that a larger quantity makes harder to meet. -/
def Lower (b : Bound) : Prop := b = .atLeast ∨ b = .greaterThan

/-- The bounds that a larger quantity makes easier to meet. -/
def Upper (b : Bound) : Prop := b = .atMost ∨ b = .lessThan

variable {b : Bound} {q q' n : Int}

theorem admits_of_lower (hb : b.Lower) (hq : q ≤ q') (h : b.admits q' n = true) :
    b.admits q n = true := by
  rcases hb with rfl | rfl <;> simp only [admits, decide_eq_true_eq] at h ⊢ <;> omega

theorem admits_of_upper (hb : b.Upper) (hq : q ≤ q') (h : b.admits q n = true) :
    b.admits q' n = true := by
  rcases hb with rfl | rfl <;> simp only [admits, decide_eq_true_eq] at h ⊢ <;> omega

end Bound

/-! ## §2 Successes along quantity -/

namespace RollTable

variable {α : Type} [Numeric α] {t : RollTable} {test : Test}

/-- The points of a sweep along quantity follow the bound: the successes fall or rise, and the
easy end of the sweep counts `most` rolls. -/
structure FollowsBound (t : RollTable) (b : Bound) (most : Nat)
    (points : List (Int × Estimate α)) : Prop where
  quantities : points.map Prod.fst = intsFrom 0 t.width
  falls : b.Lower → (points.map fun p => p.2.successes).Pairwise (· ≥ ·)
  rises : b.Upper → (points.map fun p => p.2.successes).Pairwise (· ≤ ·)
  first : b = .atLeast → ∃ e, points.head? = some (0, e) ∧ e.successes = most
  last : b = .atMost → ∃ e, points.getLast? = some ((t.width : Int), e) ∧ e.successes = most

/-- The number of rolls that have a count to hold against the bound. -/
def counted (t : RollTable) (test : Test) : Nat := t.rows.countP fun r => !(test.counts r).isEmpty

theorem counted_each (quota : Quota) (target : Target) :
    t.counted (.each quota target) = t.rows.length := by
  simp [counted, Test.counts]

/-- There is a stretch where some die meets the target. -/
theorem counted_run (quota : Quota) (target : Target) :
    t.counted (.run quota target) = t.rows.countP fun r => r.any target.hits := by
  refine List.countP_congr fun r _ => ?_
  have hnil : Roll.stretches target.hits r = [] ↔ ∀ x ∈ r, target.hits x = false :=
    Roll.stretches_eq_nil_iff
  simp [Test.counts, hnil]

variable [Memory]

private theorem successes_tested (h : test.hasQuantity = true) (q : Int) :
    (t.tested α (test.set .quantity q)).successes =
      t.rows.countP fun r => (test.counts r).any fun n => test.bound.admits q n := by
  rw [tested, Estimate.successes_ofVerdicts_map]
  exact List.countP_congr fun r _ => by rw [Test.accepts_set_quantity h]

/-- Where every count that is admitted for one quantity is admitted for the other, no fewer rolls
succeed. -/
private theorem successes_le (h : test.hasQuantity = true) {q q' : Int}
    (hadmits : ∀ n : Nat, test.bound.admits q n = true → test.bound.admits q' n = true) :
    (t.tested α (test.set .quantity q)).successes ≤
      (t.tested α (test.set .quantity q')).successes := by
  rw [successes_tested h, successes_tested h]
  refine List.countP_mono_left fun r _ hr => ?_
  obtain ⟨n, hn, hq⟩ := List.any_eq_true.mp hr
  exact List.any_eq_true.mpr ⟨n, hn, hadmits n hq⟩

/-- Where every count of the rolls is admitted, each roll with a count succeeds. -/
private theorem successes_eq_counted (h : test.hasQuantity = true) {q : Int}
    (hadmits : ∀ n : Nat, n ≤ t.width → test.bound.admits q n = true) :
    (t.tested α (test.set .quantity q)).successes = t.counted test := by
  rw [successes_tested h, counted]
  refine List.countP_congr fun r hr => ?_
  have hall : ∀ n ∈ test.counts r, test.bound.admits q n = true := fun n hn =>
    hadmits n (t.length_of_mem r hr ▸ Test.le_length_of_mem_counts hn)
  cases hcounts : test.counts r with
  | nil => rfl
  | cons n ns =>
    rw [hcounts] at hall
    simp [hall n List.mem_cons_self]

/-- **A sweep along quantity follows its bound.** -/
theorem followsBound_testedAlong (h : test.hasQuantity = true) :
    t.FollowsBound test.bound (t.counted test)
      (t.testedAlong α test .quantity (intsFrom 0 t.width)) := by
  have hascend := pairwise_intsFrom 0 t.width
  refine ⟨?_, fun hb => ?_, fun hb => ?_, fun hb => ?_, fun hb => ?_⟩
  · simp [testedAlong, Function.comp_def]
  · rw [testedAlong, List.map_map, List.pairwise_map]
    exact hascend.imp fun hq =>
      successes_le h fun n => Bound.admits_of_lower hb (Int.le_of_lt hq)
  · rw [testedAlong, List.map_map, List.pairwise_map]
    exact hascend.imp fun hq =>
      successes_le h fun n => Bound.admits_of_upper hb (Int.le_of_lt hq)
  · -- any count is at least nought
    refine ⟨_, ?_, successes_eq_counted (q := 0) h fun n _ => by simp [hb, Bound.admits]⟩
    rw [testedAlong, List.head?_map, head?_intsFrom (by omega)]
    rfl
  · -- and at most the number of dice
    refine ⟨_, ?_, successes_eq_counted (q := t.width) h fun n hn => by simp [hb, Bound.admits, hn]⟩
    rw [testedAlong, List.getLast?_map, getLast?_intsFrom (by omega)]
    rfl

end RollTable

/-! ## §3 Lines and columns -/

section Sweeps

variable [Memory] {α σ : Type} [Numeric α] [Source σ] {rolls : Nested} {t : RollTable}
  {d : Draft} {die : Die} {comparison : Comparison} {bound : Bound}

private theorem exists_sweeps_followBound (h : rolls.toTable = .ok t) {test : Test}
    (hc : d.check true 0 = .ok ⟨die, .first, test⟩) (hquantity : test.hasQuantity = true)
    (s : Session σ) :
    (∃ l : Line α, s.line α d .quantity rolls = .ok l ∧
      t.FollowsBound test.bound (t.counted test) l.points) ∧
    ∃ g : Grid α, s.grid α d rolls = .ok g ∧ g.values.length = die.faces ∧ ∀ j < die.faces,
      t.FollowsBound test.bound (t.counted (test.set .value (1 + j))) (g.column j) := by
  have hscorable : t.Scorable test :=
    ⟨Test.layoutFault?_of_hasQuantity hquantity _ _,
      fun r _ => Test.obstacle?_of_hasQuantity hquantity r⟩
  obtain ⟨⟨l, hl, hpoints⟩, g, hg, hvalues, hcolumns⟩ :=
    RollTable.exists_sweeps_along_quantity (α := α) (c := ⟨die, .first, test⟩) hscorable
      (Test.reduction_ne_sum_of_hasQuantity hquantity)
  refine ⟨⟨l, (s.line_eq h hc .quantity).trans hl, ?_⟩,
    g, (s.grid_eq h hc).trans hg, hvalues, fun j hj => ?_⟩
  · rw [hpoints]
    exact RollTable.followsBound_testedAlong hquantity
  · rw [hcolumns j hj, ← Test.bound_set test .value (1 + j)]
    exact RollTable.followsBound_testedAlong (by rwa [Test.hasQuantity_set])

/-- **Along quantity the successes follow the bound.**  In the line of a draft that counts dice
or stretches, and in every column of its grid, they fall if the bound is a lower one and rise if
it is an upper one.  At least nought and at most all dice are asked of every roll if dice are
counted, and of the rolls in which some die meets the target if stretches are. -/
theorem successes_follow_bound (h : rolls.toTable = .ok t) (hdie : d.die = some die)
    (hcomparison : d.comparison = some comparison) (hbound : d.bound = some bound)
    (s : Session σ) :
    (d.reduction = some .each →
      (∃ l : Line α, s.line α d .quantity rolls = .ok l ∧
        t.FollowsBound bound t.rows.length l.points) ∧
      ∃ g : Grid α, s.grid α d rolls = .ok g ∧ g.values.length = die.faces ∧
        ∀ j < die.faces, t.FollowsBound bound t.rows.length (g.column j)) ∧
    (d.reduction = some .consecutive →
      (∃ l : Line α, s.line α d .quantity rolls = .ok l ∧
        t.FollowsBound bound (t.rows.countP fun r => r.any (d.target comparison).hits)
          l.points) ∧
      ∃ g : Grid α, s.grid α d rolls = .ok g ∧ g.values.length = die.faces ∧
        ∀ j < die.faces, t.FollowsBound bound
          (t.rows.countP fun r => r.any ((d.set .value (1 + j)).target comparison).hits)
          (g.column j)) := by
  constructor
  · intro hreduction
    have htest : d.test? = some (.each (d.quota bound) (d.target comparison)) := by
      simp [Draft.test?, hreduction, hcomparison, hbound]
    have hc := Draft.check_lead hdie htest 0
    have hsweeps := exists_sweeps_followBound (α := α) h hc rfl s
    simp only [Test.set, RollTable.counted_each] at hsweeps
    exact hsweeps
  · intro hreduction
    have htest : d.test? = some (.run (d.quota bound) (d.target comparison)) := by
      simp [Draft.test?, hreduction, hcomparison, hbound]
    have hc := Draft.check_lead hdie htest 0
    have hsweeps := exists_sweeps_followBound (α := α) h hc rfl s
    simp only [Test.set, RollTable.counted_run] at hsweeps
    exact hsweeps

end Sweeps

/-- Asks for a short stretch of sixes. -/
def fewSixesInARow : Draft :=
  { die := some .d6, reduction := some .consecutive, comparison := some .equals, value := 6,
    bound := some .atMost }

/-- Asks for many sixes, neighbours or not. -/
def manySixes : Draft := { fewSixesInARow with reduction := some .each, bound := some .atLeast }

/-- Of a low, a middle and a high roll only the high one shows a six, so it is the only one that
has a stretch of at most two; but all three show at least no six. -/
theorem sixes_follow_bound :
    (Nested.ofRows lowMiddleHigh.rows).toTable = .ok lowMiddleHigh ∧
    (fewSixesInARow.die = some .d6 ∧ fewSixesInARow.comparison = some .equals ∧
      fewSixesInARow.bound = some .atMost ∧ fewSixesInARow.reduction = some .consecutive ∧
      ∃ l : Line ℚ,
        ({} : Session Random.Linear).line ℚ fewSixesInARow .quantity
          (Nested.ofRows lowMiddleHigh.rows) = .ok l ∧
        lowMiddleHigh.FollowsBound .atMost 1 l.points) ∧
    manySixes.die = some .d6 ∧ manySixes.comparison = some .equals ∧
      manySixes.bound = some .atLeast ∧ manySixes.reduction = some .each ∧
      ∃ l : Line ℚ,
        ({} : Session Random.Linear).line ℚ manySixes .quantity
          (Nested.ofRows lowMiddleHigh.rows) = .ok l ∧
        lowMiddleHigh.FollowsBound .atLeast 3 l.points := by
  have h := lowMiddleHigh.toTable_ofRows
  have hfew := (successes_follow_bound (α := ℚ) h (d := fewSixesInARow) rfl rfl rfl
    ({} : Session Random.Linear)).2 rfl
  have hmany := (successes_follow_bound (α := ℚ) h (d := manySixes) rfl rfl rfl
    ({} : Session Random.Linear)).1 rfl
  exact ⟨h, ⟨rfl, rfl, rfl, rfl, hfew.1⟩, rfl, rfl, rfl, rfl, hmany.1⟩

end DiceOdds
