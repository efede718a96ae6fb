import DiceOdds.Proofs.Odds.Winners
import DiceOdds.Proofs.Roll.Bounds
import DiceOdds.Proofs.Sweep.Points
import Mathlib.Algebra.BigOperators.Ring.List
import Mathlib.Data.Int.Cast.Lemmas
import Mathlib.Data.List.Nodup

/-!
# Sweeps that Partition the Rolls

A sweep partitions the rolls if every roll is accepted at exactly one of the swept values, its
*key*.  Then the successes along the sweep add up to all rolls, and what the winners show adds up
to what all rolls show.  There are two such sweeps: a statistic that is to be equal to the value,
whose key is the statistic, and a number of dice that is to be met exactly, whose key is the
number of dice that meet the target.

**Main statement**: `sweeps_partition_the_rolls`.
-/

namespace DiceOdds

/-! ## §1 Sums by key -/

/-- Where every member has its key among the keys, sums may be taken key by key. -/
theorem sum_map_filter_eq {κ β M : Type} [DecidableEq κ] [AddCommMonoid M] {keys : List κ}
    (hkeys : keys.Nodup) {key : β → κ} {xs : List β} (hmem : ∀ x ∈ xs, key x ∈ keys) (w : β → M) :
    (keys.map fun k => ((xs.filter fun x => key x == k).map w).sum).sum = (xs.map w).sum := by
  induction xs with
  | nil => simp
  | cons x xs ih =>
    obtain ⟨hx, hxs⟩ := List.forall_mem_cons.mp hmem
    have hsplit : ∀ k, (((x :: xs).filter fun x => key x == k).map w).sum =
        (if k = key x then w x else 0) + ((xs.filter fun x => key x == k).map w).sum := by
      intro k
      rw [List.filter_cons]
      by_cases hk : key x = k
      · simp [hk]
      · simp [hk, Ne.symm hk]
    -- the key of the head comes up once
    have hhead : (keys.map fun k => if k = key x then w x else 0).sum = w x := by
      rw [List.sum_map_ite, List.filter_eq, List.count_eq_one_of_mem hkeys hx]
      simp
    simp only [hsplit, List.sum_map_add, hhead, ih hxs, List.map_cons, List.sum_cons]

/-! ## §2 Partitions of a table -/

namespace RollTable

variable [Memory]

/-- Every roll of the table is accepted at exactly one of the values: at its key. -/
structure Parts (t : RollTable) (test : Test) (axis : Axis) (xs : List Int) (key : Roll → Int) :
    Prop where
  accepts : ∀ r ∈ t.rows, ∀ x, (test.set axis x).accepts r = (key r == x)
  mem : ∀ r ∈ t.rows, key r ∈ xs
  nodup : xs.Nodup

variable {t : RollTable} {test : Test} {axis : Axis} {xs : List Int} {key : Roll → Int}

namespace Parts

theorem filter_accepts (h : t.Parts test axis xs key) (x : Int) :
    t.rows.filter (test.set axis x).accepts = t.rows.filter fun r => key r == x :=
  List.filter_congr fun r hr => h.accepts r hr x

theorem sum_successes (h : t.Parts test axis xs key) (α : Type) [Numeric α] :
    ((t.testedAlong α test axis xs).map fun p => p.2.successes).sum = t.rows.length := by
  -- rolls are counted by a weight of one
  have hkeys := sum_map_filter_eq h.nodup h.mem fun _ => 1
  simp only [List.map_const', List.sum_replicate_nat, Nat.mul_one] at hkeys
  simpa only [testedAlong, tested, List.map_map, Function.comp_def,
    Estimate.successes_ofVerdicts_map, List.countP_eq_length_filter, h.filter_accepts] using hkeys

/-- What the winners show adds up to what all rolls show. -/
theorem sum_successes_mul_sum (h : t.Parts test axis xs key)
    (hpips : ∀ r ∈ t.rows, Word.Holds r.pips) :
    ((t.testedAlong ℚ test axis xs).map fun p => (p.2.successes : ℚ) * p.2.sum.getD 0).sum =
      (((t.rows.map Roll.pips).sum : Int) : ℚ) := by
  -- at each value: the pips of the rolls with that key
  have hpoint : ∀ x, ((t.tested ℚ (test.set axis x)).successes : ℚ) *
      (t.tested ℚ (test.set axis x)).sum.getD 0 =
        Int.castRingHom ℚ ((t.rows.filter fun r => key r == x).map Roll.pips).sum := by
    intro x
    rw [tested, Estimate.successes_mul_sum t, winners_map, h.filter_accepts]
    · rfl
    · exact fun r hr => hpips r (mem_of_mem_winners hr)
  have hkeys := sum_map_filter_eq h.nodup h.mem Roll.pips
  simp only [testedAlong, List.map_map, Function.comp_def, hpoint]
  rw [← hkeys]
  exact ((map_list_sum (Int.castRingHom ℚ) _).trans (by rw [List.map_map]; rfl)).symm

theorem sum_probability (h : t.Parts test axis xs key) :
    ((t.testedAlong ℚ test axis xs).map fun p => p.2.probability).sum = 1 := by
  have hpos : (t.size : ℚ) ≠ 0 := Nat.cast_ne_zero.mpr (Nat.ne_of_gt t.size_pos)
  have hcounts := congrArg (Nat.castRingHom ℚ) (h.sum_successes ℚ)
  rw [map_list_sum, List.map_map] at hcounts
  -- both sides are multiplied by the number of rolls
  refine mul_left_cancel₀ hpos ?_
  rw [mul_one, ← List.sum_map_mul_left]
  refine Eq.trans (congrArg List.sum ?_) hcounts
  simp only [testedAlong, List.map_map]
  exact List.map_congr_left fun x _ => Estimate.size_mul_probability t _

end Parts

/-- The plotted shares and means tell the same totals, up to the number of rolls. -/
theorem size_mul_sum_zipWith (t : RollTable) (test : Test) (axis : Axis) (xs : List Int) :
    (t.size : ℚ) * (List.zipWith (· * ·)
        ((t.testedAlong ℚ test axis xs).map fun p => Figure.probability.of p.2)
        ((t.testedAlong ℚ test axis xs).map fun p => Figure.sum.of p.2)).sum =
      ((t.testedAlong ℚ test axis xs).map fun p => (p.2.successes : ℚ) * p.2.sum.getD 0).sum := by
  rw [List.zipWith_map, List.zipWith_self, ← List.sum_map_mul_left]
  simp only [testedAlong, List.map_map]
  refine congrArg List.sum (List.map_congr_left fun x _ => ?_)
  show (t.size : ℚ) * ((t.tested ℚ (test.set axis x)).probability * _) = _
  rw [← mul_assoc, tested, Estimate.size_mul_probability]
  rfl

end RollTable

/-! ## §3 Sweeps that partition -/

/-- The statistic of a roll; nought if there is none. -/
def Statistic.valueOf [Memory] (s : Statistic) (r : Roll) : Int := (s.ofRoll r).toOption.getD 0

namespace RollTable

variable [Memory] {t : RollTable}

/-- A statistic of dice that is to be equal to the value takes exactly one value. -/
theorem parts_statistic {c : Clause} {s : Statistic} {target : Target}
    (hc : c.test = .statistic s target) (hequals : target.comparison = .equals)
    (hdice : ∀ r ∈ t.rows, r.OfDie c.die) (hpips : ∀ r ∈ t.rows, Word.Holds r.pips) :
    t.Parts c.test .value (Axis.value.domain c t.width) s.valueOf := by
  -- on dice of a kind the statistic exists, and lies in the domain
  have hvalue : ∀ r ∈ t.rows, s.ofRoll r = .ok (s.valueOf r) ∧ 1 ≤ s.valueOf r ∧
      s.valueOf r ≤ c.die.faces * if s = .sum then (t.width : Int) else 1 := by
    intro r hr
    have hlength := t.length_of_mem r hr
    obtain ⟨x, hx, hbounds⟩ :=
      Statistic.exists_ofRoll_of_die (hdice r hr) (RollTable.ne_nil_of_mem_rows hr) (hpips r hr) s
    have hx' : s.valueOf r = x := by
      rw [Statistic.valueOf, hx]
      rfl
    rw [hx', hx, ← hlength]
    exact ⟨rfl, hbounds⟩
  refine ⟨fun r hr x => ?_, fun r hr => ?_, (pairwise_intsFrom _ _).imp Int.ne_of_lt⟩
  · obtain ⟨hx, -⟩ := hvalue r hr
    simp [hc, Test.set, Target.set, Test.accepts, Test.score, hx, Except.map, Target.hits, hequals,
      Comparison.holds]
  · simpa [Axis.domain, Axis.ends, mem_intsFrom, hc, Test.reduction] using (hvalue r hr).2

/-- A number of dice that is to be met exactly takes exactly one quantity. -/
theorem parts_each {quota : Quota} (hexactly : quota.bound = .exactly) (target : Target) :
    t.Parts (.each quota target) .quantity (intsFrom 0 t.width)
      fun r => (r.countP target.hits : Int) := by
  refine ⟨fun r hr x => ?_, fun r hr => ?_, (pairwise_intsFrom _ _).imp Int.ne_of_lt⟩
  · show ({ quota with quantity := x } : Quota).bound.admits x (r.countP target.hits) = _
    simp [hexactly, Bound.admits]
  · have hle : r.countP target.hits ≤ r.length := List.countP_le_length
    rw [t.length_of_mem r hr] at hle
    exact mem_intsFrom.mpr (by omega)

end RollTable

/-! ## §4 The partition law -/

section Partition

variable [Memory] {α σ : Type} [Numeric α] [Source σ] {rolls : Nested} {t : RollTable}
  {d : Draft} {die : Die}

/-- **Sweeps partition the rolls.**  On dice of a kind whose totals are words, the line along the
value of a statistic that is to be equal to it counts every roll once, and what the winners show
adds up to what all rolls show; the plotted figures say so too.  On any dice, the line along a
quantity that is to be met exactly counts every roll once, and so does every column of the
grid. -/
theorem sweeps_partition_the_rolls (h : rolls.toTable = .ok t) (hdie : d.die = some die)
    (s : Session σ) :
    (∀ statistic, d.reduction = some (.statistic statistic) → d.comparison = some .equals →
      (∀ r ∈ t.rows, r.OfDie die) → (∀ r ∈ t.rows, Word.Holds r.pips) →
      (∃ l : Line α, s.line α d .value rolls = .ok l ∧
        (l.points.map fun p => p.2.successes).sum = t.rows.length) ∧
      (∃ l : Line ℚ, s.line ℚ d .value rolls = .ok l ∧
        (l.points.map fun p => (p.2.successes : ℚ) * p.2.sum.getD 0).sum =
          (((t.rows.map Roll.pips).sum : Int) : ℚ) ∧
        (l.series .probability).ys.sum = 1 ∧
        (t.rows.length : ℚ) *
            (List.zipWith (· * ·) (l.series .probability).ys (l.series .sum).ys).sum =
          (((t.rows.map Roll.pips).sum : Int) : ℚ))) ∧
    (∀ comparison, d.reduction = some .each → d.comparison = some comparison →
      d.bound = some .exactly →
      (∃ l : Line α, s.line α d .quantity rolls = .ok l ∧
        (l.points.map fun p => p.2.successes).sum = t.rows.length) ∧
      (∃ g : Grid α, s.grid α d rolls = .ok g ∧ g.values.length = die.faces ∧
        ∀ j < die.faces, ((g.column j).map fun p => p.2.successes).sum = t.rows.length)) := by
  constructor
  · -- the key of a roll is its statistic
    intro statistic hreduction hcomparison hdice hpips
    have htest : d.test? = some (.statistic statistic (d.target .equals)) := by
      simp [Draft.test?, hreduction, hcomparison]
    have hc := Draft.check_lead hdie htest 0
    have hscorable : t.Scorable (.statistic statistic (d.target .equals)) :=
      ⟨rfl, fun r hr => Test.obstacle?_of_countable _ (hdice r hr).countable⟩
    have hparts := RollTable.parts_statistic (t := t)
      (c := ⟨die, .first, .statistic statistic (d.target .equals)⟩) rfl rfl hdice hpips
    have hshown := hparts.sum_successes_mul_sum hpips
    refine ⟨⟨_, s.line_of_scorable h hc (by decide) (by decide) hscorable, ?_⟩,
      _, s.line_of_scorable h hc (by decide) (by decide) hscorable, hshown, ?_, ?_⟩
    · exact hparts.sum_successes α
    · exact hparts.sum_probability
    · exact (t.size_mul_sum_zipWith _ _ _).trans hshown
  · -- the key of a roll is the number of dice that meet the target
    intro comparison hreduction hcomparison hbound
    have htest : d.test? = some (.each (d.quota .exactly) (d.target comparison)) := by
      simp [Draft.test?, hreduction, hcomparison, hbound]
    have hc := Draft.check_lead hdie htest 0
    obtain ⟨⟨l, hl, hpoints⟩, g, hg, hvalues, hcolumns⟩ :=
      RollTable.exists_sweeps_along_quantity (α := α) (t := t)
        (c := ⟨die, .first, .each (d.quota .exactly) (d.target comparison)⟩) ⟨rfl, fun r _ => rfl⟩
        (by simp [Test.reduction])
    refine ⟨⟨l, (s.line_eq h hc .quantity).trans hl, ?_⟩,
      ⟨g, (s.grid_eq h hc).trans hg, hvalues, fun j hj => ?_⟩⟩
    · rw [hpoints]
      exact (RollTable.parts_each rfl _).sum_successes α
    · rw [hcolumns j hj]
      exact (RollTable.parts_each rfl _).sum_successes α

end Partition

/-- Asks for exactly one six. -/
def oneSix : Draft :=
  { die := some .d6, reduction := some .each, comparison := some .equals, value := 6,
    bound := some .exactly }

/-- The totals of a low, a middle and a high roll are 21 pips, and each roll shows some number
of sixes, ones, and so on. -/
theorem low_middle_high_is_partitioned :
    (Nested.ofRows lowMiddleHigh.rows).toTable = .ok lowMiddleHigh ∧
    (totalOfTwo.die = some .d6 ∧ totalOfTwo.reduction = some (.statistic .sum) ∧
      totalOfTwo.comparison = some .equals) ∧
    (∀ r ∈ lowMiddleHigh.rows, r.OfDie .d6) ∧
    (∀ r ∈ lowMiddleHigh.rows, Word.Holds r.pips) ∧
    (oneSix.die = some .d6 ∧ oneSix.reduction = some .each ∧ oneSix.comparison = some .equals ∧
      oneSix.bound = some .exactly) ∧
    (∃ l : Line ℚ,
      ({} : Session Random.Linear).line ℚ totalOfTwo .value (Nested.ofRows lowMiddleHigh.rows) =
        .ok l ∧
      (l.points.map fun p => (p.2.successes : ℚ) * p.2.sum.getD 0).sum = 21) ∧
    ∃ g : Grid ℚ,
      ({} : Session Random.Linear).grid ℚ oneSix (Nested.ofRows lowMiddleHigh.rows) = .ok g ∧
      ∀ j < 6, ((g.column j).map fun p => p.2.successes).sum = 3 := by
  have h := lowMiddleHigh.toTable_ofRows
  have hdice : ∀ r ∈ lowMiddleHigh.rows, r.OfDie .d6 := by decide
  have hpips : ∀ r ∈ lowMiddleHigh.rows, Word.Holds r.pips := by decide
  obtain ⟨-, l, hl, hshown, -⟩ :=
    (sweeps_partition_the_rolls (α := ℚ) h (d := totalOfTwo) rfl ({} : Session Random.Linear)).1
      .sum rfl rfl hdice hpips
  obtain ⟨-, g, hg, -, hcolumns⟩ :=
    (sweeps_partition_the_rolls (α := ℚ) h (d := oneSix) rfl ({} : Session Random.Linear)).2
      .equals rfl rfl rfl
  have htotal : (((lowMiddleHigh.rows.map Roll.pips).sum : Int) : ℚ) = 21 := by decide +kernel
  exact ⟨h, ⟨rfl, rfl, rfl⟩, hdice, hpips, ⟨rfl, rfl, rfl, rfl⟩, ⟨l, hl, hshown.trans htotal⟩,
    g, hg, hcolumns⟩

end DiceOdds
