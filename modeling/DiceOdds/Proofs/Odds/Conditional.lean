import DiceOdds.Proofs.Numeric.Means
import DiceOdds.Proofs.Odds.Decided
import DiceOdds.Proofs.Odds.Winners
import DiceOdds.Workstation
import Mathlib.Algebra.Order.Ring.Cast

/-!
# Means Under a Condition

A mean of whole numbers need not be whole, but it lies where they lie: if all of them meet a
target, so does their mean (`Target.metBy_mean`).  Only to be different from a value is not handed
on to means.

In a chain without `or` every clause holds of every winner (`accepts_of_verdict`).  The totals and
the averages that an estimate takes its means of are the statistics that its clauses compare, so
the reported means meet every target that these clauses set.

**Main statement**: `conditional_means_meet_their_targets`.
-/

namespace DiceOdds

/-! ## §1 Targets for exact numbers -/

/-- The comparison with the value or the span, for numbers that need not be whole. -/
def Comparison.HoldsFor (c : Comparison) (value : Int) (span : Span) (x : ℚ) : Prop :=
  match c with
  | .equals => x = value
  | .notEquals => x ≠ value
  | .atMost => x ≤ value
  | .atLeast => value ≤ x
  | .lessThan => x < value
  | .greaterThan => value < x
  | .between => span.lowest ≤ x ∧ x ≤ span.highest

/-- An exact number meets the target. -/
def Target.MetBy (target : Target) (x : ℚ) : Prop :=
  target.comparison.HoldsFor target.value target.span x

instance (c : Comparison) (value : Int) (span : Span) (x : ℚ) :
    Decidable (c.HoldsFor value span x) :=
  match c with
  | .equals => inferInstanceAs (Decidable (x = value))
  | .notEquals => inferInstanceAs (Decidable (x ≠ value))
  | .atMost => inferInstanceAs (Decidable (x ≤ value))
  | .atLeast => inferInstanceAs (Decidable (value ≤ x))
  | .lessThan => inferInstanceAs (Decidable (x < value))
  | .greaterThan => inferInstanceAs (Decidable (value < x))
  | .between => inferInstanceAs (Decidable (span.lowest ≤ x ∧ x ≤ span.highest))

instance (target : Target) (x : ℚ) : Decidable (target.MetBy x) :=
  inferInstanceAs (Decidable (target.comparison.HoldsFor _ _ x))

namespace Target

variable {target : Target}

/-- Whole numbers meet a target as exact numbers if they hit it. -/
theorem metBy_intCast_iff {x : Int} : target.MetBy (x : ℚ) ↔ target.hits x = true := by
  obtain ⟨c, value, span⟩ := target
  cases c <;>
    simp [MetBy, hits, Comparison.HoldsFor, Comparison.holds, Span.contains_iff, Int.cast_inj]

/-- **The mean of numbers that hit a target meets it**, unless the target is to be different. -/
theorem metBy_mean (hcomparison : target.comparison ≠ .notEquals) {xs : List Int} (hne : xs ≠ [])
    (h : ∀ x ∈ xs, target.hits x = true) : target.MetBy (Numeric.mean xs) := by
  obtain ⟨c, value, span⟩ := target
  cases c with
  | equals =>
    refine Numeric.mean_of_forall_eq hne fun x hx => ?_
    simpa [hits, Comparison.holds] using h x hx
  | notEquals => exact absurd rfl hcomparison
  | atMost =>
    refine Numeric.mean_le hne fun x hx => ?_
    simpa [hits, Comparison.holds] using h x hx
  | atLeast =>
    refine Numeric.le_mean hne fun x hx => ?_
    simpa [hits, Comparison.holds] using h x hx
  | lessThan =>
    -- whole numbers below the value keep a distance of one from it
    have hmean : Numeric.mean xs ≤ ((value - 1 : Int) : ℚ) := by
      refine Numeric.mean_le hne fun x hx => Int.le_sub_one_of_lt ?_
      simpa [hits, Comparison.holds] using h x hx
    exact lt_of_le_of_lt hmean (Int.cast_lt.mpr (sub_one_lt value))
  | greaterThan =>
    have hmean : ((value + 1 : Int) : ℚ) ≤ Numeric.mean xs := by
      refine Numeric.le_mean hne fun x hx => Int.add_one_le_of_lt ?_
      simpa [hits, Comparison.holds] using h x hx
    exact lt_of_lt_of_le (Int.cast_lt.mpr (lt_add_one value)) hmean
  | between =>
    have hspan : ∀ x ∈ xs, span.lowest ≤ x ∧ x ≤ span.highest := fun x hx =>
      (span.contains_iff x).mp (h x hx)
    exact ⟨Numeric.le_mean hne fun x hx => (hspan x hx).1,
      Numeric.mean_le hne fun x hx => (hspan x hx).2⟩

end Target

/-- Four and six differ from five, and their mean does not. -/
example : (∀ x ∈ [4, 6], (Target.mk .notEquals 5 ⟨1, 1⟩).hits x = true) ∧
    ¬(Target.mk .notEquals 5 ⟨1, 1⟩).MetBy (Numeric.mean [4, 6]) := by
  decide +kernel

/-! ## §2 Conjunctions -/

/-- Where nothing is linked by `or`, the normal form holds if all scores do. -/
theorem Chain.normalForm_eq_all {links : List (Option Link)} (h : ∀ link ∈ links, link ≠ some .or)
    (lead : Option Link) : ∀ (group : Bool) {scores : List Bool}, scores.length = links.length →
    normalForm (lead :: links) (group :: scores) = (group && scores.all id) := by
  induction links with
  | nil =>
    intro group scores hlength
    rw [List.eq_nil_of_length_eq_zero hlength, normalForm_singleton, List.all_nil, Bool.and_true]
  | cons link links ih =>
    intro group scores hlength
    obtain ⟨score, scores, rfl⟩ := List.exists_cons_of_length_eq_add_one hlength
    obtain ⟨hlink, hlinks⟩ := List.forall_mem_cons.mp h
    -- the score joins the group in front of it
    rw [normalForm_join hlink, ih hlinks _ (Nat.succ.inj hlength), List.all_cons, Bool.and_assoc]
    rfl

section Conjunction

variable [Memory] {cs : List Clause} (hlinks : ∀ c ∈ cs.tail, c.link ≠ .or)
include hlinks

/-- A roll that satisfies a chain without `or` is accepted by every clause. -/
theorem Roll.accepts_of_verdict {r : Roll} (h : verdict cs r = .ok true) :
    ∀ c ∈ cs, c.test.accepts r = true := by
  -- there is a verdict, so neither the rolls nor the links are at fault
  have hfaults : (obstacle? cs r).or (chainFault? cs) = none := by
    rw [← faultOf_verdict, h]
    rfl
  obtain ⟨hobstacle, hchain⟩ := Option.or_eq_none_iff.mp hfaults
  rw [verdict_eq_normalForm hobstacle (Option.map_eq_none_iff.mp hchain)] at h
  cases cs with
  | nil => exact List.forall_mem_nil _
  | cons c cs =>
    have hor : ∀ link ∈ linksOf cs, link ≠ some .or := by
      simpa [linksOf] using hlinks
    have hlength : (cs.map fun c => c.test.accepts r).length = (linksOf cs).length := by
      simp [linksOf]
    have hall := Chain.normalForm_eq_all hor (some c.link) (c.test.accepts r) hlength
    have htrue := hall.symm.trans (Except.ok.inj h)
    simpa [List.all_map] using htrue

/-! ## §3 Reported means -/

/-- What a clause compares of the winners meets its target on the mean. -/
theorem RollTable.metBy_mean_winners {t : RollTable} {vs : List Bool} {s : Statistic}
    {f : Roll → Int} (hvs : t.verdicts cs = .ok vs) (hne : (t.winners vs).map f ≠ [])
    (hf : ∀ r, s.ofRoll r = .ok (f r)) {c : Clause} (hc : c ∈ cs) {target : Target}
    (htest : c.test = .statistic s target) (hcomparison : target.comparison ≠ .notEquals) :
    target.MetBy (Numeric.mean ((t.winners vs).map f)) := by
  refine Target.metBy_mean hcomparison hne (List.forall_mem_map.mpr fun r hr => ?_)
  -- a winner has a true verdict, so every clause accepts it
  have hverdict : Roll.verdict cs r = .ok true :=
    List.forall₂_zip (forall₂_of_verdicts hvs) (mem_winners_iff.mp hr)
  have haccepts := Roll.accepts_of_verdict hlinks hverdict c hc
  simpa [htest, Test.accepts, Test.score, hf, Except.map] using haccepts

/-- **Means under a condition meet the condition.**  If a chain without `or` has verdicts and some
roll satisfies it, then the means are reported, and they meet the targets of its clauses: the mean
total that of every clause that compares the sum, and the mean average that of every clause that
compares the average.  Targets that are to be different from a value are left out. -/
theorem conditional_means_meet_their_targets {t : RollTable} {vs : List Bool}
    (hvs : t.verdicts cs = .ok vs) (hsome : true ∈ vs) :
    ∃ (e : Estimate ℚ) (sum average : ℚ), t.estimate cs = .ok e ∧
      e.sum = some sum ∧ e.average = some average ∧
      ∀ c ∈ cs, ∀ target : Target, target.comparison ≠ .notEquals →
        (c.test = .statistic .sum target → target.MetBy sum) ∧
        (c.test = .statistic .average target → target.MetBy average) := by
  have hlength := (RollTable.forall₂_of_verdicts hvs).length_eq.symm
  have hne : ∀ f : Roll → Int, (t.winners vs).map f ≠ [] := fun f => by
    simpa using RollTable.winners_ne_nil hlength hsome
  have hestimate : t.estimate cs = .ok (Estimate.ofVerdicts t vs : Estimate ℚ) := by
    rw [RollTable.estimate, hvs]
    rfl
  refine ⟨_, _, _, hestimate, mean?_of_ne_nil (hne _), mean?_of_ne_nil (hne _),
    fun c hc target hcomparison => ⟨fun htest => ?_, fun htest => ?_⟩⟩
  · exact RollTable.metBy_mean_winners hlinks hvs (hne _) (fun _ => rfl) hc htest hcomparison
  · exact RollTable.metBy_mean_winners hlinks hvs (hne _) (fun _ => rfl) hc htest hcomparison

end Conjunction

/-- Two rolls of at most seven pips, and one of twelve. -/
def sevenOrTwelve : RollTable where
  width := 2
  rows := [[1, 1], [3, 4], [6, 6]]
  width_pos := Nat.two_pos
  rows_ne_nil := by decide
  length_of_mem := by decide
  holds_of_mem := by decide

/-- Asks for less than eight pips, and for an average between three and one. -/
def fewPips : List Clause :=
  [⟨.d6, .first, .statistic .sum ⟨.lessThan, 8, ⟨1, 1⟩⟩⟩,
   ⟨.d6, .and, .statistic .average ⟨.between, 1, ⟨3, 1⟩⟩⟩]

/-- Totals of 2 and 7 have a mean of four and a half, which is less than eight as they are. -/
theorem few_pips_stay_few :
    (∀ c ∈ fewPips.tail, c.link ≠ .or) ∧
    sevenOrTwelve.verdicts fewPips = .ok [true, true, false] ∧ true ∈ [true, true, false] ∧
    ∃ (e : Estimate ℚ) (sum average : ℚ), sevenOrTwelve.estimate fewPips = .ok e ∧
      e.sum = some sum ∧ e.average = some average ∧
      (Target.mk .lessThan 8 ⟨1, 1⟩).MetBy sum ∧ (Target.mk .between 1 ⟨3, 1⟩).MetBy average ∧
      sum = 9 / 2 := by
  have hlinks : ∀ c ∈ fewPips.tail, c.link ≠ .or := by decide
  have hvs : sevenOrTwelve.verdicts fewPips = .ok [true, true, false] := by decide +kernel
  have hsome : true ∈ [true, true, false] := List.mem_cons_self
  obtain ⟨e, sum, average, he, hsum, haverage, hmet⟩ :=
    conditional_means_meet_their_targets hlinks hvs hsome
  refine ⟨hlinks, hvs, hsome, e, sum, average, he, hsum, haverage,
    (hmet _ List.mem_cons_self _ (by decide)).1 rfl,
    (hmet _ (List.mem_cons_of_mem _ List.mem_cons_self) _ (by decide)).2 rfl, ?_⟩
  rw [RollTable.estimate, hvs] at he
  rw [← Except.ok.inj he] at hsum
  rw [← Option.some_inj, ← hsum]
  decide +kernel

end DiceOdds
