import DiceOdds.Proofs.Roll.Stretches
import DiceOdds.Proofs.Sweep.Trend

/-!
# Sweeps along Value

A larger value is met by more numbers if they are to lie below it, and by fewer if they are to lie
above it.  A statistic is compared directly, so its verdicts go the same way.  A number of dice
goes that way too, and then the bound says whether more dice help or hurt.  For stretches more
matching dice help only if the bound is a lower one: stretches merge as they grow, and a stretch
that was short enough may be gone.

**Main statement**: `verdicts_follow_value`.
-/

namespace DiceOdds

/-! ## §1 Comparisons and bounds -/

/-- How the numbers that are accepted change while the value grows. -/
def Comparison.trend? : Comparison → Option Trend
  | .atMost | .lessThan => some .rising
  | .atLeast | .greaterThan => some .falling
  | .equals | .notEquals | .between => none

/-- How a count is accepted while it grows. -/
def Bound.trend? : Bound → Option Trend
  | .atLeast | .greaterThan => some .rising
  | .atMost | .lessThan => some .falling
  | .exactly => none

/-- How rolls are accepted while the value of the test grows, where there is a law for it. -/
def Test.trend? : Test → Option Trend
  | .statistic _ target => target.comparison.trend?
  | .each quota target =>
    match quota.bound.trend?, target.comparison.trend? with
    | some outer, some inner => some (outer.times inner)
    | _, _ => none
  | .run quota target =>
    match quota.bound.trend? with
    | some .rising => target.comparison.trend?
    | _ => none
  | .sequence _ => none

theorem Comparison.ordered_holds {comparison : Comparison} {trend : Trend}
    (h : comparison.trend? = some trend) {x x' : Int} (hx : x ≤ x') (span : Span) (n : Int) :
    trend.Ordered (comparison.holds x span n) (comparison.holds x' span n) := by
  cases comparison <;> cases h <;> apply Trend.ordered_bool <;>
    simp only [holds, decide_eq_true_eq, reduceCtorEq, false_implies, true_implies] <;> omega

theorem Bound.ordered_admits {bound : Bound} {trend : Trend} (h : bound.trend? = some trend)
    {n n' : Int} (hn : n ≤ n') (quantity : Int) :
    trend.Ordered (bound.admits quantity n) (bound.admits quantity n') := by
  cases bound <;> cases h <;> apply Trend.ordered_bool <;>
    simp only [admits, decide_eq_true_eq, reduceCtorEq, false_implies, true_implies] <;> omega

/-! ## §2 Tests -/

section Tests

variable {trend : Trend} {p p' : Int → Bool} {r : Roll}

/-- A count follows what is counted. -/
theorem ordered_countP (h : ∀ n ∈ r, trend.Ordered (p n) (p' n)) :
    trend.Ordered (r.countP p : Int) (r.countP p') := by
  cases trend with
  | rising => exact Int.ofNat_le.mpr (List.countP_mono_left h)
  | falling => exact Int.ofNat_le.mpr (List.countP_mono_left h)

/-- Where a larger count is admitted if a smaller one is, longer stretches are admitted too. -/
theorem any_stretches_of_imp {quota : Quota} (hbound : quota.bound.trend? = some .rising)
    (h : ∀ n ∈ r, p n = true → p' n = true)
    (hany : ((Roll.stretches p r).any fun n => quota.admits n) = true) :
    ((Roll.stretches p' r).any fun n => quota.admits n) = true := by
  obtain ⟨n, hn, hadmits⟩ := List.any_eq_true.mp hany
  obtain ⟨n', hn', hle⟩ := Roll.exists_ge_of_imp h (Nat.le_refl 0) n hn
  have hordered := Bound.ordered_admits hbound (Int.ofNat_le.mpr hle) quota.quantity
  exact List.any_eq_true.mpr ⟨n', hn', hordered hadmits⟩

/-- **A test follows its value.** -/
theorem Test.ordered_accepts_set_value [Memory] {test : Test} (h : test.trend? = some trend)
    {x x' : Int} (hx : x ≤ x') (r : Roll) :
    trend.Ordered ((test.set .value x).accepts r) ((test.set .value x').accepts r) := by
  cases test with
  | each quota target =>
    simp only [trend?] at h
    split at h
    · next outer inner houter hinner =>
      cases h
      have hcount : inner.Ordered (r.countP (target.set .value x).hits : Int)
          (r.countP (target.set .value x').hits) :=
        ordered_countP fun n _ => Comparison.ordered_holds hinner hx target.span n
      -- a bound on the count keeps or turns the order of the counts
      cases inner with
      | rising =>
        have := Bound.ordered_admits houter hcount quota.quantity
        cases outer <;> exact this
      | falling =>
        have := Bound.ordered_admits houter hcount quota.quantity
        cases outer <;> exact this
    · cases h
  | run quota target =>
    simp only [trend?] at h
    split at h
    · next hrising =>
      have hhits : ∀ n, trend.Ordered ((target.set .value x).hits n)
          ((target.set .value x').hits n) := Comparison.ordered_holds h hx target.span
      cases trend with
      | rising => exact any_stretches_of_imp hrising fun n _ => hhits n
      | falling => exact any_stretches_of_imp hrising fun n _ => hhits n
    · cases h
  | sequence span => cases h
  | statistic s target =>
    exact Test.ordered_accepts_statistic (fun n => Comparison.ordered_holds h hx target.span n) r

end Tests

/-! ## §3 Verdicts and sweeps -/

section Sweeps

variable {α σ : Type} [Numeric α] [Source σ] {rolls : Nested} {t : RollTable} {d : Draft}
  {c : Clause} {trend : Trend}

@[simp] theorem Test.trend?_set_quantity (test : Test) (q : Int) :
    (test.set .quantity q).trend? = test.trend? := by
  cases test <;> rfl

variable [Memory]

/-- What follows the order of tests goes along the value as the trend says. -/
theorem along_value {test : Test} (htrend : test.trend? = some trend) {β : Type} [LE β]
    {f : Test → β}
    (hf : ∀ {test test'}, t.Ordered trend test test' → trend.Ordered (f test) (f test'))
    {xs : List Int} (hxs : xs.Pairwise (· < ·)) :
    trend.Along (xs.map fun x => f (test.set .value x)) :=
  RollTable.along_map hf hxs fun _ _ hx r _ => Test.ordered_accepts_set_value htrend hx r

/-- **Verdicts follow the value.**  For a clause with a trend, a mode only on rolls that can be
counted, the verdicts on all rolls come in the order of the trend whenever two values come in
their order.  So the successes and their share go one way along the line, and along every row of
the grid. -/
theorem verdicts_follow_value (h : rolls.toTable = .ok t) (hc : d.check true 0 = .ok c)
    (htrend : c.test.trend? = some trend)
    (hmode : c.test.reduction = .statistic .mode → ∀ r ∈ t.rows, r.Countable) (s : Session σ) :
    (∀ x x' : Int, x ≤ x' → ∃ vs vs', t.verdicts [c.set .value x] = .ok vs ∧
      t.verdicts [c.set .value x'] = .ok vs' ∧ List.Forall₂ trend.Ordered vs vs') ∧
    (∃ l : Line α, s.line α d .value rolls = .ok l ∧
      l.points.map Prod.fst = Axis.value.domain c t.width ∧
      trend.Along (l.points.map fun p => p.2.successes)) ∧
    (∃ g : Grid α, s.grid α d rolls = .ok g ∧
      g.cells.map List.length = List.replicate (t.width + 1) c.die.faces ∧
      ∀ row ∈ g.cells, trend.Along (row.map Estimate.successes)) ∧
    (∃ l : Line ℚ, s.line ℚ d .value rolls = .ok l ∧ trend.Along (l.series .probability).ys) ∧
    (∃ g : Grid ℚ, s.grid ℚ d rolls = .ok g ∧
      ∀ ys ∈ g.figure .probability, trend.Along ys) := by
  -- a clause with a trend lays out no walk
  have hscorable : t.Scorable c.test := by
    refine RollTable.scorable_iff.mpr ⟨?_, hmode⟩
    cases htest : c.test with
    | sequence span =>
      rw [htest] at htrend
      cases htrend
    | _ => rfl
  have hquantity : ∀ q : Int, (c.test.set .quantity q).trend? = some trend := by
    intro q
    rw [Test.trend?_set_quantity, htrend]
  have hline : ∀ (α : Type) [Numeric α], s.line α d .value rolls =
      .ok { axis := .value,
            points := t.testedAlong α c.test .value (Axis.value.domain c t.width) } :=
    fun α => s.line_of_scorable h hc (by decide) (by decide) hscorable
  have hgrid : ∀ (α : Type) [Numeric α], s.grid α d rolls = _ := fun α =>
    (s.grid_eq h hc).trans (RollTable.grid_eq_ok_iff.mpr ⟨hscorable, rfl⟩)
  have hvalues := pairwise_intsFrom 1 c.die.faces
  refine ⟨fun x x' hx => ?_, ⟨_, hline α, ?_, ?_⟩, ⟨_, hgrid α, ?_, ?_⟩, ⟨_, hline ℚ, ?_⟩,
    ⟨_, hgrid ℚ, ?_⟩⟩
  · refine ⟨_, _, (t.verdicts_single_eq_ok_iff _ _).mpr ⟨?_, rfl⟩,
      (t.verdicts_single_eq_ok_iff _ _).mpr ⟨?_, rfl⟩, ?_⟩
    · exact RollTable.scorable_set_value.mpr hscorable
    · exact RollTable.scorable_set_value.mpr hscorable
    · exact RollTable.Ordered.verdicts fun r _ => Test.ordered_accepts_set_value htrend hx r
  · simp [RollTable.testedAlong, Function.comp_def]
  · rw [RollTable.testedAlong, List.map_map]
    exact along_value htrend (fun horder => horder.successes α) (pairwise_intsFrom _ _)
  · simp [Function.comp_def, List.map_const']
  · intro row hrow
    obtain ⟨q, -, rfl⟩ := List.mem_map.mp hrow
    rw [List.map_map]
    exact along_value (hquantity q) (fun horder => horder.successes α) hvalues
  · simp only [Line.series, RollTable.testedAlong, List.map_map]
    exact along_value htrend (fun horder => horder.probability) (pairwise_intsFrom _ _)
  · intro ys hys
    simp only [Grid.figure, List.map_map, List.mem_map, Function.comp_apply] at hys
    obtain ⟨q, -, rfl⟩ := hys
    exact along_value (hquantity q) (fun horder => horder.probability) hvalues

end Sweeps

/-- Two rolls in which low dice stand next to each other. -/
def lowNeighbours : RollTable where
  width := 5
  rows := [[1, 2, 1, 6, 6], [3, 1, 1, 6, 6]]
  width_pos := by decide
  rows_ne_nil := by decide
  length_of_mem := by decide
  holds_of_mem := by decide

/-- Asks for three low dice in a row. -/
def threeLowInARow : Draft :=
  { die := some .d6, reduction := some .consecutive, comparison := some .atMost,
    bound := some .atLeast, quantity := 3 }

/-- Asks for a low mode. -/
def lowMode : Draft :=
  { die := some .d6, reduction := some (.statistic .mode), comparison := some .atMost }

/-- The stretches of ones merge as soon as a two counts as low in the one roll, and a three in the
other.  The mode of both rolls is one. -/
theorem low_neighbours_follow_the_value :
    (Nested.ofRows lowNeighbours.rows).toTable = .ok lowNeighbours ∧
    (∃ c, threeLowInARow.check true 0 = .ok c ∧ c.test.trend? = some .rising ∧
      c.test.reduction ≠ .statistic .mode) ∧
    (∃ l : Line ℚ,
      ({} : Session Random.Linear).line ℚ threeLowInARow .value (Nested.ofRows lowNeighbours.rows) =
        .ok l ∧
      Trend.rising.Along (l.series .probability).ys ∧
      (l.series .probability).ys = [0, 1 / 2, 1, 1, 1, 1]) ∧
    (∃ c, lowMode.check true 0 = .ok c ∧ c.test.trend? = some .rising ∧
      c.test.reduction = .statistic .mode ∧ ∀ r ∈ lowNeighbours.rows, r.Countable) ∧
    ∃ l : Line ℚ,
      ({} : Session Random.Linear).line ℚ lowMode .value (Nested.ofRows lowNeighbours.rows) =
        .ok l ∧
      Trend.rising.Along (l.series .probability).ys := by
  have h := lowNeighbours.toTable_ofRows
  have hrun : threeLowInARow.check true 0 =
    .ok ⟨.d6, .first, .run ⟨.atLeast, 3⟩ ⟨.atMost, 1, ⟨1, 1⟩⟩⟩ := rfl
  have hmode : lowMode.check true 0 =
    .ok ⟨.d6, .first, .statistic .mode ⟨.atMost, 1, ⟨1, 1⟩⟩⟩ := rfl
  have hcountable : ∀ r ∈ lowNeighbours.rows, r.Countable := by
    unfold Roll.Countable
    decide
  obtain ⟨-, -, -, ⟨l, hl, halong⟩, -⟩ := verdicts_follow_value (α := ℚ) h hrun rfl
    (fun hreduction => by cases hreduction) ({} : Session Random.Linear)
  obtain ⟨-, -, -, hline, -⟩ := verdicts_follow_value (α := ℚ) h hmode rfl
    (fun _ => hcountable) ({} : Session Random.Linear)
  refine ⟨h, ⟨_, hrun, rfl, by decide⟩, ⟨l, hl, halong, ?_⟩, ⟨_, hmode, rfl, rfl, hcountable⟩,
    hline⟩
  -- the figures themselves
  obtain ⟨-, rfl⟩ := (Session.line_eq_ok_iff h hrun _ _).mp hl
  decide +kernel

/-! ## §4 A face that cannot be counted -/

/-- No face is below nought, and still a sweep of the mode has no verdicts to order: the counters
of the one face cannot be stored. -/
theorem huge_face_stops_the_sweep :
    (Nested.ofRows [[4611686018427387904]]).faces.all (0 ≤ ·) = true ∧
    (lowMode.check true 0).toOption.bind (fun c => c.test.trend?) = some .rising ∧
    ({} : Session Random.Linear).line ℚ lowMode .value (Nested.ofRows [[4611686018427387904]]) =
      .error .tableTooLarge :=
  ⟨by decide +kernel, by decide, faultOf_eq_some_iff.mp (by decide +kernel)⟩

end DiceOdds
