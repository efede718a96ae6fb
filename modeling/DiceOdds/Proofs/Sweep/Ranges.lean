import DiceOdds.Proofs.Roll.Walks
import DiceOdds.Proofs.Sweep.Trend

/-!
# Sweeps along a Range

Only one end of the range moves, and it may pass the end that stays.  The nearer it is to that
end, the shorter the walk of a sequence, and the narrower the range that a statistic has to lie
in.  So along a range sequences are easiest where the ends meet, and statistics that lie between
the ends are hardest there.

Whether a walk can be laid out, and compared with the windows of the table, depends on the moving
end too.  Far from ordinary numbers one point of a sweep may be decided and its neighbour not
(`far_end_stops_the_sweep`), so what is said here is said about points that are decided.

**Main statement**: `verdicts_turn_at_the_fixed_end`.
-/

namespace DiceOdds

/-! ## §1 Moving an end -/

/-- The end of a range that stays while the parameter is swept. -/
def Axis.fixedEnd? (axis : Axis) (span : Span) : Option Int :=
  match axis with
  | .rangeLower => some span.upper
  | .rangeUpper => some span.lower
  | .value | .quantity => none

namespace Span

variable {span : Span} {axis : Axis} {fixed near far : Int}

/-- The swept range consists of the fixed end and the moving one, in one order or the other. -/
theorem set_eq_or (h : axis.fixedEnd? span = some fixed) :
    (∀ x, span.set axis x = ⟨fixed, x⟩) ∨ ∀ x, span.set axis x = ⟨x, fixed⟩ := by
  cases axis <;> cases h
  · exact .inr fun x => rfl
  · exact .inl fun x => rfl

theorem walk_set_of_nearer (h : axis.fixedEnd? span = some fixed)
    (hnearer : Nearer fixed near far) :
    (span.set axis near).walk <:+: (span.set axis far).walk := by
  rcases set_eq_or h with hset | hset
  · rw [hset, hset]
    exact (walk_starts_walk hnearer).isInfix
  · rw [hset, hset]
    exact (walk_finishes_walk hnearer).isInfix

theorem size_set (h : axis.fixedEnd? span = some fixed) (x : Int) :
    (span.set axis x).size = (x - fixed).natAbs + 1 := by
  rcases set_eq_or h with hset | hset
  · rw [hset, size_eq]
  · rw [hset, size_eq, ← Int.natAbs_neg, Int.neg_sub]

theorem lowest_set_le (h : axis.fixedEnd? span = some fixed) (x : Int) :
    (span.set axis x).lowest ≤ x := by
  rcases set_eq_or h with hset | hset
  · rw [hset]
    exact Int.min_le_right fixed x
  · rw [hset]
    exact Int.min_le_left x fixed

/-- A range widens as its end moves away. -/
theorem contains_set_of_nearer (h : axis.fixedEnd? span = some fixed)
    (hnearer : Nearer fixed near far) {n : Int} (hn : (span.set axis near).contains n = true) :
    (span.set axis far).contains n = true := by
  unfold Nearer at hnearer
  -- in which order the ends are entered has no part in what the range contains
  rcases set_eq_or h with hset | hset <;> simp only [hset, contains_iff, lowest, highest] at hn ⊢
  · omega
  · omega

end Span

/-! ## §2 Tests -/

/-- How rolls are accepted while an end of the range moves up to the other one, where there is a
law for it. -/
def Test.rangeTrend? : Test → Option Trend
  | .sequence _ => some .rising
  | .statistic _ target => if target.comparison = .between then some .falling else none
  | .each _ _ | .run _ _ => none

section Tests

variable [Memory] {test : Test} {axis : Axis} {trend : Trend} {fixed near far : Int} {die : Die}

/-- **A test follows its moving end.**  The ends of a sequence are faces of a die, and the roll is
not too long for its walks to be laid out exactly. -/
theorem Test.ordered_accepts_set_range (hfixed : axis.fixedEnd? test.span = some fixed)
    (htrend : test.rangeTrend? = some trend) (hnearer : Span.Nearer fixed near far)
    (hsequence : test.reduction = .sequence →
      near ∈ intsFrom 1 die.faces ∧ far ∈ intsFrom 1 die.faces)
    {r : Roll} (hwidth : test.reduction = .sequence → r.length < 9007199254740992)
    (hnear : (test.set axis near).layoutFault? 1 r.length = none)
    (hfar : (test.set axis far).layoutFault? 1 r.length = none) :
    trend.Ordered ((test.set axis far).accepts r) ((test.set axis near).accepts r) := by
  cases test with
  | each quota target => cases htrend
  | run quota target => cases htrend
  | sequence span =>
    cases htrend
    have hend : axis.fixedEnd? span = some fixed := hfixed
    obtain ⟨hnearSwept, hfarSwept⟩ := hsequence rfl
    rw [mem_intsFrom] at hnearSwept hfarSwept
    have hfaces := die.faces_le
    have hlowest : ∀ x : Int, x ≤ die.faces → (span.set axis x).lowest < Memory.room := by
      intro x hx
      have := Span.lowest_set_le hend x
      have := Memory.settings_lt_room
      omega
    -- swept ends are close together, and so are the sizes
    have hsize : ((span.set axis far).size : Int) <
        (span.set axis near).size + Storage.rowRoom := by
      have := Storage.settings_lt_rowRoom
      rw [Span.size_set hend, Span.size_set hend]
      omega
    exact Test.accepts_of_infix (Span.walk_set_of_nearer hend hnearer) hsize
      (hlowest near hnearSwept.2) (hlowest far hfarSwept.2) (hwidth rfl) hnear hfar
  | statistic s target =>
    obtain ⟨comparison, value, span⟩ := target
    simp only [rangeTrend?] at htrend
    split at htrend
    · next hbetween =>
      cases htrend
      cases hbetween
      have hset : ∀ x, (⟨.between, value, span⟩ : Target).set axis x =
          ⟨.between, value, span.set axis x⟩ := by
        intro x
        cases axis <;> first | rfl | cases hfixed
      -- the nearer range contains less
      have hnarrower : ∀ n, Trend.falling.Ordered
          ((⟨.between, value, span.set axis far⟩ : Target).hits n)
          ((⟨.between, value, span.set axis near⟩ : Target).hits n) :=
        fun n => Span.contains_set_of_nearer hfixed hnearer
      rw [Test.set, Test.set, hset, hset]
      exact Test.ordered_accepts_statistic hnarrower r
    · cases htrend

end Tests

/-! ## §3 Verdicts and sweeps -/

section Sweeps

variable {α σ : Type} [Numeric α] [Source σ] {rolls : Nested} {t : RollTable} {d : Draft}
  {c : Clause} {axis : Axis} {trend : Trend} {fixed : Int}

/-- The swept ends of a sequence are the faces of its die. -/
theorem Axis.domain_of_sequence (hsequence : c.test.reduction = .sequence)
    (hfixed : axis.fixedEnd? c.test.span = some fixed) (width : Int) :
    axis.domain c width = intsFrom 1 c.die.faces := by
  cases axis with
  | value => cases hfixed
  | quantity => cases hfixed
  | rangeLower => simp [Axis.domain, Axis.ends, hsequence]
  | rangeUpper => simp [Axis.domain, Axis.ends, hsequence]

variable [Memory]

/-- Points of a sweep that are decided follow the moving end. -/
theorem RollTable.ordered_set_range
    (hwidth : c.test.reduction = .sequence → t.width < 9007199254740992)
    (hfixed : axis.fixedEnd? c.test.span = some fixed)
    (htrend : c.test.rangeTrend? = some trend) {x x' : Int} (hx : x ∈ axis.domain c t.width)
    (hx' : x' ∈ axis.domain c t.width) (hle : x ≤ x') (hscorable : t.Scorable (c.test.set axis x))
    (hscorable' : t.Scorable (c.test.set axis x')) :
    (x' ≤ fixed → t.Ordered trend (c.test.set axis x) (c.test.set axis x')) ∧
    (fixed ≤ x → t.Ordered trend.flip (c.test.set axis x) (c.test.set axis x')) := by
  have hswept : ∀ y ∈ axis.domain c t.width, c.test.reduction = .sequence →
      y ∈ intsFrom 1 c.die.faces :=
    fun y hy hsequence => Axis.domain_of_sequence hsequence hfixed t.width ▸ hy
  -- what is laid out for all rolls can be laid out for each of them
  have hlayout : ∀ {test : Test}, t.Scorable test → ∀ r ∈ t.rows,
      test.layoutFault? 1 r.length = none := fun h r hr => by
    rw [t.length_of_mem r hr]
    exact Test.layoutFault?_mono h.1 t.size_pos
  have hlength : ∀ r ∈ t.rows, c.test.reduction = .sequence → r.length < 9007199254740992 :=
    fun r hr hsequence => t.length_of_mem r hr ▸ hwidth hsequence
  constructor
  · intro hbefore r hr
    exact Test.ordered_accepts_set_range hfixed htrend (.inr ⟨hle, hbefore⟩)
      (fun hsequence => ⟨hswept x' hx' hsequence, hswept x hx hsequence⟩) (hlength r hr)
      (hlayout hscorable' r hr) (hlayout hscorable r hr)
  · intro hbehind
    rw [RollTable.ordered_flip]
    intro r hr
    exact Test.ordered_accepts_set_range hfixed htrend (.inl ⟨hbehind, hle⟩)
      (fun hsequence => ⟨hswept x hx hsequence, hswept x' hx' hsequence⟩) (hlength r hr)
      (hlayout hscorable r hr) (hlayout hscorable' r hr)

/-- What follows the order of tests turns at the fixed end, if all points are decided. -/
theorem RollTable.turnsAt_range
    (hwidth : c.test.reduction = .sequence → t.width < 9007199254740992)
    (hfixed : axis.fixedEnd? c.test.span = some fixed)
    (htrend : c.test.rangeTrend? = some trend)
    (hscorable : ∀ x ∈ axis.domain c t.width, t.Scorable (c.test.set axis x)) {β : Type} [LE β]
    {f : Test → β}
    (hf : ∀ {trend test test'}, t.Ordered trend test test' → trend.Ordered (f test) (f test')) :
    trend.TurnsAt fixed (axis.domain c t.width)
      ((axis.domain c t.width).map fun x => f (c.test.set axis x)) :=
  RollTable.turnsAt_map hf (pairwise_intsFrom _ _) fun x hx x' hx' hle =>
    RollTable.ordered_set_range hwidth hfixed htrend hx hx' hle (hscorable x hx) (hscorable x' hx')

/-- Around an ordinary number every walk of a sweep can be laid out, and compared with the windows
of a table with room for a square over each of its rolls. -/
theorem Test.layoutFault?_set_of_ordinary (hfixed : axis.fixedEnd? c.test.span = some fixed)
    {rolls dice : Nat} (hordinary : c.test.reduction = .sequence →
      2 * (fixed.natAbs : Int) < Storage.rowRoom ∧
        (rolls * ((dice + 1) * (dice + 1)) : Int) < 4 * Memory.room)
    {width x : Int} (hx : x ∈ axis.domain c width) :
    (c.test.set axis x).layoutFault? rolls dice = none := by
  have hsequence : c.test.reduction = .sequence → axis.fixedEnd? c.test.span = some fixed →
      axis.domain c width = intsFrom 1 c.die.faces :=
    fun hsequence hfixed => Axis.domain_of_sequence hsequence hfixed width
  cases htest : c.test with
  | sequence span =>
    rw [htest] at hfixed hordinary hsequence
    have hend : axis.fixedEnd? span = some fixed := hfixed
    obtain ⟨hrow, hwindows⟩ := hordinary rfl
    rw [hsequence rfl hfixed, mem_intsFrom] at hx
    have hfaces := c.die.faces_le
    have hsettings := Storage.settings_lt_rowRoom
    have hsize : ((span.set axis x).size : Int) < Storage.rowRoom := by
      rw [Span.size_set hend]
      omega
    exact Test.layoutFault?_of_size_lt hsize
      (Storage.windowsFit_of_lt (span.set axis x).size_pos hwindows)
  | _ => rfl

/-- **Verdicts turn at the fixed end.**  Take a sequence, or a statistic that is to lie in the
range, and let one end of the range run through the domain of the sweep.  Wherever two ends are
decided, the verdicts on all rolls come in one order if both stand in front of the fixed end, and
in the other order if both stand behind it: sequences are accepted more often up to the fixed end
and less often from there on, statistics the other way round.  An end is decided if the walk of
the sequence can be laid out and compared with the windows of the table, and for a mode if the
rolls can be counted.  The sweep is returned if all of its ends are decided, which they are if the
fixed end is an ordinary number and the table is of ordinary size; and then its successes and their
share turn at the fixed end. -/
theorem verdicts_turn_at_the_fixed_end (h : rolls.toTable = .ok t) (hc : d.check true 0 = .ok c)
    (hfixed : axis.fixedEnd? c.test.span = some fixed) (htrend : c.test.rangeTrend? = some trend)
    (hwidth : c.test.reduction = .sequence → t.width < 9007199254740992) (s : Session σ) :
    (∀ x ∈ axis.domain c t.width, ∀ x' ∈ axis.domain c t.width, x ≤ x' → ∀ vs vs',
      t.verdicts [c.set axis x] = .ok vs → t.verdicts [c.set axis x'] = .ok vs' →
        (x' ≤ fixed → List.Forall₂ trend.Ordered vs vs') ∧
        (fixed ≤ x → List.Forall₂ trend.flip.Ordered vs vs')) ∧
    (∀ x, (∃ vs, t.verdicts [c.set axis x] = .ok vs) ↔
      (c.test.set axis x).layoutFault? t.size t.width = none ∧
        (c.test.reduction = .statistic .mode → ∀ r ∈ t.rows, r.Countable)) ∧
    ((∃ l : Line α, s.line α d axis rolls = .ok l) ↔
      ∀ x ∈ axis.domain c t.width, ∃ vs, t.verdicts [c.set axis x] = .ok vs) ∧
    ((c.test.reduction = .sequence → 2 * (fixed.natAbs : Int) < Storage.rowRoom ∧
        (t.size * ((t.width + 1) * (t.width + 1)) : Int) < 4 * Memory.room) →
      (c.test.reduction = .statistic .mode → ∀ r ∈ t.rows, r.Countable) →
        ∃ l : Line α, s.line α d axis rolls = .ok l) ∧
    (∀ l : Line α, s.line α d axis rolls = .ok l →
      l.points.map Prod.fst = axis.domain c t.width ∧
      trend.TurnsAt fixed (axis.domain c t.width) (l.points.map fun p => p.2.successes)) ∧
    (∀ l : Line ℚ, s.line ℚ d axis rolls = .ok l →
      trend.TurnsAt fixed (axis.domain c t.width) (l.series .probability).ys) := by
  have hdecided : ∀ x, (∃ vs, t.verdicts [c.set axis x] = .ok vs) ↔
      t.Scorable (c.test.set axis x) := by
    intro x
    simp only [RollTable.verdicts_single_eq_ok_iff, exists_and_left, exists_eq, and_true]
    rfl
  refine ⟨?_, fun x => ?_, ?_, fun hordinary hcountable => ?_, fun l hl => ?_, fun l hl => ?_⟩
  · intro x hx x' hx' hle vs vs' hvs hvs'
    obtain ⟨hscorable, rfl⟩ := (t.verdicts_single_eq_ok_iff _ _).mp hvs
    obtain ⟨hscorable', rfl⟩ := (t.verdicts_single_eq_ok_iff _ _).mp hvs'
    obtain ⟨hbefore, hbehind⟩ :=
      RollTable.ordered_set_range hwidth hfixed htrend hx hx' hle hscorable hscorable'
    exact ⟨fun hturn => (hbefore hturn).verdicts, fun hturn => (hbehind hturn).verdicts⟩
  · rw [hdecided, RollTable.scorable_iff, Test.reduction_set]
  · simp only [Session.line_eq_ok_iff h hc, exists_and_left, exists_eq, and_true, hdecided]
  · refine ⟨_, (Session.line_eq_ok_iff h hc s _).mpr ⟨fun x hx => ?_, rfl⟩⟩
    refine RollTable.scorable_iff.mpr ⟨Test.layoutFault?_set_of_ordinary hfixed hordinary hx, ?_⟩
    rwa [Test.reduction_set]
  · obtain ⟨hscorable, rfl⟩ := (Session.line_eq_ok_iff h hc s l).mp hl
    refine ⟨by simp [RollTable.testedAlong, Function.comp_def], ?_⟩
    rw [RollTable.testedAlong, List.map_map]
    exact RollTable.turnsAt_range hwidth hfixed htrend hscorable fun horder => horder.successes α
  · obtain ⟨hscorable, rfl⟩ := (Session.line_eq_ok_iff h hc s l).mp hl
    simp only [Line.series, RollTable.testedAlong, List.map_map]
    exact RollTable.turnsAt_range hwidth hfixed htrend hscorable fun horder => horder.probability

end Sweeps

/-- Four rolls with walks in them, upwards and downwards. -/
def upAndDown : RollTable where
  width := 4
  rows := [[1, 2, 3, 4], [5, 4, 3, 2], [3, 3, 3, 3], [6, 6, 1, 1]]
  width_pos := by decide
  rows_ne_nil := by decide
  length_of_mem := by decide
  holds_of_mem := by decide

/-- Asks for a walk that arrives at three. -/
def walkToThree : Draft :=
  { die := some .d6, reduction := some .sequence, span := ⟨1, 3⟩ }

/-- Asks for a least die between two and some number. -/
def leastFromTwo : Draft :=
  { die := some .d6, reduction := some (.statistic .minimum), comparison := some .between,
    span := ⟨2, 1⟩ }

/-- The walk to three is easiest to find if it starts there too.  A least die is hardest to find
between two and two. -/
theorem walks_and_ranges_turn :
    (Nested.ofRows upAndDown.rows).toTable = .ok upAndDown ∧
    (∃ c, walkToThree.check true 0 = .ok c ∧
      Axis.rangeLower.fixedEnd? c.test.span = some 3 ∧ c.test.rangeTrend? = some .rising) ∧
    (∃ l : Line ℚ,
      ({} : Session Random.Linear).line ℚ walkToThree .rangeLower (Nested.ofRows upAndDown.rows) =
        .ok l ∧
      Trend.rising.TurnsAt 3 (intsFrom 1 6) (l.series .probability).ys ∧
      l.points.map (fun p => p.2.successes) = [1, 1, 3, 1, 1, 0]) ∧
    (∃ c, leastFromTwo.check true 0 = .ok c ∧
      Axis.rangeUpper.fixedEnd? c.test.span = some 2 ∧ c.test.rangeTrend? = some .falling) ∧
    ∃ l : Line ℚ,
      ({} : Session Random.Linear).line ℚ leastFromTwo .rangeUpper (Nested.ofRows upAndDown.rows) =
        .ok l ∧
      Trend.falling.TurnsAt 2 (intsFrom 1 6) (l.series .probability).ys ∧
      l.points.map (fun p => p.2.successes) = [3, 1, 2, 2, 2, 2] := by
  have h := upAndDown.toTable_ofRows
  have hwalk : walkToThree.check true 0 = .ok ⟨.d6, .first, .sequence ⟨1, 3⟩⟩ := rfl
  have hleast : leastFromTwo.check true 0 =
    .ok ⟨.d6, .first, .statistic .minimum ⟨.between, 1, ⟨2, 1⟩⟩⟩ := rfl
  have hthree : Axis.rangeLower.fixedEnd? ⟨1, 3⟩ = some 3 := rfl
  have htwo : Axis.rangeUpper.fixedEnd? ⟨2, 1⟩ = some 2 := rfl
  obtain ⟨-, -, -, hwalks, -, hrising⟩ := verdicts_turn_at_the_fixed_end (α := ℚ) h hwalk hthree rfl
    (fun _ => by decide) ({} : Session Random.Linear)
  obtain ⟨-, -, -, hleasts, -, hfalling⟩ := verdicts_turn_at_the_fixed_end (α := ℚ) h hleast htwo
    rfl (fun _ => by decide) ({} : Session Random.Linear)
  obtain ⟨l, hl⟩ := hwalks (fun _ => by decide) fun hreduction => by cases hreduction
  obtain ⟨l', hl'⟩ := hleasts (fun hreduction => by cases hreduction) fun hreduction => by
    cases hreduction
  refine ⟨h, ⟨_, hwalk, rfl, rfl⟩, ⟨l, hl, hrising l hl, ?_⟩, ⟨_, hleast, rfl, rfl⟩,
    l', hl', hfalling l' hl', ?_⟩
  · obtain ⟨-, rfl⟩ := (Session.line_eq_ok_iff h hwalk _ _).mp hl
    decide +kernel
  · obtain ⟨-, rfl⟩ := (Session.line_eq_ok_iff h hleast _ _).mp hl'
    decide +kernel

/-! ## §4 An end far away -/

/-- Asks for a walk that starts as far away as words reach. -/
def walkFromAfar : Draft :=
  { die := some .d6, reduction := some .sequence, span := ⟨-9223372036854775293, 1⟩ }

/-- At two the length of the row wraps around, so that every roll is accepted.  At one, which is
nearer to the fixed end, there is no room for the row, and so there is no sweep. -/
theorem far_end_stops_the_sweep :
    Axis.rangeUpper.fixedEnd? walkFromAfar.span = some (-9223372036854775293) ∧
    (walkFromAfar.check true 0).toOption.bind (fun c => c.test.rangeTrend?) = some .rising ∧
    (({} : Session Random.Linear).answer ℚ [walkFromAfar.set .rangeUpper 2]
      (Nested.ofRows [[6]])).toOption.map Estimate.successes = some 1 ∧
    ({} : Session Random.Linear).answer ℚ [walkFromAfar.set .rangeUpper 1] (Nested.ofRows [[6]]) =
      .error .tableTooLarge ∧
    ({} : Session Random.Linear).line ℚ walkFromAfar .rangeUpper (Nested.ofRows [[6]]) =
      .error .tableTooLarge :=
  ⟨rfl, rfl, by decide +kernel, faultOf_eq_some_iff.mp (by decide +kernel),
    faultOf_eq_some_iff.mp (by decide +kernel)⟩

end DiceOdds
