import DiceOdds.Proofs.Odds.Winners
import DiceOdds.Proofs.Sweep.Shape
import DiceOdds.Workstation

/-!
# Complementary Clauses

Six of the seven comparisons come in pairs: what the one holds of, the other does not.  So the dice
that meet the one target and the dice that meet the other are all dice, and a bound on the ones is
the mirrored bound on the others (`score_each_mirror`).  A statistic meets exactly one of the two
targets, whatever it is (`score_statistic_opposes`).

**Main statement**: `complementary_clauses_are_dual`.
-/

namespace DiceOdds

/-! ## §1 Comparisons and bounds -/

/-- The comparison that holds of all other numbers.  There is none for numbers outside a span. -/
def Comparison.complement? : Comparison → Option Comparison
  | .equals => some .notEquals
  | .notEquals => some .equals
  | .atMost => some .greaterThan
  | .greaterThan => some .atMost
  | .atLeast => some .lessThan
  | .lessThan => some .atLeast
  | .between => none

/-- The bound on the number of the others. -/
def Bound.mirror : Bound → Bound
  | .exactly => .exactly
  | .atMost => .atLeast
  | .atLeast => .atMost
  | .lessThan => .greaterThan
  | .greaterThan => .lessThan

/-- The quota of the others among so many dice. -/
def Quota.mirror (width : Nat) (quota : Quota) : Quota :=
  ⟨quota.bound.mirror, width - quota.quantity⟩

/-- The targets have one value, and complementary comparisons with it. -/
def Target.Opposes (target other : Target) : Prop :=
  target.comparison.complement? = some other.comparison ∧ other.value = target.value

instance (target other : Target) : Decidable (target.Opposes other) :=
  inferInstanceAs (Decidable (_ ∧ _))

theorem Comparison.holds_complement {comparison other : Comparison}
    (h : comparison.complement? = some other) (value : Int) (span span' : Span) (x : Int) :
    other.holds value span' x = !comparison.holds value span x := by
  rw [Bool.eq_iff_iff, Bool.not_eq_true']
  cases comparison <;> cases h <;>
    simp only [holds, beq_iff_eq, bne_iff_ne, beq_eq_false_iff_ne, bne_eq_false_iff_eq, ne_eq,
      decide_eq_true_eq, decide_eq_false_iff_not] <;>
    omega

theorem Bound.admits_mirror (bound : Bound) (quantity : Int) {width count others : Int}
    (h : count + others = width) :
    bound.mirror.admits (width - quantity) others = bound.admits quantity count := by
  rw [Bool.eq_iff_iff]
  cases bound <;> simp only [mirror, admits, beq_iff_eq, decide_eq_true_eq] <;> omega

/-- Members that have a property and those that do not are all members. -/
theorem countP_add_countP_of_not {β : Type} {p q : β → Bool} {xs : List β}
    (h : ∀ x ∈ xs, q x = !p x) : xs.countP p + xs.countP q = xs.length := by
  rw [List.length_eq_countP_add_countP p]
  refine congrArg _ (List.countP_congr fun x hx => ?_)
  rw [h x hx, Bool.not_eq_true', decide_eq_true_eq, Bool.not_eq_true]

/-! ## §2 Tests -/

section Opposes

variable {target other : Target} (h : target.Opposes other)
include h

theorem Target.Opposes.hits (x : Int) : other.hits x = !target.hits x := by
  rw [Target.hits, h.2]
  exact Comparison.holds_complement h.1 _ _ _ _

/-- The number of dice that meet the target fills the quota if the number of the others fills the
mirrored one. -/
theorem Test.score_each_mirror [Memory] (quota : Quota) (r : Roll) :
    (Test.each (quota.mirror r.length) other).score r = (Test.each quota target).score r := by
  refine congrArg Except.ok (quota.bound.admits_mirror quota.quantity ?_)
  -- every die meets one of the two targets
  rw [← countP_add_countP_of_not fun x (_ : x ∈ r) => h.hits x, Int.natCast_add]

theorem Test.score_statistic_opposes [Memory] (s : Statistic) (r : Roll) :
    (Test.statistic s other).score r = ((Test.statistic s target).score r).map not := by
  simp only [score]
  cases s.ofRoll r with
  | error fault => rfl
  | ok x => exact congrArg Except.ok (h.hits x)

/-! ## §3 Tables -/

namespace RollTable

variable [Memory]

theorem score_statistic_opposes (t : RollTable) (die : Die) (link : Link) (s : Statistic) :
    t.score ⟨die, link, .statistic s other⟩ =
      (t.score ⟨die, link, .statistic s target⟩).map (List.map not) := by
  rw [score_of_layOut rfl, score_of_layOut rfl, ← mapM_map_eq]
  exact congrArg t.rows.mapM (funext (Test.score_statistic_opposes h s))

/-- Where a statistic exists, every roll is a success of one of the two clauses. -/
theorem successes_add_successes (α : Type) [Numeric α] {t : RollTable} {s : Statistic}
    (hscorable : t.Scorable (.statistic s target)) :
    (t.tested α (.statistic s target)).successes + (t.tested α (.statistic s other)).successes =
      t.size := by
  have haccepts : ∀ r ∈ t.rows,
      (Test.statistic s other).accepts r = !(Test.statistic s target).accepts r := by
    intro r hr
    rw [Test.accepts, Test.score_statistic_opposes h, Test.score_eq_ok (hscorable.2 r hr)]
    rfl
  rw [tested, tested, Estimate.successes_ofVerdicts_map, Estimate.successes_ofVerdicts_map]
  exact countP_add_countP_of_not haccepts

/-- **Complementary clauses are dual.**  To ask how many dice meet a target is to ask how many do
not meet it, with the bound mirrored and the quantity taken from the number of dice: both clauses
decide every table, with the same verdicts.  To compare a statistic with opposing targets is to
have opposite verdicts, or one fault.  There are verdicts, unless it is a mode and some roll cannot
be counted, and then the successes of the two clauses are all rolls. -/
theorem complementary_clauses_are_dual (α : Type) [Numeric α] (t : RollTable) (die : Die)
    (link : Link) :
    (∀ quota, ∃ verdicts, t.score ⟨die, link, .each quota target⟩ = .ok verdicts ∧
      t.score ⟨die, link, .each (quota.mirror t.width) other⟩ = .ok verdicts) ∧
    ∀ s : Statistic,
      t.score ⟨die, link, .statistic s other⟩ =
        (t.score ⟨die, link, .statistic s target⟩).map (List.map not) ∧
      ((s = .mode → ∀ r ∈ t.rows, r.Countable) →
        ∃ (verdicts : List Bool) (e e' : Estimate α),
          t.score ⟨die, link, .statistic s target⟩ = .ok verdicts ∧
          t.estimate [⟨die, link, .statistic s target⟩] = .ok e ∧
          t.estimate [⟨die, link, .statistic s other⟩] = .ok e' ∧
          e.successes + e'.successes = t.size) := by
  refine ⟨fun quota => ?_, fun s => ⟨t.score_statistic_opposes h die link s, fun hmode => ?_⟩⟩
  · have hscore := t.score_eq_ok (c := ⟨die, link, .each quota target⟩) rfl fun _ _ => rfl
    refine ⟨_, hscore, ?_⟩
    rw [← hscore, score_of_layOut rfl, score_of_layOut rfl]
    refine mapM_eq_of_forall₂ (List.forall₂_same.mpr fun r hr => ?_)
    rw [← t.length_of_mem r hr]
    exact Test.score_each_mirror h quota r
  · have hscorable : ∀ target, t.Scorable (.statistic s target) := fun target =>
      scorable_iff.mpr ⟨rfl, fun hs => hmode (by cases hs; rfl)⟩
    exact ⟨_, _, _, t.score_eq_ok rfl (hscorable target).2,
      (t.estimate_single_eq_ok_iff _ _).mpr ⟨hscorable target, rfl⟩,
      (t.estimate_single_eq_ok_iff _ _).mpr ⟨hscorable other, rfl⟩,
      successes_add_successes h α (hscorable target)⟩

end RollTable

end Opposes

/-- A roll with two dice up to two, and one without. -/
def twoLowDice : RollTable where
  width := 3
  rows := [[1, 2, 4], [3, 5, 3]]
  width_pos := Nat.succ_pos 2
  rows_ne_nil := by decide
  length_of_mem := by decide
  holds_of_mem := by decide

/-- At least two dice up to two are at most one die above two; and of the two modes one is up to
two, the other above. -/
theorem low_dice_leave_high_dice :
    (Target.mk .atMost 2 ⟨1, 1⟩).Opposes ⟨.greaterThan, 2, ⟨4, 6⟩⟩ ∧
    (∃ verdicts,
      twoLowDice.score ⟨.d6, .first, .each ⟨.atLeast, 2⟩ ⟨.atMost, 2, ⟨1, 1⟩⟩⟩ = .ok verdicts ∧
      twoLowDice.score ⟨.d6, .first, .each ⟨.atMost, 1⟩ ⟨.greaterThan, 2, ⟨4, 6⟩⟩⟩ = .ok verdicts ∧
      verdicts = [true, false]) ∧
    (∀ r ∈ twoLowDice.rows, r.Countable) ∧
    ∃ e e' : Estimate Rat,
      twoLowDice.estimate [⟨.d6, .first, .statistic .mode ⟨.atMost, 2, ⟨1, 1⟩⟩⟩] = .ok e ∧
      twoLowDice.estimate [⟨.d6, .first, .statistic .mode ⟨.greaterThan, 2, ⟨4, 6⟩⟩⟩] = .ok e' ∧
      e.successes + e'.successes = 2 := by
  have hopposes : (Target.mk .atMost 2 ⟨1, 1⟩).Opposes ⟨.greaterThan, 2, ⟨4, 6⟩⟩ := by decide
  have hcountable : ∀ r ∈ twoLowDice.rows, r.Countable := by decide
  obtain ⟨heach, hstatistic⟩ :=
    RollTable.complementary_clauses_are_dual hopposes Rat twoLowDice .d6 .first
  obtain ⟨verdicts, hlow, hhigh⟩ := heach ⟨.atLeast, 2⟩
  obtain ⟨-, e, e', -, he, he', hsum⟩ := (hstatistic .mode).2 fun _ => hcountable
  refine ⟨hopposes, ⟨verdicts, hlow, hhigh, ?_⟩, hcountable, e, e', he, he', hsum⟩
  have hscore : twoLowDice.score
      ⟨.d6, .first, .each ⟨.atLeast, 2⟩ ⟨.atMost, 2, ⟨1, 1⟩⟩⟩ = .ok [true, false] := rfl
  rw [hscore] at hlow
  exact (Except.ok.inj hlow).symm

/-- A mode that does not exist is neither equal to one nor different from it. -/
theorem missing_mode_meets_no_target :
    ¬∀ (t : RollTable) (s : Statistic) (target other : Target), target.Opposes other →
      ∃ verdicts, t.score ⟨.d6, .first, .statistic s target⟩ = .ok verdicts ∧
        t.score ⟨.d6, .first, .statistic s other⟩ = .ok (verdicts.map not) := by
  intro h
  obtain ⟨verdicts, hverdicts, -⟩ := h (.ofRoll [-1] (by decide) (by decide)) .mode
    ⟨.equals, 1, ⟨1, 1⟩⟩ ⟨.notEquals, 1, ⟨1, 1⟩⟩ (by decide)
  have hfault : RollTable.score (.ofRoll [-1] (by decide) (by decide))
      ⟨.d6, .first, .statistic .mode ⟨.equals, 1, ⟨1, 1⟩⟩⟩ = .error .negativeFace := rfl
  rw [hfault] at hverdicts
  cases hverdicts

end DiceOdds
