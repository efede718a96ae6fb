import DiceOdds.Proofs.Sweep.Partition
import Mathlib.Algebra.BigOperators.Group.Multiset.Basic

/-!
# Every Die Is Counted Once

A grid for an exact number of dice that show the value has, for each value, a column of
quantities.  A roll succeeds in one cell of that column: at the number of its dice with that face.
If each success stands for as many dice as the quantity of its row says, then a column stands for
all dice with its face (`Grid.countsFace`), and as every die shows one of the faces, the grid
stands for all dice (`Grid.weighted_successes`).  The grid is summed up by rows; by columns, and
then roll by roll, the sum is read off.

**Main statement**: `grid_counts_every_die_once`.
-/

namespace DiceOdds

/-! ## §1 Sums over a table -/

section Sums

variable {β γ M : Type}

/-- A sum of sums may be taken the other way round. -/
theorem sum_map_sum_map_comm [AddCommMonoid M] (xs : List β) (ys : List γ) (f : β → γ → M) :
    (xs.map fun x => (ys.map fun y => f x y).sum).sum =
      (ys.map fun y => (xs.map fun x => f x y).sum).sum := by
  have hsums := Multiset.sum_map_sum_map (xs : Multiset β) (ys : Multiset γ) (f := f)
  simpa only [Multiset.map_coe, Multiset.sum_coe] using hsums

/-- The same number for each member. -/
theorem sum_map_const [Semiring M] (xs : List β) (a : M) :
    (xs.map fun _ => a).sum = xs.length * a := by
  rw [List.map_const', List.sum_replicate, nsmul_eq_mul]

/-- On faces of a die, the dice of all faces are all dice. -/
theorem Roll.sum_count_eq_length [Semiring M] {die : Die} {r : Roll} (h : r.OfDie die) :
    ((intsFrom 1 die.faces).map fun v => (r.count v : M)).sum = r.length := by
  have hfaces : (intsFrom 1 die.faces).Nodup := (pairwise_intsFrom _ _).imp Int.ne_of_lt
  have hmem : ∀ x ∈ r, id x ∈ intsFrom 1 (die.faces : Int) := fun x hx => mem_intsFrom.mpr (h x hx)
  have hsums := sum_map_filter_eq hfaces hmem fun _ => (1 : M)
  simpa only [sum_map_const, mul_one, id, ← List.countP_eq_length_filter,
    ← List.count_eq_countP] using hsums

end Sums

/-! ## §2 Keys along a sweep -/

section Keys

variable (M : Type) [CommRing M]

variable [Memory]

/-- Where every roll is accepted at its key only, each value counted as often as it succeeds comes
to all keys. -/
theorem RollTable.Parts.sum_mul_successes {t : RollTable} {test : Test} {axis : Axis}
    {xs : List Int} {key : Roll → Int} (h : t.Parts test axis xs key) (α : Type) [Numeric α] :
    ((t.testedAlong α test axis xs).map fun p => (p.1 : M) * p.2.successes).sum =
      (t.rows.map fun r => (key r : M)).sum := by
  rw [← sum_map_filter_eq h.nodup h.mem]
  simp only [testedAlong, tested, List.map_map]
  refine congrArg List.sum (List.map_congr_left fun x _ => ?_)
  -- the rolls that succeed at `x` are those whose key is `x`
  have hkeys : ∀ r ∈ t.rows.filter fun r => key r == x, (key r : M) = (x : M) := fun r hr => by
    rw [beq_iff_eq.mp (List.mem_filter.mp hr).2]
  show (x : M) * (Estimate.ofVerdicts (α := α) t _).successes = _
  rw [Estimate.successes_ofVerdicts_map, List.countP_eq_length_filter, h.filter_accepts,
    List.map_congr_left hkeys, sum_map_const, mul_comm]

/-! ## §3 Grids -/

variable {M} {α : Type} [Numeric α]

/-- What the cells of a grid come to, each cell as often as the quantity of its row says. -/
def Grid.weighted (g : Grid α) (f : Estimate α → M) : M :=
  ((g.quantities.zip g.cells).map fun p => (p.2.map fun e => (p.1 : M) * f e).sum).sum

/-- The column for a face has a cell for every number of dice, which counts the rolls that show
the face on so many dice; together its cells stand for all dice with that face. -/
structure Grid.CountsFace (g : Grid α) (t : RollTable) (j : Nat) (face : Int) : Prop where
  value : g.values[j]? = some face
  quantities : (g.column j).map Prod.fst = intsFrom 0 t.width
  successes : ∀ p ∈ g.column j,
    p.2.successes = t.rows.countP fun r => (r.count face : Int) == p.1
  dice : ((g.column j).map fun p => p.1 * (p.2.successes : Int)).sum =
    (t.rows.map fun r => (r.count face : Int)).sum

section Each

variable {t : RollTable} {c : Clause} {quota : Quota} {target : Target}
  (htest : c.test = .each quota target) (hexactly : quota.bound = .exactly)
  (hequals : target.comparison = .equals)
include htest hexactly hequals

/-- For each value, the key of a roll is the number of its dice that show the value. -/
theorem RollTable.parts_value (v : Int) :
    t.Parts (c.test.set .value v) .quantity (intsFrom 0 t.width) fun r => (r.count v : Int) := by
  have hhits : (target.set .value v).hits = (· == v) := by
    funext x
    simp [Target.hits, Target.set, Comparison.holds, hequals]
  have hparts := parts_each (t := t) hexactly (target.set .value v)
  simp only [hhits, ← List.count_eq_countP] at hparts
  rw [htest]
  exact hparts

/-- A cell counts the rolls that show its value as often as its quantity says. -/
theorem RollTable.successes_cell (q v : Int) :
    (t.tested α ((c.test.set .value v).set .quantity q)).successes =
      t.rows.countP fun r => (r.count v : Int) == q := by
  have hparts := parts_value (t := t) htest hexactly hequals v
  rw [tested, Estimate.successes_ofVerdicts_map]
  exact List.countP_congr fun r hr => by rw [hparts.accepts r hr q]

variable {g : Grid α} (hg : t.grid c = .ok g)
include hg

/-- A column stands for the dice that show its value. -/
theorem Grid.countsFace {j : Nat} {v : Int} (hv : g.values[j]? = some v) :
    g.CountsFace t j v := by
  have hparts := RollTable.parts_value (t := t) htest hexactly hequals v
  have hcolumn := column_of_grid hg hv
  refine ⟨hv, ?_, fun p hp => ?_, ?_⟩
  · rw [hcolumn, RollTable.testedAlong, List.map_map]
    exact List.map_id _
  · rw [hcolumn] at hp
    obtain ⟨q, -, rfl⟩ := List.mem_map.mp hp
    exact RollTable.successes_cell htest hexactly hequals q v
  · rw [hcolumn]
    exact hparts.sum_mul_successes Int α

/-- **The grid stands for all dice.** -/
theorem Grid.weighted_successes (hdice : ∀ r ∈ t.rows, r.OfDie c.die) :
    g.weighted (fun e => (e.successes : M)) = t.size * t.width := by
  obtain ⟨-, rfl⟩ := RollTable.grid_eq_ok_iff.mp hg
  -- down a column, every roll adds the number of its dice with that face
  have hkeys : ∀ v, ((intsFrom 0 t.width).map fun q : Int =>
      (q : M) * (t.tested α ((c.test.set .quantity q).set .value v)).successes).sum =
        (t.rows.map fun r => (r.count v : M)).sum := by
    intro v
    have hsum := (RollTable.parts_value (t := t) htest hexactly hequals v).sum_mul_successes M α
    simpa only [RollTable.testedAlong, List.map_map, Function.comp_def, Int.cast_natCast,
      ← Test.set_quantity_set_value] using hsum
  simp only [weighted, zip_map_self, List.map_map, Function.comp_def]
  -- by rows, by columns, by faces, and by rolls
  calc ((intsFrom 0 t.width).map fun q : Int => ((intsFrom 1 c.die.faces).map fun v =>
        (q : M) * (t.tested α ((c.test.set .quantity q).set .value v)).successes).sum).sum
      = ((intsFrom 1 c.die.faces).map fun v => ((intsFrom 0 t.width).map fun q : Int =>
          (q : M) * (t.tested α ((c.test.set .quantity q).set .value v)).successes).sum).sum :=
        sum_map_sum_map_comm _ _ _
    _ = ((intsFrom 1 c.die.faces).map fun v => (t.rows.map fun r => (r.count v : M)).sum).sum := by
        simp only [hkeys]
    _ = (t.rows.map fun r => ((intsFrom 1 c.die.faces).map fun v => (r.count v : M)).sum).sum :=
        sum_map_sum_map_comm _ _ _
    _ = (t.rows.map fun _ => (t.width : M)).sum := by
        refine congrArg List.sum (List.map_congr_left fun r hr => ?_)
        rw [Roll.sum_count_eq_length (hdice r hr), t.length_of_mem r hr]
    _ = t.size * t.width := sum_map_const t.rows (t.width : M)

end Each

/-- Shares are successes over the number of rolls, in every cell. -/
theorem Grid.size_mul_weighted_probability {t : RollTable} {c : Clause} {g : Grid ℚ}
    (hg : t.grid c = .ok g) :
    (t.size : ℚ) * g.weighted Figure.probability.of = g.weighted fun e => (e.successes : ℚ) := by
  obtain ⟨-, rfl⟩ := RollTable.grid_eq_ok_iff.mp hg
  simp only [weighted, zip_map_self, List.map_map, Function.comp_def, ← List.sum_map_mul_left]
  -- cell by cell
  refine congrArg List.sum (List.map_congr_left fun q _ => ?_)
  refine congrArg List.sum (List.map_congr_left fun v _ => ?_)
  rw [mul_left_comm]
  exact congrArg _ (Estimate.size_mul_probability t _)

end Keys

/-! ## §4 Conservation -/

section Conservation

variable [Memory] {α σ : Type} [Numeric α] [Source σ] {rolls : Nested} {t : RollTable}
  {d : Draft} {die : Die}

/-- **A grid counts every die once.**  On dice of a kind, the grid of a clause that asks for
exactly so many dice equal to the value has a column for each face, and stands for all dice of all
rolls, each in the column of its face.  The plotted shares say so too: they come to the dice of
one roll. -/
theorem grid_counts_every_die_once (h : rolls.toTable = .ok t) (hdie : d.die = some die)
    (hreduction : d.reduction = some .each) (hcomparison : d.comparison = some .equals)
    (hbound : d.bound = some .exactly) (hdice : ∀ r ∈ t.rows, r.OfDie die) (s : Session σ) :
    (∃ g : Grid α, s.grid α d rolls = .ok g ∧
      g.quantities = intsFrom 0 t.width ∧ g.values = intsFrom 1 die.faces ∧
      (∀ j < die.faces, g.CountsFace t j (1 + j)) ∧
      g.weighted (fun e => (e.successes : Int)) = t.size * t.width) ∧
    ∃ g : Grid ℚ, s.grid ℚ d rolls = .ok g ∧
      g.weighted Figure.probability.of = (t.width : ℚ) := by
  have htest : d.test? = some (.each (d.quota .exactly) (d.target .equals)) := by
    simp [Draft.test?, hreduction, hcomparison, hbound]
  have hc := Draft.check_lead hdie htest 0
  have hscorable : t.Scorable (.each (d.quota .exactly) (d.target .equals)) :=
    ⟨rfl, fun _ _ => rfl⟩
  have hgrid : ∀ (β : Type) [Numeric β], ∃ g : Grid β,
      t.grid ⟨die, .first, .each (d.quota .exactly) (d.target .equals)⟩ = .ok g ∧
        g.quantities = intsFrom 0 t.width ∧ g.values = intsFrom 1 die.faces :=
    fun β _ => ⟨_, RollTable.grid_eq_ok_iff.mpr ⟨hscorable, rfl⟩, rfl, rfl⟩
  constructor
  · obtain ⟨g, hg, hquantities, hvalues⟩ := hgrid α
    refine ⟨g, (s.grid_eq h hc).trans hg, hquantities, hvalues, fun j hj => ?_, ?_⟩
    · have hv : g.values[j]? = some (1 + (j : Int)) := by
        rw [hvalues]
        exact getElem?_intsFrom (by omega)
      exact Grid.countsFace rfl rfl rfl hg hv
    · exact Grid.weighted_successes rfl rfl rfl hg hdice
  · obtain ⟨g, hg, -⟩ := hgrid ℚ
    have hsize : (t.size : ℚ) ≠ 0 := Nat.cast_ne_zero.mpr (Nat.ne_of_gt t.size_pos)
    -- both sides are multiplied by the number of rolls
    refine ⟨g, (s.grid_eq h hc).trans hg, mul_left_cancel₀ hsize ?_⟩
    rw [Grid.size_mul_weighted_probability hg]
    exact Grid.weighted_successes rfl rfl rfl hg hdice

end Conservation

/-- Three rolls of two dice are six dice; the column for the face one has two of them, both of
the first roll. -/
theorem six_dice_are_counted :
    (Nested.ofRows lowMiddleHigh.rows).toTable = .ok lowMiddleHigh ∧
    (oneSix.die = some .d6 ∧ oneSix.reduction = some .each ∧ oneSix.comparison = some .equals ∧
      oneSix.bound = some .exactly) ∧
    (∀ r ∈ lowMiddleHigh.rows, r.OfDie .d6) ∧
    ∃ g : Grid ℚ,
      ({} : Session Random.Linear).grid ℚ oneSix (Nested.ofRows lowMiddleHigh.rows) = .ok g ∧
      ((g.column 0).map fun p => p.1 * (p.2.successes : Int)).sum = 2 ∧
      g.weighted (fun e => (e.successes : Int)) = 6 := by
  have h := lowMiddleHigh.toTable_ofRows
  have hdice : ∀ r ∈ lowMiddleHigh.rows, r.OfDie .d6 := by decide
  obtain ⟨⟨g, hg, -, -, hfaces, hall⟩, -⟩ := grid_counts_every_die_once (α := ℚ) h (d := oneSix) rfl
    rfl rfl rfl hdice ({} : Session Random.Linear)
  exact ⟨h, ⟨rfl, rfl, rfl, rfl⟩, hdice, g, hg, (hfaces 0 (by decide)).dice, hall⟩

end DiceOdds
