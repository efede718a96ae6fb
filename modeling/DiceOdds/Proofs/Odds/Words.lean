import DiceOdds.Proofs.Odds.Drawn
import DiceOdds.Proofs.Odds.Winners
import DiceOdds.Proofs.Roll.Ranks

/-!
# Words Suffice

A total is added up from machine words, and each addition may wrap around.  In the end it makes no
difference where that happened, nor in which order the faces were taken (`Summation.inWords_eq`).
Faces of a die never come so far: as long as the number of dice times the number of faces is below
`2 ^ 63`, every number that comes up on the way to a total is a word (`Summation.fits_of_die`), and
so is the sum of two middle faces.  Every table that is drawn shows faces of its die
(`Request.ofDie_of_drawn`), so sums, averages and medians, and the means of an estimate, are those
of the whole numbers.

**Main statement**: `words_suffice_for_dice`.
-/

namespace DiceOdds

/-! ## §1 Adding up -/

namespace Word

theorem wrap_eq_of_emod_eq {x y : Int}
    (h : x % 18446744073709551616 = y % 18446744073709551616) : wrap x = wrap y := by
  -- two words with one residue are less than a whole turn apart
  have hx := holds_wrap x
  have hy := holds_wrap y
  have hresidue : wrap x % 18446744073709551616 = wrap y % 18446744073709551616 := by
    rw [wrap_emod, wrap_emod, h]
  unfold Holds least greatest at hx hy
  omega

/-- A sum may be wrapped around before its addends are, or afterwards. -/
theorem wrap_add_wrap (x y : Int) : wrap (wrap x + wrap y) = wrap (x + y) := by
  apply wrap_eq_of_emod_eq
  rw [Int.add_emod, wrap_emod, wrap_emod, ← Int.add_emod]

end Word

/-- A way of adding up faces, two numbers at a time. -/
inductive Summation where
  | nothing
  | face (x : Int)
  | add (a b : Summation)

namespace Summation

/-- The faces that are added up. -/
def faces : Summation → Roll
  | nothing => []
  | face x => [x]
  | add a b => a.faces ++ b.faces

/-- The sum in machine words, wrapped around at every step. -/
def inWords : Summation → Int
  | nothing => 0
  | face x => Word.wrap x
  | add a b => Word.wrap (a.inWords + b.inWords)

/-- Every number that comes up is a word. -/
def Fits : Summation → Prop
  | nothing => True
  | face x => Word.Holds x
  | add a b => a.Fits ∧ b.Fits ∧ Word.Holds (a.faces.pips + b.faces.pips)

end Summation

theorem Roll.pips_append (r r' : Roll) : (r ++ r').pips = r.pips + r'.pips := List.sum_append

theorem Roll.pips_eq_of_perm {r r' : Roll} (h : r.Perm r') : r.pips = r'.pips := h.sum_eq

namespace Summation

variable {a : Summation} {r : Roll}

/-- **Wrapping at every step comes to wrapping once**, in whatever order the faces are added up. -/
theorem inWords_eq (a : Summation) : a.inWords = Word.wrap a.faces.pips := by
  induction a with
  | nothing => rfl
  | face x => rw [inWords, faces, Roll.pips, List.foldr_cons, List.foldr_nil, Int.add_zero]
  | add a b iha ihb => rw [inWords, iha, ihb, Word.wrap_add_wrap, faces, Roll.pips_append]

theorem inWords_eq_total (h : a.faces.Perm r) : a.inWords = r.total := by
  rw [inWords_eq, Roll.pips_eq_of_perm h, Roll.total]

end Summation

/-! ## §2 Faces of a die -/

section OfDie

variable {die : Die} {r : Roll}

theorem Roll.OfDie.holds_pips (h : r.OfDie die) (hroom : r.length * die.faces < 2 ^ 63) :
    Word.Holds r.pips := by
  have hbounds := h.pips
  have hmost : (die.faces * r.length : Int) < 2 ^ 63 := by
    rw [Int.mul_comm]
    exact_mod_cast hroom
  unfold Word.Holds Word.least Word.greatest
  omega

/-- Faces of a die can be added up in words, as long as there are not too many of them. -/
theorem Summation.fits_of_die {a : Summation} (h : a.faces.OfDie die)
    (hroom : a.faces.length * die.faces < 2 ^ 63) : a.Fits := by
  induction a with
  | nothing => trivial
  | face x =>
    have hx : (1 : Int) ≤ x ∧ x ≤ die.faces := h x (List.mem_singleton_self x)
    exact SamplePlan.holds_of_face hx
  | add a b iha ihb =>
    have hlength : a.faces.length + b.faces.length = (add a b).faces.length :=
      List.length_append.symm
    -- what is added up on either side is part of the whole
    have hleft : a.faces.length * die.faces < 2 ^ 63 :=
      Nat.lt_of_le_of_lt (Nat.mul_le_mul_right _ (by omega)) hroom
    have hright : b.faces.length * die.faces < 2 ^ 63 :=
      Nat.lt_of_le_of_lt (Nat.mul_le_mul_right _ (by omega)) hroom
    refine ⟨iha (fun x hx => h x (List.mem_append_left _ hx)) hleft,
      ihb (fun x hx => h x (List.mem_append_right _ hx)) hright, ?_⟩
    rw [← Roll.pips_append]
    exact h.holds_pips hroom

end OfDie

/-! ## §3 Drawn tables -/

section Drawn

variable [Memory] {σ : Type} [Source σ] {s s' : Session σ} {o : SampleOrder} {t : RollTable}

/-- A plan that is carried out gives what it draws. -/
theorem SamplePlan.draw_of_carryOut {p : SamplePlan} {g : σ} {drawn : RollTable × σ}
    (h : p.carryOut g = .ok drawn) : p.draw g = drawn := by
  rw [carryOut] at h
  cases hobstacle : p.obstacle? with
  | some f =>
    rw [hobstacle] at h
    cases h
  | none =>
    rw [hobstacle] at h
    exact Except.ok.inj h

/-- A table that is drawn is that of a plan. -/
theorem Request.exists_plan_of_drawn (h : (sampleMany o).runIn s = (.ok t, s')) :
    ∃ p : SamplePlan, p.Follows o ∧ p.Gives t := by
  rcases o.check_cases with ⟨f, hrefused, -⟩ | ⟨p, hplan, hfollows, -⟩
  · rw [runIn_sampleMany_of_refused hrefused] at h
    cases h
  rw [runIn_sampleMany_of_legal hplan] at h
  refine ⟨p, hfollows, ?_⟩
  cases hsource : s.source with
  | some g =>
    cases hobstacle : p.obstacle? with
    | some f =>
      rw [runIn_draw_of_obstacle hsource hobstacle] at h
      cases h
    | none =>
      rw [runIn_draw_of_room hsource hobstacle] at h
      cases h
      exact ⟨σ, _, g, rfl⟩
  | none =>
    obtain ⟨cache, source, entropy⟩ := s
    cases show source = none from hsource
    -- the generator of one's own has been started, and then the plan was carried out
    obtain ⟨g, s₁, -, hcarry⟩ := runIn_bind_eq_ok (x := generator none) h
    obtain ⟨drawn, s₂, hdrawn, hanswer⟩ := runIn_bind_eq_ok hcarry
    have hdraw := SamplePlan.draw_of_carryOut (congrArg Prod.fst hdrawn)
    cases hanswer
    exact ⟨Random.Permuted, _, g, (congrArg Prod.fst hdraw).symm⟩

/-- A drawn table shows faces of its die. -/
theorem Request.ofDie_of_drawn (h : (sampleMany o).runIn s = (.ok t, s')) :
    ∃ die, o.die = some die ∧ ∀ r ∈ t.rows, r.OfDie die := by
  obtain ⟨p, hfollows, hgives⟩ := exists_plan_of_drawn h
  exact ⟨p.die, hfollows.die, hgives.ofDie⟩

end Drawn

/-! ## §4 Tables of dice -/

/-- The median, without wrapping around. -/
def Roll.exactMedian (r : Roll) : Int :=
  if r.length % 2 = 0 then (r.ranked (r.length / 2) + r.ranked (r.length / 2 - 1)) / 2
  else r.ranked ((r.length - 1) / 2)

/-- Words suffice for what is worked out from a table: nothing is wrapped around on the way, and the
results are those of the whole numbers. -/
structure RollTable.WordsSuffice [Memory] (t : RollTable) (die : Die) : Prop where
  /-- The faces of a roll can be added up in any order. -/
  totals : ∀ r ∈ t.rows, ∀ a : Summation, a.faces.Perm r → a.Fits ∧ a.inWords = r.pips
  middles : ∀ r ∈ t.rows, Word.Holds (r.ranked (t.width / 2) + r.ranked (t.width / 2 - 1))
  sum : t.aggregate (.statistic .sum) = .ok (t.rows.map Roll.pips)
  average : t.aggregate (.statistic .average) = .ok (t.rows.map fun r => r.pips / t.width)
  median : t.aggregate (.statistic .median) = .ok (t.rows.map Roll.exactMedian)
  /-- Verdicts that can be summed up have an estimate, with the means of the whole numbers. -/
  estimate : ∀ (α : Type) [Numeric α] (verdicts : List Bool),
    (true ∈ verdicts → verdicts.length = t.size) →
    ∃ e : Estimate α, t.summarize verdicts = .ok e ∧ e.total = t.size ∧
      e.successes = (t.winners verdicts).length ∧
      e.probability = Numeric.ofInt (t.winners verdicts).length / Numeric.ofInt t.size ∧
      e.sum = mean? ((t.winners verdicts).map Roll.pips) ∧
      e.average = mean? ((t.winners verdicts).map fun r => r.pips / t.width)
  sum_between : ∀ r ∈ t.rows, (t.width : Int) ≤ r.total ∧ r.total ≤ t.width * die.faces
  average_between : ∀ r ∈ t.rows, 1 ≤ r.average ∧ r.average ≤ die.faces
  median_between : ∀ r ∈ t.rows, 1 ≤ r.median ∧ r.median ≤ die.faces

theorem RollTable.wordsSuffice [Memory] {t : RollTable} {die : Die}
    (hdie : ∀ r ∈ t.rows, r.OfDie die) (hroom : t.width * die.faces < 2 ^ 63) :
    t.WordsSuffice die := by
  have hne : ∀ r ∈ t.rows, r ≠ [] := fun r hr => ne_nil_of_mem_rows hr
  have hpips : ∀ r ∈ t.rows, Word.Holds r.pips := fun r hr =>
    (hdie r hr).holds_pips (by rwa [t.length_of_mem r hr])
  have haverage : ∀ r ∈ t.rows, r.average = r.pips / t.width := by
    intro r hr
    rw [Roll.average, Roll.total, Word.wrap_of_holds (hpips r hr), t.length_of_mem r hr]
  have hmedian : ∀ r ∈ t.rows, r.median = r.exactMedian := by
    intro r hr
    rw [Roll.median, Roll.exactMedian, Word.wrap_of_holds ((hdie r hr).holds_middle (hne r hr))]
  have hwinners : ∀ verdicts, ∀ r ∈ t.winners verdicts, r ∈ t.rows := fun _ _ => mem_of_mem_winners
  exact {
    totals := fun r hr a ha => by
      have hfaces : a.faces.OfDie die := fun x hx => hdie r hr x (ha.mem_iff.mp hx)
      refine ⟨Summation.fits_of_die hfaces (by rwa [ha.length_eq, t.length_of_mem r hr]), ?_⟩
      rw [Summation.inWords_eq_total ha, Roll.total, Word.wrap_of_holds (hpips r hr)]
    middles := fun r hr => by
      rw [← t.length_of_mem r hr]
      exact (hdie r hr).holds_middle (hne r hr)
    sum := by
      rw [aggregate_eq_value (by simp)]
      exact congrArg Except.ok (map_total_eq hpips)
    average := by
      rw [aggregate_eq_value (by simp)]
      exact congrArg Except.ok (List.map_congr_left haverage)
    median := by
      rw [aggregate_eq_value (by simp)]
      exact congrArg Except.ok (List.map_congr_left hmedian)
    estimate := by
      intro α _ verdicts hfits
      have hsums : (t.winners verdicts).map Roll.total = (t.winners verdicts).map Roll.pips :=
        map_total_eq fun r hr => hpips r (hwinners verdicts r hr)
      have haverages : (t.winners verdicts).map Roll.average =
          (t.winners verdicts).map fun r => r.pips / (t.width : Int) :=
        List.map_congr_left fun r hr => haverage r (hwinners verdicts r hr)
      exact ⟨_, summarize_eq_ok hfits, rfl, rfl, rfl, congrArg mean? hsums,
        congrArg mean? haverages⟩
    sum_between := fun r hr => by
      rw [Roll.total, Word.wrap_of_holds (hpips r hr), ← t.length_of_mem r hr, Int.mul_comm]
      exact (hdie r hr).pips
    average_between := fun r hr => (hdie r hr).average (hne r hr) (hpips r hr)
    median_between := fun r hr => (hdie r hr).median (hne r hr) }

/-- **Words suffice for dice.**  Whatever the faces of a roll are, and in whatever order they are
added up, the sum that wraps around at every step is its total.  On a table of rolls of a die, as
long as the number of dice times the number of faces is below `2 ^ 63`, nothing wraps around: sums,
averages, medians, and the means of estimates are those of the whole numbers, and lie where the die
allows.  Every table of that size that is drawn is such a table. -/
theorem words_suffice_for_dice [Memory] :
    (∀ (r : Roll) (a : Summation), a.faces.Perm r → a.inWords = r.total) ∧
    (∀ (t : RollTable) (die : Die), (∀ r ∈ t.rows, r.OfDie die) →
      t.width * die.faces < 2 ^ 63 → t.WordsSuffice die) ∧
    ∀ (σ : Type) [Source σ] (o : SampleOrder) (s s' : Session σ) (t : RollTable),
      (Request.sampleMany o).runIn s = (.ok t, s') → ∃ die, o.die = some die ∧
        (t.width * die.faces < 2 ^ 63 → t.WordsSuffice die) := by
  refine ⟨fun r a ha => Summation.inWords_eq_total ha,
    fun t die hdie hroom => RollTable.wordsSuffice hdie hroom, fun σ _ o s s' t h => ?_⟩
  obtain ⟨die, hdie, hfaces⟩ := Request.ofDie_of_drawn h
  exact ⟨die, hdie, RollTable.wordsSuffice hfaces⟩

/-- Two rolls of a pair of dice. -/
def twoPairs : RollTable where
  width := 2
  rows := [[3, 6], [1, 2]]
  width_pos := Nat.two_pos
  rows_ne_nil := by decide
  length_of_mem := by decide
  holds_of_mem := by decide

/-- Pairs of dice have sums, averages and means as they should, and so has a table that is drawn.
Two words that are no faces of a die wrap around, and then the total lies below both of them. -/
theorem pairs_do_not_wrap :
    twoPairs.aggregate (.statistic .sum) = .ok [9, 3] ∧
    twoPairs.aggregate (.statistic .average) = .ok [4, 1] ∧
    (∃ e : Estimate ℚ, twoPairs.summarize [true, true] = .ok e ∧ e.successes = 2 ∧
      e.sum = some 6 ∧ e.average = some (5 / 2)) ∧
    Roll.total [9223372036854775807, 1] = -9223372036854775808 ∧
    ∃ t s', (Request.sampleMany (threeRolls.fill {})).runIn rehearsal = (.ok t, s') ∧
      t.width = 2 ∧ t.WordsSuffice .d6 := by
  have hsuffice : twoPairs.WordsSuffice .d6 :=
    words_suffice_for_dice.2.1 twoPairs .d6 (by decide) (by decide)
  obtain ⟨e, he, -, hsuccesses, -, hsum, haverage⟩ := hsuffice.estimate ℚ [true, true] fun _ => rfl
  have hwrapped := words_suffice_for_dice.1 [9223372036854775807, 1]
    (.add (.face 1) (.face 9223372036854775807)) (List.Perm.swap _ _ _)
  have hwidth : ((Request.sampleMany (threeRolls.fill {})).runIn rehearsal).1.map
      RollTable.width = .ok 2 := by decide +kernel
  obtain ⟨t, ht, htwo⟩ := map_eq_ok_iff.mp hwidth
  have hdrawn : (Request.sampleMany (threeRolls.fill {})).runIn rehearsal = (.ok t, _) :=
    Prod.ext ht rfl
  obtain ⟨die, hdie, hall⟩ := words_suffice_for_dice.2.2 _ _ _ _ t hdrawn
  cases hdie
  refine ⟨hsuffice.sum, hsuffice.average, ⟨e, he, hsuccesses, ?_, ?_⟩,
    hwrapped.symm.trans (by decide), t, _, hdrawn, htwo.symm, hall ?_⟩
  · exact hsum.trans (by decide +kernel)
  · exact haverage.trans (by decide +kernel)
  · rw [← htwo]
    decide

end DiceOdds
