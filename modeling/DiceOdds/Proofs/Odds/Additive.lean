import DiceOdds.Proofs.Numeric.Means
import DiceOdds.Proofs.Odds.Winners

/-!
# Summaries Add Up

An estimate is an account of its winners: how many they are, and what their totals and their
averages come to.  All three are sums over the winners, so they do not see the order of the rolls,
and they add up wherever the winners do (`joins_of_perm`): of two tables one behind the other, and
of verdicts of which no two claim the same roll.  A side without winners adds nothing, although it
has no means.

The average of a roll is its total shared out and rounded down, so that the mean total is the
number of dice times the mean average, and less than one pip for each further die
(`coherent_ofVerdicts`).

**Main statement**: `summaries_add_up`.
-/

namespace DiceOdds

/-! ## §1 Winners of several verdicts -/

section Selected

variable {β : Type}

theorem selected_append {xs ys : List β} {vs ws : List Bool} (h : vs.length = xs.length) :
    selected (xs ++ ys) (vs ++ ws) = selected xs vs ++ selected ys ws := by
  simp only [selected, List.zip_append h.symm, List.filter_append, List.map_append]

theorem selected_perm {xs ys : List β} {vs ws : List Bool} (h : (xs.zip vs).Perm (ys.zip ws)) :
    (selected xs vs).Perm (selected ys ws) :=
  (h.filter Prod.snd).map Prod.fst

theorem selected_replicate_true (xs : List β) :
    selected xs (List.replicate xs.length true) = xs := by
  induction xs with
  | nil => rfl
  | cons x xs ih => rw [List.length_cons, List.replicate_succ, selected_cons_true, ih]

/-- Where no member has two true verdicts, the two selections share out what either selects. -/
theorem selected_either_perm (xs : List β) : ∀ {vs ws : List Bool}, vs.length = xs.length →
    ws.length = xs.length → true ∉ Verdict.both vs ws →
    (selected xs (Verdict.either vs ws)).Perm (selected xs vs ++ selected xs ws) := by
  induction xs with
  | nil => simp
  | cons x xs ih =>
    intro vs ws hvs hws hdisjoint
    obtain ⟨v, vs, rfl⟩ := List.exists_cons_of_length_eq_add_one hvs
    obtain ⟨w, ws, rfl⟩ := List.exists_cons_of_length_eq_add_one hws
    have hhead : (v && w) = false := Bool.eq_false_iff.mpr fun h =>
      hdisjoint (h ▸ List.mem_cons_self)
    have hrest := ih (Nat.succ.inj hvs) (Nat.succ.inj hws) fun h =>
      hdisjoint (List.mem_cons_of_mem _ h)
    -- the head is selected on one side at most, and then by either
    cases v with
    | true =>
      cases w with
      | true => cases hhead
      | false => exact hrest.cons x
    | false =>
      cases w with
      | true => exact (hrest.cons x).trans List.perm_middle.symm
      | false => exact hrest

end Selected

/-- A verdict or its negation is true, and never both. -/
theorem Verdict.either_map_not (vs : List Bool) :
    Verdict.either vs (vs.map not) = List.replicate vs.length true ∧
      true ∉ Verdict.both vs (vs.map not) := by
  induction vs with
  | nil => exact ⟨rfl, List.not_mem_nil⟩
  | cons v vs ih =>
    obtain ⟨heither, hboth⟩ := ih
    refine ⟨congrArg₂ List.cons (Bool.or_not_self v) heither, ?_⟩
    intro h
    rcases List.mem_cons.mp h with hhead | htail
    · exact Bool.noConfusion (hhead.trans (Bool.and_not_self v))
    · exact hboth htail

namespace RollTable

/-- The rolls of two tables of one width, one table behind the other. -/
def append (t u : RollTable) (hwidth : u.width = t.width) : RollTable where
  width := t.width
  rows := t.rows ++ u.rows
  width_pos := t.width_pos
  rows_ne_nil := List.append_ne_nil_of_left_ne_nil t.rows_ne_nil u.rows
  length_of_mem := by
    intro r hr
    rcases List.mem_append.mp hr with hr | hr
    · exact t.length_of_mem r hr
    · exact (u.length_of_mem r hr).trans hwidth
  holds_of_mem := by
    intro r hr
    rcases List.mem_append.mp hr with hr | hr
    · exact t.holds_of_mem r hr
    · exact u.holds_of_mem r hr

@[simp] theorem size_append (t u : RollTable) (hwidth : u.width = t.width) :
    (t.append u hwidth).size = t.size + u.size :=
  List.length_append

theorem winners_append {t u : RollTable} (hwidth : u.width = t.width) {vs ws : List Bool}
    (h : vs.length = t.size) :
    (t.append u hwidth).winners (vs ++ ws) = t.winners vs ++ u.winners ws :=
  selected_append h

section Verdicts

variable {t : RollTable} {vs ws : List Bool} (hvs : vs.length = t.size)
include hvs

theorem length_either (hws : ws.length = t.size) : (Verdict.either vs ws).length = t.size := by
  show (List.zipWith Verdict.either vs ws).length = t.size
  rw [List.length_zipWith, hvs, hws, Nat.min_self]

/-- Where no roll is claimed twice, the winners by either verdict are those by the one and those
by the other. -/
theorem winners_either_perm (hws : ws.length = t.size) (hdisjoint : true ∉ Verdict.both vs ws) :
    (t.winners (Verdict.either vs ws)).Perm (t.winners vs ++ t.winners ws) :=
  selected_either_perm t.rows hvs hws hdisjoint

/-- Every roll wins once, by its verdict or by the negation. -/
theorem winners_not_perm : (t.winners vs ++ t.winners (vs.map not)).Perm t.rows := by
  obtain ⟨heither, hboth⟩ := Verdict.either_map_not vs
  have hnot : (vs.map not).length = t.size := by rw [List.length_map, hvs]
  have hall : t.winners (Verdict.either vs (vs.map not)) = t.rows := by
    rw [heither, hvs]
    exact selected_replicate_true t.rows
  have hwinners := winners_either_perm hvs hnot hboth
  rw [hall] at hwinners
  exact hwinners.symm

/-- Rolls that come with their verdicts in another order are as many. -/
theorem size_eq_of_perm {u : RollTable} (hws : ws.length = u.size)
    (hperm : (t.rows.zip vs).Perm (u.rows.zip ws)) : t.size = u.size := by
  have hlength := hperm.length_eq
  rwa [List.length_zip, List.length_zip, hvs, hws, size, size, Nat.min_self,
    Nat.min_self] at hlength

end Verdicts

end RollTable

/-! ## §2 Estimates that add up -/

theorem mean?_perm {xs ys : List Int} (h : xs.Perm ys) : (mean? xs : Option ℚ) = mean? ys := by
  simp only [mean?, h.isEmpty_eq, Numeric.mean_perm h]

namespace Estimate

/-- The successes of an estimate are those of two others taken together: in number, and in what
their totals and their averages come to, where no success comes to nought. -/
structure Joins (e e₁ e₂ : Estimate ℚ) : Prop where
  successes : e.successes = e₁.successes + e₂.successes
  sum : (e.successes : ℚ) * e.sum.getD 0 =
    e₁.successes * e₁.sum.getD 0 + e₂.successes * e₂.sum.getD 0
  average : (e.successes : ℚ) * e.average.getD 0 =
    e₁.successes * e₁.average.getD 0 + e₂.successes * e₂.average.getD 0

/-- Winners that make up those of two estimates are counted, and summed up, with both. -/
theorem joins_of_perm {t t₁ t₂ : RollTable} {vs vs₁ vs₂ : List Bool}
    (h : (t.winners vs).Perm (t₁.winners vs₁ ++ t₂.winners vs₂)) :
    (ofVerdicts t vs).Joins (ofVerdicts t₁ vs₁) (ofVerdicts t₂ vs₂) := by
  have hmap : ∀ f : Roll → Int, ((((t.winners vs).map f).sum : Int) : ℚ) =
      (((t₁.winners vs₁).map f).sum : Int) + (((t₂.winners vs₂).map f).sum : Int) := by
    intro f
    rw [(h.map f).sum_eq, List.map_append, List.sum_append, Int.cast_add]
  refine ⟨h.length_eq.trans List.length_append, ?_, ?_⟩
  · simp only [successes_mul_sum_eq_total, hmap]
  · simp only [successes_mul_average, hmap]

/-- The same winners among as many rolls make the same estimate, in whatever order. -/
theorem ofVerdicts_eq_of_perm {t u : RollTable} {vs ws : List Bool}
    (hwinners : (t.winners vs).Perm (u.winners ws)) (hsize : t.size = u.size) :
    (ofVerdicts t vs : Estimate ℚ) = ofVerdicts u ws := by
  simp only [ofVerdicts, hwinners.length_eq, hsize, mean?_perm (hwinners.map _)]

/-! ## §3 Totals and averages -/

/-- The figures of an estimate fit together: the share is that of the successes, and the means
are known if there are any.  The total of a roll is the number of its dice times its average, and
a remainder, which the mean keeps. -/
structure Coherent (e : Estimate ℚ) (width : Nat) : Prop where
  share : e.probability * e.total = e.successes
  unknown : e.successes = 0 → e.sum = none ∧ e.average = none
  means : 0 < e.successes → ∃ sum average : ℚ, e.sum = some sum ∧ e.average = some average ∧
    width * average ≤ sum ∧ sum ≤ width * average + (width - 1)

theorem coherent_ofVerdicts (t : RollTable) (vs : List Bool) :
    (ofVerdicts t vs : Estimate ℚ).Coherent t.width := by
  have hwidth : 0 < (t.width : Int) := Int.natCast_pos.mpr t.width_pos
  refine ⟨(mul_comm _ _).trans (size_mul_probability t vs), fun hnone => ?_, fun hsome => ?_⟩
  · have hnil : t.winners vs = [] := List.eq_nil_of_length_eq_zero hnone
    simp [ofVerdicts, hnil, mean?]
  · have hne : ∀ f : Roll → Int, (t.winners vs).map f ≠ [] := fun f => by
      simpa using List.length_pos_iff.mp hsome
    have hmeans := Numeric.mean_ediv_between hwidth (hne Roll.total)
    rw [← t.map_average_winners vs, Int.cast_natCast] at hmeans
    exact ⟨_, _, mean?_of_ne_nil (hne _), mean?_of_ne_nil (hne _), hmeans⟩

end Estimate

/-! ## §4 The law of addition -/

/-- **Summaries add up.**  A verdict on each roll makes a coherent summary.  Summaries of two
tables add up to the summary of both tables together, and summaries by verdicts of which no two
claim the same roll add up to the summary by both.  The order of the rolls makes no difference.
Verdicts and their negations account for every roll once and, if the totals are words, for every
pip. -/
theorem summaries_add_up (t : RollTable) {vs : List Bool} (hvs : vs.length = t.size) :
    (∃ e : Estimate ℚ, t.summarize vs = .ok e ∧ e.total = t.size ∧ e.Coherent t.width) ∧
    (∀ (u : RollTable) (hwidth : u.width = t.width) (ws : List Bool), ws.length = u.size →
      ∃ e e₁ e₂ : Estimate ℚ, (t.append u hwidth).summarize (vs ++ ws) = .ok e ∧
        t.summarize vs = .ok e₁ ∧ u.summarize ws = .ok e₂ ∧
        e.total = e₁.total + e₂.total ∧ e.Joins e₁ e₂) ∧
    (∀ (u : RollTable) (ws : List Bool), ws.length = u.size →
      (t.rows.zip vs).Perm (u.rows.zip ws) →
      (t.summarize vs : Except Fault (Estimate ℚ)) = u.summarize ws) ∧
    (∀ ws : List Bool, ws.length = t.size → true ∉ Verdict.both vs ws →
      ∃ e e₁ e₂ : Estimate ℚ, t.summarize (Verdict.either vs ws) = .ok e ∧
        t.summarize vs = .ok e₁ ∧ t.summarize ws = .ok e₂ ∧ e.Joins e₁ e₂) ∧
    (t.winners vs ++ t.winners (vs.map not)).Perm t.rows ∧
    ∃ e e' : Estimate ℚ, t.summarize vs = .ok e ∧ t.summarize (vs.map not) = .ok e' ∧
      e.successes + e'.successes = t.size ∧
      ((∀ r ∈ t.rows, Word.Holds r.pips) →
        e.successes * e.sum.getD 0 + e'.successes * e'.sum.getD 0 =
          (((t.rows.map Roll.pips).sum : Int) : ℚ)) := by
  have hsummary := RollTable.summarize_eq_ok (α := ℚ) fun _ => hvs
  have hwinners := RollTable.winners_not_perm hvs
  refine ⟨⟨_, hsummary, rfl, Estimate.coherent_ofVerdicts t vs⟩, fun u hwidth ws hws => ?_,
    fun u ws hws hperm => ?_, fun ws hws hdisjoint => ?_, hwinners, ?_⟩
  · -- one table behind the other: so are the winners
    have hboth : (vs ++ ws).length = (t.append u hwidth).size := by
      rw [List.length_append, RollTable.size_append, hvs, hws]
    refine ⟨_, _, _, RollTable.summarize_eq_ok fun _ => hboth, hsummary,
      RollTable.summarize_eq_ok fun _ => hws, RollTable.size_append t u hwidth, ?_⟩
    exact Estimate.joins_of_perm (.of_eq (RollTable.winners_append hwidth hvs))
  · -- another order: the winners are permuted with the rolls
    rw [hsummary, RollTable.summarize_eq_ok fun _ => hws]
    apply congrArg Except.ok
    exact Estimate.ofVerdicts_eq_of_perm (selected_perm hperm)
      (RollTable.size_eq_of_perm hvs hws hperm)
  · -- disjoint verdicts: each winner wins on one side
    have heither := RollTable.length_either hvs hws
    refine ⟨_, _, _, RollTable.summarize_eq_ok fun _ => heither, hsummary,
      RollTable.summarize_eq_ok fun _ => hws, ?_⟩
    exact Estimate.joins_of_perm (RollTable.winners_either_perm hvs hws hdisjoint)
  · -- a verdict and its negation: the winners are all rolls, and show all pips
    have hnot : (vs.map not).length = t.size := by rw [List.length_map, hvs]
    refine ⟨_, _, hsummary, RollTable.summarize_eq_ok fun _ => hnot, ?_, fun hpips => ?_⟩
    · exact List.length_append.symm.trans hwinners.length_eq
    · have hwords : ∀ ws, ∀ r ∈ t.winners ws, Word.Holds r.pips := fun ws r hr =>
        hpips r (RollTable.mem_of_mem_winners hr)
      rw [Estimate.successes_mul_sum t (hwords _), Estimate.successes_mul_sum t (hwords _),
        ← (hwinners.map Roll.pips).sum_eq, List.map_append, List.sum_append, Int.cast_add]

/-- A roll whose total is shared out evenly, and one with a remainder. -/
def evenAndOdd : RollTable where
  width := 2
  rows := [[1, 3], [2, 5]]
  width_pos := Nat.two_pos
  rows_ne_nil := by decide
  length_of_mem := by decide
  holds_of_mem := by decide

/-- The first roll succeeds, with a total of 4.  A second table with no success behind it changes
neither mean.  A verdict that accepts the second roll, with a total of 7, is the negation: together
they accept both rolls, and all of their 11 pips. -/
theorem even_and_odd_add_up :
    [true, false].length = evenAndOdd.size ∧
    (∃ e e₁ e₂ : Estimate ℚ,
      (evenAndOdd.append evenAndOdd rfl).summarize [true, false, false, false] = .ok e ∧
      evenAndOdd.summarize [true, false] = .ok e₁ ∧ evenAndOdd.summarize [false, false] = .ok e₂ ∧
      e.total = e₁.total + e₂.total ∧ e.Joins e₁ e₂ ∧
      e = ⟨4, 1, 1 / 4, some 4, some 2⟩ ∧ e₂ = ⟨2, 0, 0, none, none⟩) ∧
    (true ∉ Verdict.both [true, false] [false, true] ∧
      ∃ e e₁ e₂ : Estimate ℚ, evenAndOdd.summarize [true, true] = .ok e ∧
        evenAndOdd.summarize [true, false] = .ok e₁ ∧
        evenAndOdd.summarize [false, true] = .ok e₂ ∧ e.Joins e₁ e₂ ∧
        e = ⟨2, 2, 1, some (11 / 2), some (5 / 2)⟩) ∧
    ∃ e e' : Estimate ℚ, evenAndOdd.summarize [true, false] = .ok e ∧
      evenAndOdd.summarize [false, true] = .ok e' ∧ e.successes + e'.successes = 2 ∧
      e.successes * e.sum.getD 0 + e'.successes * e'.sum.getD 0 = 11 := by
  have hlength : [true, false].length = evenAndOdd.size := rfl
  have hdisjoint : true ∉ Verdict.both [true, false] [false, true] := by decide
  have hpips : ∀ r ∈ evenAndOdd.rows, Word.Holds r.pips := by decide
  obtain ⟨-, happend, -, hunion, -, e', e'', he', he'', hsuccesses, hall⟩ :=
    summaries_add_up evenAndOdd hlength
  obtain ⟨e, e₁, e₂, he, he₁, he₂, htotal, hjoins⟩ := happend evenAndOdd rfl [false, false] rfl
  obtain ⟨u, u₁, u₂, hu, hu₁, hu₂, hunited⟩ := hunion [false, true] rfl hdisjoint
  have hlonger : e = ⟨4, 1, 1 / 4, some 4, some 2⟩ := by
    rw [RollTable.summarize_eq_ok fun _ => rfl] at he
    rw [← Except.ok.inj he]
    decide +kernel
  have hnone : e₂ = ⟨2, 0, 0, none, none⟩ := by
    rw [RollTable.summarize_eq_ok fun _ => rfl] at he₂
    rw [← Except.ok.inj he₂]
    decide +kernel
  have hboth : u = ⟨2, 2, 1, some (11 / 2), some (5 / 2)⟩ := by
    rw [RollTable.summarize_eq_ok fun _ => rfl] at hu
    rw [← Except.ok.inj hu]
    decide +kernel
  exact ⟨hlength, ⟨e, e₁, e₂, he, he₁, he₂, htotal, hjoins, hlonger, hnone⟩,
    ⟨hdisjoint, u, u₁, u₂, hu, hu₁, hu₂, hunited, hboth⟩,
    e', e'', he', he'', hsuccesses, (hall hpips).trans (by decide +kernel)⟩

end DiceOdds
