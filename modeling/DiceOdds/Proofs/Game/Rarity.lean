import DiceOdds.Proofs.Game.Patterns
import DiceOdds.Proofs.Game.Peaks
import DiceOdds.Proofs.Odds.Isolation
import DiceOdds.Proofs.Odds.RollByRoll

/-!
# Rare and Common Events

Some events of the games are harder to meet than others.  Where the pattern of one event lies in
the pattern of another, every roll that succeeds at the first succeeds at the second, so on one
table it has no more successes (`ladder`).  Where the patterns of several events leave different
peaks open, no roll succeeds at two of them, and together they have no more successes than there are
rolls: three events on five dice (`onFiveDice`), and five events on six dice (`onSixDice`).

The events are simulated as named lists on one table.  They may stand among other lists, under any
names, and each for a die of its own.

**Main statement**: `rarer_events_succeed_less_often`.
-/

namespace DiceOdds

/-! ## §1 Chains for patterns -/

namespace Pattern

/-- The chain that asks for a pattern. -/
def chain : Pattern → List Draft
  | atLeast n => ofAKind n .atLeast
  | exactly n => ofAKind n .exactly
  | twoFaces m n => someGroupOf [(m : Int), n] (orderedPairs usualFaces)
  | manyFaces n k => someGroupOf (List.replicate n (k : Int)) (selections n usualFaces)
  | straight n => DiceOdds.straight n

/-- The chain for a die. -/
def drafts (die : Die) (p : Pattern) : List Draft := p.chain.map (·.withDie (some die))

/-- There are enough usual faces for the pattern. -/
def Usual : Pattern → Prop
  | manyFaces n _ => 0 < n ∧ n ≤ 6
  | straight n => 0 < n ∧ n ≤ 6
  | _ => True

instance (p : Pattern) : Decidable p.Usual :=
  match p with
  | manyFaces n _ => inferInstanceAs (Decidable (0 < n ∧ n ≤ 6))
  | straight n => inferInstanceAs (Decidable (0 < n ∧ n ≤ 6))
  | atLeast _ => inferInstanceAs (Decidable True)
  | exactly _ => inferInstanceAs (Decidable True)
  | twoFaces _ _ => inferInstanceAs (Decidable True)

theorem reduction_of_mem_ofAKind {quantity : Int} {bound : Bound} {d : Draft}
    (h : d ∈ ofAKind quantity bound) : d.reduction = some .each := by
  obtain ⟨face, -, rfl⟩ := List.mem_map.mp h
  rfl

theorem reduction_of_mem_someGroupOf {quantities : List Int} {groups : List (List Int)} {d : Draft}
    (h : d ∈ someGroupOf quantities groups) : d.reduction = some .each := by
  obtain ⟨faces, -, hd⟩ := List.mem_flatMap.mp h
  obtain ⟨i, hi, rfl⟩ := List.mem_mapIdx.mp hd
  rfl

theorem reduction_of_mem_straight {length : Nat} {d : Draft} (h : d ∈ DiceOdds.straight length) :
    d.reduction = some .each := by
  obtain ⟨start, -, hd⟩ := List.mem_flatMap.mp h
  obtain ⟨i, -, rfl⟩ := List.mem_map.mp hd
  rfl

/-- The chain of a pattern counts dice, and lays out no windows. -/
theorem windowsFit_of_mem_drafts [Memory] {die : Die} {p : Pattern} {d : Draft}
    (h : d ∈ p.drafts die) (rolls dice : Nat) : d.WindowsFit rolls dice := by
  obtain ⟨d, hd, rfl⟩ := List.mem_map.mp h
  have hcounts : d.reduction = some .each := by
    cases p with
    | atLeast n => exact reduction_of_mem_ofAKind hd
    | exactly n => exact reduction_of_mem_ofAKind hd
    | twoFaces m n => exact reduction_of_mem_someGroupOf hd
    | manyFaces n k => exact reduction_of_mem_someGroupOf hd
    | straight n => exact reduction_of_mem_straight hd
  intro hsequence
  cases hcounts.symm.trans hsequence

variable {p : Pattern} {r : Roll}

theorem settles [Memory] (hp : p.Usual) (hr : r ≠ []) (hwords : ∀ x ∈ r, Word.Holds x) (die : Die) :
    Settles (decideRoll (p.drafts die) none r) (p.In r) := by
  cases p with
  | atLeast n =>
    simpa [drafts, chain, In, Bound.admits] using decideRoll_ofAKind die none hr hwords n .atLeast
  | exactly n =>
    simpa [drafts, chain, In, Bound.admits, Int.natCast_inj] using
      decideRoll_ofAKind die none hr hwords n .exactly
  | twoFaces m n => exact decideRoll_pairs die none hr hwords m n
  | manyFaces n k => exact decideRoll_selections die none hr hwords hp.1 hp.2 k
  | straight n => exact decideRoll_straight die none hr hwords hp.1 hp.2

/-- A roll of a table wins at the chain of a pattern if the pattern stands in it. -/
theorem wins_iff [Memory] (hp : p.Usual) (die : Die) {t : RollTable} (hr : r ∈ t.rows) :
    wins (p.drafts die) r = true ↔ p.In r := by
  obtain ⟨b, hb, hiff⟩ :=
    settles hp (RollTable.ne_nil_of_mem_rows hr) (t.holds_of_mem r hr) die
  rw [wins, hb, hiff]

open Classical in
/-- The number of rolls in which the pattern stands. -/
noncomputable def standsIn (t : RollTable) (p : Pattern) : Nat :=
  t.rows.countP fun r => decide (p.In r)

open Classical in
/-- The chain of a pattern succeeds as often as the pattern stands in a roll. -/
theorem exists_estimate [Memory] {α : Type} [Numeric α] (hp : p.Usual) (t : RollTable) (die : Die) :
    ∃ e : Estimate α, t.simulate (p.drafts die) = .ok e ∧ e.total = t.size ∧
      e.successes = p.standsIn t := by
  have hdecided : ∀ r ∈ t.rows, ∃ b, decideRoll (p.drafts die) none r = .ok b := by
    intro r hr
    obtain ⟨b, hb, -⟩ :=
      settles hp (RollTable.ne_nil_of_mem_rows hr) (t.holds_of_mem r hr) die
    exact ⟨b, hb⟩
  -- so there is an estimate, and its winners are the rolls that win on their own
  obtain ⟨e, he⟩ :=
    (exists_answer_eq_ok_iff (α := α) ({} : Session Random.Linear) _ t).mpr
      ⟨fun d hd => windowsFit_of_mem_drafts hd _ _, hdecided⟩
  obtain ⟨cs, vs, -, -, hrolls, rfl⟩ := (answer_eq_ok_iff _ _ t).mp he
  rw [Session.answer_eq α t.toTable_ofRows] at he
  refine ⟨_, he, rfl, ?_⟩
  show (t.winners vs).length = _
  rw [RollTable.winners_eq_filter hrolls, ← List.countP_eq_length_filter]
  apply List.countP_congr
  intro r hr
  rw [wins_iff hp die hr, decide_eq_true_eq]

open Classical in
theorem standsIn_le {q : Pattern} (t : RollTable) (h : ∀ r, p.In r → q.In r) :
    p.standsIn t ≤ q.standsIn t := by
  apply List.countP_mono_left
  intro r _ hr
  exact decide_eq_true (h r (of_decide_eq_true hr))

theorem pairwise_not_in {ps : List Pattern} (hr : ps.Pairwise (Apart r.length)) :
    ps.Pairwise fun p q => ¬(p.In r ∧ q.In r) :=
  hr.imp fun hapart ⟨hp, hq⟩ => not_in_of_apart hapart hp hq

open Classical in
/-- Patterns that leave different peaks open stand in different rolls. -/
theorem sum_standsIn_le {ps : List Pattern} {t : RollTable} (h : ps.Pairwise (Apart t.width)) :
    (ps.map (standsIn t)).sum ≤ t.size := by
  have hexclusive : ∀ r ∈ t.rows,
      (ps.map fun p r => decide (p.In r)).Pairwise fun f g => ¬(f r = true ∧ g r = true) := by
    intro r hr
    rw [List.pairwise_map]
    simp only [decide_eq_true_eq]
    exact pairwise_not_in (t.length_of_mem r hr ▸ h)
  have hsum := sum_countP_le hexclusive
  rwa [List.map_map] at hsum

end Pattern

/-! ## §2 Events -/

/-- An event of a game, with the pattern that it asks for. -/
structure Contest where
  game : Game
  name : String
  pattern : Pattern

namespace Contest

def twoOfAKind : Contest := ⟨.yahtzee, "Two of a Kind", .atLeast 2⟩
def threeOfAKind : Contest := ⟨.yahtzee, "Three of a Kind", .atLeast 3⟩
def fourOfAKind : Contest := ⟨.yahtzee, "Four of a Kind", .atLeast 4⟩
def yahtzee : Contest := ⟨.yahtzee, "Yahtzee", .exactly 5⟩
def fullHouse : Contest := ⟨.yahtzee, "Full House", .twoFaces 3 2⟩
def smallStraight : Contest := ⟨.yahtzee, "Small Straight", .straight 4⟩
def largeStraight : Contest := ⟨.yahtzee, "Large Straight", .straight 5⟩
def anyThree : Contest := ⟨.farkle, "Any Three of a Kind", .atLeast 3⟩
def anyFour : Contest := ⟨.farkle, "Any Four of a Kind", .atLeast 4⟩
def anyFive : Contest := ⟨.farkle, "Any Five of a Kind", .atLeast 5⟩
def anySix : Contest := ⟨.farkle, "Any Six of a Kind", .atLeast 6⟩
def fullStraight : Contest := ⟨.farkle, "1-6 Straight", .straight 6⟩
def threePairs : Contest := ⟨.farkle, "Three Pairs", .manyFaces 3 2⟩
def twoTriplets : Contest := ⟨.farkle, "Two Triplets", .manyFaces 2 3⟩
def fourAndAPair : Contest := ⟨.farkle, "Four of Any Number w/ a Pair", .twoFaces 4 2⟩

/-- All events that are compared. -/
def all : List Contest :=
  [twoOfAKind, threeOfAKind, fourOfAKind, yahtzee, fullHouse, smallStraight, largeStraight,
   anyThree, anyFour, anyFive, anySix, fullStraight, threePairs, twoTriplets, fourAndAPair]

/-- The harder event of two, and the easier one. -/
def ladder : List (Contest × Contest) :=
  [(yahtzee, fourOfAKind), (fourOfAKind, threeOfAKind), (threeOfAKind, twoOfAKind),
   (fullHouse, threeOfAKind), (largeStraight, smallStraight), (anySix, anyFive),
   (anyFive, anyFour), (anyFour, anyThree)]

/-- Events of which five dice meet at most one. -/
def onFiveDice : List Contest := [fullHouse, fourOfAKind, smallStraight]

/-- Events of which six dice meet at most one. -/
def onSixDice : List Contest := [fullStraight, threePairs, twoTriplets, fourAndAPair, anyFive]

/-- The drafts are those of the event, bound to some die. -/
def Asks (c : Contest) (ds : List Draft) : Prop :=
  ∃ die e, c.game.event c.name (some die) = .ok e ∧ e.drafts = ds

/-- The event, bound to some die, succeeds on a roll. -/
def SucceedsOn [Memory] (c : Contest) (r : Roll) : Prop :=
  ∃ die, c.game.decides c.name die none r = .ok true

/-- The event of the catalogue is the chain for its pattern. -/
theorem event_eq (die : Die) :
    ∀ c ∈ all, c.game.event c.name (some die) = .ok ⟨c.name, c.pattern.drafts die⟩ := by
  simp only [all, List.forall_mem_cons, List.not_mem_nil, false_imp_iff, implies_true, and_true]
  exact ⟨rfl, rfl, rfl, rfl, rfl, rfl, rfl, rfl, rfl, rfl, rfl, rfl, rfl, rfl, rfl⟩

theorem usual_of_mem_all : ∀ c ∈ all, c.pattern.Usual := by
  decide

theorem mem_all_of_mem_ladder : ∀ step ∈ ladder, step.1 ∈ all ∧ step.2 ∈ all := by
  simp [ladder, all]

theorem mem_all_of_mem_onFiveDice : ∀ c ∈ onFiveDice, c ∈ all := by
  simp [onFiveDice, all]

theorem mem_all_of_mem_onSixDice : ∀ c ∈ onSixDice, c ∈ all := by
  simp [onSixDice, all]

theorem Asks.exists_drafts {c : Contest} (hc : c ∈ all) {ds : List Draft} (h : c.Asks ds) :
    ∃ die, ds = c.pattern.drafts die := by
  obtain ⟨die, e, he, rfl⟩ := h
  rw [event_eq die c hc] at he
  cases he
  exact ⟨die, rfl⟩

theorem SucceedsOn.pattern_in [Memory] {c : Contest} (hc : c ∈ all) {t : RollTable} {r : Roll}
    (hr : r ∈ t.rows) (h : c.SucceedsOn r) : c.pattern.In r := by
  obtain ⟨die, hdecides⟩ := h
  rw [Game.decides, event_eq die c hc] at hdecides
  apply (Pattern.wins_iff (usual_of_mem_all c hc) die hr).mp
  rw [wins, show decideRoll (c.pattern.drafts die) none r = .ok true from hdecides]

/-! ## §3 Ladder and exclusion -/

/-- A roll that shows the pattern of the harder event shows that of the easier one. -/
theorem in_of_mem_ladder (r : Roll) :
    ∀ step ∈ ladder, step.1.pattern.In r → step.2.pattern.In r := by
  simp only [ladder, List.forall_mem_cons, List.not_mem_nil, false_imp_iff, implies_true, and_true]
  exact ⟨Pattern.in_atLeast_of_exactly (by decide), Pattern.in_atLeast_of_atLeast (by decide),
    Pattern.in_atLeast_of_atLeast (by decide), Pattern.in_atLeast_of_twoFaces,
    Pattern.in_straight_of_straight (by decide), Pattern.in_atLeast_of_atLeast (by decide),
    Pattern.in_atLeast_of_atLeast (by decide), Pattern.in_atLeast_of_atLeast (by decide)⟩

theorem pairwise_apart_onFiveDice :
    (onFiveDice.map Contest.pattern).Pairwise (Pattern.Apart 5) := by
  decide

theorem pairwise_apart_onSixDice :
    (onSixDice.map Contest.pattern).Pairwise (Pattern.Apart 6) := by
  decide

/-- No roll of a table succeeds at two events that leave different peaks open. -/
theorem pairwise_not_succeedsOn [Memory] {t : RollTable} {cs : List Contest}
    (hall : ∀ c ∈ cs, c ∈ all)
    (hapart : (cs.map Contest.pattern).Pairwise (Pattern.Apart t.width))
    {r : Roll} (hr : r ∈ t.rows) : cs.Pairwise fun c d => ¬(c.SucceedsOn r ∧ d.SucceedsOn r) := by
  have hpatterns := Pattern.pairwise_not_in (t.length_of_mem r hr ▸ hapart)
  rw [List.pairwise_map] at hpatterns
  refine hpatterns.imp_of_mem fun hc hd hnot hboth => hnot ?_
  exact ⟨hboth.1.pattern_in (hall _ hc) hr, hboth.2.pattern_in (hall _ hd) hr⟩

end Contest

/-! ## §4 Lists on one table -/

section Lists

variable [Memory] {α σ : Type} [Numeric α] [Source σ]

namespace RollTable

variable {t : RollTable} {raise : Bool} {sets : List (String × List Draft)}
  {entries : List (String × Outcome α)}

theorem outcome_of_simulate {ds : List Draft} {e : Estimate α} (h : t.simulate ds = .ok e) :
    t.outcome raise ds = .ok (.estimated e) := by
  rw [outcome, h]

theorem exists_outcomes (h : ∀ set ∈ sets, ∃ e : Estimate α, t.simulate set.2 = .ok e) :
    ∃ entries : List (String × Outcome α), t.outcomes raise sets = .ok entries := by
  apply exists_mapM_eq_ok_iff.mpr
  intro set hset
  obtain ⟨e, he⟩ := h set hset
  rw [outcome_of_simulate he]
  exact ⟨_, rfl⟩

/-- A list that has an estimate has it in its entry. -/
theorem entry_of_simulate (h : t.outcomes raise sets = .ok entries) {i : Nat} {label : String}
    {ds : List Draft} {e : Estimate α} (hset : sets[i]? = some (label, ds))
    (hds : t.simulate ds = .ok e) : entries[i]? = some (label, .estimated e) := by
  have hsteps := mapM_eq_ok_iff.mp h
  obtain ⟨hi, hget⟩ := List.getElem?_eq_some_iff.mp hset
  have hi' : i < entries.length := hsteps.length_eq ▸ hi
  have hstep := hsteps.get hi hi'
  simp only [List.get_eq_getElem, hget, outcome_of_simulate hds] at hstep
  rw [List.getElem?_eq_getElem hi', ← Except.ok.inj hstep]

end RollTable

/-- One of the lists asks for the event, and this is the estimate in its entry. -/
def Contest.EstimatedIn (c : Contest) (sets : List (String × List Draft))
    (entries : List (String × Outcome α)) (e : Estimate α) : Prop :=
  ∃ (i : Nat) (label : String) (ds : List Draft), c.Asks ds ∧ sets[i]? = some (label, ds) ∧
    entries[i]? = some (label, .estimated e)

namespace Contest

variable {t : RollTable} {raise : Bool} {sets : List (String × List Draft)}
  {entries : List (String × Outcome α)}

theorem Asks.exists_estimate {c : Contest} (hc : c ∈ all) {ds : List Draft} (h : c.Asks ds)
    (t : RollTable) : ∃ e : Estimate α, t.simulate ds = .ok e ∧ e.total = t.size ∧
      e.successes = c.pattern.standsIn t := by
  obtain ⟨die, rfl⟩ := h.exists_drafts hc
  exact Pattern.exists_estimate (usual_of_mem_all c hc) t die

theorem EstimatedIn.successes_eq {c : Contest} (hc : c ∈ all)
    (h : t.outcomes raise sets = .ok entries) {e : Estimate α} (he : c.EstimatedIn sets entries e) :
    e.successes = c.pattern.standsIn t := by
  obtain ⟨i, label, ds, hasks, hset, hentry⟩ := he
  obtain ⟨e', he', -, hsuccesses⟩ := hasks.exists_estimate (α := α) hc t
  rw [RollTable.entry_of_simulate h hset he'] at hentry
  cases hentry
  exact hsuccesses

/-- Events that leave different peaks open share the rolls of a table. -/
theorem sum_successes_le {cs : List Contest} (hall : ∀ c ∈ cs, c ∈ all)
    (hapart : (cs.map Contest.pattern).Pairwise (Pattern.Apart t.width))
    (h : t.outcomes raise sets = .ok entries) {es : List (Estimate α)}
    (hes : List.Forall₂ (fun c e => c.EstimatedIn sets entries e) cs es) :
    (es.map Estimate.successes).sum ≤ t.size := by
  have hsuccesses : es.map Estimate.successes = (cs.map Contest.pattern).map (·.standsIn t) := by
    clear hapart
    induction hes with
    | nil => rfl
    | cons he _ ih =>
      obtain ⟨hc, hcs⟩ := List.forall_mem_cons.mp hall
      rw [List.map_cons, List.map_cons, List.map_cons, he.successes_eq hc h, ih hcs]
  rw [hsuccesses]
  exact Pattern.sum_standsIn_le hapart

end Contest

/-- **Rarer events succeed less often.**  Named lists that ask for events are all estimated, and
other lists beside them make no difference.  The harder of two events has no more successes than the
easier one.  On rolls of five dice, and on rolls of six, no roll succeeds at two of the events that
exclude each other, so that their successes add up to no more than the number of rolls. -/
theorem rarer_events_succeed_less_often {rolls : Nested} {t : RollTable}
    (h : rolls.toTable = .ok t) (s : Session σ) (sets : List (String × List Draft))
    (raise : Bool) :
    ((∀ set ∈ sets, ∃ c ∈ Contest.all, c.Asks set.2) →
      ∃ entries : List (String × Outcome α),
        ((Request.simulateSets sets (.given rolls) raise).runIn s).1 = .ok entries) ∧
    ∀ entries : List (String × Outcome α),
      ((Request.simulateSets sets (.given rolls) raise).runIn s).1 = .ok entries →
      (∀ c ∈ Contest.all, ∀ (i : Nat) (label : String) (ds : List Draft), c.Asks ds →
        sets[i]? = some (label, ds) →
        ∃ e, entries[i]? = some (label, .estimated e) ∧ e.total = t.size) ∧
      (∀ step ∈ Contest.ladder, ∀ e e', step.1.EstimatedIn sets entries e →
        step.2.EstimatedIn sets entries e' → e.successes ≤ e'.successes) ∧
      (t.width = 5 →
        (∀ r ∈ t.rows, Contest.onFiveDice.Pairwise fun c d =>
          ¬(c.SucceedsOn r ∧ d.SucceedsOn r)) ∧
        ∀ es, List.Forall₂ (fun c e => c.EstimatedIn sets entries e) Contest.onFiveDice es →
          (es.map Estimate.successes).sum ≤ t.size) ∧
      (t.width = 6 →
        (∀ r ∈ t.rows, Contest.onSixDice.Pairwise fun c d =>
          ¬(c.SucceedsOn r ∧ d.SucceedsOn r)) ∧
        ∀ es, List.Forall₂ (fun c e => c.EstimatedIn sets entries e) Contest.onSixDice es →
          (es.map Estimate.successes).sum ≤ t.size) := by
  rw [Request.runIn_simulateSets_given h]
  constructor
  · intro hsets
    apply RollTable.exists_outcomes
    intro set hset
    obtain ⟨c, hc, hasks⟩ := hsets set hset
    obtain ⟨e, he, -⟩ := hasks.exists_estimate (α := α) hc t
    exact ⟨e, he⟩
  · intro entries hentries
    refine ⟨?_, ?_, fun hwidth => ?_, fun hwidth => ?_⟩
    · intro c hc i label ds hasks hset
      obtain ⟨e, he, htotal, -⟩ := hasks.exists_estimate (α := α) hc t
      exact ⟨e, RollTable.entry_of_simulate hentries hset he, htotal⟩
    · -- successes are rolls in which the pattern stands
      intro step hstep e e' he he'
      obtain ⟨hharder, heasier⟩ := Contest.mem_all_of_mem_ladder step hstep
      rw [he.successes_eq hharder hentries, he'.successes_eq heasier hentries]
      exact Pattern.standsIn_le t fun r => Contest.in_of_mem_ladder r step hstep
    · have hapart := hwidth ▸ Contest.pairwise_apart_onFiveDice
      exact ⟨fun r => Contest.pairwise_not_succeedsOn Contest.mem_all_of_mem_onFiveDice hapart,
        fun es => Contest.sum_successes_le Contest.mem_all_of_mem_onFiveDice hapart hentries⟩
    · have hapart := hwidth ▸ Contest.pairwise_apart_onSixDice
      exact ⟨fun r => Contest.pairwise_not_succeedsOn Contest.mem_all_of_mem_onSixDice hapart,
        fun es => Contest.sum_successes_le Contest.mem_all_of_mem_onSixDice hapart hentries⟩

end Lists

/-- A full house, four of a kind, and a small straight with a face that no usual die has. -/
def houseKindAndRow : RollTable where
  width := 5
  rows := [[2, 2, 3, 3, 3], [4, 4, 4, 1, 4], [6, 3, 9, 5, 4]]
  width_pos := Nat.succ_pos 4
  rows_ne_nil := by decide
  length_of_mem := by decide
  holds_of_mem := by decide

/-- Asks for the three events that exclude each other on five dice. -/
def threeContests : List (String × List Draft) :=
  Contest.onFiveDice.map fun c => (c.name, c.pattern.drafts .d6)

/-- Each of the rolls goes to one event, so that the bound is reached. -/
theorem three_rolls_are_shared :
    (Nested.ofRows houseKindAndRow.rows).toTable = .ok houseKindAndRow ∧
    ∃ entries : List (String × Outcome ℚ),
      ((Request.simulateSets threeContests (.given (Nested.ofRows houseKindAndRow.rows))
        true).runIn ({} : Session Random.Linear)).1 = .ok entries ∧
      ∃ es : List (Estimate ℚ),
        List.Forall₂ (fun c e => c.EstimatedIn threeContests entries e) Contest.onFiveDice es ∧
        (es.map Estimate.successes).sum ≤ 3 ∧ es.map Estimate.successes = [1, 1, 1] := by
  have h := houseKindAndRow.toTable_ofRows
  have hasks : ∀ c ∈ Contest.onFiveDice, c.Asks (c.pattern.drafts .d6) := fun c hc =>
    ⟨.d6, _, Contest.event_eq .d6 c (Contest.mem_all_of_mem_onFiveDice c hc), rfl⟩
  obtain ⟨hreturns, hentries⟩ := rarer_events_succeed_less_often (α := ℚ) h
    ({} : Session Random.Linear) threeContests true
  obtain ⟨entries, hrun⟩ := hreturns fun set hset => by
    obtain ⟨c, hc, rfl⟩ := List.mem_map.mp hset
    exact ⟨c, Contest.mem_all_of_mem_onFiveDice c hc, hasks c hc⟩
  obtain ⟨-, -, hfive, -⟩ := hentries entries hrun
  have heval : ((Request.simulateSets threeContests (.given (Nested.ofRows houseKindAndRow.rows))
      true).runIn ({} : Session Random.Linear)).1 =
      .ok [("Full House", .estimated ⟨3, 1, 1 / 3, some 13, some 2⟩),
        ("Four of a Kind", .estimated ⟨3, 1, 1 / 3, some 17, some 3⟩),
        ("Small Straight", .estimated (⟨3, 1, 1 / 3, some 27, some 5⟩ : Estimate ℚ))] := by
    decide +kernel
  simp only [Contest.onFiveDice, List.forall_mem_cons] at hasks
  obtain ⟨hhouse, hkind, hrow, -⟩ := hasks
  have hshared : List.Forall₂ (fun c e => c.EstimatedIn threeContests entries e)
      Contest.onFiveDice [⟨3, 1, 1 / 3, some 13, some 2⟩, ⟨3, 1, 1 / 3, some 17, some 3⟩,
        ⟨3, 1, 1 / 3, some 27, some 5⟩] := by
    cases hrun.symm.trans heval
    exact .cons ⟨0, _, _, hhouse, rfl, rfl⟩ (.cons ⟨1, _, _, hkind, rfl, rfl⟩
      (.cons ⟨2, _, _, hrow, rfl, rfl⟩ .nil))
  exact ⟨h, entries, hrun, _, hshared, (hfive rfl).2 _ hshared, rfl⟩

end DiceOdds
