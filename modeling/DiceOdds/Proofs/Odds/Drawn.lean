import DiceOdds.Proofs.Numeric.Exact
import DiceOdds.Proofs.Odds.Decided
import DiceOdds.Proofs.Sampling.Orders
import DiceOdds.Workstation

/-!
# Estimates on Drawn Tables

An estimate on a drawn table passes a fixed sequence of checks before anything is drawn, and
the first of them that fails is the answer (`faultsBeforeDrawing`).  Once they are passed, one
block of dice is drawn, and only two things are left to fail: the walk of a sequence may be
too long to be laid out, or to be compared with the windows of the block, and a later clause may
claim to be the first (`faultsAfterDrawing`).  Nothing else can go wrong, since complete drafts
carry what their tests decide by and drawn faces can always be counted.

**Main statement**: `simulate_drawn_first_fault`.
-/

namespace DiceOdds

/-! ## §1 Sequences of checks -/

/-- A check that raises a fault on a condition. -/
def raiseIf (c : Prop) [Decidable c] (f : Fault) : Option Fault := if c then some f else none

/-- The first fault that checks raise. -/
def firstOf (checks : List (Option Fault)) : Option Fault := checks.findSome? id

/-- A frozen die that shows a face which the die does not have. -/
def SampleOrder.illegalPin? (o : SampleOrder) : Option Fault :=
  o.die.bind fun die => (o.pins.firstIllegal? die.faces).map fun e => illegalPin die e.1 e.2

/-- The checks of an order: a die, dice to roll, legal faces, at least one roll, and room. -/
def SampleOrder.checks [Memory] (o : SampleOrder) : List (Option Fault) :=
  [raiseIf (o.die = none) (.rejected .noDie),
   raiseIf (o.count ≤ 0) o.noDice,
   o.illegalPin?,
   raiseIf (o.rolls < 1) o.noRolls,
   Storage.obstacle? [o.rolls, o.count]]

/-- What is looked at before a table is drawn: the drafts, and then the order. -/
def faultsBeforeDrawing [Memory] (ds : List Draft) (o : SampleOrder) : List (Option Fault) :=
  raiseIf (ds = []) (.rejected (.malformed .empty)) ::
  (Draft.firstIncomplete? ds).map (fun i : Nat => .rejected (.incomplete i)) ::
  o.checks

/-- What is left to fail on a drawn table of so many rolls of so many dice. -/
def faultsAfterDrawing [Memory] (ds : List Draft) (rolls dice : Nat) : List (Option Fault) :=
  [ds.findSome? fun d => d.layoutFault? rolls dice,
   raiseIf (∃ d ∈ ds.tail, d.link = some .first) (.rejected (.malformed .strayFirst))]

@[simp] theorem firstOf_none_cons (checks : List (Option Fault)) :
    firstOf (none :: checks) = firstOf checks := rfl

@[simp] theorem firstOf_some_cons (f : Fault) (checks : List (Option Fault)) :
    firstOf (some f :: checks) = some f := rfl

theorem raiseIf_pos {c : Prop} [Decidable c] (h : c) (f : Fault) : raiseIf c f = some f := if_pos h

theorem raiseIf_neg {c : Prop} [Decidable c] (h : ¬c) (f : Fault) : raiseIf c f = none := if_neg h

/-! ## §2 Orders -/

/-- An order is refused at its first fault, or there is a plan that follows it. -/
theorem SampleOrder.check_cases [Memory] (o : SampleOrder) :
    (∃ f, o.check = .error f ∧ firstOf o.checks = some f) ∨
    (∃ p, o.check = .ok p ∧ p.Follows o ∧
      firstOf o.checks = Storage.obstacle? [o.rolls, o.count]) := by
  -- each guard that passes takes one entry off the list of checks
  unfold checks check illegalPin?
  split
  · next hdie =>
    refine .inl ⟨_, rfl, ?_⟩
    rw [raiseIf_pos hdie, firstOf_some_cons]
  · next die hdie =>
    rw [raiseIf_neg (by simp [hdie]), firstOf_none_cons]
    split
    · next hcount =>
      refine .inl ⟨_, rfl, ?_⟩
      rw [raiseIf_pos hcount, firstOf_some_cons]
    · next hcount =>
      rw [raiseIf_neg hcount, firstOf_none_cons, hdie, Option.bind_some]
      split
      · next position face hpins =>
        refine .inl ⟨_, rfl, ?_⟩
        rw [hpins, Option.map_some, firstOf_some_cons]
      · next hpins =>
        have hlegal : (o.pins.firstIllegal? die.faces).map (fun e => illegalPin die e.1 e.2) =
            none := by
          rw [hpins]
          rfl
        rw [hlegal, firstOf_none_cons]
        split
        · next hrolls =>
          refine .inl ⟨_, rfl, ?_⟩
          rw [raiseIf_pos hrolls, firstOf_some_cons]
        · next hrolls =>
          rw [raiseIf_neg hrolls, firstOf_none_cons]
          refine .inr ⟨_, rfl, ⟨hdie, ?_, ?_⟩, ?_⟩
          · exact Int.toNat_of_nonneg (by omega)
          · exact Int.toNat_of_nonneg (by omega)
          · cases Storage.obstacle? [o.rolls, o.count] <;> rfl

/-! ## §3 Runs -/

section Runs

variable {α σ : Type} [Numeric α] [Source σ] {s : Session σ} {g : σ} {cfg : Settings}

/-- Refused drafts are answered before the order is looked at. -/
theorem runIn_simulate_of_refused [Memory] {ds : List Draft} {e : Rejection}
    (h : Draft.checkAll ds = .error e) (supply : Supply) (s : Session σ) :
    (Request.simulate (α := α) ds supply).runIn s = (.error (.rejected e), s) := by
  refine Request.runIn_bind_of_error ?_ _
  rw [h]
  rfl

/-- Accepted drafts are estimated over the table of the order, if it can be drawn. -/
theorem runIn_simulate_of_accepted [Memory] {ds : List Draft} {cs : List Clause}
    (h : Draft.checkAll ds = .ok cs) (hcfg : s.cache.read.1 = .ok cfg) (o : OpenOrder) :
    (Request.simulate (α := α) ds (.drawn o)).runIn s =
      (Request.sampleMany (o.fill cfg) >>= fun t => Request.ofExcept (t.estimate cs)).runIn
        { s with cache := s.cache.read.2 } := by
  have hchecked : (Request.ofChecked (Draft.checkAll ds)).runIn s = (.ok cs, s) := by
    rw [h]
    rfl
  rw [Request.simulate, Request.runIn_bind_of_ok hchecked, Request.runIn_bind, Request.table,
    Request.runIn_sampleConfigured hcfg, Request.runIn_bind]

/-- A later draft that claims to be the first becomes a clause that does so. -/
theorem chainFault?_of_checkAll {ds : List Draft} {cs : List Clause}
    (h : Draft.checkAll ds = .ok cs) :
    chainFault? cs =
      raiseIf (∃ d ∈ ds.tail, d.link = some .first) (.rejected (.malformed .strayFirst)) := by
  rw [chainFault?, linkFault?_of_checkAll h, raiseIf]
  split <;> rfl

variable [Memory]

/-- Drawn faces have no part in what fails. -/
theorem faultOf_estimate_draw {ds : List Draft} {cs : List Clause} (h : Draft.checkAll ds = .ok cs)
    (p : SamplePlan) (g : σ) :
    faultOf ((p.draw g).1.estimate cs : Except Fault (Estimate α)) =
      firstOf (faultsAfterDrawing ds p.rolls p.dice) := by
  -- the faces of a die can be counted, which leaves the spans and the links
  rw [RollTable.estimate, faultOf_map, RollTable.faultOf_verdicts,
    RollTable.obstacle?_of_countable cs (p.countable_of_mem_draw g),
    Draft.findSome?_layoutFault? h, chainFault?_of_checkAll h, faultsAfterDrawing, p.size_draw,
    p.width_draw]
  cases ds.findSome? fun d => d.layoutFault? p.rolls p.dice with
  | some f => rfl
  | none =>
    rw [Option.none_or, firstOf_none_cons]
    cases raiseIf (∃ d ∈ ds.tail, d.link = some .first) (.rejected (.malformed .strayFirst)) <;> rfl

/-- No more rolls succeed than there are. -/
theorem successes_le_total {t : RollTable} {cs : List Clause} {e : Estimate α}
    (h : t.estimate cs = .ok e) : e.total = t.size ∧ e.successes ≤ e.total := by
  unfold RollTable.estimate at h
  cases hvs : t.verdicts cs with
  | error f =>
    rw [hvs] at h
    cases h
  | ok vs =>
    rw [hvs] at h
    cases h
    refine ⟨rfl, ?_⟩
    show (((t.rows.zip vs).filter Prod.snd).map Prod.fst).length ≤ t.rows.length
    calc (((t.rows.zip vs).filter Prod.snd).map Prod.fst).length
        = ((t.rows.zip vs).filter Prod.snd).length := List.length_map _
      _ ≤ (t.rows.zip vs).length := List.length_filter_le _ _
      _ ≤ t.rows.length := by rw [List.length_zip]; exact Nat.min_le_left _ _

/-! ## §4 The first fault -/

/-- The drafts are what is looked at first. -/
theorem firstOf_faultsBeforeDrawing (ds : List Draft) (o : SampleOrder) :
    firstOf (faultsBeforeDrawing ds o) =
      match Draft.checkAll ds with
      | .error e => some (.rejected e)
      | .ok _ => firstOf o.checks := by
  have hdrafts := Draft.faultOf_checkAll ds
  unfold faultsBeforeDrawing
  by_cases hds : ds = []
  · rw [if_pos hds] at hdrafts
    rw [raiseIf_pos hds, firstOf_some_cons, faultOf_eq_some_iff.mp hdrafts]
  · rw [if_neg hds] at hdrafts
    rw [raiseIf_neg hds, firstOf_none_cons]
    cases hi : Draft.firstIncomplete? ds with
    | some i =>
      rw [hi] at hdrafts
      rw [Option.map_some, firstOf_some_cons, faultOf_eq_some_iff.mp hdrafts]
    | none =>
      rw [hi] at hdrafts
      obtain ⟨cs, hcs⟩ := faultOf_eq_none_iff.mp hdrafts
      rw [Option.map_none, firstOf_none_cons, hcs]

/-- A request is refused with the source untouched, or it estimates its table. -/
theorem simulate_drawn_cases (hcfg : s.cache.read.1 = .ok cfg) (hsource : s.source = some g)
    (ds : List Draft) (o : OpenOrder) :
    (∃ (f : Fault) (s' : Session σ), firstOf (faultsBeforeDrawing ds (o.fill cfg)) = some f ∧
      s'.source = some g ∧
      (Request.simulate (α := α) ds (.drawn o)).runIn s = (.error f, s')) ∨
    (∃ (cs : List Clause) (p : SamplePlan) (s' : Session σ),
      firstOf (faultsBeforeDrawing ds (o.fill cfg)) = none ∧
      Draft.checkAll ds = .ok cs ∧ p.Follows (o.fill cfg) ∧ s'.source = some (p.draw g).2 ∧
      (Request.simulate (α := α) ds (.drawn o)).runIn s = ((p.draw g).1.estimate cs, s')) := by
  rw [firstOf_faultsBeforeDrawing]
  cases hcheck : Draft.checkAll ds with
  | error e => exact .inl ⟨_, s, rfl, hsource, runIn_simulate_of_refused hcheck _ s⟩
  | ok cs =>
    have hrun := runIn_simulate_of_accepted (α := α) hcheck hcfg o
    -- reading the settings does not touch the source
    have hread : ({ s with cache := s.cache.read.2 } : Session σ).source = some g := hsource
    generalize { s with cache := s.cache.read.2 } = s' at hrun hread
    rcases (o.fill cfg).check_cases with ⟨f, hrefused, hf⟩ | ⟨p, hplan, hfollows, hroom⟩
    · refine .inl ⟨f, s', hf, hread, hrun.trans ?_⟩
      exact Request.runIn_bind_of_error (Request.runIn_sampleMany_of_refused hrefused s') _
    · rw [← hfollows.obstacle?_eq] at hroom
      have hlegal := Request.runIn_sampleMany_of_legal hplan s'
      cases hobstacle : p.obstacle? with
      | some f =>
        have hdraw := hlegal.trans (Request.runIn_draw_of_obstacle hread hobstacle)
        exact .inl ⟨f, s', hroom.trans hobstacle, hread,
          hrun.trans (Request.runIn_bind_of_error hdraw _)⟩
      | none =>
        have hdraw := hlegal.trans (Request.runIn_draw_of_room hread hobstacle)
        exact .inr ⟨cs, p, _, hroom.trans hobstacle, rfl, hfollows, rfl,
          hrun.trans (Request.runIn_bind_of_ok hdraw _)⟩

/-- **An estimate on a drawn table fails at the first check that applies.**  As long as one
of the checks before drawing fails, it is the answer and the source is untouched.  Otherwise
exactly one block of draws is used up, one draw for each die of each roll; what is then left
to fail on a block of that size is the answer, or the estimate counts all rolls that were asked
for. -/
theorem simulate_drawn_first_fault (hcfg : s.cache.read.1 = .ok cfg) (hsource : s.source = some g)
    (ds : List Draft) (o : OpenOrder) :
    (∀ f, firstOf (faultsBeforeDrawing ds (o.fill cfg)) = some f →
      ((Request.simulate (α := α) ds (.drawn o)).runIn s).1 = .error f ∧
      ((Request.simulate (α := α) ds (.drawn o)).runIn s).2.source = some g) ∧
    (firstOf (faultsBeforeDrawing ds (o.fill cfg)) = none →
      ∃ (die : Die) (n c : Nat), (o.fill cfg).die = some die ∧ (n : Int) = (o.fill cfg).rolls ∧
        (c : Int) = (o.fill cfg).count ∧
        ((Request.simulate (α := α) ds (.drawn o)).runIn s).2.source =
          some (Source.collect (Source.drawFrom 1 die.faces die.faces_pos) (n * c) g).2 ∧
        (∀ f, firstOf (faultsAfterDrawing ds n c) = some f →
          ((Request.simulate (α := α) ds (.drawn o)).runIn s).1 = .error f) ∧
        (firstOf (faultsAfterDrawing ds n c) = none →
          ∃ e, ((Request.simulate (α := α) ds (.drawn o)).runIn s).1 = .ok e ∧
            (Outcome.estimated e).status = .populated ∧ e.total = n ∧ e.successes ≤ e.total)) := by
  rcases simulate_drawn_cases (α := α) hcfg hsource ds o with
    ⟨f, s', hfirst, hs', hrun⟩ | ⟨cs, p, s', hfirst, hcheck, hfollows, hs', hrun⟩
  · -- refused before drawing
    rw [hrun, hfirst]
    refine ⟨fun f' hf' => ?_, fun hnone => by cases hnone⟩
    cases hf'
    exact ⟨rfl, hs'⟩
  · -- drawn, so that only the estimate itself can fail
    have hafter := faultOf_estimate_draw (α := α) hcheck p g
    rw [hrun, hfirst]
    refine ⟨fun f hf => (by cases hf), fun _ => ⟨p.die, p.rolls, p.dice, hfollows.die,
      hfollows.rolls, hfollows.dice, ?_, fun f hf => ?_, fun hnone => ?_⟩⟩
    · rw [hs', p.source_draw, ← congrArg Prod.snd (p.collect_eq_block g)]
      rfl
    · exact faultOf_eq_some_iff.mp (hafter.trans hf)
    · obtain ⟨e, he⟩ := faultOf_eq_none_iff.mp (hafter.trans hnone)
      obtain ⟨htotal, hle⟩ := successes_le_total he
      refine ⟨e, he, rfl, ?_, hle⟩
      rw [htotal, p.size_draw]

end Runs

/-- A session with the customary settings and a source whose draws are easy to foresee. -/
def rehearsal : Session Random.Linear := { cache := { kept := some {} }, source := some ⟨1⟩ }

/-- Three rolls of two dice. -/
def threeRolls : OpenOrder := { rolls := some 3, die := some .d6, diceCount := some 2 }

/-- Asks for one die that shows a one. -/
def oneAce : List Draft :=
  [{ bound := some .exactly, die := some .d6, reduction := some .each, comparison := some .equals }]

theorem three_rolls_are_counted :
    rehearsal.cache.read.1 = .ok {} ∧ rehearsal.source = some ⟨1⟩ ∧
    ∃ e, ((Request.simulate (α := ℚ) oneAce (.drawn threeRolls)).runIn rehearsal).1 = .ok e ∧
      (Outcome.estimated e).status = .populated ∧ e.total = 3 ∧ e.successes ≤ e.total := by
  have hpassed : firstOf (faultsBeforeDrawing oneAce (threeRolls.fill {})) = none := by
    decide +kernel
  have hrolls : (threeRolls.fill {}).rolls = 3 := rfl
  obtain ⟨die, n, c, -, hn, -, -, -, hanswer⟩ :=
    (simulate_drawn_first_fault (α := ℚ) (s := rehearsal) rfl rfl oneAce threeRolls).2 hpassed
  obtain rfl : n = 3 := by omega
  -- there is no sequence to lay out
  exact ⟨rfl, rfl, hanswer rfl⟩

/-! ## §5 A walk that is too long -/

/-- Asks for more numbers in a row than can be laid out. -/
def endlessWalk : List Draft :=
  [{ die := some .d6, reduction := some .sequence, span := ⟨0, 4611686018427387904⟩ }]

/-- The order passes every check, and no later clause claims to be the first; still there is
a fault, and only after the block was drawn. -/
theorem endless_walk_is_raised :
    firstOf (faultsBeforeDrawing endlessWalk (threeRolls.fill {})) = none ∧
    (¬∃ d ∈ endlessWalk.tail, d.link = some .first) ∧
    ((Request.simulate (α := ℚ) endlessWalk (.drawn threeRolls)).runIn rehearsal).1 =
      .error .tableTooLarge := by
  decide +kernel

end DiceOdds
