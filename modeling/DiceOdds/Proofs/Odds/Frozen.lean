import DiceOdds.Proofs.Numeric.Doubles
import DiceOdds.Proofs.Odds.Drawn
import DiceOdds.Proofs.Roll.Bounds

/-!
# Estimates on Frozen Rolls

If every die is frozen and stays in the roll, all rolls of a table are the roll of the frozen
faces, so that one decision settles the estimate: either every roll succeeds or none does, and
the means are the total and the average of that one roll, which doubles give without rounding
as long as all totals together are exact in them.  No source of random numbers has a part in it.

**Main statement**: `simulate_frozen`.
-/

namespace DiceOdds

/-! ## §1 Tables of one roll -/

namespace RollTable

variable {t : RollTable} {n : Nat} {r : Roll}

theorem rolls_pos_of_replicate (h : t.rows = List.replicate n r) : 0 < n := by
  have hpos := t.size_pos
  rwa [size, h, List.length_replicate] at hpos

theorem mem_rows_of_replicate (h : t.rows = List.replicate n r) : r ∈ t.rows := by
  rw [h, List.mem_replicate]
  exact ⟨Nat.ne_of_gt (rolls_pos_of_replicate h), rfl⟩

/-- The winners are all rolls of the table or none. -/
theorem winners_of_replicate (h : t.rows = List.replicate n r) (b : Bool) :
    t.winners (List.replicate n b) = if b then List.replicate n r else [] := by
  rw [winners, h, List.zip_replicate', List.filter_replicate]
  cases b <;> simp

variable [Memory]

theorem obstacle?_of_replicate (h : t.rows = List.replicate n r) {cs : List Clause}
    (hwindows : ∀ c ∈ cs, c.test.WindowsFit t.size t.width) :
    t.obstacle? cs = Roll.obstacle? cs r := by
  refine findSome?_congr fun c hc => ?_
  have hlength : r.length = t.width := t.length_of_mem r (mem_rows_of_replicate h)
  -- every roll has the same obstacle to offer
  have hrolls : t.rows.findSome? c.test.obstacle? = c.test.obstacle? r := by
    apply findSome?_of_forall_eq t.rows_ne_nil
    intro r' hr'
    rw [h] at hr'
    rw [List.eq_of_mem_replicate hr']
  have hlayout : c.test.layoutFault? t.size t.width = c.test.layoutFault? 1 r.length := by
    rw [Test.layoutFault?_of_windowsFit (hwindows c hc), hlength,
      Test.layoutFault?_of_windowsFit ((hwindows c hc).mono t.size_pos)]
  rw [testObstacle?, hrolls, hlayout]
  exact Test.layoutFault?_or_obstacle? c.test r

/-- A table of one roll has the verdict on that roll throughout, with room for all windows. -/
theorem verdicts_of_replicate (h : t.rows = List.replicate n r) {cs : List Clause}
    (hwindows : ∀ c ∈ cs, c.test.WindowsFit t.size t.width) :
    t.verdicts cs = (Roll.verdict cs r).map (List.replicate n) := by
  cases hverdict : Roll.verdict cs r with
  | error f =>
    have hfault : faultOf (t.verdicts cs) = some f := by
      rw [RollTable.faultOf_verdicts, obstacle?_of_replicate h hwindows, ← Roll.faultOf_verdict,
        hverdict]
      rfl
    exact faultOf_eq_some_iff.mp hfault
  | ok b =>
    refine verdicts_eq_ok_iff.mpr ⟨hwindows, ?_⟩
    rw [h, List.forall₂_iff_get]
    constructor
    · simp
    · intro i hi hi'
      simpa using hverdict

end RollTable

/-- The estimate over so many copies of a roll. -/
def Estimate.unanimous {α : Type} [Numeric α] (n : Nat) (r : Roll) (b : Bool) : Estimate α where
  total := n
  successes := if b then n else 0
  probability := Numeric.ofInt (if b then 1 else 0)
  sum := if b then some (Numeric.ofInt r.pips) else none
  average := if b then some (Numeric.ofInt (r.pips / r.length)) else none

section Exact

variable {α : Type} [Numeric α] {limit : Nat} {t : RollTable} {n : Nat} {r : Roll}

theorem mean?_replicate (hα : Numeric.ExactBelow α limit) (hn : 0 < n) (hlimit : n < limit)
    {x : Int} (hx : n * x.natAbs < limit) :
    mean? (List.replicate n x) = some (Numeric.ofInt x : α) := by
  have hne : (List.replicate n x).isEmpty = false := by
    simpa using Nat.ne_of_gt hn
  rw [mean?, hne, Numeric.mean_replicate hα hn hlimit x hx]
  rfl

/-- Copies of a roll stand or fall together, and their means are its own figures. -/
theorem Estimate.ofVerdicts_replicate (hα : Numeric.ExactBelow α limit)
    (h : t.rows = List.replicate n r) (hlimit : n < limit) (htotal : Word.Holds r.pips)
    (hpips : n * r.pips.natAbs < limit) (b : Bool) :
    ofVerdicts t (List.replicate n b) = (unanimous n r b : Estimate α) := by
  have hn := RollTable.rolls_pos_of_replicate h
  have hsize : t.size = n := by rw [RollTable.size, h, List.length_replicate]
  have hwinners := RollTable.winners_of_replicate h b
  cases b with
  | false =>
    have hnone : (Numeric.ofInt 0 / Numeric.ofInt n : α) = Numeric.ofInt 0 := by
      have hshare := hα.div 0 n hn hlimit (by omega)
      rwa [Int.zero_mul] at hshare
    simp only [ofVerdicts, unanimous, hwinners, hsize]
    simpa [mean?] using hnone
  | true =>
    have hall : (Numeric.ofInt n / Numeric.ofInt n : α) = Numeric.ofInt 1 := by
      have hshare := hα.div 1 n hn hlimit (by omega)
      rwa [Int.one_mul] at hshare
    have haverage : r.average = r.pips / r.length := by
      rw [Roll.average, Roll.total, Word.wrap_of_holds htotal]
    -- an average is no further from nought than the total
    have hless : n * (r.pips / r.length).natAbs < limit :=
      Nat.lt_of_le_of_lt (Nat.mul_le_mul_left n (Int.natAbs_ediv_le_natAbs _ _)) hpips
    have hsum : mean? ((List.replicate n r).map Roll.total) = some (Numeric.ofInt r.pips : α) := by
      rw [List.map_replicate, Roll.total, Word.wrap_of_holds htotal]
      exact mean?_replicate hα hn hlimit hpips
    have hmean : mean? ((List.replicate n r).map Roll.average) =
        some (Numeric.ofInt (r.pips / r.length) : α) := by
      rw [List.map_replicate, haverage]
      exact mean?_replicate hα hn hlimit hless
    simp only [ofVerdicts, unanimous, hwinners, hsize, if_true, List.length_replicate, hall, hsum,
      hmean]

/-- A table of one roll is simulated by deciding that roll. -/
theorem RollTable.simulate_of_replicate [Memory] (h : t.rows = List.replicate n r)
    {ds : List Draft} (hwindows : ∀ d ∈ ds, d.WindowsFit t.size t.width) :
    t.simulate (α := α) ds =
      (decideRoll ds none r).map fun b => Estimate.ofVerdicts t (List.replicate n b) := by
  rw [simulate, decideRoll_eq t (mem_rows_of_replicate h)]
  cases hcheck : Draft.checkAll ds with
  | error e => rfl
  | ok cs =>
    show t.estimate cs = (Roll.verdict cs r).map _
    rw [estimate, verdicts_of_replicate h ((Draft.forall_mem_of_checkAll hcheck
      fun d test htest => Draft.windowsFit_of_test? htest).mpr hwindows)]
    cases Roll.verdict cs r <;> rfl

end Exact

/-- Rolls of a die whose totals, all together, are exact in doubles. -/
theorem Roll.OfDie.holds_pips_of_lt {die : Die} {r : Roll} (h : r.OfDie die) (hr : r ≠ []) {n : Nat}
    (hn : 1 ≤ n) (hpips : n * r.pips < 9007199254740992) :
    n < 2 ^ 53 ∧ Word.Holds r.pips ∧ n * r.pips.natAbs < 2 ^ 53 := by
  have hlength : 0 < (r.length : Int) := Int.natCast_pos.mpr (List.length_pos_iff.mpr hr)
  have hpos : 1 ≤ r.pips := by
    have := h.pips.1
    omega
  -- neither the number of rolls nor one of their totals is larger than all of them together
  have hrolls : (n : Int) ≤ n * r.pips := le_mul_of_one_le_right (by omega) hpos
  have htotal : r.pips ≤ n * r.pips := le_mul_of_one_le_left (by omega) (by omega)
  have habs : ((n * r.pips.natAbs : Nat) : Int) = n * r.pips := by
    rw [Int.natCast_mul, Int.natAbs_of_nonneg (by omega)]
  unfold Word.Holds Word.least Word.greatest
  omega

/-! ## §2 Orders of frozen dice -/

/-- So many rolls of so many dice, with frozen dice that stay in the roll. -/
def OpenOrder.frozen (n k : Nat) (die : Die) (pins : Pins) : OpenOrder where
  rolls := some n
  die := some die
  diceCount := some k
  pins := pins
  includeFrozen := some true

section Frozen

variable [Memory] {σ : Type} [Source σ] {s : Session σ} {cfg : Settings} {n k : Nat} {die : Die}
  {pins : Pins}

/-- Whatever it is drawn from, a table of frozen dice shows their faces in every roll. -/
theorem Request.exists_sampled_frozen (hcfg : s.cache.read.1 = .ok cfg) (hn : 1 ≤ n) (hk : 1 ≤ k)
    (hlegal : ∀ e ∈ pins.entries, 1 ≤ e.2 ∧ e.2 ≤ (die.faces : Int))
    (hpinned : ∀ i < k, (pins.face? (i : Int)).isSome) (hroom : (n * k : Int) < Memory.room) :
    ∃ t s', (sampleConfigured (.frozen n k die pins)).runIn s = (.ok t, s') ∧
      t.rows = List.replicate n (pins.faces k) := by
  have horder : ((OpenOrder.frozen n k die pins).fill cfg).Drawable die :=
    ⟨⟨rfl, show (1 : Int) ≤ k by omega, hlegal⟩, show (1 : Int) ≤ n by omega, hroom⟩
  obtain ⟨p, t, s', hfollows, hfrozen, ⟨τ, _, g, rfl⟩, hrun⟩ :=
    exists_runIn_sampleConfigured hcfg horder
  have hdice : p.dice = k := Int.natCast_inj.mp hfollows.dice
  have hrolls : p.rolls = n := Int.natCast_inj.mp hfollows.rolls
  have hpins : p.frozen = pins := hfrozen
  refine ⟨_, s', hrun, ?_⟩
  rw [p.rows_draw_of_frozen (by rwa [hdice, hpins]) g, hrolls, hdice, hpins]

/-- A table that has been drawn is simulated as if it had been given. -/
theorem simulate_of_sampled {α : Type} [Numeric α] (hcfg : s.cache.read.1 = .ok cfg) {o : OpenOrder}
    {t : RollTable} {s' : Session σ} (h : (Request.sampleConfigured o).runIn s = (.ok t, s'))
    (ds : List Draft) :
    ((Request.simulate (α := α) ds (.drawn o)).runIn s).1 = t.simulate ds := by
  rw [RollTable.simulate]
  -- the drafts are checked before the table is drawn, which makes no difference to the answer
  cases hcheck : Draft.checkAll ds with
  | error e => rw [runIn_simulate_of_refused hcheck]
  | ok cs =>
    rw [Request.runIn_sampleConfigured hcfg] at h
    rw [runIn_simulate_of_accepted hcheck hcfg, Request.runIn_bind_of_ok h,
      Request.runIn_ofExcept]

/-! ## §3 Deciding once -/

/-- **Frozen rolls are decided once.**  If every die is frozen and stays in the roll, and the table
and the windows of its rolls can be stored, then simulating drafts on any number of rolls comes to
deciding the roll of the frozen faces: it fails as that does, and else all rolls succeed or none.
With exact numbers the means are those of the one roll, and so they are in doubles as long as all
totals together are exact.  The source of random numbers has no part in it, and neither have dice
that are frozen behind the last one. -/
theorem simulate_frozen (hcfg : s.cache.read.1 = .ok cfg) (hn : 1 ≤ n) (hk : 1 ≤ k)
    (hlegal : ∀ e ∈ pins.entries, 1 ≤ e.2 ∧ e.2 ≤ (die.faces : Int))
    (hpinned : ∀ i < k, (pins.face? (i : Int)).isSome) (hroom : (n * k : Int) < Memory.room)
    {ds : List Draft} (hwindows : ∀ d ∈ ds, d.WindowsFit n k) :
    (∀ (α : Type) [Numeric α],
      ((Request.simulate (α := α) ds (.drawn (OpenOrder.frozen n k die pins))).runIn s).1.map
          (fun e => (e.total, e.successes)) =
        (decideRoll ds none (pins.faces k)).map fun b => (n, if b then n else 0)) ∧
    (Word.Holds (pins.faces k).pips →
      ((Request.simulate ds (.drawn (OpenOrder.frozen n k die pins))).runIn s).1 =
        (decideRoll ds none (pins.faces k)).map
          (Estimate.unanimous n (pins.faces k) : Bool → Estimate ℚ)) ∧
    (n * (pins.faces k).pips < 9007199254740992 →
      ((Request.simulate ds (.drawn (OpenOrder.frozen n k die pins))).runIn s).1 =
        (decideRoll ds none (pins.faces k)).map
          (Estimate.unanimous n (pins.faces k) : Bool → Estimate Float)) := by
  obtain ⟨t, s', hsampled, hrows⟩ :=
    Request.exists_sampled_frozen hcfg hn hk hlegal hpinned hroom
  have hlength : (pins.faces k).length = k := Pins.length_faces hpinned
  have hsize : t.size = n := by rw [RollTable.size, hrows, List.length_replicate]
  have hwidth : t.width = k := by
    rw [← hlength, t.length_of_mem _ (RollTable.mem_rows_of_replicate hrows)]
  rw [← hsize, ← hwidth] at hwindows
  refine ⟨fun α _ => ?_, fun htotal => ?_, fun hexact => ?_⟩
  · rw [simulate_of_sampled hcfg hsampled, RollTable.simulate_of_replicate hrows hwindows]
    cases decideRoll ds none (pins.faces k) with
    | error f => rfl
    | ok b =>
      show Except.ok (t.size, (t.winners (List.replicate n b)).length) = .ok (n, if b then n else 0)
      rw [hsize, RollTable.winners_of_replicate hrows]
      cases b <;> simp
  · -- quotients are exact without a limit
    have hestimate : ∀ b, (Estimate.ofVerdicts t (List.replicate n b) : Estimate ℚ) =
        Estimate.unanimous n (pins.faces k) b :=
      Estimate.ofVerdicts_replicate
        (Numeric.exactBelow_rat (n + n * (pins.faces k).pips.natAbs + 1)) hrows (by omega) htotal
        (by omega)
    rw [simulate_of_sampled hcfg hsampled, RollTable.simulate_of_replicate hrows hwindows]
    exact congrArg (Except.map · (decideRoll ds none (pins.faces k))) (funext hestimate)
  · have hdie : Roll.OfDie die (pins.faces k) :=
      Pins.forall_mem_faces (q := fun x => 1 ≤ x ∧ x ≤ (die.faces : Int)) hlegal
    have hne : pins.faces k ≠ [] := List.ne_nil_of_length_pos (by omega)
    obtain ⟨hlimit, htotal, hpips⟩ := hdie.holds_pips_of_lt hne hn hexact
    rw [simulate_of_sampled hcfg hsampled, RollTable.simulate_of_replicate hrows hwindows]
    exact congrArg (Except.map · (decideRoll ds none (pins.faces k)))
      (funext (Estimate.ofVerdicts_replicate exactBelow_float hrows hlimit htotal hpips))

end Frozen

/-! ## §4 Two frozen dice -/

/-- A one, a two, and a six behind the last die. -/
def aceAndTwo : Pins := Pins.ofList [(0, 1), (5, 6), (1, 2)]

/-- The one is there in every roll; the six is behind the last die, and is not counted. -/
theorem frozen_ace_always_succeeds :
    rehearsal.cache.read.1 = .ok {} ∧
    (∀ e ∈ aceAndTwo.entries, 1 ≤ e.2 ∧ e.2 ≤ (Die.d6.faces : Int)) ∧
    (∀ i < 2, (aceAndTwo.face? ((i : Nat) : Int)).isSome) ∧
    ((3 : Nat) * (2 : Nat) : Int) < Memory.room ∧ (∀ d ∈ oneAce, d.WindowsFit 3 2) ∧
    ((Request.simulate oneAce (.drawn (.frozen 3 2 .d6 aceAndTwo))).runIn rehearsal).1 =
      .ok (Estimate.unanimous 3 [1, 2] true : Estimate ℚ) ∧
    ((Request.simulate oneAce (.drawn (.frozen 3 2 .d6 aceAndTwo))).runIn rehearsal).1 =
      .ok (Estimate.unanimous 3 [1, 2] true : Estimate Float) := by
  have hlegal : ∀ e ∈ aceAndTwo.entries, 1 ≤ e.2 ∧ e.2 ≤ (Die.d6.faces : Int) := by decide
  have hpinned : ∀ i < 2, (aceAndTwo.face? ((i : Nat) : Int)).isSome := by decide
  have hroom : ((3 : Nat) * (2 : Nat) : Int) < Memory.room := by decide
  have hdecided : decideRoll oneAce none (aceAndTwo.faces 2) = .ok true := by decide +kernel
  have hwindows : ∀ d ∈ oneAce, d.WindowsFit 3 2 := by
    intro d hd hsequence
    rw [List.mem_singleton.mp hd] at hsequence
    cases hsequence
  obtain ⟨-, hexact, hdoubles⟩ := simulate_frozen (s := rehearsal) rfl (by decide) (by decide)
    hlegal hpinned hroom hwindows
  have hquotients := hexact (by decide)
  have hrun := hdoubles (by decide)
  rw [hdecided] at hquotients hrun
  exact ⟨rfl, hlegal, hpinned, hroom, hwindows, hquotients, hrun⟩

/-- A table of so many rolls cannot be stored, however few dice they have and whether or not
they are frozen. -/
theorem frozen_table_is_too_large :
    (∀ e ∈ aceAndTwo.entries, 1 ≤ e.2 ∧ e.2 ≤ (Die.d6.faces : Int)) ∧
    (∀ i < 1, (aceAndTwo.face? ((i : Nat) : Int)).isSome) ∧
    decideRoll oneAce none (aceAndTwo.faces 1) = .ok true ∧
    ((Request.simulate (α := Float) oneAce
      (.drawn (.frozen 1152921504606846976 1 .d6 aceAndTwo))).runIn rehearsal).1 =
        .error .tableTooLarge := by
  refine ⟨by decide, by decide, by decide +kernel, rfl⟩

end DiceOdds
