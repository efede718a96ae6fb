import DiceOdds.Proofs.Sampling.Frozen
import DiceOdds.Proofs.Session

/-!
# Orders That Can Be Drawn

An order is *drawable* if it passes every check (`Legal`, for its dice) and leaves room for its
table (`Drawable`).  The plan of such an order follows it, and in a session with a shared source it
is drawn from there (`exists_drawsWith_sampleMany`); with settings it is drawn in any session
(`exists_runIn_sampleConfigured`).  What is drawn depends on the die, the number of rolls, the
number of dice that are rolled, and the faces to which those dice are frozen, and on nothing else of
the order (`runIn_sampleMany_congr`).
-/

namespace DiceOdds

/-! ## §1 Plans of an order -/

/-- A plan rolls what the order says. -/
structure SamplePlan.Follows (p : SamplePlan) (o : SampleOrder) : Prop where
  die : o.die = some p.die
  dice : (p.dice : Int) = o.count
  rolls : (p.rolls : Int) = o.rolls

theorem SamplePlan.Follows.obstacle?_eq [Memory] {p : SamplePlan} {o : SampleOrder}
    (h : p.Follows o) : p.obstacle? = Storage.obstacle? [o.rolls, o.count] := by
  rw [obstacle?, h.rolls, h.dice]

/-- A plan meets no obstacle if there is room for its table. -/
theorem SamplePlan.obstacle?_eq_none [Memory] {p : SamplePlan}
    (h : (p.rolls * p.dice : Int) < Memory.room) : p.obstacle? = none := by
  -- a side of the table that is no word would not leave room for the table
  have hrolls : (p.rolls : Int) ≤ p.rolls * p.dice := by
    exact_mod_cast Nat.le_mul_of_pos_right p.rolls p.dice_pos
  have hdice : (p.dice : Int) ≤ p.rolls * p.dice := by
    exact_mod_cast Nat.le_mul_of_pos_left p.dice p.rolls_pos
  apply Storage.obstacle?_eq_none
  · have hroom := Memory.room_le_addressable
    unfold Storage.addressable at hroom
    simp only [List.forall_mem_cons, Word.greatest]
    exact ⟨by omega, by omega, by simp⟩
  · simpa [Storage.entries] using h

theorem Pins.firstIllegal?_eq_none_iff {pins : Pins} {faces : Nat} :
    pins.firstIllegal? faces = none ↔ ∀ e ∈ pins.entries, 1 ≤ e.2 ∧ e.2 ≤ (faces : Int) := by
  rw [firstIllegal?, List.find?_eq_none]
  simp

namespace SampleOrder

variable {o : SampleOrder} {die : Die}

theorem check_of_die_eq_none (hdie : o.die = none) : o.check = .error (.rejected .noDie) := by
  simp only [check, hdie]

/-- Without dice to roll an order is refused before its frozen dice are looked at. -/
theorem check_of_count_le (hdie : o.die = some die) (hcount : o.count ≤ 0) :
    o.check = .error o.noDice := by
  simp only [check, hdie, dif_pos hcount]

/-- An illegal face is found before the rolls are counted. -/
theorem check_of_illegal (hdie : o.die = some die) (hcount : 0 < o.count) {e : Int × Int}
    (hpins : o.pins.firstIllegal? die.faces = some e) :
    o.check = .error (illegalPin die e.1 e.2) := by
  simp only [check, hdie, dif_neg (Int.not_le.mpr hcount)]
  split
  · next hillegal =>
    cases hpins.symm.trans hillegal
    rfl
  · next hlegal => cases hpins.symm.trans hlegal

/-! ## §2 Drawable orders -/

/-- Nothing is wrong with the dice of the order: it names a die, has dice to roll, and freezes dice
to faces of the die only. -/
structure Legal (o : SampleOrder) (die : Die) : Prop where
  die_eq : o.die = some die
  count_pos : 1 ≤ o.count
  faces : ∀ e ∈ o.pins.entries, 1 ≤ e.2 ∧ e.2 ≤ (die.faces : Int)

/-- The order is legal, has rolls to make, and leaves room for its table. -/
structure Drawable [Memory] (o : SampleOrder) (die : Die) : Prop extends o.Legal die where
  rolls_pos : 1 ≤ o.rolls
  room : o.rolls * o.count < Memory.room

theorem Legal.exists_check (h : o.Legal die) (hrolls : 1 ≤ o.rolls) :
    ∃ p, o.check = .ok p ∧ p.Follows o ∧ p.frozen = o.kept := by
  have hcount : 0 < o.count := h.count_pos
  have hpins := Pins.firstIllegal?_eq_none_iff.mpr h.faces
  -- what is left of the checks is a match on the first illegal face
  simp only [check, h.die_eq, dif_neg (Int.not_le.mpr hcount)]
  split
  · next hillegal => cases hpins.symm.trans hillegal
  · rw [dif_neg (by omega)]
    exact ⟨_, rfl, ⟨h.die_eq, Int.toNat_of_nonneg (by omega), Int.toNat_of_nonneg (by omega)⟩, rfl⟩

theorem Drawable.exists_plan [Memory] (h : o.Drawable die) :
    ∃ p, o.check = .ok p ∧ p.Follows o ∧ p.frozen = o.kept ∧ p.obstacle? = none := by
  obtain ⟨p, hplan, hfollows, hfrozen⟩ := h.exists_check h.rolls_pos
  have hobstacle : p.obstacle? = none := by
    apply SamplePlan.obstacle?_eq_none
    rw [hfollows.rolls, hfollows.dice]
    exact h.room
  exact ⟨p, hplan, hfollows, hfrozen, hobstacle⟩

end SampleOrder

theorem SamplePlan.drawDie_eq_of_die_eq {σ : Type} [Source σ] {p q : SamplePlan}
    (h : p.die = q.die) : p.drawDie (σ := σ) = q.drawDie := by
  funext s
  simp only [drawDie, h]

/-- Plans that follow like orders draw the same dice. -/
theorem SamplePlan.Follows.block_eq {σ : Type} [Source σ] {p q : SamplePlan} {o o' : SampleOrder}
    (hp : p.Follows o) (hq : q.Follows o') (hdie : o.die = o'.die) (hrolls : o.rolls = o'.rolls)
    (hcount : o.count = o'.count) (g : σ) : p.block g = q.block g := by
  have hdie' : p.die = q.die := by
    rw [← Option.some_inj, ← hp.die, ← hq.die, hdie]
  have hdice : p.dice = q.dice := by
    rw [← Int.natCast_inj, hp.dice, hq.dice, hcount]
  have hrolls' : p.rolls = q.rolls := by
    rw [← Int.natCast_inj, hp.rolls, hq.rolls, hrolls]
  rw [block, block, drawDie_eq_of_die_eq hdie', hdice, hrolls']

/-- Frozen dice that agree on the positions of a roll fix it alike. -/
theorem Pins.fix_eq_of_face?_eq {p q : Pins} {r : Roll}
    (h : ∀ i < r.length, p.face? (i : Int) = q.face? i) : p.fix r = q.fix r := by
  apply List.ext_getElem?
  intro i
  rcases Nat.lt_or_ge i r.length with hi | hi
  · rw [getElem?_fix p r hi, getElem?_fix q r hi, h i hi]
  · rw [List.getElem?_eq_none (by rwa [length_fix]), List.getElem?_eq_none (by rwa [length_fix])]

namespace Request

variable [Memory] {σ : Type} [Source σ] {s : Session σ} {g : σ} {o o' : SampleOrder} {die : Die}

/-- A drawable order is drawn as it is planned. -/
theorem exists_drawsWith_sampleMany (σ : Type) [Source σ] (h : o.Drawable die) :
    ∃ p : SamplePlan, p.Follows o ∧ p.frozen = o.kept ∧
      DrawsWith (sampleMany o : Request σ RollTable) p.draw := by
  obtain ⟨p, hplan, hfollows, hfrozen, hobstacle⟩ := h.exists_plan
  exact ⟨p, hfollows, hfrozen, fun s _ hsource =>
    (runIn_sampleMany_of_legal hplan s).trans (runIn_draw_of_room hsource hobstacle)⟩

/-- With room for its table a plan draws it from some source, in any session. -/
theorem exists_runIn_draw {cfg : Settings} (hcfg : s.cache.read.1 = .ok cfg) {p : SamplePlan}
    (h : p.obstacle? = none) : ∃ t s', (draw p).runIn s = (.ok t, s') ∧ p.Gives t := by
  cases hsource : s.source with
  | some g => exact ⟨_, _, runIn_draw_of_room hsource h, σ, _, g, rfl⟩
  | none => exact ⟨_, _, runIn_draw_of_own hcfg hsource h, Random.Permuted, _, _, rfl⟩

/-- With settings, an open order that comes to a drawable one is drawn as it is planned. -/
theorem exists_runIn_sampleConfigured {cfg : Settings} (hcfg : s.cache.read.1 = .ok cfg)
    {order : OpenOrder} (h : (order.fill cfg).Drawable die) :
    ∃ (p : SamplePlan) (t : RollTable) (s' : Session σ), p.Follows (order.fill cfg) ∧
      p.frozen = (order.fill cfg).kept ∧ p.Gives t ∧
      (sampleConfigured order).runIn s = (.ok t, s') := by
  obtain ⟨p, hplan, hfollows, hfrozen, hobstacle⟩ := h.exists_plan
  -- the settings have been read, and are kept for a generator of one's own
  obtain ⟨t, s', hdraw, hgives⟩ :=
    exists_runIn_draw (s := { s with cache := s.cache.read.2 })
      (congrArg Prod.fst (Settings.Cache.read_again hcfg)) hobstacle
  refine ⟨p, t, s', hfollows, hfrozen, hgives, ?_⟩
  rw [runIn_sampleConfigured hcfg, runIn_sampleMany_of_legal hplan, hdraw]

theorem runIn_sampleMany_congr (h : o.Drawable die) (h' : o'.Drawable die)
    (hsource : s.source = some g) (hrolls : o.rolls = o'.rolls) (hcount : o.count = o'.count)
    (hkept : ∀ i : Nat, i < o.count → o.kept.face? i = o'.kept.face? i) :
    (sampleMany o).runIn s = (sampleMany o').runIn s := by
  obtain ⟨p, hp, hpkept, hprun⟩ := exists_drawsWith_sampleMany σ h
  obtain ⟨q, hq, hqkept, hqrun⟩ := exists_drawsWith_sampleMany σ h'
  -- the blocks are one, so only the turning of frozen dice could make a difference
  have hblock := hp.block_eq hq (h.die_eq.trans h'.die_eq.symm) hrolls hcount g
  have hrows : (p.draw g).1.rows = (q.draw g).1.rows := by
    rw [p.rows_draw, q.rows_draw, ← hblock, hpkept, hqkept]
    apply List.map_congr_left
    intro r hr
    have hlength : (r.length : Int) = o.count := by rw [p.length_of_mem_block g hr, hp.dice]
    exact Pins.fix_eq_of_face?_eq fun i hi => hkept i (by omega)
  rw [hprun hsource, hqrun hsource, RollTable.ext_rows hrows, p.source_draw, q.source_draw, hblock]

end Request

end DiceOdds
