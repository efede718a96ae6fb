import DiceOdds.Proofs.Sampling.Orders

/-!
# What Drawn Tables Show

A table has as many rolls as were ordered, and each of them shows faces of the die.  If frozen dice
stay in the roll, they are drawn like all others and turned afterwards, so a table with frozen dice
is the table without them, overlaid with the frozen faces (`Pins.Overlays`); a position that is not
in the roll has no die that could be turned.  If frozen dice are left out, there is nothing to turn,
and the roll is one of fewer dice.

**Main statement**: `sampleMany_shows`.
-/

namespace DiceOdds

/-! ## §1 Overlaid rolls -/

/-- The shown roll is the drawn one with the frozen dice turned: frozen positions show their faces,
and all others what was drawn. -/
structure Pins.Overlays (p : Pins) (drawn shown : Roll) : Prop where
  length_eq : shown.length = drawn.length
  frozen : ∀ (i : Nat) face, i < shown.length → p.face? i = some face → shown[i]? = some face
  loose : ∀ i : Nat, p.face? i = none → shown[i]? = drawn[i]?

theorem Pins.overlays_fix (p : Pins) (r : Roll) : p.Overlays r (p.fix r) := by
  refine ⟨length_fix p r, fun i face hi hface => ?_, fun i hloose => ?_⟩
  · rw [length_fix] at hi
    rw [getElem?_fix p r hi, hface, Option.some_or]
  · rcases Nat.lt_or_ge i r.length with hi | hi
    · rw [getElem?_fix p r hi, hloose, Option.none_or]
    · rw [List.getElem?_eq_none (by rwa [length_fix]), List.getElem?_eq_none hi]

/-! ## §2 Orders with other frozen dice -/

namespace SampleOrder

variable {o : SampleOrder} {die : Die}

/-- The same order with other frozen dice. -/
def withPins (o : SampleOrder) (pins : Pins) : SampleOrder := { o with pins }

/-- The order for the dice that are left if the frozen dice are left out. -/
def withoutFrozen (o : SampleOrder) (keep : Bool) : SampleOrder :=
  { o with diceCount := o.diceCount - o.pins.size, pins := .empty, includeFrozen := keep }

section Keep

variable (h : o.includeFrozen = true)
include h

theorem count_of_keep : o.count = o.diceCount := by
  rw [count, effectiveCount, if_pos h]

theorem kept_of_keep : o.kept = o.pins := if_pos h

theorem count_withPins (pins : Pins) : (o.withPins pins).count = o.count := by
  rw [count_of_keep h, count_of_keep (o := o.withPins pins) h]
  rfl

theorem kept_withPins (pins : Pins) : (o.withPins pins).kept = pins :=
  kept_of_keep (o := o.withPins pins) h

theorem Drawable.withPins [Memory] (hdraw : o.Drawable die) {pins : Pins}
    (hpins : ∀ e ∈ pins.entries, 1 ≤ e.2 ∧ e.2 ≤ (die.faces : Int)) :
    (o.withPins pins).Drawable die := by
  have hcount := count_withPins h pins
  exact ⟨⟨hdraw.die_eq, hcount ▸ hdraw.count_pos, hpins⟩, hdraw.rolls_pos, hcount ▸ hdraw.room⟩

end Keep

section Drop

variable (h : o.includeFrozen = false) (keep : Bool)
include h

theorem count_of_drop : o.count = o.diceCount - o.pins.size := by
  rw [count, effectiveCount, if_neg (by simp [h])]

theorem kept_of_drop : o.kept = Pins.empty := if_neg (by simp [h])

theorem count_withoutFrozen : (o.withoutFrozen keep).count = o.count := by
  rw [count_of_drop h]
  cases keep with
  | true => exact count_of_keep rfl
  | false => exact (count_of_drop rfl).trans (Int.sub_zero _)

theorem kept_withoutFrozen : (o.withoutFrozen keep).kept = o.kept := by
  rw [kept_of_drop h]
  cases keep <;> rfl

theorem Drawable.withoutFrozen [Memory] (hdraw : o.Drawable die) :
    (o.withoutFrozen keep).Drawable die := by
  have hcount := count_withoutFrozen h keep
  refine ⟨⟨hdraw.die_eq, hcount ▸ hdraw.count_pos, ?_⟩, hdraw.rolls_pos, hcount ▸ hdraw.room⟩
  intro e he
  cases he

end Drop

end SampleOrder

/-! ## §3 Shown tables -/

namespace Request

variable {σ : Type} [Source σ] {s : Session σ} {g : σ} {o : SampleOrder} {die : Die}

/-- The table without frozen dice is drawn from the same numbers, and is overlaid with them. -/
theorem exists_overlaid_sampleMany [Memory] (h : o.Drawable die) (hsource : s.source = some g)
    (hkeep : o.includeFrozen = true) :
    ∃ t u g', (sampleMany o).runIn s = (.ok t, { s with source := some g' }) ∧
      (sampleMany (o.withPins .empty)).runIn s = (.ok u, { s with source := some g' }) ∧
      List.Forall₂ o.pins.Overlays u.rows t.rows := by
  have hloose : (o.withPins .empty).Drawable die :=
    SampleOrder.Drawable.withPins hkeep h fun e he => by cases he
  obtain ⟨p, hp, hpkept, hprun⟩ := exists_drawsWith_sampleMany σ h
  obtain ⟨q, hq, hqkept, hqrun⟩ := exists_drawsWith_sampleMany σ hloose
  replace hprun := hprun hsource
  replace hqrun := hqrun hsource
  have hblock : p.block g = q.block g :=
    hp.block_eq hq rfl rfl (SampleOrder.count_withPins hkeep .empty).symm g
  rw [p.source_draw] at hprun
  rw [q.source_draw, ← hblock] at hqrun
  refine ⟨_, _, _, hprun, hqrun, ?_⟩
  -- nothing is turned in the one, and the frozen dice in the other
  rw [p.rows_draw, q.rows_draw, ← hblock, hpkept, hqkept, SampleOrder.kept_of_keep hkeep,
    SampleOrder.kept_withPins hkeep, List.forall₂_map_right_iff, List.forall₂_map_left_iff,
    List.forall₂_same]
  exact fun r _ => o.pins.overlays_fix r

/-- **What a drawn table shows.**  An order that can be drawn is drawn: as many rolls as it says, of
as many dice, with faces of the die.  If frozen dice stay in the roll, the table is the one without
frozen dice overlaid with their faces, the source has moved on as far, and it makes no difference
what is frozen outside the roll.  If they are left out, the table is that of fewer dice. -/
theorem sampleMany_shows [Memory] (h : o.Drawable die) (hsource : s.source = some g) :
    ∃ t g', (sampleMany o).runIn s = (.ok t, { s with source := some g' }) ∧
      (t.size : Int) = o.rolls ∧
      (∀ r ∈ t.rows, (r.length : Int) = o.count ∧ r.OfDie die) ∧
      (o.includeFrozen = true →
        (∃ u, (sampleMany (o.withPins .empty)).runIn s = (.ok u, { s with source := some g' }) ∧
          List.Forall₂ o.pins.Overlays u.rows t.rows) ∧
        ∀ pins : Pins, (∀ e ∈ pins.entries, 1 ≤ e.2 ∧ e.2 ≤ (die.faces : Int)) →
          (∀ i : Nat, i < o.count → pins.face? i = o.pins.face? i) →
          (sampleMany (o.withPins pins)).runIn s = (.ok t, { s with source := some g' })) ∧
      (o.includeFrozen = false → ∀ keep,
        (sampleMany (o.withoutFrozen keep)).runIn s = (.ok t, { s with source := some g' })) := by
  obtain ⟨p, hp, -, hrun⟩ := exists_drawsWith_sampleMany σ h
  replace hrun := hrun hsource
  have hdie : p.die = die := Option.some_inj.mp (hp.die.symm.trans h.die_eq)
  refine ⟨_, _, hrun, ?_, fun r hr => ⟨?_, hdie ▸ p.ofDie_of_mem_draw g r hr⟩,
    fun hkeep => ⟨?_, ?_⟩, fun hdrop keep => ?_⟩
  · rw [p.size_draw, hp.rolls]
  · rw [(p.draw g).1.length_of_mem r hr]
    exact hp.dice
  · obtain ⟨t, u, g', ht, hu, hoverlays⟩ := exists_overlaid_sampleMany h hsource hkeep
    cases hrun.symm.trans ht
    exact ⟨u, hu, hoverlays⟩
  · -- other frozen dice that come to the same within the roll
    intro pins hlegal hagree
    have hcount := SampleOrder.count_withPins hkeep pins
    rw [← hrun]
    refine runIn_sampleMany_congr (SampleOrder.Drawable.withPins hkeep h hlegal) h hsource rfl
      hcount fun i hi => ?_
    rw [SampleOrder.kept_withPins hkeep, SampleOrder.kept_of_keep hkeep]
    exact hagree i (hcount ▸ hi)
  · rw [← hrun]
    refine runIn_sampleMany_congr (SampleOrder.Drawable.withoutFrozen hdrop keep h) h hsource rfl
      (SampleOrder.count_withoutFrozen hdrop keep) fun i _ => ?_
    rw [SampleOrder.kept_withoutFrozen hdrop]

end Request

/-- A session whose source draws a one, a six and a three, again and again. -/
def wheel : Session Random.Cycle := { source := some ⟨[0, 5, 2], []⟩ }

/-- Two rolls of four dice, of which the second one is frozen to a four; what is frozen behind the
last die and below the first one is not there. -/
def secondFrozen (keep : Bool) : SampleOrder where
  rolls := 2
  die := some .d6
  diceCount := 5
  pins := Pins.ofList [(1, 4), (9, 5), (-1, 2)]
  includeFrozen := keep

/-- The second die shows a four instead of what was drawn; without frozen dice there are two dice to
roll. -/
theorem second_die_shows_a_four :
    (∀ keep, (secondFrozen keep).Drawable .d6) ∧ wheel.source = some ⟨[0, 5, 2], []⟩ ∧
    (∃ t u s', (Request.sampleMany (secondFrozen true)).runIn wheel = (.ok t, s') ∧
      (Request.sampleMany ((secondFrozen true).withPins .empty)).runIn wheel = (.ok u, s') ∧
      t.rows = [[1, 4, 3, 1, 6], [3, 4, 6, 3, 1]] ∧ u.rows = [[1, 6, 3, 1, 6], [3, 1, 6, 3, 1]] ∧
      List.Forall₂ (secondFrozen true).pins.Overlays u.rows t.rows) ∧
    ∃ t s', (Request.sampleMany (secondFrozen false)).runIn wheel = (.ok t, s') ∧
      (Request.sampleMany ((secondFrozen false).withoutFrozen true)).runIn wheel = (.ok t, s') ∧
      t.rows = [[1, 6], [3, 1]] := by
  have hdraw : ∀ keep, (secondFrozen keep).Drawable .d6 := by
    intro keep
    cases keep <;> exact ⟨⟨rfl, by decide, by decide⟩, by decide, by decide⟩
  obtain ⟨t, g, ht, -, -, hkeep, -⟩ := Request.sampleMany_shows (hdraw true) (s := wheel) rfl
  obtain ⟨⟨u, hu, hoverlays⟩, -⟩ := hkeep rfl
  obtain ⟨v, g', hv, -, -, -, hdrop⟩ := Request.sampleMany_shows (hdraw false) (s := wheel) rfl
  exact ⟨hdraw, rfl, ⟨t, u, _, ht, hu, Request.rows_eq_of_runIn ht (by decide +kernel),
      Request.rows_eq_of_runIn hu (by decide +kernel), hoverlays⟩,
    v, _, hv, hdrop rfl true, Request.rows_eq_of_runIn hv (by decide +kernel)⟩

/-- One die that is frozen to a one, rolled more often than rolls can be stored. -/
def endlessAce : SampleOrder where
  rolls := 1152921504606846976
  die := some .d6
  diceCount := 1
  pins := Pins.ofList [(0, 1)]
  includeFrozen := true

/-- Nothing is wrong with the order but the size of its table, and that is enough. -/
theorem endless_ace_is_not_drawn :
    endlessAce.die = some .d6 ∧ 1 ≤ endlessAce.rolls ∧ 1 ≤ endlessAce.count ∧
    (∀ e ∈ endlessAce.pins.entries, 1 ≤ e.2 ∧ e.2 ≤ (Die.d6.faces : Int)) ∧
    ¬∃ t s', (Request.sampleMany endlessAce).runIn wheel = (.ok t, s') := by
  refine ⟨rfl, by decide, by decide, by decide, ?_⟩
  rintro ⟨t, s', hrun⟩
  have hfault : (Request.sampleMany endlessAce).runIn wheel = (.error .tableTooLarge, wheel) := rfl
  rw [hfault] at hrun
  cases hrun

end DiceOdds
