import DiceOdds.Proofs.Sampling.Shown
import Mathlib.Data.List.Perm.Lattice

/-!
# Dice That Are Left Out

Where frozen dice stay in the roll, those that are frozen outside of it are ignored.  Where frozen
dice are left out, one die is taken away for each frozen position, whether or not it is in the roll.
So the dice that are rolled are those at the positions that are not frozen (`Pins.loose`), less one
for each frozen position outside the roll (`Pins.stray`), and the two ways of treating frozen dice
agree on the number of random dice if nothing is frozen outside the roll, and only then, as long as
there is a random die at all.

**Main statement**: `diceRolled_without_frozen`.
-/

namespace DiceOdds

namespace Pins

variable (p : Pins) (k : Nat)

/-! ## §1 Positions in and outside of a roll -/

/-- The positions of a roll of `k` dice that are not frozen. -/
def loose : List Nat := (List.range k).filter fun i : Nat => (p.face? i).isNone

/-- The positions of a roll of `k` dice that are frozen. -/
def placed : List Nat := (List.range k).filter fun i : Nat => (p.face? i).isSome

/-- Whether a position is one of a roll of `k` dice. -/
def within (k : Nat) (e : Int × Int) : Bool := 0 ≤ e.1 && e.1 < k

/-- What is frozen at positions that are not in a roll of `k` dice. -/
def stray : List (Int × Int) := p.entries.filter fun e => !within k e

variable {p k}

theorem isSome_face?_iff {position : Int} :
    (p.face? position).isSome ↔ position ∈ p.entries.map Prod.fst := by
  constructor
  · intro h
    obtain ⟨face, hface⟩ := Option.isSome_iff_exists.mp h
    exact List.mem_map_of_mem (mem_entries_of_face? hface)
  · intro h
    by_contra hnone
    rw [face?, Bool.not_eq_true, Option.isSome_eq_false_iff, Option.isNone_iff_eq_none,
      List.lookup_eq_none_iff] at hnone
    obtain ⟨e, he, rfl⟩ := List.mem_map.mp h
    simpa using hnone e he

/-- Each position of the roll that is frozen is mentioned once. -/
theorem placed_perm :
    ((p.placed k).map Int.ofNat).Perm ((p.entries.filter (within k)).map Prod.fst) := by
  rw [List.perm_ext_iff_of_nodup]
  · intro position
    simp only [placed, within, List.mem_map, List.mem_filter, List.mem_range, isSome_face?_iff,
      Bool.and_eq_true, decide_eq_true_eq]
    constructor
    · rintro ⟨i, ⟨hi, e, he, heq⟩, rfl⟩
      exact ⟨e, ⟨he, by omega⟩, heq⟩
    · rintro ⟨e, ⟨he, hpos, hlt⟩, rfl⟩
      exact ⟨e.1.toNat, ⟨by omega, e, he, by omega⟩, Int.toNat_of_nonneg hpos⟩
  · exact (List.nodup_range.filter _).map fun _ _ => Int.ofNat.inj
  · exact p.nodup.sublist (List.filter_sublist.map Prod.fst)

theorem length_placed_add_length_stray : (p.placed k).length + (p.stray k).length = p.size := by
  have hinside := (placed_perm (p := p) (k := k)).length_eq
  rw [List.length_map, List.length_map] at hinside
  rw [hinside]
  exact (List.length_eq_length_filter_add (within k)).symm

theorem length_loose_add_length_placed : (p.loose k).length + (p.placed k).length = k := by
  have hsplit := List.length_eq_length_filter_add (l := List.range k)
    fun i : Nat => (p.face? i).isNone
  rw [List.length_range] at hsplit
  simpa [loose, placed] using hsplit.symm

end Pins

/-! ## §2 Dice that are rolled -/

/-- With frozen dice left out, each loose position has a die, and each stray one takes one away. -/
theorem SampleOrder.toNat_count_of_drop {o : SampleOrder} (h : o.includeFrozen = false) :
    o.count.toNat =
      (o.pins.loose o.diceCount.toNat).length - (o.pins.stray o.diceCount.toNat).length := by
  have hroll := o.pins.length_loose_add_length_placed (k := o.diceCount.toNat)
  have hpins := o.pins.length_placed_add_length_stray (k := o.diceCount.toNat)
  rw [count_of_drop h]
  omega

/-- The number of dice of each roll that is drawn; without a table none are. -/
def diceRolled : Except Fault RollTable → Nat
  | .ok t => t.width
  | .error _ => 0

namespace Request

variable {σ : Type} [Source σ] {s : Session σ} {g : σ} {o : SampleOrder} {die : Die}

/-- As many dice are rolled as there are; if there are none, the order is refused. -/
theorem diceRolled_sampleMany [Memory] (hdie : o.die = some die) (hrolls : 1 ≤ o.rolls)
    (hlegal : ∀ e ∈ o.pins.entries, 1 ≤ e.2 ∧ e.2 ≤ (die.faces : Int))
    (hroom : o.rolls * o.count < Memory.room) (hsource : s.source = some g) :
    diceRolled ((sampleMany o).runIn s).1 = o.count.toNat := by
  rcases Int.lt_or_le 0 o.count with hcount | hcount
  · obtain ⟨p, hp, -, hrun⟩ :=
      exists_drawsWith_sampleMany σ ⟨⟨hdie, hcount, hlegal⟩, hrolls, hroom⟩
    rw [hrun hsource, ← hp.dice]
    rfl
  · rw [runIn_sampleMany_of_refused (SampleOrder.check_of_count_le hdie hcount),
      Int.toNat_of_nonpos hcount]
    rfl

/-- **Leaving frozen dice out** takes away the dice at the frozen positions of the roll, and one
more for each position outside the roll that is frozen.  So as many dice are rolled as stay random
if frozen dice are kept in the roll, if and only if nothing is frozen outside of it, or no die is
random anyway. -/
theorem diceRolled_without_frozen [Memory] (hdie : o.die = some die) (hrolls : 1 ≤ o.rolls)
    (hlegal : ∀ e ∈ o.pins.entries, 1 ≤ e.2 ∧ e.2 ≤ (die.faces : Int))
    (hroom : o.rolls * o.count < Memory.room) (hsource : s.source = some g)
    (hdrop : o.includeFrozen = false) :
    diceRolled ((sampleMany o).runIn s).1 =
      (o.pins.loose o.diceCount.toNat).length - (o.pins.stray o.diceCount.toNat).length ∧
    (diceRolled ((sampleMany o).runIn s).1 = (o.pins.loose o.diceCount.toNat).length ↔
      o.pins.stray o.diceCount.toNat = [] ∨ o.pins.loose o.diceCount.toNat = []) := by
  have hrolled := diceRolled_sampleMany hdie hrolls hlegal hroom hsource
  rw [SampleOrder.toNat_count_of_drop hdrop] at hrolled
  refine ⟨hrolled, ?_⟩
  rw [hrolled, ← List.length_eq_zero_iff, ← List.length_eq_zero_iff]
  omega

end Request

/-- Two rolls of three dice, of which the frozen second one is left out. -/
def secondLeftOut : SampleOrder where
  rolls := 2
  die := some .d6
  diceCount := 3
  pins := Pins.ofList [(1, 4)]
  includeFrozen := false

/-- The first and the third die are random, and two dice are rolled. -/
theorem two_dice_are_left :
    secondLeftOut.die = some .d6 ∧ 1 ≤ secondLeftOut.rolls ∧
    (∀ e ∈ secondLeftOut.pins.entries, 1 ≤ e.2 ∧ e.2 ≤ (Die.d6.faces : Int)) ∧
    secondLeftOut.rolls * secondLeftOut.count < Memory.room ∧
    wheel.source = some ⟨[0, 5, 2], []⟩ ∧ secondLeftOut.includeFrozen = false ∧
    secondLeftOut.pins.loose 3 = [0, 2] ∧
    diceRolled ((Request.sampleMany secondLeftOut).runIn wheel).1 = 2 := by
  have hlegal : ∀ e ∈ secondLeftOut.pins.entries, 1 ≤ e.2 ∧ e.2 ≤ (Die.d6.faces : Int) := by decide
  have hrolled := Request.diceRolled_without_frozen (o := secondLeftOut) (s := wheel) rfl
    (by decide) hlegal (by decide) rfl rfl
  exact ⟨rfl, by decide, hlegal, by decide, rfl, rfl, by decide, hrolled.2.mpr (.inl (by decide))⟩

/-- One roll of two dice; a die that is not there is frozen, and frozen dice are left out. -/
def strayLeftOut : SampleOrder where
  rolls := 1
  die := some .d6
  diceCount := 2
  pins := Pins.ofList [(5, 3)]
  includeFrozen := false

/-- Neither of the two dice is frozen, and both are drawn if frozen dice stay in the roll; yet one
of them is taken away if they are left out. -/
theorem stray_position_takes_a_die :
    (∀ e ∈ strayLeftOut.pins.entries, 1 ≤ e.2 ∧ e.2 ≤ (Die.d6.faces : Int)) ∧
    strayLeftOut.pins.loose 2 = [0, 1] ∧
    (((Request.sampleMany { strayLeftOut with includeFrozen := true }).runIn wheel).1.toOption.map
      RollTable.rows = some [[1, 6]]) ∧
    ((Request.sampleMany strayLeftOut).runIn wheel).1.toOption.map RollTable.rows = some [[1]] ∧
    diceRolled ((Request.sampleMany strayLeftOut).runIn wheel).1 ≠
      (strayLeftOut.pins.loose 2).length := by
  decide +kernel

end DiceOdds
