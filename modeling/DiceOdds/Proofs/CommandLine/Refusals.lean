import DiceOdds.CommandLine.Report
import DiceOdds.Proofs.Clause.Completeness
import DiceOdds.Proofs.CommandLine.Pins
import DiceOdds.Proofs.Mentions
import DiceOdds.Proofs.Roll.Verdicts
import DiceOdds.Proofs.Sampling.Orders
import Mathlib.Data.Finset.Card

/-!
# Refused Frozen Dice

Frozen dice are given one by one, and a position may be given more than once: its last face counts,
and its place is that of its first mention.  A run that simulates an event is refused for a frozen
die exactly if some last face is none of the die, and what it blames is the position that was
mentioned first among those (`blamed?_perform`).  Nothing else in a run blames a frozen die: the
events of the games are complete, and what comes behind the check of the order has other faults.

**Main statement**: `last_faces_are_checked_in_order_of_mention`.
-/

namespace DiceOdds

open Ordered (last?)

/-! ## §1 The map of frozen dice -/

namespace Pins

/-- Every position has its last face. -/
theorem face?_ofList (es : List (Int × Int)) (position : Int) :
    (ofList es).face? position = last? es position :=
  Ordered.lookup_ofList es position

/-- There are as many frozen dice as positions are mentioned. -/
theorem size_ofList (es : List (Int × Int)) :
    (ofList es).size = (es.map Prod.fst).toFinset.card := by
  have hkeys : (es.map Prod.fst).toFinset = ((ofList es).entries.map Prod.fst).toFinset := by
    ext position
    rw [List.mem_toFinset, List.mem_toFinset]
    exact Ordered.mem_keys_ofList.symm
  rw [hkeys, List.toFinset_card_of_nodup (ofList es).nodup, List.length_map, size]

/-- The frozen die stands on its last face, which the die does not have, and no other such die is
mentioned before it. -/
structure IsFirstIllegal (es : List (Int × Int)) (faces : Nat) (e : Int × Int) : Prop where
  last : last? es e.1 = some e.2
  illegal : ¬(1 ≤ e.2 ∧ e.2 ≤ (faces : Int))
  first : ∀ d : Int × Int, last? es d.1 = some d.2 → ¬(1 ≤ d.2 ∧ d.2 ≤ (faces : Int)) →
    (es.map Prod.fst).idxOf e.1 ≤ (es.map Prod.fst).idxOf d.1

theorem firstIllegal?_ofList_eq_some_iff {es : List (Int × Int)} {faces : Nat} {e : Int × Int} :
    (ofList es).firstIllegal? faces = some e ↔ IsFirstIllegal es faces e := by
  have hillegal : ∀ d : Int × Int, (!(1 ≤ d.2 && d.2 ≤ (faces : Int))) = true ↔
      ¬(1 ≤ d.2 ∧ d.2 ≤ (faces : Int)) := by
    intro d
    rw [Bool.not_eq_true', ← Bool.not_eq_true, Bool.and_eq_true, decide_eq_true_iff,
      decide_eq_true_iff]
  rw [firstIllegal?, ofList, Ordered.find?_ofList_eq_some_iff]
  simp only [hillegal]
  constructor
  · rintro ⟨⟨hlast, hbad⟩, hfirst⟩
    exact ⟨hlast, hbad, hfirst⟩
  · rintro ⟨hlast, hbad, hfirst⟩
    exact ⟨⟨hlast, hbad⟩, hfirst⟩

theorem isSome_firstIllegal?_ofList_iff {es : List (Int × Int)} {faces : Nat} :
    ((ofList es).firstIllegal? faces).isSome ↔
      ∃ position face, last? es position = some face ∧ ¬(1 ≤ face ∧ face ≤ (faces : Int)) := by
  rw [Option.isSome_iff_ne_none, Ne, firstIllegal?_eq_none_iff]
  constructor
  · intro h
    simp only [not_forall] at h
    obtain ⟨e, he, hbad⟩ := h
    exact ⟨e.1, e.2, Ordered.mem_ofList_iff.mp he, hbad⟩
  · rintro ⟨position, face, hlast, hbad⟩ hlegal
    exact hbad (hlegal (position, face) (Ordered.mem_ofList_iff.mpr hlast))

end Pins

theorem effectiveCount_ofList (diceCount : Int) (es : List (Int × Int)) :
    effectiveCount diceCount (Pins.ofList es) false =
      diceCount - (es.map Prod.fst).toFinset.card := by
  rw [effectiveCount, Pins.size_ofList]
  rfl

/-! ## §2 The events of the games -/

theorem complete_of_mem_plainEvents (g : Game) : ∀ e ∈ g.plainEvents,
    e.drafts ≠ [] ∧ ∀ d ∈ e.drafts, (d.withDie (some .d6)).Complete false := by
  cases g <;> decide +kernel

/-- An event for a die is accepted. -/
theorem exists_checkAll_event {game : Game} {name : String} {die : Die} {event : Event}
    (h : game.event name (some die) = .ok event) : ∃ cs, Draft.checkAll event.drafts = .ok cs := by
  unfold Game.event at h
  split at h
  · next found hfound =>
    cases h
    obtain ⟨plain, hplain, rfl⟩ := List.mem_map.mp (List.mem_of_find?_eq_some hfound)
    obtain ⟨hne, hcomplete⟩ := complete_of_mem_plainEvents game plain hplain
    refine Draft.exists_checkAll_eq_ok (by simpa [Event.forDie] using hne) fun d hd => ?_
    obtain ⟨draft, hdraft, rfl⟩ := List.mem_map.mp hd
    -- it makes no difference which die it is
    have hd6 := hcomplete draft hdraft
    exact ⟨Option.some_ne_none die, hd6.link, hd6.reduction, hd6.comparison, hd6.bound⟩
  · cases h

namespace CommandLine

/-! ## §3 Who is blamed -/

/-- The frozen die that is blamed, with the number of faces that the die has. -/
def Trouble.pin? : Trouble → Option (Int × Int × Nat)
  | .fault (.rejected (.illegalPin position face faces)) => some (position, face, faces)
  | _ => none

/-- The frozen die for which a computation is refused. -/
def blamed? {α : Type} (x : Except Trouble α) : Option (Int × Int × Nat) :=
  (faultOf x).bind Trouble.pin?

section Blame

variable {α β : Type}

theorem blamed?_eq_some_iff {x : Except Trouble α} {position face : Int} {faces : Nat} :
    blamed? x = some (position, face, faces) ↔
      x = .error (.fault (.rejected (.illegalPin position face faces))) := by
  rw [blamed?, Option.bind_eq_some_iff]
  constructor
  · rintro ⟨trouble, htrouble, hpin⟩
    unfold Trouble.pin? at hpin
    split at hpin
    · cases hpin
      exact faultOf_eq_some_iff.mp htrouble
    · cases hpin
  · rintro rfl
    exact ⟨_, rfl, rfl⟩

/-- Where neither the one nor the other blames a frozen die, both together do not. -/
theorem blamed?_bind_eq_none {x : Except Trouble α} {f : α → Except Trouble β}
    (hx : blamed? x = none) (hf : ∀ a, blamed? (f a) = none) : blamed? (x >>= f) = none := by
  cases x with
  | ok a => exact hf a
  | error trouble => exact hx

/-- What follows does not change who is blamed, unless it blames somebody itself. -/
theorem blamed?_bind {x : Except Trouble α} {f : α → Except Trouble β}
    (hf : ∀ a, blamed? (f a) = none) : blamed? (x >>= f) = blamed? x := by
  cases x with
  | ok a => exact hf a
  | error trouble => rfl

/-- A step that succeeds hands on its result. -/
theorem ok_mapError_bind {ε : Type} (g : ε → Trouble) (a : α) (f : α → Except Trouble β) :
    ((Except.ok a : Except ε α).mapError g >>= f) = f a := rfl

theorem blamed?_mapError_fault {x : Except Fault α}
    (h : ∀ position face faces, faultOf x ≠ some (.rejected (.illegalPin position face faces))) :
    blamed? (x.mapError .fault) = none := by
  rw [Option.eq_none_iff_forall_ne_some]
  rintro ⟨position, face, faces⟩ hblamed
  rw [blamed?_eq_some_iff, ← faultOf_eq_some_iff, faultOf_mapError,
    Option.map_eq_some_iff] at hblamed
  obtain ⟨f, hf, heq⟩ := hblamed
  cases heq
  exact h position face faces hf

end Blame

/-! ## §4 Steps of a run -/

/-- With dice to roll, an order is refused for the first frozen die that is illegal. -/
theorem blamed?_check {o : SampleOrder} {die : Die} (hdie : o.die = some die)
    (hcount : 0 < o.count)
    (hwritable : ∀ e ∈ o.pins.entries, Text.isWritable e.1 ∧ Text.isWritable e.2) :
    blamed? (o.check.mapError .fault) =
      (o.pins.firstIllegal? die.faces).map fun e => (e.1, e.2, die.faces) := by
  cases hpins : o.pins.firstIllegal? die.faces with
  | some e =>
    obtain ⟨hposition, hface⟩ := hwritable e (List.mem_of_find?_eq_some hpins)
    have hfault : SampleOrder.illegalPin die e.1 e.2 =
        .rejected (.illegalPin e.1 e.2 die.faces) :=
      Fault.naming_of_writable _ (by simp [hposition, hface])
    rw [SampleOrder.check_of_illegal hdie hcount hpins, hfault]
    rfl
  | none =>
    refine blamed?_mapError_fault fun position face faces hfault => ?_
    have hcheck := faultOf_eq_some_iff.mp hfault
    simp only [SampleOrder.check, hdie, dif_neg (Int.not_le.mpr hcount)] at hcheck
    split at hcheck
    · next hillegal => cases hpins.symm.trans hillegal
    · split at hcheck
      · cases Fault.eq_of_naming_eq_rejected (Except.error.inj hcheck)
      · cases hcheck

/-- However many rolls are asked for, an order is refused for its frozen dice. -/
theorem blamed?_plan {os : Options} {order : OpenOrder} {cfg : Settings} {die : Die}
    (hdie : order.die = some die) (hcount : 0 < (order.fill cfg).count)
    (hwritable : ∀ e ∈ order.pins.entries, Text.isWritable e.1 ∧ Text.isWritable e.2) :
    blamed? (os.plan order cfg) =
      (order.pins.firstIllegal? die.faces).map fun e => (e.1, e.2, die.faces) := by
  have hcheck : ∀ rolls : Option Int,
      blamed? (({ order with rolls }.fill cfg).check.mapError .fault) =
        (order.pins.firstIllegal? die.faces).map fun e => (e.1, e.2, die.faces) :=
    fun rolls => blamed?_check (o := { order with rolls }.fill cfg) hdie hcount hwritable
  unfold Options.plan
  split
  · -- the missing number of rolls is not blamed on a frozen die
    rw [← hcheck (some 1)]
    cases ({ order with rolls := some 1 }.fill cfg).check <;> rfl
  · exact hcheck _
  · exact hcheck order.rolls

theorem blamed?_carryOut [Memory] {σ : Type} [Source σ] (plan : SamplePlan) (g : σ) :
    blamed? ((plan.carryOut g).mapError .fault) = none := by
  refine blamed?_mapError_fault fun position face faces hfault => ?_
  unfold SamplePlan.carryOut at hfault
  split at hfault
  · next fault hobstacle =>
    cases hfault
    exact Storage.obstacle?_ne_rejected _ _ hobstacle
  · cases hfault

theorem blamed?_estimate [Memory] {α : Type} [Numeric α] (t : RollTable) (cs : List Clause) :
    blamed? ((t.estimate cs : Except Fault (Estimate α)).mapError .fault) = none := by
  refine blamed?_mapError_fault fun position face faces hfault => ?_
  rw [RollTable.estimate, faultOf_map, RollTable.faultOf_verdicts, Option.or_eq_some_iff] at hfault
  rcases hfault with hobstacle | ⟨-, hchain⟩
  · exact t.obstacle?_ne_rejected cs _ hobstacle
  · obtain ⟨fault, -, heq⟩ := Option.map_eq_some_iff.mp hchain
    cases heq

theorem blamed?_requireChance {α : Type} [Numeric α] (p : α) :
    blamed? ((FirstSuccess.requireChance p).mapError .fault) = none := by
  unfold FirstSuccess.requireChance
  split <;> rfl

theorem blamed?_ofHorizon [Memory] {α : Type} [Numeric α] (p : α) (horizon : Int) :
    blamed? ((FirstSuccess.ofHorizon p horizon).mapError .fault) = none := by
  refine blamed?_mapError_fault fun position face faces hfault => ?_
  unfold FirstSuccess.ofHorizon at hfault
  split at hfault
  · cases Fault.eq_of_naming_eq_rejected (Option.some.inj hfault)
  · cases hrow : Storage.rowLength horizon with
    | error fault =>
      rw [hrow] at hfault
      cases hfault
      exact Storage.faultOf_rowLength_ne_rejected horizon _ (faultOf_eq_some_iff.mpr hrow)
    | ok rolls =>
      rw [hrow] at hfault
      cases hnought : Numeric.isNought p with
      | false =>
        rw [hnought] at hfault
        cases hfault
      | true =>
        -- without a chance there is a row of noughts to be stored
        rw [hnought] at hfault
        cases hstored : Storage.require [horizon] with
        | ok _ =>
          rw [hstored] at hfault
          cases hfault
        | error fault =>
          rw [hstored] at hfault
          cases hfault
          exact Storage.faultOf_require_ne_rejected _ _ (faultOf_eq_some_iff.mpr hstored)

/-! ## §5 Runs -/

/-- The options ask for an event of a game, with a die, with so many dice or as many as the settings
say, and with frozen dice, none of them left without a value. -/
structure Options.AsksFor (os : Options) (die : Die) (diceCount : Option Int)
    (es : List (Int × Int)) : Prop where
  event : ∃ game name event, os.game = .value game ∧ os.preset = some (.value name) ∧
    game.event name (some die) = .ok event
  die : os.die = .value die
  count : os.count = diceCount.map .value
  pins : os.pins = es.map .value

theorem pinEntries_value (index : Nat) (es : List (Int × Int)) :
    pinEntries index (es.map .value) = .ok es := by
  induction es generalizing index with
  | nil => rfl
  | cons e es ih =>
    rw [List.map_cons, pinEntries, ih]
    rfl

theorem get?_value {α : Type} (gap : Gap) (a : Option α) :
    Given.get? gap (a.map .value) = .ok a := by
  cases a <;> rfl

theorem startGenerator_of_neg {seed : Int} (h : seed < 0) :
    Request.startGenerator seed = .error .negativeSeed := by
  rw [Request.startGenerator, Random.Permuted.ofInt?, if_pos h]

theorem exists_startGenerator {seed : Int} (h : 0 ≤ seed) :
    ∃ g, Request.startGenerator seed = .ok g := by
  rw [Request.startGenerator, Random.Permuted.ofInt?, if_neg (by omega)]
  exact ⟨_, rfl⟩

section Runs

variable [Memory] {os : Options} {die : Die} {cfg : Settings} {entropy : Nat}
  {diceCount : Option Int} {es : List (Int × Int)}

/-- The frozen dice that a run is refused for are those that its order is refused for, once the
generator is started. -/
theorem blamed?_simulateEvent {event : Event} {cs : List Clause}
    (hchecked : Draft.checkAll event.drafts = .ok cs) (hasks : os.AsksFor die diceCount es)
    (hcount : 0 < effectiveCount (diceCount.getD cfg.diceCount) (Pins.ofList es)
      (!os.noFrozen && cfg.includeFrozen))
    (hwritable : ∀ e ∈ es, Text.isWritable e.1 ∧ Text.isWritable e.2) :
    blamed? (simulateEvent os die event cfg entropy) =
      if 0 ≤ os.startSeed (cfg.seed.getD entropy) then
        ((Pins.ofList es).firstIllegal? die.faces).map fun e => (e.1, e.2, die.faces)
      else none := by
  simp only [simulateEvent, hasks.pins, pinEntries_value, hasks.count, get?_value, hchecked,
    ok_mapError_bind]
  split
  · next hseed =>
    obtain ⟨g, hg⟩ := exists_startGenerator hseed
    rw [hg, ok_mapError_bind]
    have hpins : ∀ e ∈ (Pins.ofList es).entries, Text.isWritable e.1 ∧ Text.isWritable e.2 :=
      fun e he => hwritable e (Ordered.mem_of_last? (Ordered.mem_ofList_iff.mp he))
    have hplan : blamed? (os.plan
        { die := some die
          diceCount
          pins := Pins.ofList es
          includeFrozen := some (!os.noFrozen && cfg.includeFrozen) } cfg) =
        ((Pins.ofList es).firstIllegal? die.faces).map fun e => (e.1, e.2, die.faces) :=
      blamed?_plan rfl hcount hpins
    refine (blamed?_bind fun plan => ?_).trans hplan
    refine blamed?_bind_eq_none (blamed?_carryOut plan g) fun drawn => ?_
    refine blamed?_bind_eq_none (blamed?_estimate drawn.1 cs) fun estimate => ?_
    refine blamed?_bind_eq_none (blamed?_requireChance estimate.probability) fun _ => ?_
    exact blamed?_bind_eq_none (blamed?_ofHorizon estimate.probability cfg.horizon) fun _ => rfl
  · next hseed =>
    rw [startGenerator_of_neg (by omega)]
    rfl

theorem blamed?_perform (hasks : os.AsksFor die diceCount es)
    (hcount : 0 < effectiveCount (diceCount.getD cfg.diceCount) (Pins.ofList es)
      (!os.noFrozen && cfg.includeFrozen))
    (hwritable : ∀ e ∈ es, Text.isWritable e.1 ∧ Text.isWritable e.2) :
    blamed? (perform os cfg entropy) =
      if 0 ≤ os.startSeed (cfg.seed.getD entropy) then
        ((Pins.ofList es).firstIllegal? die.faces).map fun e => (e.1, e.2, die.faces)
      else none := by
  obtain ⟨game, name, event, hgame, hpreset, hevent⟩ := hasks.event
  obtain ⟨cs, hchecked⟩ := exists_checkAll_event hevent
  have hfound : os.event game die = some (.ok event) := by
    rw [Options.event, hpreset]
    exact congrArg some hevent
  simp only [perform, hgame, hasks.die, Given.get, ok_mapError_bind, hfound]
  exact (blamed?_bind fun _ => rfl).trans (blamed?_simulateEvent hchecked hasks hcount hwritable)

/-- The run is refused for a frozen die. -/
def Options.RefusedFor (os : Options) (cfg : Settings) (entropy : Nat) (position face : Int)
    (faces : Nat) : Prop :=
  perform os cfg entropy = .error (.fault (.rejected (.illegalPin position face faces)))

/-- **A run is refused for the frozen die that is mentioned first** among those whose last face is
illegal, and for no other. -/
theorem refusedFor_iff (hasks : os.AsksFor die diceCount es)
    (hcount : 0 < effectiveCount (diceCount.getD cfg.diceCount) (Pins.ofList es)
      (!os.noFrozen && cfg.includeFrozen))
    (hwritable : ∀ e ∈ es, Text.isWritable e.1 ∧ Text.isWritable e.2)
    (position face : Int) (faces : Nat) :
    os.RefusedFor cfg entropy position face faces ↔
      (0 ≤ os.startSeed (cfg.seed.getD entropy) ∧ faces = die.faces) ∧
        Pins.IsFirstIllegal es die.faces (position, face) := by
  rw [Options.RefusedFor, ← blamed?_eq_some_iff, blamed?_perform hasks hcount hwritable,
    ← Pins.firstIllegal?_ofList_eq_some_iff]
  split
  · next hseed =>
    rw [Option.map_eq_some_iff]
    constructor
    · rintro ⟨e, he, heq⟩
      cases heq
      exact ⟨⟨hseed, rfl⟩, he⟩
    · rintro ⟨⟨-, rfl⟩, he⟩
      exact ⟨_, he, rfl⟩
  · next hseed => exact iff_of_false nofun fun h => hseed h.1.1

theorem exists_refusedFor_iff (hasks : os.AsksFor die diceCount es)
    (hcount : 0 < effectiveCount (diceCount.getD cfg.diceCount) (Pins.ofList es)
      (!os.noFrozen && cfg.includeFrozen))
    (hwritable : ∀ e ∈ es, Text.isWritable e.1 ∧ Text.isWritable e.2) :
    (∃ position face faces, os.RefusedFor cfg entropy position face faces) ↔
      0 ≤ os.startSeed (cfg.seed.getD entropy) ∧
        ∃ position face, last? es position = some face ∧
          ¬(1 ≤ face ∧ face ≤ (die.faces : Int)) := by
  simp only [refusedFor_iff hasks hcount hwritable]
  constructor
  · rintro ⟨position, face, faces, ⟨hseed, -⟩, hfirst⟩
    exact ⟨hseed, position, face, hfirst.last, hfirst.illegal⟩
  · rintro ⟨hseed, hillegal⟩
    obtain ⟨e, he⟩ :=
      Option.isSome_iff_exists.mp (Pins.isSome_firstIllegal?_ofList_iff.mpr hillegal)
    exact ⟨e.1, e.2, die.faces, ⟨hseed, rfl⟩, Pins.firstIllegal?_ofList_eq_some_iff.mp he⟩

end Runs

/-- **Frozen dice on the command line.**  Written as texts, positions and faces are read back; a
text without a sign, or without literals before and behind the first one, is no frozen die, however
long the literals may be.  Arguments that freeze dice add just these dice to the options, and the
map that is made of them holds the last face of each position, with one entry for each position that
is mentioned.  The numbers of frozen dice that come from arguments can be written.

Where dice are left to roll, a run that simulates an event is refused exactly for the position that
is mentioned first among those whose last face the die does not have, together with that face,
provided that its generator can be started.  A position whose last face is legal is never blamed,
whatever faces it was given before. -/
theorem last_faces_are_checked_in_order_of_mention [Memory] (es : List (Int × Int)) :
    (∀ e ∈ es, readPin (pinText e) = .ok e) ∧
    (∀ s : String, '=' ∉ s.toList → readPin s = .error (.noSign s)) ∧
    (∀ (s : String) (before behind : List Char), s.toList = before ++ '=' :: behind →
      '=' ∉ before → (¬∃ x, Text.IsLiteral before x) ∨ (¬∃ x, Text.IsLiteral behind x) →
      readPin s = .error (.notIntegers s)) ∧
    (∀ s fault, readPin s = .error fault → readPinWith Text.readShortInt? s = .error fault) ∧
    (∀ before os, Options.ofArguments before = .ok os → "--" ∉ before →
      (∀ e ∈ es, Text.isWritable e.1 ∧ Text.isWritable e.2) →
      Options.ofArguments (before ++ es.map pinArgument) =
        .ok { os with pins := os.pins ++ es.map .value }) ∧
    (∀ arguments os, Options.ofArguments arguments = .ok os → os.Writable) ∧
    (∀ position, (Pins.ofList es).face? position = last? es position) ∧
    (∀ diceCount : Int, effectiveCount diceCount (Pins.ofList es) false =
      diceCount - (es.map Prod.fst).toFinset.card) ∧
    ∀ (os : Options) (cfg : Settings) (entropy : Nat) (die : Die) (diceCount : Option Int),
      os.AsksFor die diceCount es → os.Writable →
      0 < effectiveCount (diceCount.getD cfg.diceCount) (Pins.ofList es)
        (!os.noFrozen && cfg.includeFrozen) →
      (∀ position face faces, os.RefusedFor cfg entropy position face faces ↔
        (0 ≤ os.startSeed (cfg.seed.getD entropy) ∧ faces = die.faces) ∧
          Pins.IsFirstIllegal es die.faces (position, face)) ∧
      ((∃ position face faces, os.RefusedFor cfg entropy position face faces) ↔
        0 ≤ os.startSeed (cfg.seed.getD entropy) ∧
          ∃ position face, last? es position = some face ∧ ¬(1 ≤ face ∧ face ≤ die.faces)) ∧
      ∀ position last, last? es position = some last → 1 ≤ last ∧ last ≤ die.faces →
        ∀ face faces, ¬os.RefusedFor cfg entropy position face faces := by
  refine ⟨fun e _ => readPin_pinText e, fun s => readPin_of_notMem,
    fun s before behind => readPin_of_not_literal, fun s fault => readPinWith_short_of_error,
    fun before os hbefore hplain hes => ofArguments_append_pins hbefore hplain hes,
    fun arguments os => writable_ofArguments, Pins.face?_ofList es,
    fun diceCount => effectiveCount_ofList diceCount es,
    fun os cfg entropy die diceCount hasks hos hcount => ?_⟩
  have hwritable : ∀ e ∈ es, Text.isWritable e.1 ∧ Text.isWritable e.2 := fun e he =>
    hos e (hasks.pins ▸ List.mem_map_of_mem he)
  refine ⟨refusedFor_iff hasks hcount hwritable, exists_refusedFor_iff hasks hcount hwritable, ?_⟩
  intro position last hlast hlegal face faces hrefused
  -- the face that is blamed would be the last one, which is legal
  obtain ⟨-, hfirst⟩ := (refusedFor_iff hasks hcount hwritable position face faces).mp hrefused
  cases hlast.symm.trans hfirst.last
  exact hfirst.illegal hlegal

/-- The first die is turned to a nine and then to a three, the second one to a seven. -/
def turnedAgain : List (Int × Int) := [(0, 9), (1, 7), (0, 3)]

/-- The nine is overridden, so that the seven is what the run is refused for. -/
theorem overridden_nine_is_not_blamed :
    readPin "1=7" = .ok (1, 7) ∧ readPin "1=7=" = .error (.notIntegers "1=7=") ∧
    ∃ os, Options.ofArguments (["--preset", "Snake Eyes"] ++ turnedAgain.map pinArgument) = .ok os ∧
      os.AsksFor .d6 none turnedAgain ∧
      0 < effectiveCount 5 (Pins.ofList turnedAgain) true ∧
      os.RefusedFor {} 0 1 7 6 ∧ ∀ face faces, ¬os.RefusedFor {} 0 0 face faces := by
  obtain ⟨hread, -, hunread, -, hpinned, hwritable, -, -, hrun⟩ :=
    last_faces_are_checked_in_order_of_mention turnedAgain
  have harguments := hpinned ["--preset", "Snake Eyes"] _ rfl (by decide) (by decide +kernel)
  have hasks : ({ preset := some (.value "Snake Eyes"), pins := turnedAgain.map .value } :
      Options).AsksFor .d6 none turnedAgain :=
    ⟨⟨.examples, _, _, rfl, rfl, rfl⟩, rfl, rfl, rfl⟩
  obtain ⟨hrefused, -, hlegal⟩ := hrun _ {} 0 .d6 none hasks (hwritable _ _ harguments) (by decide)
  refine ⟨hread (1, 7) (by decide), ?_, _, harguments, hasks, by decide, ?_, ?_⟩
  · refine hunread "1=7=" ['1'] ['7', '='] rfl (by decide) (.inr ?_)
    rintro ⟨x, hx⟩
    exact hx.eq_notMem (by decide)
  · exact (hrefused 1 7 6).mpr
      ⟨⟨by decide, rfl⟩, Pins.firstIllegal?_ofList_eq_some_iff.mp (by decide)⟩
  · exact hlegal 0 3 rfl (by decide)

end CommandLine

end DiceOdds
