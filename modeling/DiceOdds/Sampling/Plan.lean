import DiceOdds.Die
import DiceOdds.Random.Source
import DiceOdds.Sampling.Pins
import DiceOdds.Storage

/-!
# Drawing Tables of Rolls

An order says what to roll; checking it gives a plan, or the first fault in a fixed
sequence of checks.  A plan is carried out if its table can be stored: it draws a whole
block of dice, roll after roll and die after die, and then turns the frozen dice to their
faces.  Nothing is drawn before that is settled.
-/

namespace DiceOdds

/-! ## §1 Orders -/

/-- What to roll. -/
structure SampleOrder where
  /-- The number of rolls. -/
  rolls : Int
  die : Option Die
  /-- The number of dice, frozen ones included. -/
  diceCount : Int
  pins : Pins
  /-- Whether frozen dice stay in the roll. -/
  includeFrozen : Bool

/-- The number of dice that are rolled: frozen dice that do not stay are left out. -/
def effectiveCount (diceCount : Int) (pins : Pins) (includeFrozen : Bool) : Int :=
  if includeFrozen then diceCount else diceCount - pins.size

/-- The number of dice of an order. -/
def SampleOrder.count (o : SampleOrder) : Int :=
  effectiveCount o.diceCount o.pins o.includeFrozen

/-! ## §2 Plans -/

/-- A legal drawing. -/
structure SamplePlan where
  die : Die
  dice : Nat
  rolls : Nat
  /-- The dice that stay frozen in the roll. -/
  frozen : Pins
  dice_pos : 0 < dice
  rolls_pos : 0 < rolls
  legal : ∀ e ∈ frozen.entries, 1 ≤ e.2 ∧ e.2 ≤ die.faces

namespace SampleOrder

/-- The frozen dice that stay in the roll. -/
def kept (o : SampleOrder) : Pins := if o.includeFrozen then o.pins else Pins.empty

theorem legal_kept {o : SampleOrder} {die : Die} (h : o.pins.firstIllegal? die.faces = none) :
    ∀ e ∈ o.kept.entries, 1 ≤ e.2 ∧ e.2 ≤ die.faces := by
  intro e he
  unfold kept at he
  split at he
  · have := List.find?_eq_none.mp h e he
    simpa using this
  · cases he

/-- What is wrong with an order that leaves no die to roll. -/
def noDice (o : SampleOrder) : Fault := .naming [o.count] (.rejected (.noDice o.count))

/-- What is wrong with a die that is frozen to a face which it does not have. -/
def illegalPin (die : Die) (position face : Int) : Fault :=
  .naming [position, face] (.rejected (.illegalPin position face die.faces))

/-- What is wrong with an order of no rolls. -/
def noRolls (o : SampleOrder) : Fault := .naming [o.rolls] (.tooFewRolls o.rolls)

/-- Checks an order: a die, a die count, legal faces and at least one roll, in this
sequence. -/
def check (o : SampleOrder) : Except Fault SamplePlan :=
  match o.die with
  | none => .error (.rejected .noDie)
  | some die =>
    if hdice : o.count ≤ 0 then .error o.noDice
    else
      match hpins : o.pins.firstIllegal? die.faces with
      | some (position, face) => .error (illegalPin die position face)
      | none =>
        -- the number of rolls comes last
        if hrolls : o.rolls < 1 then .error o.noRolls
        else .ok
          { die
            dice := o.count.toNat
            rolls := o.rolls.toNat
            frozen := o.kept
            dice_pos := by omega
            rolls_pos := by omega
            legal := legal_kept hpins }

end SampleOrder

/-! ## §3 Drawing -/

namespace SamplePlan

variable {σ : Type} [Source σ]

/-- Rolls one die. -/
def drawDie (p : SamplePlan) (s : σ) : Int × σ :=
  Source.drawFrom 1 p.die.faces p.die.faces_pos s

/-- Rolls all dice once and turns the frozen ones to their faces. -/
def drawRoll (p : SamplePlan) (s : σ) : Roll × σ :=
  let drawn := Source.collect p.drawDie p.dice s
  (p.frozen.fix drawn.1, drawn.2)

/-- Every die of a roll shows a face of the die. -/
theorem drawRoll_faces (p : SamplePlan) (s : σ) :
    ∀ x ∈ (p.drawRoll s).1, 1 ≤ x ∧ x ≤ p.die.faces := by
  intro x hx
  rcases Pins.mem_foldl_turn hx with ⟨e, he, rfl⟩ | hx
  · exact p.legal e he
  · refine Source.forall_mem_collect (p := fun x => 1 ≤ x ∧ x ≤ (p.die.faces : Int)) ?_ _ _ x hx
    intro s
    have := Source.drawFrom_bounds 1 p.die.faces p.die.faces_pos s
    simp only [drawDie]
    omega

@[simp] theorem length_drawRoll (p : SamplePlan) (s : σ) :
    (p.drawRoll s).1.length = p.dice := by
  simp [drawRoll]

theorem holds_of_face {d : Die} {x : Int} (h : 1 ≤ x ∧ x ≤ d.faces) : Word.Holds x := by
  have := d.faces_le
  unfold Word.Holds Word.least Word.greatest
  omega

theorem collect_drawRoll_ne_nil (p : SamplePlan) (s : σ) :
    (Source.collect p.drawRoll p.rolls s).1 ≠ [] := by
  rw [← List.length_pos_iff, Source.length_collect]
  exact p.rolls_pos

/-- Draws the whole table. -/
def draw (p : SamplePlan) (s : σ) : RollTable × σ :=
  let drawn := Source.collect p.drawRoll p.rolls s
  ({ width := p.dice
     rows := drawn.1
     width_pos := p.dice_pos
     rows_ne_nil := p.collect_drawRoll_ne_nil s
     length_of_mem := Source.forall_mem_collect (fun s => p.length_drawRoll s) _ s
     holds_of_mem := Source.forall_mem_collect
       (fun s x hx => holds_of_face (p.drawRoll_faces s x hx)) _ s },
   drawn.2)

variable [Memory]

/-- What keeps the table of a plan from being stored. -/
def obstacle? (p : SamplePlan) : Option Fault := Storage.obstacle? [p.rolls, p.dice]

/-- Carries out a plan, if its table can be stored. -/
def carryOut (p : SamplePlan) (s : σ) : Except Fault (RollTable × σ) :=
  match p.obstacle? with
  | some fault => .error fault
  | none => .ok (p.draw s)

theorem carryOut_of_obstacle?_eq_none {p : SamplePlan} (h : p.obstacle? = none) (s : σ) :
    p.carryOut s = .ok (p.draw s) := by
  simp [carryOut, h]

end SamplePlan

end DiceOdds
