import DiceOdds.Roll.Score

/-!
# Reading and Judging

A test decides a roll in two steps: it reads something off the roll, and then judges what
it has read.  A parameter that takes part in the second step only can be varied without
looking at the rolls again.  Reading first and judging afterwards is the same as scoring.
-/

namespace DiceOdds

/-! ## §1 The two steps -/

/-- What is read off a roll. -/
inductive Reading where
  /-- A number of dice, or a statistic. -/
  | number (x : Int)
  /-- The lengths of stretches. -/
  | lengths (ns : List Nat)
  /-- Whether a walk stands in the roll, which leaves nothing to judge. -/
  | verdict (b : Bool)
  deriving DecidableEq, Repr

namespace Test

variable [Memory]

/-- What a test reads off a roll. -/
def read (t : Test) (r : Roll) : Except Fault Reading :=
  match t with
  | .each _ target => .ok (.number (r.countP target.hits))
  | .run _ target => .ok (.lengths (Roll.stretches target.hits r))
  | .sequence span => (Roll.scoreWalk span r).map .verdict
  | .statistic s _ => (s.ofRoll r).map .number

/-- How a test judges what it has read.  It accepts nothing that it does not read. -/
def judge (t : Test) (reading : Reading) : Bool :=
  match t, reading with
  | .each quota _, .number n => quota.admits n
  | .run quota _, .lengths ns => ns.any fun n => quota.admits n
  | .sequence _, .verdict b => b
  | .statistic _ target, .number x => target.hits x
  | _, _ => false

/-- A score is a judgement of a reading. -/
theorem score_eq_judge (t : Test) (r : Roll) : t.score r = (t.read r).map t.judge := by
  cases t with
  | each quota target => rfl
  | run quota target => rfl
  | sequence span =>
    simp only [score, read]
    cases Roll.scoreWalk span r <;> rfl
  | statistic s target =>
    simp only [score, read]
    cases s.ofRoll r <;> rfl

/-! ## §2 Parameters -/

/-- Whether a parameter takes part in reading. -/
def readsWith (t : Test) (axis : Axis) : Bool :=
  match t, axis with
  | .each _ _, .quantity => false
  | .each _ _, _ => true
  | .run _ _, .quantity => false
  | .run _ _, _ => true
  | .sequence _, .rangeLower => true
  | .sequence _, .rangeUpper => true
  | .sequence _, _ => false
  | .statistic _ _, _ => false

/-- A parameter that takes no part in reading does not change what is read. -/
theorem read_set {t : Test} {axis : Axis} (h : t.readsWith axis = false) (x : Int) :
    (t.set axis x).read = t.read := by
  match t, axis, h with
  | .each _ _, .quantity, _ => rfl
  | .run _ _, .quantity, _ => rfl
  | .sequence _, .quantity, _ => rfl
  | .sequence _, .value, _ => rfl
  | .statistic _ _, _, _ => rfl

/-- Nor does it change what is laid out for reading. -/
theorem layOut_set {t : Test} {axis : Axis} (h : t.readsWith axis = false) (x : Int) :
    (t.set axis x).layOut = t.layOut := by
  match t, axis, h with
  | .each _ _, .quantity, _ => rfl
  | .run _ _, .quantity, _ => rfl
  | .sequence _, .quantity, _ => rfl
  | .sequence _, .value, _ => rfl
  | .statistic _ _, _, _ => rfl

end Test

/-! ## §3 Tables -/

/-- What a test reads off the rolls of a table. -/
def RollTable.readings [Memory] (t : RollTable) (test : Test) : Except Fault (List Reading) :=
  (test.layOut t.size t.width).bind fun _ => t.rows.mapM test.read

/-- A parameter that takes no part in reading does not change the readings. -/
theorem RollTable.readings_set [Memory] (t : RollTable) {test : Test} {axis : Axis}
    (h : test.readsWith axis = false) (x : Int) :
    t.readings (test.set axis x) = t.readings test := by
  rw [readings, Test.layOut_set h, Test.read_set h, readings]

/-- Members that pass a fallible step one by one can go through the next step together. -/
theorem mapM_map_eq {ε α β γ : Type} (f : α → Except ε β) (g : β → γ) (xs : List α) :
    xs.mapM (fun x => (f x).map g) = (xs.mapM f).map (List.map g) := by
  induction xs with
  | nil => rfl
  | cons x xs ih =>
    rw [List.mapM_cons, List.mapM_cons, ih]
    cases f x with
    | error e => rfl
    | ok y => cases xs.mapM f <;> rfl

/-- The scores of a table are the judgements of its readings. -/
theorem RollTable.score_eq_readings [Memory] (t : RollTable) (c : Clause) :
    t.score c = (t.readings c.test).map (List.map c.test.judge) := by
  have heach : c.score = fun r => (c.test.read r).map c.test.judge :=
    funext fun r => Test.score_eq_judge c.test r
  rw [score_eq_mapM, heach, mapM_map_eq, readings]
  cases c.test.layOut t.size t.width <;> rfl

end DiceOdds
