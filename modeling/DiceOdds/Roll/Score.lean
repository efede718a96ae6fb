import DiceOdds.Roll.Runs
import DiceOdds.Roll.Sequence
import DiceOdds.Roll.Statistic

/-!
# Scoring a Roll

Whether a roll passes the test of a clause, and which rolls of a table do.  A table asks for
more room than each of its rolls, since a sequence is looked for in all rolls at once; with
that room the rolls are decided as they are on their own (`score_eq_mapM`).
-/

namespace DiceOdds

variable [Memory]

/-! ## §1 Tests -/

/-- Whether a roll passes a test. -/
def Test.score (t : Test) (r : Roll) : Except Fault Bool :=
  match t with
  | .each quota target => .ok (quota.admits (r.countP target.hits))
  | .run quota target => .ok ((Roll.stretches target.hits r).any fun n => quota.admits n)
  | .sequence span => Roll.scoreWalk span r
  | .statistic s target => (s.ofRoll r).map target.hits

/-- Whether a roll passes the test of a clause. -/
def Clause.score (c : Clause) (r : Roll) : Except Fault Bool := c.test.score r

/-- What a test lays out before it looks at so many rolls of so many dice. -/
def Test.layOut (t : Test) (rolls dice : Nat) : Except Fault Unit :=
  match t with
  | .sequence span => (span.layOut rolls dice).map fun _ => ()
  | _ => .ok ()

/-- Which rolls of a table pass the test of a clause. -/
def RollTable.score (t : RollTable) (c : Clause) : Except Fault (List Bool) :=
  (c.test.layOut t.size t.width).bind fun _ =>
    match c.test with
    | .run quota target => .ok (t.scan quota target)
    | test => t.rows.mapM test.score

/-- With the room for it, the rolls of a table pass a test as they do on their own. -/
theorem RollTable.score_eq_mapM (t : RollTable) (c : Clause) :
    t.score c = (c.test.layOut t.size t.width).bind fun _ => t.rows.mapM c.score := by
  unfold score
  congr 1
  funext _
  split
  · next quota target htest =>
    have hrolls : c.score = fun r =>
        pure ((Roll.stretches target.hits r).any fun n => quota.admits n) := by
      funext r
      rw [Clause.score, htest, Test.score]
      rfl
    rw [hrolls, t.scan_eq, List.mapM_pure]
    rfl
  · rfl

/-- Drafts decide nothing before they are checked. -/
def RollTable.scoreDraft (_ : RollTable) (_ : Draft) : Except Fault (List Bool) :=
  .error .unchecked

/-- The first roll of a table decides. -/
def RollTable.scoreFirst (t : RollTable) (c : Clause) : Except Fault Bool :=
  (t.score c).map fun verdicts => verdicts.headD false

/-! ## §2 Plain numbers -/

/-- Passes machine words on. -/
def requireWords (xs : List Int) : Except Fault (List Int) :=
  if xs.all fun x => Word.Holds x then .ok xs else .error .tooWide

/-- Compares each number with a value or a span. -/
def compareAll (xs : List Int) (comparison : Option Comparison) (value : Int) (span : Span) :
    Except Fault (List Bool) :=
  (requireWords xs).bind fun xs =>
    match comparison with
    | none => .error .noComparison
    | some c => .ok (xs.map (c.holds value span))

/-- Holds each count against a bound on the quantity. -/
def boundAll (counts : List Int) (bound : Option Bound) (quantity : Int) :
    Except Fault (List Bool) :=
  (requireWords counts).bind fun counts =>
    match bound with
    | none => .error .noBound
    | some b => .ok (counts.map (b.admits quantity))

end DiceOdds
