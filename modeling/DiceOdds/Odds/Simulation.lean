import DiceOdds.Odds.Outcome
import DiceOdds.Clause.Check
import DiceOdds.Session

/-!
# Simulations

Estimating how often drafts of clauses hold: over a table that is there, over one that
is drawn, for a single roll, and for several named lists of drafts on one shared table.
-/

namespace DiceOdds

variable [Memory] {α : Type} [Numeric α]

/-! ## §1 On a table -/

/-- Checks drafts and estimates them over a table. -/
def RollTable.simulate (t : RollTable) (ds : List Draft) : Except Fault (Estimate α) :=
  match Draft.checkAll ds with
  | .error e => .error (.rejected e)
  | .ok cs => t.estimate cs

/-- Drafts for a die, as far as they do not name one themselves. -/
def forDie (die : Option Die) (ds : List Draft) : List Draft :=
  match die with
  | none => ds
  | some _ => ds.map fun d => if d.die.isSome then d else d.withDie die

/-- Whether one concrete roll satisfies drafts; those that name no die get `die`. -/
def decideRoll (ds : List Draft) (die : Option Die) (r : Roll) : Except Fault Bool :=
  match Draft.checkAll (forDie die ds) with
  | .error e => .error (.rejected e)
  | .ok cs =>
    match (Nested.ofRows [r]).toTable with
    | .error e => .error e
    | .ok t => (t.verdicts cs).map fun verdicts => verdicts.headD false

/-! ## §2 On a supply -/

/-- Estimates how often drafts hold.  The drafts are checked before the table is drawn. -/
def Request.simulate {σ : Type} [Source σ] (ds : List Draft) (supply : Supply) :
    Request σ (Estimate α) := do
  let cs ← ofChecked (Draft.checkAll ds)
  let t ← table supply
  ofExcept (t.estimate cs)

/-! ## §3 Several named lists -/

/-- The outcome of one list of drafts on a shared table.  Unless rejections are to be
raised, they are reported as an outcome; other faults are always raised. -/
def RollTable.outcome (t : RollTable) (raise : Bool) (ds : List Draft) :
    Except Fault (Outcome α) :=
  match t.simulate ds with
  | .ok e => .ok (.estimated e)
  -- a rejection is contained, any other fault is not
  | .error (.rejected reason) =>
    if raise then .error (.rejected reason) else .ok (.rejected reason t.size)
  | .error f => .error f

/-- The outcomes of named lists of drafts on a shared table, in order. -/
def RollTable.outcomes (t : RollTable) (raise : Bool) (sets : List (String × List Draft)) :
    Except Fault (List (String × Outcome α)) :=
  sets.mapM fun s => (t.outcome raise s.2).map (s.1, ·)

/-- The outcomes of named lists of drafts on one table, which comes first. -/
def Request.simulateSets {σ : Type} [Source σ] (sets : List (String × List Draft))
    (supply : Supply) (raise : Bool) : Request σ (List (String × Outcome α)) := do
  let t ← table supply
  ofExcept (t.outcomes raise sets)

end DiceOdds
