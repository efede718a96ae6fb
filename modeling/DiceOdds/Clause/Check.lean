import DiceOdds.Clause.Basic
import DiceOdds.Fault

/-!
# Checking Drafts

A draft becomes a clause when everything is there that its reduction decides by.  The
lead clause of a list needs no link: it is always the first.
-/

namespace DiceOdds

namespace Draft

/-- The target of a draft, given its comparison. -/
def target (d : Draft) (comparison : Comparison) : Target :=
  { comparison, value := d.value, span := d.span }

/-- The quota of a draft, given its bound. -/
def quota (d : Draft) (bound : Bound) : Quota :=
  { bound, quantity := d.quantity }

/-- The test that a draft describes, if nothing is missing for its reduction. -/
def test? (d : Draft) : Option Test :=
  match d.reduction, d.comparison, d.bound with
  | some .sequence, _, _ => some (.sequence d.span)
  | some (.statistic s), some comparison, _ => some (.statistic s (d.target comparison))
  | some .each, some comparison, some bound => some (.each (d.quota bound) (d.target comparison))
  | some .consecutive, some comparison, some bound =>
    some (.run (d.quota bound) (d.target comparison))
  | _, _, _ => none

/-- The link of a draft; the lead clause is the first whatever it says. -/
def effectiveLink? (d : Draft) (lead : Bool) : Option Link :=
  if lead then some .first else d.link

/-- The clause that a draft describes, if it is complete. -/
def clause? (d : Draft) (lead : Bool) : Option Clause :=
  match d.die, d.effectiveLink? lead, d.test? with
  | some die, some link, some test => some { die, link, test }
  | _, _, _ => none

/-- Checks a draft; an incomplete one is reported by its position. -/
def check (d : Draft) (lead : Bool) (index : Int) : Except Rejection Clause :=
  match d.clause? lead with
  | some c => .ok c
  | none => .error (.incomplete index)

/-- Checks drafts from a position on; position 0 is the lead. -/
def checkFrom (index : Nat) : List Draft → Except Rejection (List Clause)
  | [] => .ok []
  | d :: ds =>
    match d.check (index == 0) index with
    | .error e => .error e
    | .ok c =>
      match checkFrom (index + 1) ds with
      | .error e => .error e
      | .ok cs => .ok (c :: cs)

/-- Checks a list of drafts, of which there must be at least one. -/
def checkAll (ds : List Draft) : Except Rejection (List Clause) :=
  if ds.isEmpty then .error (.malformed .empty) else checkFrom 0 ds

end Draft

end DiceOdds
