import DiceOdds.Clause.Draft

/-!
# Events

A named list of drafts that are decided together, and the chains from which the events
of common games are built.
-/

namespace DiceOdds

/-! ## §1 Events -/

/-- A named list of drafts. -/
structure Event where
  name : String
  drafts : List Draft := []
  deriving DecidableEq, Repr

namespace Event

/-- The name under which an event is shown. -/
def displayName (e : Event) : String := if e.name.isEmpty then "Event" else e.name

/-- The event for a die. -/
def forDie (e : Event) (die : Option Die) : Event :=
  { e with drafts := e.drafts.map (·.withDie die) }

end Event

/-! ## §2 Counting faces -/

/-- The faces of the usual die. -/
def usualFaces : List Int := [1, 2, 3, 4, 5, 6]

/-- So many dice show a face. -/
def showing (quantity face : Int) (bound : Bound) (link : Link) : Draft :=
  { bound := some bound
    quantity
    reduction := some .each
    comparison := some .equals
    value := face
    link := some link }

/-- Some die shows a face. -/
def someShowing (face : Int) (link : Link) : Draft := showing 1 face .atLeast link

/-- So many dice show the same face, whichever it is. -/
def ofAKind (quantity : Int) (bound : Bound) : List Draft :=
  usualFaces.map fun face => showing quantity face bound .or

/-! ## §3 Straights -/

/-- Every face from `low` on, `length` of them, is shown by some die. -/
def straightFrom (length : Nat) (low : Int) : List Draft :=
  -- the first face opens a group
  (List.range length).map fun (i : Nat) => someShowing (low + i) (if i = 0 then .or else .and)

/-- Some straight of the given length is shown. -/
def straight (length : Nat) : List Draft :=
  (List.range (7 - length)).flatMap fun (start : Nat) => straightFrom length (start + 1)

/-! ## §4 Groups of faces -/

/-- Every face of a group is shown by exactly its quantity of dice. -/
def groupOf (quantities : List Int) (faces : List Int) : List Draft :=
  (faces.zip quantities).mapIdx fun i e =>
    showing e.2 e.1 .exactly (if i = 0 then .or else .and)

/-- Every face of some group is shown by exactly its quantity of dice. -/
def someGroupOf (quantities : List Int) (groups : List (List Int)) : List Draft :=
  groups.flatMap (groupOf quantities)

/-- The selections of `n` members in the order of the list. -/
def selections : (n : Nat) → List Int → List (List Int)
  | 0, _ => [[]]
  | _ + 1, [] => []
  | n + 1, x :: xs => (selections n xs).map (x :: ·) ++ selections (n + 1) xs

/-- The pairs of two different faces, in every order. -/
def orderedPairs (faces : List Int) : List (List Int) :=
  faces.flatMap fun a => (faces.filter (· != a)).map fun b => [a, b]

/-! ## §5 Statistics -/

/-- A statistic of the roll equals a value. -/
def statisticIs (s : Statistic) (quantity value : Int) : Draft :=
  { bound := some .exactly
    quantity
    reduction := some (.statistic s)
    comparison := some .equals
    value
    link := some .first }

end DiceOdds
