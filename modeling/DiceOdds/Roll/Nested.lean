import DiceOdds.Roll.Table
import DiceOdds.Fault

/-!
# Nested Lists of Faces

Rolls often arrive as nested lists of faces.  A list of lists is a table, a plain list is
a single roll; anything of another shape is rejected for want of dice.  Lists whose
members differ in shape, or that are nested too deeply, have no shape at all.
-/

namespace DiceOdds

/-- A face, or a list of such things. -/
inductive Nested where
  | face (x : Int)
  | list (members : List Nested)

namespace Nested

mutual

/-- The extent at every depth, if all members agree. -/
def shape? : Nested → Option (List Nat)
  | face _ => some []
  | list members => (commonShape? members).map (members.length :: ·)

/-- The shape that all members share; without members there is no further extent. -/
def commonShape? : List Nested → Option (List Nat)
  | [] => some []
  | [n] => n.shape?
  | n :: m :: rest =>
    match n.shape?, commonShape? (m :: rest) with
    | some a, some b => if a = b then some a else none
    | _, _ => none

end

mutual

/-- All faces from left to right. -/
def faces : Nested → List Int
  | face x => [x]
  | list members => facesOf members

/-- All faces of several members. -/
def facesOf : List Nested → List Int
  | [] => []
  | n :: rest => n.faces ++ facesOf rest

end

/-- The rolls of a list of lists; any other list is one roll. -/
def rolls (depth : Nat) : Nested → List Roll
  | face _ => []
  | list members =>
    match depth with
    | 1 => [facesOf members]
    | 2 => members.map faces
    | _ => []

/-- The greatest depth of lists that have a shape. -/
def deepest : Nat := 64

/-- The table that nested lists describe. -/
def toTable (n : Nested) : Except Fault RollTable :=
  match n.shape? with
  | none => .error .ragged
  | some shape =>
    if deepest < shape.length then .error .ragged
    else if n.faces.all fun x => Word.Holds x then
      match RollTable.ofRows? (n.rolls shape.length) with
      | some t => .ok t
      | none => .error (.rejected (.noDice 0))
    else .error .tooWide

/-- A list of lists of faces. -/
def ofRows (rows : List Roll) : Nested :=
  list (rows.map fun r => list (r.map face))

end Nested

end DiceOdds
