import DiceOdds.Text.Integer
import DiceOdds.Text.Quoted
import DiceOdds.Text.Split

/-!
# Frozen Dice on the Command Line

A frozen die is given as `POSITION=FACE`, split at the first sign; both parts are integer
literals.  How long a literal may be is up to the caller.
-/

namespace DiceOdds.CommandLine

/-- Why a text does not freeze a die. -/
inductive PinFault where
  /-- There is no sign between position and face. -/
  | noSign (text : String)
  /-- Position or face is not an integer. -/
  | notIntegers (text : String)
  deriving DecidableEq, Repr

/-- The wording of a fault. -/
def PinFault.message : PinFault → String
  | .noSign text => s!"Expected POS=FACE, got {Text.quoted text}"
  | .notIntegers text => s!"Expected integers in {Text.quoted text}"

/-- The position and the face of a frozen die, whose literals `number?` reads. -/
def readPinWith (number? : String → Option Int) (s : String) : Except PinFault (Int × Int) :=
  match Text.splitFirst? '=' s with
  | none => .error (.noSign s)
  | some (before, behind) =>
    match number? before, number? behind with
    | some position, some face => .ok (position, face)
    | _, _ => .error (.notIntegers s)

/-- The position and the face of a frozen die, with literals of any length. -/
def readPin (s : String) : Except PinFault (Int × Int) := readPinWith Text.readInt? s

end DiceOdds.CommandLine
