import DiceOdds.Text.Blank
import DiceOdds.Text.Digit

/-!
# Integer Literals

Whole numbers as people type them: digits of any script with single underscores between
them, behind an optional sign, with blanks around the whole.  A number with very many
digits is neither read nor written.
-/

namespace DiceOdds.Text

/-! ## §1 Digits in groups -/

/-- Reads on after a digit; `value` is the number read so far. -/
def groupedDigitsFrom (value : Nat) : List Char → Option Nat
  | [] => some value
  | '_' :: c :: cs => (digitValue? c).bind fun d => groupedDigitsFrom (10 * value + d) cs
  | c :: cs => (digitValue? c).bind fun d => groupedDigitsFrom (10 * value + d) cs

/-- The number written by digits with at most one underscore between neighbours. -/
def groupedDigits? : List Char → Option Nat
  | [] => none
  | c :: cs => (digitValue? c).bind fun d => groupedDigitsFrom d cs

/-! ## §2 Signs -/

/-- Splits off a sign: whether it is a minus, and the rest. -/
def splitSign : List Char → Bool × List Char
  | '-' :: cs => (true, cs)
  | '+' :: cs => (false, cs)
  | cs => (false, cs)

/-- A magnitude with its sign. -/
def withSign (negative : Bool) (n : Nat) : Int :=
  if negative then -(n : Int) else (n : Int)

/-! ## §3 Whole literals -/

/-- The integer that a text stands for. -/
def readInt? (s : String) : Option Int :=
  let (negative, digits) := splitSign (trim s.toList)
  (groupedDigits? digits).map (withSign negative)

/-! ## §4 Long literals -/

/-- The greatest number of digits that a number has when it is read or written. -/
def mostDigits : Nat := 4300

/-- Whether a number has few enough digits to be written. -/
def isWritable (n : Int) : Bool := n.natAbs < Nat.pow 10 mostDigits

/-- The number of digits in a text, zeros in front included. -/
def digitCount (s : String) : Nat := s.toList.countP fun c => (digitValue? c).isSome

/-- The integer that a text stands for, unless it has too many digits. -/
def readShortInt? (s : String) : Option Int :=
  if digitCount s ≤ mostDigits then readInt? s else none

theorem readShortInt?_of_le {s : String} (h : digitCount s ≤ mostDigits) :
    readShortInt? s = readInt? s := if_pos h

end DiceOdds.Text
