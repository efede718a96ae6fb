import DiceOdds.Decimal.Whole
import DiceOdds.Fault
import DiceOdds.Word

/-!
# Room for Numbers

Rows and tables of machine words are stored whole.  A table is stored if its sides are
words, its words can be addressed, and the machine has room for them; the first of these
that fails is the fault.  The length of a row of successive numbers is worked out in
doubles, so near the limits it is not exact.

How much room there is depends on the machine, which stands beside everything that stores
a table (`Memory`).
-/

namespace DiceOdds

/-! ## §1 Machines -/

/-- The least number of words that cannot be addressed all at once, a word being eight
bytes long. -/
def Storage.addressable : Int := 1152921504606846976

/-- A machine, as far as the room for tables goes. -/
class Memory where
  /-- The least number of words for which there is no room. -/
  room : Int
  /-- The largest table that settings describe, 100000 rolls of 100 dice, can be stored. -/
  settings_lt_room : 10000000 < room
  /-- No more is stored than can be addressed. -/
  room_le_addressable : room ≤ Storage.addressable

namespace Storage

variable [Memory]

/-! ## §2 Tables -/

/-- The number of entries of a table with the given sides. -/
def entries (sides : List Int) : Int := sides.foldr (· * ·) 1

/-- What keeps a table of words with the given sides from being stored. -/
def obstacle? (sides : List Int) : Option Fault :=
  if sides.any (Word.greatest < ·) then some .sideTooLong
  else if addressable ≤ entries sides then some .tableTooLarge
  else if Memory.room ≤ entries sides then some (.outOfRoom ⟨sides, .word⟩)
  else none

/-- Lets a table with the given sides pass if it can be stored. -/
def require (sides : List Int) : Except Fault Unit :=
  match obstacle? sides with
  | some fault => .error fault
  | none => .ok ()

/-! ## §3 Rows of successive numbers -/

/-- The length of a row of successive whole numbers whose end lies `reach` behind its
start.  A double that is no word is too long or too far back, except for `2 ^ 63` right
above the words, which wraps around; a row that would have to run back is empty. -/
def rowLength (reach : Int) : Except Fault Nat :=
  let length := Decimal.nearest reach
  if length < Word.least ∨ Word.greatest + 1 < length then .error .rowTooLong
  else if Word.wrap length ≤ 0 then .ok 0
  else (require [length]).map fun _ => length.toNat

/-- The least length of a row that cannot be stored, or need not be exact. -/
def rowRoom : Int := min Memory.room 9007199254740992

/-! ## §4 Windows -/

/-- What keeps `length` words from being compared with as many neighbours at every place
of a table.  All neighbours of all places are addressed as words, where no neighbours count
as one, and the comparisons leave truth values of one byte each. -/
def windowObstacle? (rolls dice length : Nat) : Option Fault :=
  let places : Int := dice + 1 - length
  if addressable ≤ entries [rolls, places, max 1 (length : Int)] then some .tableTooLarge
  else if 8 * Memory.room ≤ entries [rolls, places, length] then
    some (.outOfRoom ⟨[rolls, places, length], .flag⟩)
  else none

/-- Lets the words of a row be compared with the windows of a table, if that can be
stored.  Where the row is longer than a roll, there is nothing to compare. -/
def requireWindows (rolls dice length : Nat) : Except Fault Unit :=
  if dice < length then .ok ()
  else
    match windowObstacle? rolls dice length with
    | some fault => .error fault
    | none => .ok ()

/-! ## §5 Ordinary sizes -/

/-- A table of ordinary size can be stored. -/
theorem obstacle?_eq_none {sides : List Int} (hsides : ∀ n ∈ sides, n ≤ Word.greatest)
    (hroom : entries sides < Memory.room) : obstacle? sides = none := by
  have hwords : sides.any (Word.greatest < ·) = false := by
    simpa using fun n hn => Int.not_lt.mpr (hsides n hn)
  have haddress : ¬addressable ≤ entries sides := by
    have := Memory.room_le_addressable
    omega
  simp [obstacle?, hwords, haddress, Int.not_le.mpr hroom]

/-- A row of ordinary length has as many numbers as it reaches far. -/
theorem rowLength_of_lt {reach : Int} (hpos : 0 ≤ reach) (hroom : reach < rowRoom) :
    rowLength reach = .ok reach.toNat := by
  obtain ⟨hstored, hexact⟩ := Int.lt_min.mp hroom
  have hnearest : Decimal.nearest reach = reach := Decimal.nearest_of_natAbs_lt (by omega)
  have hword : Word.Holds reach := by
    unfold Word.Holds Word.least Word.greatest
    omega
  have hin : ¬(reach < Word.least ∨ Word.greatest + 1 < reach) := by
    unfold Word.Holds at hword
    omega
  have hrow : obstacle? [reach] = none :=
    obstacle?_eq_none (by simpa using hword.2) (by simpa [entries] using hstored)
  unfold rowLength
  simp only [hnearest, if_neg hin, Word.wrap_of_holds hword]
  split
  · have : reach = 0 := by omega
    subst this
    rfl
  · simp only [require, hrow]
    rfl

/-- Rows are laid out far enough for everything that settings describe. -/
theorem settings_lt_rowRoom : 10000000 < rowRoom :=
  Int.lt_min.mpr ⟨Memory.settings_lt_room, by decide⟩

end Storage

end DiceOdds
