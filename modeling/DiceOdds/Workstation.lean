import DiceOdds.Storage

/-!
# A Workstation

The machine that is meant where no other is named: the command line runs on it, and so do
the examples.
-/

namespace DiceOdds

/-- A machine with 64 gibibytes. -/
instance Memory.workstation : Memory where
  room := 8589934592
  settings_lt_room := by decide
  room_le_addressable := by decide

end DiceOdds
