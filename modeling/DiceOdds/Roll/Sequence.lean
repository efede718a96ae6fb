import DiceOdds.Clause.Span
import DiceOdds.Decimal.Whole
import DiceOdds.Roll.Table
import DiceOdds.Storage

/-!
# Spans Inside a Roll

Whether the walk of a span stands side by side somewhere in a roll.  Whole numbers are
told apart as long as the span and its upper neighbour are machine words, or lie outside
the 64 bits altogether.  Around the upper end of the words, where only unsigned words are
left, faces and span are compared as doubles.
-/

namespace DiceOdds

/-! ## §1 Rows of a span -/

namespace Span

/-- Whether the numbers of the span are only known as doubles: some of them or the next
one above need the 64th bit of an unsigned word. -/
def coarse (s : Span) : Bool :=
  Word.least ≤ s.lowest && Word.greatest ≤ s.highest && s.highest < 18446744073709551615

/-- So many numbers from the lowest one upwards. -/
def climb (s : Span) (length : Nat) : List Int :=
  (List.range length).map fun (i : Nat) => s.lowest + i

/-- So many numbers from the lowest one upwards, as doubles: the first two are rounded on
their own, and their distance carries on to the others. -/
def coarseClimb (s : Span) (length : Nat) : List Int :=
  let start := Decimal.nearest s.lowest
  let second := Decimal.nearest (s.lowest + 1)
  (List.range length).map fun (i : Nat) =>
    if i = 0 then start
    else if i = 1 then second
    else Decimal.nearest (start + i * (second - start))

/-- The numbers of the span as they are laid out in a row of the given length, in the order
of the walk. -/
def row (s : Span) (length : Nat) : List Int :=
  let climb := if s.coarse then s.coarseClimb length else s.climb length
  if s.descending then climb.reverse else climb

/-- Lays out the numbers of the span and compares them with all windows of so many rolls of
so many dice, which must be possible.  The result is the length of the row. -/
def layOut [Memory] (s : Span) (rolls dice : Nat) : Except Fault Nat := do
  let length ← Storage.rowLength s.size
  Storage.requireWindows rolls dice length
  return length

end Span

/-! ## §2 Faces in a row -/

namespace Roll

/-- Whether some part of the roll shows the given faces side by side. -/
def shows (faces : List Int) : Roll → Bool
  | [] => faces.isEmpty
  | x :: xs => faces.isPrefixOf (x :: xs) || shows faces xs

/-- Whether the numbers of a span, as many as are laid out in a row, stand somewhere in the
roll.  If the numbers are only known as doubles, the faces are rounded as well. -/
def follows (s : Span) (length : Nat) (r : Roll) : Bool :=
  length ≤ r.length && shows (s.row length) (if s.coarse then r.map Decimal.nearest else r)

/-- Decides a roll on its own by the walk of a span. -/
def scoreWalk [Memory] (s : Span) (r : Roll) : Except Fault Bool :=
  (s.layOut 1 r.length).map fun length => follows s length r

end Roll

end DiceOdds
