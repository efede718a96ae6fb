import DiceOdds.Decimal.Fixed
import DiceOdds.Decimal.Whole

/-!
# Amounts of Bytes

An amount of bytes is shown with three significant digits in the largest binary unit that
does not exceed it.
-/

namespace DiceOdds.Decimal

/-- The binary units, each 1024 times the one before it. -/
def byteUnits : List String := ["bytes", "KiB", "MiB", "GiB", "TiB", "PiB", "EiB"]

/-- The rank of the unit for an amount of bytes.  An amount that would be shown as 1024 of
a unit is shown as one of the next. -/
def byteRank (n : Nat) : Nat :=
  let rank := n.log2 / 10
  let next := if Ratio.round ⟨n, twoTo (10 * rank)⟩ = 1024 then rank + 1 else rank
  min next (byteUnits.length - 1)

/-- A number of at least one, with three significant digits or all digits before its
point. -/
def threeDigits (r : Ratio) : List Char :=
  let hundredths := (r.scale 2).round
  let tenths := (r.scale 1).round
  if hundredths < 1000 then placePoint 2 hundredths
  else if tenths < 1000 then placePoint 1 tenths
  else Nat.toDigits 10 r.round ++ ['.']

/-- The text of an amount of bytes. -/
def bytes (n : Nat) : String :=
  let n := nearestNat n
  let rank := byteRank n
  let amount :=
    if rank = 0 then Nat.toDigits 10 n else threeDigits ⟨n, twoTo (10 * rank)⟩
  String.ofList amount ++ " " ++ byteUnits.getD rank ""

end DiceOdds.Decimal
