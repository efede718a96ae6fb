import DiceOdds.Decimal.Scientific
import DiceOdds.Text.Blank

/-!
# Shortest Decimals

The decimal with the fewest digits that reads back to a given double, and its text:
positional for exponents from -4 to 15, in scientific form outside.
-/

namespace DiceOdds.Decimal

/-! ## §1 The interval that rounds to a double -/

/-- The numbers between `low` and `high` round to `value`; the ends do so if `closed`.
All three are numerators over the denominator `den`. -/
structure Interval where
  low : Nat
  value : Nat
  high : Nat
  den : Nat
  closed : Bool

/-- The rounding interval of `m * 2 ^ e`.  Below a power of two the spacing halves. -/
def Interval.ofDyadic (m : Nat) (e : Int) : Interval :=
  -- a quarter of the spacing, so that the middle of each neighbour is a whole number
  let unit := Ratio.dyadic 1 (e - 2)
  let below := if m = twoTo 52 ∧ -1074 < e then 1 else 2
  { low := (4 * m - below) * unit.num
    value := 4 * m * unit.num
    high := (4 * m + 2) * unit.num
    den := unit.den
    closed := m % 2 = 0 }

/-- Whether `n * 10 ^ k` reads back. -/
def Interval.holds (i : Interval) (n : Nat) (k : Int) : Bool :=
  let point := (Ratio.mk n 1).scale k
  let x := point.num * i.den
  if i.closed then i.low * point.den ≤ x && x ≤ i.high * point.den
  else i.low * point.den < x && x < i.high * point.den

/-! ## §2 The digits -/

/-- Of the two neighbours of the value on the grid of multiples of `10 ^ k`, the nearer
one that reads back. -/
def Interval.onGrid (i : Interval) (k : Int) : Option Nat :=
  let scaled := (Ratio.mk i.value i.den).scale (-k)
  let down := scaled.num / scaled.den
  let nearest := scaled.round
  let other := if nearest = down then down + 1 else down
  if i.holds nearest k then some nearest
  else if i.holds other k then some other
  else none

/-- Tries grids from coarse to fine. -/
def Interval.search (i : Interval) : (grids : Nat) → Int → Nat × Int
  | 0, k => (((Ratio.mk i.value i.den).scale (-k)).round, k)
  | grids + 1, k =>
    match i.onGrid k with
    | some n => (n, k)
    | none => i.search grids (k - 1)

/-- Digits `n` and exponent `k` such that `n * 10 ^ k` is the shortest decimal of a
positive number `m * 2 ^ e`. -/
def shortestDigits (m : Nat) (e : Int) : Nat × Int :=
  let i := Interval.ofDyadic m e
  i.search 17 (Ratio.mk i.value i.den).exponent

/-! ## §3 The text -/

/-- Digits without the zeros at the end. -/
def significantDigits (n : Nat) : List Char :=
  Text.dropRight (· == '0') (Nat.toDigits 10 n)

/-- Lays out digits whose first one stands for `10 ^ lead`. -/
def layOut (digits : List Char) (lead : Int) : List Char :=
  if lead < -4 ∨ 16 ≤ lead then
    match digits with
    | [] => []
    | [d] => d :: exponentText lead
    | d :: ds => d :: '.' :: ds ++ exponentText lead
  else if lead < 0 then
    '0' :: '.' :: List.replicate (-lead - 1).toNat '0' ++ digits
  else
    -- zeros fill the places before the point that have no digit
    let whole := lead.toNat + 1
    let padded := digits ++ List.replicate (whole - digits.length) '0'
    let behind := padded.drop whole
    padded.take whole ++ '.' :: (if behind.isEmpty then ['0'] else behind)

/-- The shortest text that reads back to the double. -/
def shortest (x : Float) : String :=
  match Double.ofFloat x with
  | .nan => "nan"
  | .infinite negative => String.ofList (sign negative ++ ['i', 'n', 'f'])
  | .finite negative m e =>
    if m = 0 then String.ofList (sign negative ++ ['0', '.', '0'])
    else
      let (n, k) := shortestDigits m e
      let all := Nat.toDigits 10 n
      String.ofList (sign negative ++ layOut (significantDigits n) (k + all.length - 1))

end DiceOdds.Decimal
