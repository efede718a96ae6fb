import DiceOdds.Decimal.Double

/-!
# Fixed Places

Decimal texts with a set number of places after the point, rounded from the exact
binary value.
-/

namespace DiceOdds.Decimal

/-- Decimal digits of `n`, with zeros in front up to the given width. -/
def paddedDigits (width n : Nat) : List Char :=
  let digits := Nat.toDigits 10 n
  List.replicate (width - digits.length) '0' ++ digits

/-- The text of `n / 10 ^ places`. -/
def placePoint (places n : Nat) : List Char :=
  Nat.toDigits 10 (n / tenTo places) ++ '.' :: paddedDigits places (n % tenTo places)

/-- A minus sign where one is due. -/
def sign (negative : Bool) : List Char :=
  if negative then ['-'] else []

/-- A double with `places` digits after the point; a half goes to the even digit. -/
def fixed (places : Nat) (x : Float) : String :=
  match Double.ofFloat x with
  | .nan => "nan"
  | .infinite negative => String.ofList (sign negative ++ ['i', 'n', 'f'])
  | .finite negative m e =>
    String.ofList (sign negative ++ placePoint places ((Ratio.dyadic m e).scale places).round)

end DiceOdds.Decimal
