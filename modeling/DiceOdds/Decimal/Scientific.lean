import DiceOdds.Decimal.Fixed

/-!
# Scientific Form

Decimal texts with one digit before the point, a set number behind it, and a signed
exponent of at least two digits, rounded from the exact binary value.
-/

namespace DiceOdds.Decimal

/-- A decimal exponent with its sign and at least two digits. -/
def exponentText (e : Int) : List Char :=
  'e' :: (if e < 0 then '-' else '+') :: paddedDigits 2 e.natAbs

/-- The digits of a positive number rounded to `places + 1` digits, and its exponent. -/
def significant (places : Nat) (r : Ratio) : Nat × Int :=
  let e := r.exponent
  let n := (r.scale (places - e)).round
  -- rounding up may reach the next power of ten
  if n < tenTo (places + 1) then (n, e) else (n / 10, e + 1)

/-- A double with one digit before the point and `places` behind it. -/
def scientific (places : Nat) (x : Float) : String :=
  match Double.ofFloat x with
  | .nan => "nan"
  | .infinite negative => String.ofList (sign negative ++ ['i', 'n', 'f'])
  | .finite negative m e =>
    let (n, k) := if m = 0 then (0, 0) else significant places (Ratio.dyadic m e)
    String.ofList (sign negative ++ placePoint places n ++ exponentText k)

end DiceOdds.Decimal
