/-!
# Logarithms and Exponentials near One

`log (1 + x)` and `exp x - 1` in doubles, without the loss of digits that forming `1 + x`
or subtracting 1 would bring.  Arguments are at most 0, as they are for a chance of
failure and its logarithm.

Both functions take out a whole multiple of `log 2`, so that what is left is small, and
evaluate a fixed polynomial there.  The order of the additions and multiplications is part
of the definitions, because each of them rounds.
-/

namespace DiceOdds

/-! ## §1 The logarithm of 2 -/

/-- The head of `log 2`, short enough for its products with exponents to be exact. -/
def logTwo : Float := 6.93147180369123816490e-01

/-- What `logTwo` leaves of `log 2`. -/
def logTwoRest : Float := 1.90821492927058770002e-10

/-- `1 / log 2`. -/
def perLogTwo : Float := 1.44269504088896338700e+00

/-! ## §2 Logarithms -/

/-- A number as `2 ^ exponent * (1 + fraction)`, with the part of it, relative to itself,
that was lost in rounding. -/
structure Scaled where
  exponent : Int
  /-- Between `√2 / 2 - 1` and `√2 - 1`, roughly. -/
  fraction : Float
  lost : Float

/-- Above this, -0.29289341, `1 + x` is so close to 1 that it need not be scaled. -/
def unscaledFrom : Float := -(Float.ofBits 0x3fd2bec400000000)

/-- Below this, 1.41421318, lies the leading part `1 + fraction` of a scaled number. -/
def leadBelow : Float := Float.ofBits 0x3ff6a09e00000000

/-- `1 + x` as a scaled number. -/
def Scaled.onePlus (x : Float) : Scaled :=
  if unscaledFrom < x then { exponent := 0, fraction := x, lost := 0 }
  else
    let u := 1 + x
    let lost := (x - (u - 1)) / u
    let (half, e) := u.frExp
    let lead := 2 * half
    if lead < leadBelow then { exponent := e - 1, fraction := lead - 1, lost }
    else { exponent := e, fraction := half - 1, lost }

/-- The series of `log (1 + f)` in `z = (f / (2 + f)) ^ 2`, without its first terms, as a
polynomial that is summed in pairs. -/
def logSeries (z : Float) : Float :=
  let z2 := z * z
  let z4 := z2 * z2
  z * 6.666666666666735130e-01
    + z2 * (3.999999999940941908e-01 + z * 2.857142874366239149e-01)
    + z4 * (2.222219843214978396e-01 + z * 1.818357216161805012e-01)
    + z4 * z2 * (1.531383769920937332e-01 + z * 1.479819860511658591e-01)

/-- Whether a fraction is so small that the first terms of the series of the logarithm are
enough. -/
def isSlight (f : Float) : Bool := Float.scaleB (-1.5) (-20) ≤ f && f < Float.scaleB 1 (-20)

/-- The logarithm of a scaled number. -/
def Scaled.log (s : Scaled) : Float :=
  let f := s.fraction
  let half := 0.5 * f * f
  let t := f / (2 + f)
  let tail := t * (half + logSeries (t * t))
  if s.exponent = 0 then f - (half - tail)
  else
    let e := Float.ofInt s.exponent
    let low := e * logTwoRest + s.lost
    if isSlight f then
      let start := half * (1 - 0.66666666666666666 * f)
      e * logTwo - ((start - low) - f)
    else e * logTwo - ((half - (tail + low)) - f)

/-- `log (1 + x)` for `x` from -1 to 0. -/
def logOnePlus (x : Float) : Float :=
  if x == -1 then -1 / 0
  else if x.abs < Float.scaleB 1 (-54) then x
  else if x.abs < Float.scaleB 1 (-29) then x - x * x * 0.5
  else (Scaled.onePlus x).log

/-! ## §3 Exponentials -/

/-- A number as `exponent * log 2 + rest`, with what is missing in `rest`. -/
structure Reduced where
  exponent : Int
  /-- Between `-log 2 / 2` and `log 2 / 2`, roughly. -/
  rest : Float
  missing : Float

/-- Above this, -0.34657359, a number is so close to nought that no multiple of `log 2` is
taken out. -/
def unreducedFrom : Float := -(Float.ofBits 0x3fd62e4300000000)

/-- A number at most 0 as a reduced one.  The multiple of `log 2` is the nearest. -/
def Reduced.of (x : Float) : Reduced :=
  if unreducedFrom < x then { exponent := 0, rest := x, missing := 0 }
  else
    let e := Float.ceil (perLogTwo * x - 0.5)
    let high := x - e * logTwo
    let low := e * logTwoRest
    let rest := high - low
    { exponent := e.toInt64.toInt, rest, missing := (high - rest) - low }

/-- The series from which the exponential is computed, in half the square of its argument,
as a polynomial that is summed in pairs. -/
def expSeries (h : Float) : Float :=
  let h2 := h * h
  1 + h * -3.33333333333331316428e-02
    + h2 * (1.58730158725481460165e-03 + h * -7.93650757867487942473e-05)
    + h2 * h2 * (4.00821782732936239552e-06 + h * -2.01099218183624371326e-07)

/-- `exp x - 1` for a reduced `x`. -/
def Reduced.expMinusOne (r : Reduced) : Float :=
  let x := r.rest
  let halfSquare := x * (0.5 * x)
  let series := expSeries halfSquare
  let t := 3 - series * (0.5 * x)
  let quotient := halfSquare * ((series - t) / (6 - x * t))
  if r.exponent = 0 then x - (x * quotient - halfSquare)
  else
    let correction := (x * (quotient - r.missing) - r.missing) - halfSquare
    if r.exponent = -1 then 0.5 * (x - correction) - 0.5
    else Float.scaleB (1 - (correction - x)) r.exponent - 1

/-- From this, -38.81622314, downwards `exp x - 1` is -1. -/
def vanishingTo : Float := -(Float.ofBits 0x4043687a00000000)

/-- `exp x - 1` for `x` at most 0. -/
def expMinusOne (x : Float) : Float :=
  if x ≤ vanishingTo then -1
  else if x.abs < Float.scaleB 1 (-54) then x
  else (Reduced.of x).expMinusOne

end DiceOdds
