import Depot.Number.Exact
/-!
# Powers

A power is two raised to the product of the exponent and the binary logarithm of
the base. The logarithm and the product are each kept as the sum of two doubles,
the first of which has so few bits that its products are exact. The result is
the nearest double as a rule, but not always.
-/
namespace Depot.Number

/-- A real as the sum of a double with few bits and a small correction. -/
structure Split where
  high : Float
  low : Float

/-- A double without the lower half of its bits. -/
def head (x : Float) : Float := Float.ofBits (x.toBits &&& 0xFFFFFFFF00000000)

/-- The sum of a double and a correction to it, split anew. -/
def Split.ofSum (a b : Float) : Split :=
  let high := head (a + b)
  ⟨high, b - (high - a)⟩

/-- A positive finite double as `m · 2 ^ n` with `1 ≤ m < 2`. -/
def normalized (x : Float) : Float × Int :=
  let (x, shift) : Float × Int :=
    if x < 2.2250738585072014e-308 then (x * 9007199254740992.0, -53) else (x, 0)
  (Float.ofBits ((x.toBits &&& 0x000FFFFFFFFFFFFF) ||| 0x3FF0000000000000),
    (x.toBits >>> 52).toNat - 1023 + shift)

/-- The binary logarithm of a double that is next to one, from the first terms of its series. -/
def logNearOne (x : Float) : Split :=
  let t := x - 1.0
  let w := (t * t) * (0.5 - t * (0.3333333333333333333333 - t * 0.25))
  .ofSum (1.44269502162933349609 * t)
    (t * 1.92596299112661746887e-08 - w * 1.44269504088896338700)

/-- How far `m` is from `c`, relative to their sum. -/
def gap (m c : Float) : Float := (m - c) * (1.0 / (m + c))

/-- What the first half of the bits of a gap leaves of it. -/
def gapRest (m c : Float) : Float :=
  let gapHigh := head (gap m c)
  let sumHigh := head (head m + c)
  let sumLow := m - (sumHigh - c)
  (1.0 / (m + c)) * (((m - c) - gapHigh * sumHigh) - gapHigh * sumLow)

/-- The terms of the series of a logarithm after the second, for the square of a gap. -/
def seriesTerms (s2 : Float) : Float :=
  s2 * s2 * (5.99999999999994648725e-01 + s2 * (4.28571428578550184252e-01 +
    s2 * (3.33333329818377432918e-01 + s2 * (2.72728123808534006489e-01 +
    s2 * (2.30660745775561754067e-01 + s2 * 2.06975017800338417784e-01)))))

/--
Three times the logarithm of a quotient, half of it and natural: an odd power series in
the gap `s` of its two terms.
-/
def logSeries (s rest : Float) : Split :=
  let sHigh := head s
  let tail := seriesTerms (s * s) + rest * (sHigh + s)
  let s2 := sHigh * sHigh
  let high := head (3.0 + s2 + tail)
  let low := tail - ((high - 3.0) - s2)
  .ofSum (sHigh * high) (rest * high + low * s)

/-- The binary logarithm of `m · 2 ^ n`, where that of `c` is `centerHigh + centerLow`. -/
def logAround (m : Float) (n : Int) (c centerHigh centerLow : Float) : Split :=
  let p := logSeries (gap m c) (gapRest m c)
  let zHigh := 9.61796700954437255859e-01 * p.high
  let zLow := -7.02846165095275826516e-09 * p.high + p.low * 9.61796693925975554329e-01 + centerLow
  let whole := ofInt n
  let high := head (((zHigh + zLow) + centerHigh) + whole)
  ⟨high, zLow - (((high - whole) - centerHigh) - zHigh)⟩

/--
The binary logarithm of a positive finite double, which is scaled to lie around one or
one and a half.
-/
def log2 (x : Float) : Split :=
  let (m, n) := normalized x
  let place := head m
  if place ≤ 1.22474479675292968750 then logAround m n 1.0 0.0 0.0
  else if place < 1.73205471038818359375 then
    logAround m n 1.5 5.84962487220764160156e-01 1.35003920212974897128e-08
  else logAround (m * 0.5) (n + 1) 1.0 0.0 0.0

/-- The product of a double and a split real, of which the first part is exact. -/
def Split.times (a : Split) (y : Float) : Split :=
  let yHigh := head y
  ⟨yHigh * a.high, (y - yHigh) * a.high + y * a.low⟩

/-- The integer next to a double. -/
def wholePart (z : Float) : Int :=
  if 0.5 < head z.abs then (truncate? (head z + (if z < 0.0 then -0.5 else 0.5))).getD 0 else 0

/-- A split real without an integer, times the natural logarithm of two. -/
def naturalRest (p : Split) (n : Int) : Split :=
  let rest := p.high - ofInt n
  let t := head (p.low + rest)
  let u := t * 6.93147182464599609375e-01
  let v := (p.low - (t - rest)) * 6.93147180559945286227e-01 + t * -1.90465429995776804525e-09
  let z := u + v
  ⟨z, v - (z - u)⟩

/-- The exponential of a small split real, as a quotient of polynomials. -/
def expSmall (p : Split) : Float :=
  let z := p.high
  let w := p.low
  let z2 := z * z
  let t := z - z2 * (1.66666666666666019037e-01 + z2 * (-2.77777777770155933842e-03 +
    z2 * (6.61375632143793436117e-05 + z2 * (-1.65339022054652515390e-06 +
    z2 * 4.13813679705723846039e-08))))
  let r := (z * t) / ((t - 2.0) - (w + z * w))
  1.0 - (r - z)

/-- Two to the power of a split real that is in range. -/
def exp2InRange (p : Split) : Float :=
  let n := wholePart (p.low + p.high)
  scale (expSmall (naturalRest p n)) n

/-- Two to the power of a split real: infinity above the range of doubles and zero below it. -/
def exp2 (p : Split) : Float :=
  let z := p.low + p.high
  if 1024.0 < z || (z == 1024.0 && z - p.high < p.low + 8.0085662595372944372e-17) then 1.0 / 0.0
  else if z < -1075.0 || (z == -1075.0 && p.low ≤ z - p.high) then 0.0
  else exp2InRange p

/-- A power of a positive finite double other than one, for a finite exponent. -/
def positivePower (x y : Float) : Float :=
  let rising : Bool := 1.0 ≤ x ↔ 0.0 < y
  let size := head y.abs
  if 2147483648.0 < size then
    if 18446744073709551616.0 < size || x < 0.999999523162841796875 || 1.0 < head x then
      if rising then 1.0 / 0.0 else 0.0
    else exp2 ((logNearOne x).times y)
  else exp2 ((log2 x).times y)

/-- Whether a double is an odd integer. -/
def isOdd (x : Float) : Bool :=
  match truncate? x with
  | some n => isIntegral x && n % 2 != 0
  | none => false

/-- `base ^ n`; one raised to an infinite exponent has no value. -/
def power (base n : Float) : Float :=
  if n == 0.0 then 1.0
  else if base.isNaN || n.isNaN then 0.0 / 0.0
  else if n.isInf then
    if base.abs == 1.0 then 0.0 / 0.0
    else if 1.0 < base.abs ↔ 0.0 < n then 1.0 / 0.0
    else 0.0
  else if n == 1.0 then base
  else if n == -1.0 then 1.0 / base
  else if n == 2.0 then base * base
  else if n == 0.5 && 0.0 < base then base.sqrt
  else
    let size := base.abs
    let magnitude :=
      if size == 0.0 || size == 1.0 || size.isInf then if n < 0.0 then 1.0 / size else size
      else positivePower size n
    if base < 0.0 && !isIntegral n && !size.isInf then 0.0 / 0.0
    else if (base < 0.0 || 1.0 / base < 0.0) && isOdd n then -magnitude
    else magnitude

end Depot.Number
