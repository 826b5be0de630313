/-!
# Exact values of doubles

A finite double is `±mantissa · 2 ^ exponent`. Reading that value off the bits
and rounding a quotient of naturals back to the nearest double are the two
directions; integer parts and decimal texts are computed exactly in between and
rounded once.
-/
namespace Depot.Number

/-- What a double stands for. -/
inductive Exact where
  | nan
  | infinite (negative : Bool)
  | finite (negative : Bool) (mantissa : Nat) (exponent : Int)
  deriving DecidableEq, Repr

/-- The value of a double, read off its sign, exponent and fraction bits. -/
def exact (x : Float) : Exact :=
  let bits := x.toBits.toNat
  let negative := bits / Nat.pow 2 63 == 1
  let biased : Nat := bits / Nat.pow 2 52 % Nat.pow 2 11
  let fraction := bits % Nat.pow 2 52
  if biased = 2047 then
    if fraction = 0 then .infinite negative else .nan
  else if biased = 0 then .finite negative fraction (-1074)
  else .finite negative (Nat.pow 2 52 + fraction) (biased - 1075)

/-- The exponent at which `num / den` has a mantissa of 53 bits, or the least exponent. -/
def ratioExponent (num den : Nat) : Int :=
  let guess : Int := (num.log2 : Int) - den.log2 - 52
  let short := num * Nat.pow 2 (-guess).toNat < Nat.pow 2 52 * den * Nat.pow 2 guess.toNat
  max (if short then guess - 1 else guess) (-1074)

/-- `num / den` as a natural, rounded to nearest; a half goes to the even neighbour. -/
def roundDiv (num den : Nat) : Nat :=
  let q := num / den
  let r := num % den
  if 2 * r > den ∨ (2 * r = den ∧ q % 2 = 1) then q + 1 else q

/--
The double nearest to `num / den`, ties to the even mantissa. The exponent and
the mantissa are added as bits, so a mantissa rounded up to 54 bits carries into
the exponent.
-/
def ofRatio (num den : Nat) : Float :=
  if num = 0 then 0.0
  else
    let e := ratioExponent num den
    let q := roundDiv (num * Nat.pow 2 (-e).toNat) (den * Nat.pow 2 e.toNat)
    let bits := (e + 1074).toNat * Nat.pow 2 52 + q
    if bits ≥ 2047 * Nat.pow 2 52 then 1.0 / 0.0 else Float.ofBits bits.toUInt64

/-- The double nearest to `digits · 10 ^ exponent`, with a sign. -/
def ofDecimal (negative : Bool) (digits : Nat) (exponent : Int) : Float :=
  let size : Int := (Nat.toDigits 10 digits).length + exponent
  let magnitude :=
    if digits = 0 ∨ size < -330 then 0.0
    else if size > 310 then 1.0 / 0.0
    else ofRatio (digits * Nat.pow 10 exponent.toNat) (Nat.pow 10 (-exponent).toNat)
  if negative then -magnitude else magnitude

/-- The double nearest to an integer. -/
def ofInt (n : Int) : Float :=
  if n < 0 then -(ofRatio n.natAbs 1) else ofRatio n.natAbs 1

/-- Whether a double is finite and has no fractional part. -/
def isIntegral (x : Float) : Bool :=
  match exact x with
  | .finite _ m e => m % Nat.pow 2 (-e).toNat == 0
  | _ => false

/-- The integer part of a double, cut toward zero; `none` for NaN and the infinities. -/
def truncate? (x : Float) : Option Int :=
  match exact x with
  | .finite negative m e =>
    let n : Nat := m * Nat.pow 2 e.toNat / Nat.pow 2 (-e).toNat
    some (if negative then -n else n)
  | _ => none

/-- The natural number that a double is. -/
def natural? (x : Float) : Option Nat :=
  match exact x with
  | .finite negative m e =>
    let den := Nat.pow 2 (-e).toNat
    if m % den = 0 ∧ (m = 0 ∨ !negative) then some (m * Nat.pow 2 e.toNat / den) else none
  | _ => none

/-- The least natural number that is not below a double; NaN and infinity have none. -/
def ceilNat? (x : Float) : Option Nat :=
  match exact x with
  | .finite negative m e =>
    let den := Nat.pow 2 (-e).toNat
    some (if negative then 0 else (m * Nat.pow 2 e.toNat + den - 1) / den)
  | .infinite negative => if negative then some 0 else none
  | .nan => none

/-- The greatest integral double that is not above `x`. -/
def floor (x : Float) : Float :=
  match exact x with
  | .finite negative m e =>
    let q := m * Nat.pow 2 e.toNat / Nat.pow 2 (-e).toNat
    if isIntegral x then x
    else if negative then -(ofRatio (q + 1) 1)
    else ofRatio q 1
  | _ => x

/-- The lesser of two doubles; NaN if one of them is. -/
def minimum (x y : Float) : Float :=
  if x.isNaN then x else if y.isNaN then y else if x ≤ y then x else y

/-- The double nearest to `x · 2 ^ n`. -/
def scale (x : Float) (n : Int) : Float :=
  match exact x with
  | .finite negative m e =>
    let size := ofRatio (m * Nat.pow 2 (e + n).toNat) (Nat.pow 2 (-(e + n)).toNat)
    if negative then -size else size
  | _ => x

end Depot.Number
