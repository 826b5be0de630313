import Depot.Number.Exact
/-!
# Shortest decimal texts

The reals that round to a double form an interval around it. Its shortest
decimal is the point of the coarsest decimal grid inside that interval, and of
two such points the nearer one. Where the digits go is a separate record.
-/
namespace Depot.Number

/-- The positive decimal `digits · 10 ^ exponent`. -/
structure Decimal where
  digits : Nat
  exponent : Int
  deriving DecidableEq, Repr

/-- Whether `c · 10 ^ s` rounds to the double `m · 2 ^ q`. -/
def readsBack (m : Nat) (q : Int) (c : Nat) (s : Int) : Bool :=
  let point := 4 * c * Nat.pow 10 s.toNat * Nat.pow 2 (-q).toNat
  let unit := Nat.pow 2 q.toNat * Nat.pow 10 (-s).toNat
  let below := if m = Nat.pow 2 52 ∧ q > -1074 then 1 else 2
  let low := (4 * m - below) * unit
  let high := (4 * m + 2) * unit
  if m % 2 = 0 then low ≤ point && point ≤ high else low < point && point < high

/-- The `p` with `10 ^ (p - 1) ≤ m · 2 ^ q < 10 ^ p`, for a positive `m`. -/
def decimalPoint (m : Nat) (q : Int) : Int :=
  let num := m * Nat.pow 2 q.toNat
  let den := Nat.pow 2 (-q).toNat
  if num ≥ den then (Nat.toDigits 10 (num / den)).length
  else 1 - (Nat.toDigits 10 ((den + num - 1) / num - 1)).length

/--
The point of the grid of step `10 ^ s` that reads back as `m · 2 ^ q`: one of
the value's two neighbours on the grid, the nearer if both do, and the even one
on a tie.
-/
def gridPoint? (m : Nat) (q s : Int) : Option Nat :=
  let num := m * Nat.pow 2 q.toNat * Nat.pow 10 (-s).toNat
  let den := Nat.pow 2 (-q).toNat * Nat.pow 10 s.toNat
  let c := num / den
  match readsBack m q c s, readsBack m q (c + 1) s with
  | true, true => some (roundDiv num den)
  | true, false => some c
  | false, true => some (c + 1)
  | false, false => none

/-- The first grid with a point that reads back, refining from `count` digits on. -/
def refine (m : Nat) (q p : Int) : Nat → Nat → Decimal
  | 0, _ => ⟨m, q⟩
  | left + 1, count =>
    let s := p - count
    match gridPoint? m q s with
    | some c => ⟨c, s⟩
    | none => refine m q p left (count + 1)

/-- The shortest decimal that reads back as `m · 2 ^ q`; seventeen digits always suffice. -/
def shortest (m : Nat) (q : Int) : Decimal :=
  refine m q (decimalPoint m q) 17 1

/-- Which numbers are written with a point and no exponent. -/
structure Layout where
  /-- The most digits before the point. -/
  wholeDigits : Int
  /-- The most zeros between the point and the first digit. -/
  leadingZeros : Int

/-- Numbers below `10 ^ 21` and from `10 ^ -6` on are written without an exponent. -/
def plain : Layout := ⟨21, 5⟩

def zeros (n : Int) : List Char := List.replicate n.toNat '0'

/-- Lays out digits whose decimal point stands after the first `p` of them. -/
def Layout.write (l : Layout) (digits : List Char) (p : Int) : List Char :=
  let n : Int := digits.length
  if n ≤ p ∧ p ≤ l.wholeDigits then digits ++ zeros (p - n)
  else if 0 < p ∧ p ≤ l.wholeDigits then digits.take p.toNat ++ '.' :: digits.drop p.toNat
  else if p ≤ 0 ∧ -p ≤ l.leadingZeros then '0' :: '.' :: zeros (-p) ++ digits
  else
    let e := p - 1
    let mark := if e < 0 then ['e', '-'] else ['e', '+']
    let tail := mark ++ Nat.toDigits 10 e.natAbs
    match digits with
    | [d] => d :: tail
    | d :: rest => d :: '.' :: rest ++ tail
    | [] => tail

/-- The digits of a positive natural without trailing zeros. -/
def significant (n : Nat) : List Char :=
  ((Nat.toDigits 10 n).reverse.dropWhile (· == '0')).reverse

/--
The text of a number: the shortest decimal that reads back. Both zeros are
written `0`.
-/
def text (x : Float) : String :=
  match exact x with
  | .nan => "NaN"
  | .infinite negative => if negative then "-Infinity" else "Infinity"
  | .finite negative m q =>
    if m = 0 then "0"
    else
      let d := shortest m q
      let p := (Nat.toDigits 10 d.digits).length + d.exponent
      let body := plain.write (significant d.digits) p
      String.ofList (if negative then '-' :: body else body)

end Depot.Number
