/-!
# Punycode

A name with characters beyond ASCII can be written in ASCII: its ASCII characters,
a hyphen, and the places of the others as differences. A difference is a number
in base 36 whose digits have thresholds that follow a bias.
-/
namespace Depot.Url.Punycode

/-- The value of a digit: the letters come before the numerals. -/
def digit? (c : Char) : Option Nat :=
  if 'a' ≤ c ∧ c ≤ 'z' then some (c.toNat - 'a'.toNat)
  else if 'A' ≤ c ∧ c ≤ 'Z' then some (c.toNat - 'A'.toNat)
  else if c.isDigit then some (c.toNat - '0'.toNat + 26)
  else none

/-- The least digit at place `k` that is not the last one. -/
def threshold (bias k : Nat) : Nat :=
  if k ≤ bias then 1 else if bias + 26 ≤ k then 26 else k - bias

/-- The largest number that reading a difference may come to on its way. -/
def largest : Nat := 0x7FFFFFFF

/-- Reads a difference onto `sum`, from a digit of the given weight on. -/
def readDifference (bias : Nat) : (k weight sum : Nat) → List Char → Option (Nat × List Char)
  | _, _, _, [] => none
  | k, weight, sum, c :: rest =>
    match digit? c with
    | none => none
    | some d =>
      let sum := sum + d * weight
      let weight := weight * (36 - threshold bias k)
      if largest < sum then none
      else if d < threshold bias k then some (sum, rest)
      else if largest < weight then none
      else readDifference bias (k + 36) weight sum rest

/-- Scales a difference down, and counts 36 for every step. -/
def scale (difference k : Nat) : Nat :=
  if 455 < difference then scale (difference / 35) (k + 36)
  else k + 36 * difference / (difference + 38)
termination_by difference
decreasing_by omega

/-- The bias after a difference that led to a name of `length` characters. -/
def adapt (difference length : Nat) (isFirst : Bool) : Nat :=
  let d := if isFirst then difference / 700 else difference / 2
  scale (d + d / length) 0

/-- A name that is being read: where the next difference starts, and what is there so far. -/
structure State where
  code : Nat
  place : Nat
  bias : Nat
  name : List Nat

/-- The name after a difference that leads from its place to `reached`. -/
def State.insert (s : State) (reached : Nat) : State :=
  let length := s.name.length + 1
  let code := s.code + reached / length
  let place := reached % length
  { code := code
    place := place + 1
    bias := adapt (reached - s.place) length (s.place == 0)
    name := s.name.insertIdx place code }

/-- Reads the differences of a text, of which there are at most `budget`. -/
def readAll : (budget : Nat) → State → List Char → Option (List Nat)
  | _, s, [] => some s.name
  | 0, _, _ => none
  | budget + 1, s, cs =>
    match readDifference s.bias 36 1 s.place cs with
    | none => none
    | some (reached, rest) =>
      let s := s.insert reached
      if s.code.isValidChar then readAll budget s rest else none

/-- The characters that a text in ASCII stands for; what is before its last hyphen stays. -/
def decode? (cs : List Char) : Option (List Char) :=
  let digits := (cs.reverse.takeWhile (· ≠ '-')).reverse
  let plain := cs.take (cs.length - digits.length - 1)
  (readAll digits.length ⟨128, 0, 72, plain.map Char.toNat⟩ digits).map (·.map Char.ofNat)

end Depot.Url.Punycode
