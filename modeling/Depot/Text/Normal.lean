import Depot.Text.Combining
import Depot.Text.Decomposition
import Depot.Text.Hangul
/-!
# Normal forms

Texts that are read alike have one normal form. It is found by taking every
character apart and putting the marks after a letter into the order of their
classes; the composed form then puts pairs together again. The forms with
compatible decompositions also forget how a character is drawn.
-/
namespace Depot.Text

/-- The parts of a character, if it has any; only canonical ones unless `compatible`. -/
def parts? (compatible : Bool) (c : Char) : Option (List Char) :=
  (Hangul.letters? c).or do
    let d ← Decomposition.ofChar? c
    if compatible ∨ d.form = .canonical then some d.parts else none

/-- A character taken apart in at most `depth` steps. -/
def takeApart (compatible : Bool) : (depth : Nat) → Char → List Char
  | 0, c => [c]
  | depth + 1, c =>
    match parts? compatible c with
    | none => [c]
    | some parts => parts.flatMap (takeApart compatible depth)

/-- Puts a character before a text: a mark goes after the marks of lower classes. -/
def placeMark (c : Char) : List Char → List Char
  | [] => [c]
  | d :: rest =>
    if 0 < combiningClass d ∧ combiningClass d < combiningClass c then d :: placeMark c rest
    else c :: d :: rest

/-- A text with the marks after each letter in the order of their classes. -/
def orderMarks (cs : List Char) : List Char := cs.foldr placeMark []

/-- The decomposed form of a text; no character takes more than four steps. -/
def decomposed (compatible : Bool) (cs : List Char) : List Char :=
  orderMarks (cs.flatMap (takeApart compatible 4))

/-- Two characters as one number. -/
private def pairCode (a b : Char) : Nat := a.toNat * 0x110000 + b.toNat

/-- The characters that stand for two others, in the order of the pairs. -/
def compositeSpans : Array (Span Char) :=
  let composites := Decomposition.spans.toList.flatMap fun span =>
    (List.range' span.first (span.last + 1 - span.first)).filterMap fun code =>
      let c := Char.ofNat code
      if Span.covers Decomposition.exclusionSpans c then none
      else
        match Decomposition.ofChar? c with
        | some ⟨.canonical, [a, b]⟩ => some ⟨pairCode a b, pairCode a b, c⟩
        | _ => none
  (composites.mergeSort fun a b => a.first ≤ b.first).toArray

/-- The character that two characters are put together to. None of ASCII is the second one. -/
def composite? (a b : Char) : Option Char :=
  if b.toNat < 0x80 then none
  else (Hangul.syllable? a b).or ((Span.find? compositeSpans (pairCode a b)).map (·.value))

/-- Puts the characters that follow a letter together with it. A mark does not get past `passed`,
the marks that have stayed apart, last one first, if they hold one of its class or a higher one. -/
def composeAfter (letter : Char) (passed : List Char) : List Char → List Char
  | [] => letter :: passed.reverse
  | c :: rest =>
    let isFree := passed.head?.all (combiningClass · < combiningClass c)
    match if isFree then composite? letter c else none with
    | some whole => composeAfter whole passed rest
    | none =>
      if combiningClass c = 0 then letter :: passed.reverse ++ composeAfter c [] rest
      else composeAfter letter (c :: passed) rest

/-- A text with its pairs put together, from its first letter on. -/
def compose : List Char → List Char
  | [] => []
  | c :: rest => if combiningClass c = 0 then composeAfter c [] rest else c :: compose rest

/-- The composed form of a text. -/
def composed (compatible : Bool) (cs : List Char) : List Char :=
  compose (decomposed compatible cs)

end Depot.Text
