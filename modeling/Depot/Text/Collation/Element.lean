import Depot.Text.Decomposition
/-!
# Collation elements

A character is ordered by one element or several. An element has three weights:
the place of the letter, which counts first; the accent, which counts where all
places are the same; and the drawing, capital or small, which counts last. A mark
has an accent and no place. A weight of 0 does not count at all.
-/
namespace Depot.Text.Collation

structure Element where
  primary : Nat
  secondary : Nat
  tertiary : Nat
deriving DecidableEq, Repr

namespace Element

/-- Reads the three weights between slashes; a letter has no accent and is small unless told
otherwise. -/
def ofText (s : String) : Element :=
  let weight (place : Nat) (usual : Nat) : Nat :=
    match (s.splitOn "/")[place]? with
    | none => usual
    | some "" => usual
    | some digits => hexNumber digits
  ⟨weight 0 0, weight 1 0x20, weight 2 2⟩

/-- Reads elements with plus signs between them. -/
def listOfText (s : String) : List Element :=
  if s.isEmpty then [] else (s.splitOn "+").map ofText

/-- The element that is `count` places further on, for a mark in its accent. -/
def moved (count : Nat) (e : Element) : Element :=
  if e.primary = 0 then { e with secondary := e.secondary + count }
  else { e with primary := e.primary + count }

/-- The element of a capital, from that of its small letter. -/
def capital (e : Element) : Element :=
  if e.primary = 0 then e
  else
    match e.tertiary with
    | 2 => { e with tertiary := 8 }
    | 4 => { e with tertiary := 10 }
    | _ => e

/-- The third weight of a character that is drawn in a form of its own, from that of the character
it stands for. -/
def formWeight (form : Form) (own : Nat) : Nat :=
  match form, own with
  | .canonical, own => own
  | .wide, 8 => 9
  | .compatible, 8 => 10
  | .font, 8 => 11
  | .circle, 8 => 12
  | .super, 8 => 29
  | .square, 8 => 29
  | .narrow, 15 => 16
  | .wide, 17 => 17
  | .circle, 17 => 19
  | .wide, _ => 3
  | .compatible, _ => 4
  | .font, _ => 5
  | .circle, _ => 6
  | .small, _ => 15
  | .narrow, _ => 18
  | .super, _ => 20
  | .sub, _ => 21
  | .vertical, _ => 22
  | .initial, _ => 23
  | .medial, _ => 24
  | .final, _ => 25
  | .isolated, _ => 26
  | .noBreak, _ => 27
  | .square, _ => 28
  | .fraction, _ => 30

/-- The element of a character in a form of its own. -/
def inForm (form : Form) (e : Element) : Element :=
  { e with tertiary := formWeight form e.tertiary }

end Element

end Depot.Text.Collation
