/-!
# Hangul

The syllables of Hangul stand in the order of their letters: nineteen first
consonants, twenty-one vowels, and twenty-seven last consonants or none.
-/
namespace Depot.Text.Hangul

def firstSyllable : Nat := 0xAC00
def firstConsonant : Nat := 0x1100
def firstVowel : Nat := 0x1161

/-- The code point before the first last consonant. -/
def noConsonant : Nat := 0x11A7

def isSyllable (code : Nat) : Bool :=
  firstSyllable ≤ code && code < firstSyllable + 19 * 21 * 28

/-- The letters of a syllable. -/
def letters? (c : Char) : Option (List Char) :=
  if isSyllable c.toNat then
    let place := c.toNat - firstSyllable
    let front := [firstConsonant + place / (21 * 28), firstVowel + place / 28 % 21]
    let last := if place % 28 = 0 then [] else [noConsonant + place % 28]
    some ((front ++ last).map Char.ofNat)
  else none

/-- The syllable that two characters make: a consonant and a vowel, or a syllable that has no last
consonant and one. -/
def syllable? (a b : Char) : Option Char :=
  let first := a.toNat - firstConsonant
  let vowel := b.toNat - firstVowel
  let last := b.toNat - noConsonant
  if firstConsonant ≤ a.toNat ∧ first < 19 ∧ firstVowel ≤ b.toNat ∧ vowel < 21 then
    some (Char.ofNat (firstSyllable + (first * 21 + vowel) * 28))
  else if isSyllable a.toNat ∧ (a.toNat - firstSyllable) % 28 = 0 ∧ 0 < last ∧ last < 28 then
    some (Char.ofNat (a.toNat + last))
  else none

end Depot.Text.Hangul
