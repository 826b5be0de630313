import Depot.Text.Collation.Weights
import Depot.Text.Normal
/-!
# Collation

The order in which a reader of English expects names. Texts are compared letter by
letter first, then by their accents, and last by capitals and other drawings; two
texts with the same normal form are equal in it. Main statement: the order is a
total preorder, because it compares keys.
-/
namespace Depot.Text.Collation

/-- Characters that have a weight of their own where they stand together. -/
def contractionTable : String := "
4C.B7=227E//8+/12B/4 6C.B7=227E+/12B/4 418.306=2437//8 438.306=2437 627.653=25D3 627.654=25D4
627.655=25D8 648.654=25D7 64A.654=25DC 9C7.9BE=2A19 9C7.9D7=2A1A B47.B3E=2ADD B47.B56=2ADC
B47.B57=2ADE B92.BD7=2AEF BC6.BBE=2B10 BC6.BD7=2B12 BC7.BBE=2B11 C46.C56=2B59 CBF.CD5=2B9B
CC6.CC2=2BA5 CC6.CC2.CD5=2BA6 CC6.CD5=2BA3 CC6.CD6=2BA4 D46.D3E=2BF1 D46.D57=2BF3 D47.D3E=2BF2
DD9.DCA=2C3E DD9.DCF=2C40 DD9.DCF.DCA=2C41 DD9.DDF=2C42 E4D.E32=3296//4 ECD.EB2=32D4//4
F71.F72=337B F71.F74=337F F71.F80=337D FB2.F71=3363+3379 FB2.F71.F72=3363+337B
FB2.F71.F74=3363+337F FB2.F71.F80=3381//4 FB2.F80=3380 FB3.F71=3366+3379 FB3.F71.F72=3366+337B
FB3.F71.F74=3366+337F FB3.F71.F80=3383//4 FB3.F80=3382 1025.102E=3640 1B05.1B35=3859
1B07.1B35=385B 1B09.1B35=385D 1B0B.1B35=385F 1B0D.1B35=3861 1B11.1B35=3865 1B3A.1B35=3894
1B3C.1B35=3896 1B3E.1B35=3899 1B3F.1B35=389A 1B42.1B35=389C 105D2.307=4EB7 105DA.307=4ED2
11131.11127=36D1 11132.11127=36D2 11347.1133E=2E72 11347.11357=2E73 11382.113C9=2E7B
11384.113BB=2E7D 1138B.113C2=2E83 11390.113C9=2E85 113C2.113B8=2EB7 113C2.113C2=2EB6
113C2.113C9=2EB8 114B9.114B0=2F48 114B9.114BA=2F47 114B9.114BD=2F4A 115B8.115AF=2F85
115B9.115AF=2F86 11935.11930=3035 1611E.1611E=4FB0 1611E.1611E.1611F=4FB5 1611E.1611E.16120=4FB7
1611E.1611F=4FB2 1611E.16120=4FB4 1611E.16129=4FB1 1611E.16129.1611F=4FB6 16129.1611F=4FB3
16D63.16D67=4FE8 16D63.16D67.16D67=4FE9 16D67.16D67=4FE7"

def contractions : List (List Char × List Element) :=
  (tableWords contractionTable).map fun word =>
    let parts := word.splitOn "="
    (charsOfCodes (parts.headD ""), Element.listOfText (parts.getD 1 ""))

/-- The vowels that are written before their consonant, and the consonants that they are written
with, as ranges of code points. -/
def frontVowels : List ((Nat × Nat) × List (Nat × Nat)) :=
  [((0xE40, 0xE44), [(0xE01, 0xE2E)]),
   ((0xEC0, 0xEC4), [(0xE81, 0xE82), (0xE84, 0xE84), (0xE86, 0xE8A), (0xE8C, 0xEA3),
     (0xEA5, 0xEA5), (0xEA7, 0xEAE), (0xEDC, 0xEDF)]),
   ((0x19B5, 0x19B7), [(0x1980, 0x19AB)]), ((0x19BA, 0x19BA), [(0x1980, 0x19AB)]),
   ((0xAAB5, 0xAAB6), [(0xAA80, 0xAAAF)]), ((0xAAB9, 0xAAB9), [(0xAA80, 0xAAAF)]),
   ((0xAABB, 0xAABC), [(0xAA80, 0xAAAF)])]

/-- Whether a vowel is written before a consonant and ordered after it. -/
def isFrontVowelOf (vowel consonant : Char) : Bool :=
  let within (c : Char) (range : Nat × Nat) : Bool := range.1 ≤ c.toNat && c.toNat ≤ range.2
  frontVowels.any fun (vowels, consonants) =>
    within vowel vowels && consonants.any (within consonant)

/-- The longest contraction that a text begins with, and what it weighs. -/
def contractionAt? (cs : List Char) : Option (List Char × List Element) :=
  let found := contractions.filter (·.1.isPrefixOf cs)
  let length := (found.map (·.1.length)).foldl max 0
  found.find? (·.1.length = length)

/-- What a letter or a contraction weighs with the marks behind it that make a contraction with it,
and the text without them. Marks of lower classes may stand before such a mark; `passed` is the
highest class of those. -/
def withMarks (contraction? : List Char → Option (List Element)) (taken : List Char)
    (elements : List Element) (passed : Nat) : List Char → List Element × List Char
  | [] => (elements, [])
  | mark :: rest =>
    let degree := combiningClass mark
    if degree = 0 then (elements, mark :: rest)
    else
      match if passed < degree then contraction? (taken ++ [mark]) else none with
      | some longer => withMarks contraction? (taken ++ [mark]) longer passed rest
      | none =>
        let (elements, left) :=
          withMarks contraction? taken elements (max passed degree) rest
        (elements, mark :: left)

theorem length_withMarks_le (contraction? : List Char → Option (List Element))
    (taken : List Char) (elements : List Element) (passed : Nat) (cs : List Char) :
    (withMarks contraction? taken elements passed cs).2.length ≤ cs.length := by
  induction cs generalizing taken elements passed with
  | nil => simp [withMarks]
  | cons mark rest ih =>
    simp only [withMarks]
    split
    · simp
    split
    · exact Nat.le_succ_of_le (ih _ _ _)
    · simpa using ih taken elements (max passed (combiningClass mark))

/-- The elements at the start of a text, which may belong to more than its first character, and the
text behind that character without what else they belong to. None of ASCII comes second. -/
def leading (single : Char → List Element) (c : Char) (rest : List Char) :
    List Element × List Char :=
  match rest with
  | [] => (single c, rest)
  | d :: behind =>
    if d.toNat < 0x80 then (single c, rest)
    else if isFrontVowelOf c d then (single d ++ single c, behind)
    else
      let found := (contractionAt? (c :: rest)).getD ([c], single c)
      withMarks (contractions.lookup ·) found.1 found.2 0 (rest.drop (found.1.length - 1))

theorem length_leading_le (single : Char → List Element) (c : Char) (rest : List Char) :
    (leading single c rest).2.length ≤ rest.length := by
  cases rest with
  | nil => exact Nat.le_refl _
  | cons d behind =>
    simp only [leading]
    by_cases h : d.toNat < 0x80
    · simp [h]
    by_cases h' : isFrontVowelOf c d
    · simp [h, h']
    · rw [if_neg h, if_neg h']
      refine Nat.le_trans (length_withMarks_le _ _ _ _ _) ?_
      rw [List.length_drop]
      exact Nat.sub_le _ _

/-- The elements of a text, from those of its characters. -/
def elementsOf (single : Char → List Element) : List Char → List Element
  | [] => []
  | c :: rest =>
    match h : leading single c rest with
    | (elements, left) =>
      have : left.length ≤ rest.length := by
        have := length_leading_le single c rest
        rwa [h] at this
      elements ++ elementsOf single left
termination_by cs => cs.length

/-- The elements of a character. One that stands for others weighs what they do, in its form,
unless the table has it. -/
def charElements (c : Char) : List Element :=
  match Decomposition.ofChar? c with
  | none => letterElements c
  | some d =>
    (tableElements? c).getD
      ((elementsOf letterElements (decomposed true [c])).map (·.inForm d.form))

/-- The elements of a text. -/
def elements (s : String) : List Element :=
  elementsOf charElements (decomposed false s.toList)

/-- What texts are ordered by: the weights of all places, then those of all accents, then those of
all drawings. No weight in it is 0, so that the shorter of two lists comes first. -/
def key (s : String) : List Nat :=
  let counted (weight : Element → Nat) := ((elements s).map weight).filter (· ≠ 0)
  counted (·.primary) ++ 0 :: (counted (·.secondary) ++ 0 :: counted (·.tertiary))

/-- Whether a key comes before another or is the same: the first number in which they differ
decides, and a key comes before its extensions. -/
def keyLe : List Nat → List Nat → Bool
  | [], _ => true
  | _ :: _, [] => false
  | a :: as, b :: bs => if a = b then keyLe as bs else a < b

theorem keyLe_total (k l : List Nat) : keyLe k l || keyLe l k := by
  induction k generalizing l with
  | nil => rfl
  | cons a as ih =>
    cases l with
    | nil => rfl
    | cons b bs =>
      by_cases h : a = b
      · simpa [keyLe, h] using ih bs
      · simp only [keyLe, h, Ne.symm h, if_false, Bool.or_eq_true, decide_eq_true_eq]
        omega

theorem keyLe_trans {k l m : List Nat} (h₁ : keyLe k l) (h₂ : keyLe l m) : keyLe k m := by
  induction k generalizing l m with
  | nil => rfl
  | cons a as ih =>
    cases l with
    | nil => simp [keyLe] at h₁
    | cons b bs =>
      cases m with
      | nil => simp [keyLe] at h₂
      | cons c cs =>
        simp only [keyLe] at h₁ h₂ ⊢
        by_cases hab : a = b
        · subst hab
          by_cases hac : a = c
          · subst hac
            simpa using ih (by simpa using h₁) (by simpa using h₂)
          · simpa [hac] using h₂
        · have hlt : a < b := by simpa [hab] using h₁
          have hle : b ≤ c := by
            by_cases hbc : b = c
            · omega
            · exact Nat.le_of_lt (by simpa [hbc] using h₂)
          have hac : a < c := Nat.lt_of_lt_of_le hlt hle
          simp [Nat.ne_of_lt hac, hac]

/-- Whether `s` may stand before `t`. -/
def le (s t : String) : Bool := keyLe (key s) (key t)

theorem le_total (s t : String) : le s t || le t s := keyLe_total (key s) (key t)

theorem le_trans {s t u : String} (h₁ : le s t) (h₂ : le t u) : le s u := keyLe_trans h₁ h₂

end Depot.Text.Collation
