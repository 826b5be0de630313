import Mathlib.Data.List.DropRight
import Depot.Number.Shortest
import Depot.Proofs.Number.Value
/-!
# Texts of numbers

The text of a finite number is a decimal numeral: digits without a needless zero in front, and then
perhaps a fraction and an exponent, each with a digit at least.
-/
namespace Depot.Number

/-- Whether these are decimal digits, and no others. -/
def AreDigits (cs : List Char) : Prop := ∀ c ∈ cs, c.isDigit = true

namespace AreDigits
variable {cs ds : List Char}

theorem nil : AreDigits [] := fun _ mem => absurd mem List.not_mem_nil

theorem singleton {c : Char} (h : c.isDigit = true) : AreDigits [c] :=
  fun _ mem => List.mem_singleton.mp mem ▸ h

theorem append (hc : AreDigits cs) (hd : AreDigits ds) : AreDigits (cs ++ ds) := by
  intro c mem
  rcases List.mem_append.mp mem with mem | mem
  · exact hc c mem
  · exact hd c mem

theorem sublist (hd : AreDigits ds) (sub : cs.Sublist ds) : AreDigits cs :=
  fun c mem => hd c (sub.subset mem)

theorem zeros (n : Int) : AreDigits (zeros n) := by
  intro c mem
  rw [List.eq_of_mem_replicate mem]
  decide

theorem toDigits (n : Nat) : AreDigits (Nat.toDigits 10 n) :=
  fun _ mem => Nat.isDigit_of_mem_toDigits (by decide) (by decide) mem

end AreDigits

/-- A decimal numeral. Without a fraction it has no point. -/
structure Numeral where
  negative : Bool := false
  whole : List Char
  fraction : List Char := []
  exponent : Option Int := none
  ne_nil : whole ≠ []
  whole_digits : AreDigits whole
  /-- A zero in front stands alone. -/
  front : whole.head? = some '0' → whole.length = 1
  fraction_digits : AreDigits fraction := by exact .nil

namespace Numeral

def fractionText (n : Numeral) : List Char := if n.fraction = [] then [] else '.' :: n.fraction

def exponentText (n : Numeral) : List Char :=
  match n.exponent with
  | none => []
  | some e => 'e' :: (if e < 0 then '-' else '+') :: Nat.toDigits 10 e.natAbs

/-- A numeral without its sign. -/
def body (n : Numeral) : List Char := n.whole ++ (n.fractionText ++ n.exponentText)

def toList (n : Numeral) : List Char := if n.negative then '-' :: n.body else n.body

/-- A single digit as a numeral. -/
def digit (c : Char) (h : c.isDigit = true) : Numeral where
  whole := [c]
  ne_nil := List.cons_ne_nil _ _
  whole_digits := .singleton h
  front _ := rfl

end Numeral

/-! ## Digits in front -/

theorem head?_toDigits {n : Nat} (pos : 0 < n) : (Nat.toDigits 10 n).head? ≠ some '0' := by
  induction n using Nat.strongRecOn with
  | ind n ih =>
    rw [Nat.toDigits_eq_if (by decide)]
    split
    case isTrue small =>
      intro head
      have zero : n.digitChar = '0' := Option.some.inj head
      rw [Nat.digitChar_eq_zero] at zero
      omega
    case isFalse large =>
      rw [List.head?_append_of_ne_nil _ Nat.toDigits_ne_nil]
      exact ih (n / 10) (by omega) (by omega)

/-- Digits that begin with one that is not zero. -/
structure AreLeading (ds : List Char) : Prop where
  ne_nil : ds ≠ []
  digits : AreDigits ds
  front : ds.head? ≠ some '0'

theorem areLeading_significant {n : Nat} (pos : 0 < n) : AreLeading (significant n) := by
  have front := head?_toDigits pos
  have short : significant n <+: Nat.toDigits 10 n := List.rdropWhile_prefix _ _
  have ne_nil : significant n ≠ [] := by
    intro empty
    have zeros : ∀ c ∈ Nat.toDigits 10 n, (c == '0') = true := List.rdropWhile_eq_nil_iff.mp empty
    cases digits : Nat.toDigits 10 n with
    | nil => exact Nat.toDigits_ne_nil digits
    | cons c cs =>
      rw [digits] at zeros front
      exact front (congrArg some (beq_iff_eq.mp (zeros c (List.mem_cons_self ..))))
  constructor
  · exact ne_nil
  · exact (AreDigits.toDigits n).sublist short.sublist
  · obtain ⟨rest, cut⟩ := short
    rwa [← cut, List.head?_append_of_ne_nil _ ne_nil] at front

/-! ## The digits of the shortest decimal -/

/-- What reads back as a positive number is positive. -/
theorem pos_of_readsBack {m c : Nat} {q s : Int} (pos : 0 < m) (h : readsBack m q c s = true) :
    0 < c := by
  rcases Nat.eq_zero_or_pos c with rfl | positive
  · have step : 0 < Nat.pow 2 q.toNat * Nat.pow 10 (-s).toNat :=
      Nat.mul_pos (Nat.pow_pos (by decide)) (Nat.pow_pos (by decide))
    have low (below : Nat) (le : below ≤ 2) :
        0 < (4 * m - below) * (Nat.pow 2 q.toNat * Nat.pow 10 (-s).toNat) :=
      Nat.mul_pos (by omega) step
    have low_one := low 1 (by decide)
    have low_two := low 2 (by decide)
    unfold readsBack at h
    split at h <;> split at h <;> simp at h <;> omega
  · exact positive

theorem pos_of_gridPoint? {m c : Nat} {q s : Int} (pos : 0 < m) (h : gridPoint? m q s = some c) :
    0 < c := by
  unfold gridPoint? at h
  dsimp only at h
  split at h
  case h_1 first _ =>
    have below := pos_of_readsBack pos first
    have rounded := Option.some.inj h
    unfold roundDiv at rounded
    dsimp only at rounded
    split at rounded <;> omega
  case h_2 first _ =>
    have below := pos_of_readsBack pos first
    exact Option.some.inj h ▸ below
  case h_3 =>
    exact Option.some.inj h ▸ Nat.succ_pos _
  case h_4 => cases h

theorem digits_refine_pos {m : Nat} (pos : 0 < m) (q p : Int) (left count : Nat) :
    0 < (refine m q p left count).digits := by
  induction left generalizing count with
  | zero => exact pos
  | succ left ih =>
    rw [refine]
    split
    case h_1 c found => exact pos_of_gridPoint? pos found
    case h_2 => exact ih (count + 1)

/-! ## Layouts -/

section Layouts
variable {ds : List Char}

/-- Leading digits, written as a whole number with zeros behind. -/
theorem AreLeading.exists_whole (lead : AreLeading ds) (n : Int) :
    ∃ numeral : Numeral, ds ++ zeros n = numeral.body := by
  have same : (ds ++ zeros n).head? = ds.head? := List.head?_append_of_ne_nil _ lead.ne_nil
  let numeral : Numeral := {
    whole := ds ++ zeros n
    ne_nil := List.append_ne_nil_of_left_ne_nil lead.ne_nil _
    whole_digits := lead.digits.append (.zeros n)
    front := fun zero => absurd (same ▸ zero) lead.front }
  exact ⟨numeral, by simp [numeral, Numeral.body, Numeral.fractionText, Numeral.exponentText]⟩

/-- Leading digits with a point between two of them. -/
theorem AreLeading.exists_pointed (lead : AreLeading ds) {k : Nat} (pos : 0 < k)
    (inside : k < ds.length) : ∃ numeral : Numeral, ds.take k ++ '.' :: ds.drop k = numeral.body := by
  have same : (ds.take k).head? = ds.head? := by rw [List.head?_take, if_neg (by omega)]
  have before : ds.take k ≠ [] := List.length_pos_iff.mp (by rw [List.length_take]; omega)
  have behind : ds.drop k ≠ [] := List.length_pos_iff.mp (by rw [List.length_drop]; omega)
  let numeral : Numeral := {
    whole := ds.take k
    fraction := ds.drop k
    ne_nil := before
    whole_digits := lead.digits.sublist (List.take_sublist k ds)
    front := fun zero => absurd (same ▸ zero) lead.front
    fraction_digits := lead.digits.sublist (List.drop_sublist k ds) }
  exact ⟨numeral, by
    simp [numeral, Numeral.body, Numeral.fractionText, Numeral.exponentText, behind]⟩

/-- Leading digits behind a point and perhaps zeros. -/
theorem AreLeading.exists_fraction (lead : AreLeading ds) (n : Int) :
    ∃ numeral : Numeral, '0' :: '.' :: zeros n ++ ds = numeral.body := by
  let numeral : Numeral := {
    whole := ['0']
    fraction := zeros n ++ ds
    ne_nil := List.cons_ne_nil _ _
    whole_digits := .singleton rfl
    front := fun _ => rfl
    fraction_digits := .append (.zeros n) lead.digits }
  exact ⟨numeral, by
    simp [numeral, Numeral.body, Numeral.fractionText, Numeral.exponentText, lead.ne_nil]⟩

/-- Digits with a point behind the first one, if there are more, and an exponent. -/
theorem exists_scientific {d : Char} {rest : List Char} (digits : AreDigits (d :: rest)) (e : Int) :
    ∃ numeral : Numeral, numeral.body = d :: ((if rest = [] then [] else '.' :: rest) ++
      'e' :: (if e < 0 then '-' else '+') :: Nat.toDigits 10 e.natAbs) := by
  let numeral : Numeral := {
    whole := [d]
    fraction := rest
    exponent := some e
    ne_nil := List.cons_ne_nil _ _
    whole_digits := .singleton (digits d (List.mem_cons_self ..))
    front := fun _ => rfl
    fraction_digits := fun c mem => digits c (List.mem_cons_of_mem d mem) }
  exact ⟨numeral, by
    simp [numeral, Numeral.body, Numeral.fractionText, Numeral.exponentText]⟩

/-- Whatever the layout, leading digits become a numeral. -/
theorem Layout.exists_body (l : Layout) (lead : AreLeading ds) (p : Int) :
    ∃ numeral : Numeral, l.write ds p = numeral.body := by
  unfold Layout.write
  dsimp only
  split
  case isTrue => exact lead.exists_whole _
  case isFalse long =>
    split
    case isTrue inside => exact lead.exists_pointed (by omega) (by omega)
    case isFalse =>
      split
      case isTrue => exact lead.exists_fraction _
      case isFalse =>
        obtain ⟨first, digits, -⟩ := lead
        cases ds with
        | nil => exact absurd rfl first
        | cons d rest =>
          obtain ⟨numeral, body⟩ := exists_scientific digits (p - 1)
          refine ⟨numeral, ?_⟩
          rw [body]
          cases rest with
          | nil => by_cases below : p - 1 < 0 <;> simp [below]
          | cons => by_cases below : p - 1 < 0 <;> simp [below]

end Layouts

/-- The text of a finite number is a numeral. -/
theorem exists_numeral {x : Float} (finite : x.isFinite = true) :
    ∃ numeral : Numeral, (text x).toList = numeral.toList := by
  obtain ⟨negative, m, q, read⟩ := exists_exact (isFinite_eq_true_iff.mp finite)
  unfold text
  rw [read]
  dsimp only
  split
  case isTrue => exact ⟨.digit '0' rfl, rfl⟩
  case isFalse other =>
    have positive : 0 < (shortest m q).digits := digits_refine_pos (Nat.pos_of_ne_zero other) ..
    obtain ⟨numeral, body⟩ := plain.exists_body (areLeading_significant positive)
      ((Nat.toDigits 10 (shortest m q).digits).length + (shortest m q).exponent)
    refine ⟨{ numeral with negative := negative }, ?_⟩
    rw [String.toList_ofList, body]
    rfl

end Depot.Number
