import Mathlib
import Depot.Instant
/-!
# Doubles in order

Doubles are ordered like their bits, the sign apart, so a bound on their size is one on their bits.
A time between two dates is therefore a date.
-/
namespace Depot
namespace Number
open Float.Model Float.Model.UnpackedFloat

/-- The place of a double among all of them; NaN is beyond the infinities. -/
def rank (x : Float) : Int :=
  let bits : Int := x.toBits.toNat
  if bits < 2 ^ 63 then bits else 2 ^ 63 - bits

/-- `mantissa * 2 ^ exponent` is the finite double with these bits, the sign apart. -/
structure Digits (mantissa : Nat) (exponent : Int) (bits : Nat) : Prop where
  place : (bits : Int) = (exponent + 1074) * 2 ^ 52 + mantissa
  least : -1074 ≤ exponent
  greatest : exponent ≤ 971
  short : mantissa < 2 ^ 53
  full : -1074 < exponent → 2 ^ 52 ≤ mantissa

theorem Digits.bounds {m n : Nat} {e : Int} (h : Digits m e n) (pos : 0 < m) :
    0 < n ∧ n < 2047 * 2 ^ 52 := by
  obtain ⟨place, least, greatest, short, -⟩ := h
  omega

theorem Digits.lt_of_compare {m n k l : Nat} {d e : Int} (h : Digits m d k) (h' : Digits n e l)
    (less : (compare d e).then (compare m n) = .lt) : k < l := by
  obtain ⟨place, least, -, short, -⟩ := h
  obtain ⟨place', -, -, -, full⟩ := h'
  rcases Ordering.then_eq_lt.mp less with below | ⟨same, below⟩
  · have := Int.compare_eq_lt.mp below
    omega
  · have := Int.compare_eq_eq.mp same
    have := Nat.compare_eq_lt.mp below
    omega

theorem Digits.eq_of_compare {m n k l : Nat} {d e : Int} (h : Digits m d k) (h' : Digits n e l)
    (same : (compare d e).then (compare m n) = .eq) : k = l := by
  obtain ⟨exponents, mantissas⟩ := Ordering.then_eq_eq.mp same
  have := Int.compare_eq_eq.mp exponents
  have := Nat.compare_eq_eq.mp mantissas
  have := h.place
  have := h'.place
  subst_vars
  omega

/-- What the double with this sign and these other bits is. -/
inductive Stands : UnpackedFloat → Sign → Nat → Prop where
  | infinity (s : Sign) : Stands (.infinity s) s (2047 * 2 ^ 52)
  | nan (s : Sign) {n : Nat} (beyond : 2047 * 2 ^ 52 < n) : Stands .notANumber s n
  | zero (s : Sign) : Stands (.zero s) s 0
  | finite (s : Sign) {m n : Nat} {e : Int} (digits : Digits m e n) (pos : 0 < m) :
    Stands (.finite s m e pos) s n

/-- The order of doubles is the order of their bits. -/
theorem Stands.lt_of_compare {u v : UnpackedFloat} {s t : Sign} {m n : Nat} (hu : Stands u s m)
    (hv : Stands v t n) (less : u.compare v = some .lt) : s.apply m < t.apply n := by
  cases hv with
  | nan => cases u <;> cases less
  | infinity t =>
    cases hu with
    | nan => cases less
    | infinity s => cases s <;> cases t <;> first | (cases less; done) | decide
    | zero s => cases t <;> cases s <;> first | (cases less; done) | decide
    | finite s digits pos =>
      have := digits.bounds pos
      cases t <;> cases s <;> first | (cases less; done) | (simp only [Sign.apply]; omega)
  | zero t =>
    cases hu with
    | nan => cases less
    | infinity s => cases s <;> cases t <;> first | (cases less; done) | decide
    | zero s => cases less
    | finite s digits pos =>
      have := digits.bounds pos
      cases t <;> cases s <;> first | (cases less; done) | (simp only [Sign.apply]; omega)
  | finite t digits pos =>
    have := digits.bounds pos
    cases hu with
    | nan => cases less
    | infinity s =>
      cases s <;> cases t <;> first | (cases less; done) | (simp only [Sign.apply]; omega)
    | zero s =>
      cases t <;> cases s <;> first | (cases less; done) | (simp only [Sign.apply]; omega)
    | finite s digits' pos' =>
      have := digits'.bounds pos'
      cases s <;> cases t
      · have larger := Ordering.swap_eq_lt.mp (Option.some.inj less)
        rw [← Int.compare_swap, ← Nat.compare_swap, ← Ordering.swap_then,
          Ordering.swap_eq_gt] at larger
        have := digits.lt_of_compare digits' larger
        simp only [Sign.apply]
        omega
      · simp only [Sign.apply]
        omega
      · cases less
      · have := digits'.lt_of_compare digits (Option.some.inj less)
        simp only [Sign.apply]
        omega

/-- Doubles that are equal have the same bits, but for the sign of zero. -/
theorem Stands.eq_of_compare {u v : UnpackedFloat} {s t : Sign} {m n : Nat} (hu : Stands u s m)
    (hv : Stands v t n) (same : u.compare v = some .eq) : s.apply m = t.apply n := by
  cases hv with
  | nan => cases u <;> cases same
  | infinity t =>
    cases hu with
    | infinity s => cases s <;> cases t <;> first | rfl | cases same
    | nan | zero s | finite s => cases t <;> cases same
  | zero t =>
    cases hu with
    | zero s => cases s <;> cases t <;> rfl
    | nan => cases same
    | infinity s | finite s => cases s <;> cases same
  | finite t digits pos =>
    cases hu with
    | nan => cases same
    | infinity s => cases s <;> cases same
    | zero s => cases t <;> cases same
    | finite s digits' pos' =>
      cases s <;> cases t
      · have equal := Ordering.swap_eq_eq.mp (Option.some.inj same)
        rw [digits'.eq_of_compare digits equal]
      · cases same
      · cases same
      · rw [digits'.eq_of_compare digits (Option.some.inj same)]

section Unpacking
variable (b : BitVec Format.binary64.numBits)

theorem toNat_unpackMantissa : (unpackMantissa b).toNat = b.toNat % 2 ^ 52 := by
  simp [unpackMantissa]

theorem toNat_unpackExponent : (unpackExponent b).toNat = b.toNat / 2 ^ 52 % 2 ^ 11 := by
  simp [unpackExponent, Nat.shiftRight_eq_div_pow]

theorem ofBitVec_unpackSign :
    Sign.ofBitVec (unpackSign b) = if b.toNat < 2 ^ 63 then .positive else .negative := by
  have within : b.toNat < 2 ^ 64 := b.isLt
  have sign : (unpackSign b).toNat = b.toNat / 2 ^ 63 % 2 := by
    simp [unpackSign, Nat.shiftRight_eq_div_pow]
  have bit : unpackSign b = 0#1 ↔ b.toNat < 2 ^ 63 := by
    rw [← BitVec.toNat_inj, sign, BitVec.toNat_ofNat]
    omega
  simp only [Sign.ofBitVec, bit]

theorem toNat_implicit_append (m : BitVec 52) : (1#1 ++ m).toNat = 2 ^ 52 + m.toNat := by
  rw [BitVec.toNat_append, ← Nat.shiftLeft_add_eq_or_of_lt m.isLt]
  rfl

theorem stands_unpack : Stands (UnpackedFloat.unpack Format.binary64 b)
    (if b.toNat < 2 ^ 63 then .positive else .negative) (b.toNat % 2 ^ 63) := by
  have exponent := toNat_unpackExponent b
  have mantissa := toNat_unpackMantissa b
  have bias : Format.binary64.exponentBias = 1023 := rfl
  unfold UnpackedFloat.unpack
  simp only [ofBitVec_unpackSign, bias]
  split
  case isTrue top =>
    rw [top] at exponent
    split
    case isTrue zero =>
      rw [zero] at mantissa
      have size : b.toNat % 2 ^ 63 = 2047 * 2 ^ 52 := by
        simp at exponent mantissa
        omega
      rw [size]
      exact .infinity _
    case isFalse nonzero =>
      rw [← BitVec.toNat_inj, mantissa] at nonzero
      refine .nan _ ?_
      simp at exponent nonzero
      omega
  case isFalse top =>
    split
    case isTrue bottom =>
      rw [bottom] at exponent ⊢
      split
      case isTrue zero =>
        rw [zero] at mantissa
        have size : b.toNat % 2 ^ 63 = 0 := by
          simp at exponent mantissa
          omega
        rw [size]
        exact .zero _
      case isFalse zero =>
        refine .finite _ ⟨?_, ?_, ?_, ?_, ?_⟩ _ <;> simp at exponent ⊢ <;> omega
    case isFalse bottom =>
      rw [← BitVec.toNat_inj, exponent] at bottom top
      refine .finite _ ⟨?_, ?_, ?_, ?_, ?_⟩ _ <;>
        simp [toNat_implicit_append] at top bottom ⊢ <;> omega

end Unpacking

theorem apply_size (n : Nat) (h : n < 2 ^ 64) :
    (if n < 2 ^ 63 then Sign.positive else .negative).apply (n % 2 ^ 63 : Nat) =
      if (n : Int) < 2 ^ 63 then (n : Int) else 2 ^ 63 - n := by
  by_cases positive : n < 2 ^ 63
  · rw [if_pos positive, if_pos (by omega), Nat.mod_eq_of_lt positive]
    rfl
  · rw [if_neg positive, if_neg (by omega), Sign.apply]
    omega

/-- The order of doubles that are not NaN. -/
theorem rank_lt_rank {x y : Float} (h : x < y) : rank x < rank y := by
  have less : x.toModel.unpack.compare y.toModel.unpack = some .lt := by
    have less : x.toModel < y.toModel := of_decide_eq_true h
    exact beq_iff_eq.mp less
  have := (stands_unpack x.toModel.toBits.toBitVec).lt_of_compare
    (stands_unpack y.toModel.toBits.toBitVec) less
  rwa [apply_size _ (BitVec.isLt _), apply_size _ (BitVec.isLt _)] at this

theorem rank_eq_of_beq {x y : Float} (h : (x == y) = true) : rank x = rank y := by
  have same : x.toModel.unpack.compare y.toModel.unpack = some .eq := beq_iff_eq.mp h
  have := (stands_unpack x.toModel.toBits.toBitVec).eq_of_compare
    (stands_unpack y.toModel.toBits.toBitVec) same
  rwa [apply_size _ (BitVec.isLt _), apply_size _ (BitVec.isLt _)] at this

/-- Doubles with the same place are the same, zero apart. -/
theorem eq_of_rank_eq {x y : Float} (same : rank x = rank y) (nonzero : rank y ≠ 0) : x = y := by
  dsimp only [rank] at same nonzero
  have bits : x.toBits.toNat = y.toBits.toNat := by
    split_ifs at same nonzero <;> omega
  have bits : x.toModel.toBits = y.toModel.toBits := UInt64.toNat_inj.mp bits
  obtain ⟨⟨xs, _⟩⟩ := x
  obtain ⟨⟨ys, _⟩⟩ := y
  cases bits
  rfl

theorem eq_of_beq {x y : Float} (h : (x == y) = true) (nonzero : rank y ≠ 0) : x = y :=
  eq_of_rank_eq (rank_eq_of_beq h) nonzero

/-- The bits of a double, the sign apart, by what it is read as. -/
theorem natAbs_rank (x : Float) : match exact x with
    | .finite _ m e => Digits m e (rank x).natAbs
    | _ => 2047 * 2 ^ 52 ≤ (rank x).natAbs := by
  have within : x.toBits.toNat < 2 ^ 64 := x.toBits.toNat_lt
  unfold exact rank
  generalize x.toBits.toNat = bits at within ⊢
  simp only [Nat.pow_eq]
  split_ifs <;> first | (refine ⟨?_, ?_, ?_, ?_, ?_⟩ <;> omega) | omega

/-- A finite double is no larger than the largest number of a date if its bits are no larger. -/
theorem Digits.cut_le_iff {m n : Nat} {e : Int} (h : Digits m e n) :
    m * 2 ^ e.toNat / 2 ^ (-e).toNat ≤ 8640000000000000 ↔
      n ≤ 1074 * 2 ^ 52 + 8640000000000000 := by
  obtain ⟨place, least, greatest, short, full⟩ := h
  rcases Int.lt_trichotomy e 0 with below | rfl | above
  · have half : 2 ≤ 2 ^ (-e).toNat := Nat.le_self_pow (by omega) 2
    have cut : m * 2 ^ e.toNat / 2 ^ (-e).toNat ≤ m / 2 := by
      rw [Int.toNat_of_nonpos (Int.le_of_lt below), Nat.pow_zero, Nat.mul_one]
      exact Nat.div_le_div_left half (by decide)
    constructor <;> intro <;> omega
  · simp
    omega
  · have twice : 2 ≤ 2 ^ e.toNat := Nat.le_self_pow (by omega) 2
    have cut : m * 2 ≤ m * 2 ^ e.toNat / 2 ^ (-e).toNat := by
      rw [Int.toNat_of_nonpos (show -e ≤ 0 by omega), Nat.pow_zero, Nat.div_one]
      exact Nat.mul_le_mul_left m twice
    constructor <;> intro <;> omega

end Number

namespace Instant
open Number

theorem isSome_ofMillis?_iff (ms : Int) : (ofMillis? ms).isSome ↔ ms.natAbs ≤ limit.natAbs := by
  simp [ofMillis?]

theorem isSome_ofNumber?_iff (x : Float) :
    (ofNumber? x).isSome ↔ (rank x).natAbs ≤ 1074 * 2 ^ 52 + 8640000000000000 := by
  have size := natAbs_rank x
  unfold ofNumber? truncate?
  cases h : exact x with
  | finite negative m e =>
    rw [h] at size
    rw [← size.cut_le_iff, Option.bind_some, isSome_ofMillis?_iff]
    cases negative with
    | false => exact Iff.rfl
    | true =>
      rw [if_pos rfl, Int.natAbs_neg]
      exact Iff.rfl
  | _ =>
    rw [h] at size
    simp only [Option.bind_none, Option.isSome_none, Bool.false_eq_true, false_iff]
    omega

/-- A time between two dates is a date. -/
theorem isSome_ofNumber?_of_between {x first last : Float} (begins : (ofNumber? first).isSome)
    (ends : (ofNumber? last).isSome) (after : rank first ≤ rank x) (before : rank x ≤ rank last) :
    (ofNumber? x).isSome := by
  rw [isSome_ofNumber?_iff] at begins ends ⊢
  omega

end Instant
end Depot
