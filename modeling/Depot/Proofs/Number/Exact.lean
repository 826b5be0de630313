import Depot.Proofs.Number.Decimal
import Depot.Proofs.Number.Rounding
/-!
# Exact values and their doubles

A quotient of naturals, and a double scaled by a power of two, are rounded once. Integers of up to
53 bits are doubles, so the integral part of a double is one.
-/
namespace Depot.Number
open Float.Model Float.Model.UnpackedFloat

/-! ## Rounded quotients -/

theorem rank_ofBits {b : UInt64} (h : b.toNat % 2 ^ 63 < 2047 * 2 ^ 52) :
    rank (Float.ofBits b) = if (b.toNat : ℤ) < 2 ^ 63 then (b.toNat : ℤ) else 2 ^ 63 - b.toNat := by
  have stands := stands_unpack b.toBitVec
  have size : b.toBitVec.toNat = b.toNat := rfl
  rw [size] at stands
  have packed := (stands.unpacked h).rank_pack
  rwa [place_position (by rw [natAbs_apply]; exact h.le), apply_size _ b.toNat_lt] at packed

theorem roundDiv_eq (a : ℕ) {b : ℕ} (pos : 0 < b) : roundDiv a b = roundEven (a / b) := by
  rw [← (extends_fraction a pos).roundedMantissa_eq, roundDiv, accuracyOfFraction]
  generalize a / b = q
  generalize a % b = r
  by_cases zero : r = 0
  · simp [zero, ExtendedMantissa.roundedMantissa, ExtendedMantissa.ofMantissaAndAccuracy,
      ExtendedMantissa.accuracy, Accuracy.roundToNearestEven, pos.ne]
  · rw [if_neg zero]
    rcases Nat.lt_trichotomy (2 * r) b with half | half | half
    · rw [Nat.compare_eq_lt.mpr half, if_neg (by omega)]
      rfl
    · rw [Nat.compare_eq_eq.mpr half]
      have rounded : (ExtendedMantissa.ofMantissaAndAccuracy q (.inexact .eq)).roundedMantissa =
        q + q % 2 := rfl
      rw [rounded]
      split_ifs <;> omega
    · rw [Nat.compare_eq_gt.mpr half, if_pos (by omega)]
      rfl

/-- The exponent of a real, by the powers of two around it. -/
theorem stepOf_of_log {r : ℝ} {l : ℤ} (le : 2 ^ l ≤ r) (lt : r < 2 ^ (l + 1)) :
    (stepOf r : ℤ) - 1074 = max (l - 52) (-1074) := by
  obtain ⟨k, exponent⟩ : ∃ k : ℕ, max (l - 52) (-1074) = (k : ℤ) - 1074 :=
    ⟨(max (l - 52) (-1074) + 1074).toNat, by omega⟩
  have step : stepOf r = k := by
    refine stepOf_eq (lt.trans_le ?_) fun pos => le_trans ?_ le
    · exact zpow_le_zpow_right₀ one_le_two (by omega)
    · exact zpow_le_zpow_right₀ one_le_two (by omega)
  rw [exponent, step]

/-- A power of two, with its exponent split by sign. -/
theorem two_pow_toNat (e : ℤ) : (2 : ℝ) ^ e.toNat = 2 ^ e * 2 ^ (-e).toNat := by
  rw [← zpow_natCast, ← zpow_natCast, ← zpow_add₀ two_ne_zero]
  congr 1
  omega

theorem ratioExponent_eq {num den : ℕ} (hn : num ≠ 0) (hd : den ≠ 0) :
    ratioExponent num den = (stepOf (num / den) : ℤ) - 1074 := by
  have pos : (0 : ℝ) < den := by positivity
  have above : (num : ℝ) < 2 ^ (num.log2 + 1) := by exact_mod_cast Nat.lt_log2_self
  have below : (2 : ℝ) ^ num.log2 ≤ num := by exact_mod_cast Nat.log2_self_le hn
  have above' : (den : ℝ) < 2 ^ (den.log2 + 1) := by exact_mod_cast Nat.lt_log2_self
  have below' : (2 : ℝ) ^ den.log2 ≤ den := by exact_mod_cast Nat.log2_self_le hd
  obtain ⟨l, log⟩ : ∃ l : ℤ, (num.log2 : ℤ) - den.log2 = l := ⟨_, rfl⟩
  have least : (2 : ℝ) ^ (l - 1) ≤ num / den := by
    rw [le_div_iff₀ pos]
    calc (2 : ℝ) ^ (l - 1) * den ≤ 2 ^ (l - 1) * 2 ^ (den.log2 + 1) := by gcongr
      _ = 2 ^ num.log2 := by
        rw [← zpow_natCast, ← zpow_natCast, ← zpow_add₀ two_ne_zero]
        congr 1
        omega
      _ ≤ num := below
  have greatest : (num / den : ℝ) < 2 ^ (l + 1) := by
    rw [div_lt_iff₀ pos]
    calc (num : ℝ) < 2 ^ (num.log2 + 1) := above
      _ = 2 ^ (l + 1) * 2 ^ den.log2 := by
        rw [← zpow_natCast, ← zpow_natCast, ← zpow_add₀ two_ne_zero]
        congr 1
        omega
      _ ≤ 2 ^ (l + 1) * den := by gcongr
  have short : num * Nat.pow 2 (-(l - 52)).toNat < Nat.pow 2 52 * den * Nat.pow 2 (l - 52).toNat ↔
      (num / den : ℝ) < 2 ^ l := by
    have scale : (2 : ℝ) ^ 52 * den * (2 ^ (l - 52) * 2 ^ (-(l - 52)).toNat) =
        2 ^ l * den * 2 ^ (-(l - 52)).toNat := by
      rw [zpow_sub₀ two_ne_zero]
      field_simp
    rw [div_lt_iff₀ pos, ← mul_lt_mul_iff_left₀ (show (0 : ℝ) < 2 ^ (-(l - 52)).toNat by positivity),
      ← scale, ← two_pow_toNat]
    exact_mod_cast Iff.rfl
  rw [ratioExponent, log]
  by_cases half : (num / den : ℝ) < 2 ^ l
  · rw [if_pos (short.mpr half), stepOf_of_log least (by rwa [sub_add_cancel])]
    omega
  · rw [if_neg (fun h => half (short.mp h)), stepOf_of_log (not_lt.mp half) greatest]

theorem rank_ofBits_natCast {n : ℕ} (h : n < 2047 * 2 ^ 52) : rank (Float.ofBits n.toUInt64) = n := by
  have size : n.toUInt64.toNat = n := Nat.mod_eq_of_lt (by omega)
  rw [rank_ofBits (by omega), size, if_pos (by omega)]

/-- A quotient is rounded to the nearest double. -/
theorem rank_ofRatio (num : ℕ) {den : ℕ} (pos : den ≠ 0) : rank (ofRatio num den) = place (num / den) := by
  rw [place_of_nonneg (by positivity), ofRatio]
  simp only [Nat.pow_eq]
  split
  case isTrue zero =>
    rw [zero, Nat.cast_zero, zero_div, bits_of_nonpos le_rfl]
    decide +kernel
  case isFalse nonzero =>
    have exponent := ratioExponent_eq nonzero pos
    have scaled : ((num * 2 ^ (-ratioExponent num den).toNat : ℕ) : ℝ) /
        (den * 2 ^ (ratioExponent num den).toNat : ℕ) = num / den / unit (num / den) := by
      push_cast
      rw [two_pow_toNat (ratioExponent num den), unit_eq, ← exponent]
      field_simp
    have rounded : roundDiv (num * 2 ^ (-ratioExponent num den).toNat)
        (den * 2 ^ (ratioExponent num den).toNat) = mantissa (num / den) := by
      rw [roundDiv_eq _ (by positivity), scaled, mantissa]
    have step : (ratioExponent num den + 1074).toNat = stepOf (num / den) := by omega
    rw [rounded, step, bits]
    split
    case isTrue large =>
      rw [min_eq_right large]
      decide +kernel
    case isFalse small => rw [rank_ofBits_natCast (not_le.mp small), min_eq_left (not_le.mp small).le]

theorem value_ofRatio (num : ℕ) {den : ℕ} (pos : den ≠ 0) :
    value (ofRatio num den) = nearest (num / den) := by
  rw [value, rank_ofRatio num pos, nearest]

/-- A short multiple of a power of two is a double. -/
theorem exists_magnitude {m : ℕ} (short : m ≤ 2 ^ 53) (k : ℕ) :
    ∃ n, magnitude n = m * 2 ^ ((k : ℤ) - 1074) := by
  induction k generalizing m with
  | zero => exact ⟨m, by simpa using magnitude_add (k := 0) short (fun pos => by omega)⟩
  | succ k ih =>
    rcases lt_or_ge m (2 ^ 52) with low | high
    · obtain ⟨n, size⟩ := ih (m := 2 * m) (by omega)
      have exponent : ((k + 1 : ℕ) : ℤ) - 1074 = (k : ℤ) - 1074 + 1 := by omega
      refine ⟨n, ?_⟩
      rw [size, exponent, zpow_add_one₀ two_ne_zero]
      push_cast
      ring
    · exact ⟨_, magnitude_add short fun _ => high⟩

/-- A natural number of up to 53 bits is a double. -/
theorem nearest_natCast {n : ℕ} (short : n ≤ 2 ^ 53) : nearest n = n := by
  obtain ⟨k, size⟩ := exists_magnitude short 1074
  rw [show ((1074 : ℕ) : ℤ) - 1074 = 0 by norm_num, zpow_zero, mul_one] at size
  have within : k ≤ 2047 * 2 ^ 52 := by
    rw [← strictMono_magnitude.le_iff_le, size, magnitude_infinity]
    calc (n : ℝ) ≤ 2 ^ 53 := by exact_mod_cast short
      _ ≤ 2 ^ 1024 := pow_le_pow_right₀ one_le_two (by norm_num)
  rw [nearest, ← size, place_of_nonneg (magnitude_nonneg k), bits_magnitude within, position_natCast]

/-! ## Integral parts -/

/-- A magnitude as a quotient of naturals. -/
theorem mul_two_zpow_eq (m : ℕ) (e : ℤ) :
    (m * 2 ^ e : ℝ) = (m * 2 ^ e.toNat : ℕ) / (2 ^ (-e).toNat : ℕ) := by
  push_cast
  rw [two_pow_toNat e]
  field_simp

theorem floor_mul_two_zpow (m : ℕ) (e : ℤ) :
    ⌊(m * 2 ^ e : ℝ)⌋₊ = m * 2 ^ e.toNat / 2 ^ (-e).toNat := by
  rw [mul_two_zpow_eq, Nat.floor_div_eq_div]

variable {x y : Float}

/-- A double that is not negative, by what it is read as. -/
theorem exists_exact_of_nonneg (h : IsFinite x) (nonneg : 0 ≤ value x) :
    ∃ negative m e, exact x = .finite negative m e ∧ value x = m * 2 ^ e ∧
      (negative = true → m = 0) ∧ m < 2 ^ 53 := by
  obtain ⟨negative, m, e, read⟩ := exists_exact h
  obtain ⟨n, digits, -⟩ := rank_of_exact read
  have size := value_of_exact read
  have scale : (0 : ℝ) < 2 ^ e := by positivity
  have zero (sign : negative = true) : m = 0 := by
    rw [size, if_pos sign, neg_one_mul, neg_nonneg] at nonneg
    exact_mod_cast (nonpos_of_mul_nonpos_left nonneg scale).antisymm m.cast_nonneg
  refine ⟨negative, m, e, read, ?_, zero, digits.short⟩
  cases negative
  · simpa using size
  · simpa [zero rfl] using size

theorem cast_div_two_pow {m : ℕ} {e : ℤ} (integral : m % 2 ^ (-e).toNat = 0) :
    ((m * 2 ^ e.toNat / 2 ^ (-e).toNat : ℕ) : ℝ) = m * 2 ^ e := by
  have divides : 2 ^ (-e).toNat ∣ m * 2 ^ e.toNat :=
    Dvd.dvd.mul_right (Nat.dvd_of_mod_eq_zero integral) _
  rw [mul_two_zpow_eq, Nat.cast_div divides (by positivity)]

/-- A double without a fractional part is the natural number that it is read as. -/
theorem exists_natural? (integral : isIntegral x = true) (nonneg : 0 ≤ value x) :
    ∃ n : ℕ, natural? x = some n ∧ value x = n := by
  obtain ⟨negative, m, e, read, size, zero, -⟩ :=
    exists_exact_of_nonneg (isFinite_of_isIntegral integral) nonneg
  have divides : m % 2 ^ (-e).toNat = 0 := by
    rw [isIntegral, read] at integral
    exact beq_iff_eq.mp integral
  have sign : m = 0 ∨ (!negative) = true := by
    cases negative
    · exact .inr rfl
    · exact .inl (zero rfl)
  refine ⟨m * 2 ^ e.toNat / 2 ^ (-e).toNat, ?_, ?_⟩
  · rw [natural?, read]
    exact if_pos ⟨divides, sign⟩
  · rw [cast_div_two_pow divides, size]

theorem truncate?_of_nonneg (h : IsFinite x) (nonneg : 0 ≤ value x) :
    truncate? x = some (⌊value x⌋₊ : ℤ) := by
  obtain ⟨negative, m, e, read, size, zero, -⟩ := exists_exact_of_nonneg h nonneg
  rw [truncate?, read, size, floor_mul_two_zpow]
  cases negative
  · rfl
  · simp [zero rfl]

theorem isNaN_floor (h : x.isNaN = false) : (floor x).isNaN = false := by
  unfold floor
  split
  case h_2 => exact h
  case h_1 =>
    dsimp only
    split
    · exact h
    · split
      · exact isNaN_neg (isNaN_ofRatio ..)
      · exact isNaN_ofRatio ..

/-- The greatest integer below a double that is not negative; infinity stays what it is. -/
theorem value_floor (h : x.isNaN = false) (nonneg : 0 ≤ value x) :
    value (floor x) = ⌊value x⌋₊ := by
  by_cases finite : IsFinite x
  · obtain ⟨negative, m, e, read, size, zero, short⟩ := exists_exact_of_nonneg finite nonneg
    rw [floor, read, size, floor_mul_two_zpow]
    simp only [isIntegral, read, beq_iff_eq, Nat.pow_eq]
    split
    case isTrue integral => rw [cast_div_two_pow integral, size]
    case isFalse fraction =>
      have sign : negative = false := by
        cases negative
        · rfl
        · simp [zero rfl] at fraction
      have below : e.toNat = 0 := by
        by_contra above
        rw [show (-e).toNat = 0 by omega, pow_zero, Nat.mod_one] at fraction
        exact fraction rfl
      have small : m * 2 ^ e.toNat / 2 ^ (-e).toNat ≤ 2 ^ 53 := by
        rw [below, pow_zero, mul_one]
        exact (Nat.div_le_self m _).trans short.le
      rw [sign, if_neg (by decide), value_ofRatio _ one_ne_zero, Nat.cast_one, div_one,
        nearest_natCast small]
  · have infinite := (isFinite_or_infinite h nonneg).resolve_left finite
    have unread : floor x = x := by
      unfold floor
      split
      case h_2 => rfl
      case h_1 read => exact absurd (isFinite_of_exact read) finite
    have size : value x = (2 ^ 1024 : ℕ) := by
      rw [value, infinite, position_natCast, magnitude_infinity, Nat.cast_pow, Nat.cast_ofNat]
    rw [unread, size, Nat.floor_natCast]

theorem value_minimum (hx : x.isNaN = false) (hy : y.isNaN = false) :
    value (minimum x y) = min (value x) (value y) := by
  simp only [minimum, hx, hy, Bool.false_eq_true, if_false, le_iff_value_le hx hy]
  split <;> simp_all [le_of_lt]

/-- A positive double, scaled by a power of two. -/
theorem rank_scale (h : IsFinite x) (pos : 0 < value x) (n : ℤ) :
    rank (scale x n) = place (value x * 2 ^ n) := by
  obtain ⟨negative, m, e, read, size, zero, -⟩ := exists_exact_of_nonneg h pos.le
  have sign : negative = false := by
    cases negative
    · rfl
    · simp [size, zero rfl] at pos
  rw [scale, read]
  simp only [sign, Bool.false_eq_true, if_false, Nat.pow_eq]
  rw [rank_ofRatio _ (by positivity), ← mul_two_zpow_eq, size, mul_assoc, ← zpow_add₀ two_ne_zero]

theorem isFinite_of_abs_le {r : ℝ} (h : value x = r) (small : |r| ≤ 2 ^ 53) : IsFinite x := by
  rw [isFinite_iff, h]
  exact small.trans_lt (pow_lt_pow_right₀ one_lt_two (by norm_num))

theorem value_neg (h : IsFinite x) : value (-x) = -value x := by
  rw [value, rank_neg h, position_neg, value]

/-- An integer of up to 53 bits is a double. -/
theorem value_ofInt {n : ℤ} (short : n.natAbs ≤ 2 ^ 53) : value (ofInt n) = n := by
  have size : value (ofRatio n.natAbs 1) = n.natAbs := by
    rw [value_ofRatio _ one_ne_zero, Nat.cast_one, div_one, nearest_natCast short]
  have finite : IsFinite (ofRatio n.natAbs 1) := by
    refine isFinite_of_abs_le size ?_
    rw [Nat.abs_cast]
    exact_mod_cast short
  rw [ofInt]
  split
  case isTrue negative =>
    rw [value_neg finite, size, Nat.cast_natAbs, abs_of_neg negative]
    simp
  case isFalse nonneg =>
    rw [size, Nat.cast_natAbs, abs_of_nonneg (not_lt.mp nonneg)]

end Depot.Number
