import Depot.Proofs.Number.Nearest
/-!
# Rounded arithmetic

A sum, difference, product or quotient of doubles is the double nearest to the exact result. The
mantissa is shifted to the place where it is rounded, with a bit for the next digit and a bit for
whether there is more; these two say on which side of the middle the rest lies.
-/
namespace Depot.Number
open Float.Model Float.Model.UnpackedFloat

/-! ## Shifted mantissas -/

/-- A mantissa with its two further bits stands for a real with this integer part. -/
def Extends (m : ExtendedMantissa) (q : ℝ) : Prop :=
  match m with
  | ⟨m, false, false⟩ => q = m
  | ⟨m, false, true⟩ => m < q ∧ q - m < m + 1 - q
  | ⟨m, true, false⟩ => q - m = m + 1 - q
  | ⟨m, true, true⟩ => m + 1 - q < q - m ∧ q < m + 1

variable {m : ExtendedMantissa} {q : ℝ}

theorem Extends.floor_eq (h : Extends m q) : ⌊q⌋₊ = m.mantissa := by
  obtain ⟨n, round, sticky⟩ := m
  have nonneg : (0 : ℝ) ≤ n := n.cast_nonneg
  refine (Nat.floor_eq_iff ?_).mpr ⟨?_, ?_⟩ <;>
    cases round <;> cases sticky <;> simp only [Extends] at h <;> linarith

/-- The two bits suffice to round. -/
theorem Extends.roundedMantissa_eq (h : Extends m q) : m.roundedMantissa = roundEven q := by
  have floor := h.floor_eq
  obtain ⟨n, round, sticky⟩ := m
  rw [roundEven, floor]
  cases round <;> cases sticky <;> simp only [Extends] at h <;>
    simp only [ExtendedMantissa.roundedMantissa, ExtendedMantissa.accuracy,
      Accuracy.roundToNearestEven] <;>
    split_ifs <;> first | rfl | linarith

theorem Extends.shiftRightOne (h : Extends m q) : Extends m.shiftRightOne (q / 2) := by
  obtain ⟨n, round, sticky⟩ := m
  obtain ⟨k, rfl | rfl⟩ := n.even_or_odd'
  all_goals
    have half : (2 * k + 1) / 2 = k := by omega
    cases round <;> cases sticky <;>
      simp [Extends, ExtendedMantissa.shiftRightOne, half] at h ⊢ <;>
      first | linarith | constructor <;> linarith

theorem Extends.shiftRight (h : Extends m q) (n : ℕ) : Extends (m >>> n) (q / 2 ^ n) := by
  change Extends (n.repeat ExtendedMantissa.shiftRightOne m) _
  induction n with
  | zero => simpa [Nat.repeat] using h
  | succ n ih =>
    rw [Nat.repeat, pow_succ, ← div_div]
    exact ih.shiftRightOne

theorem extends_exact (m : ℕ) : Extends (.ofMantissaAndAccuracy m .exact) m := rfl

/-- A quotient, by its remainder. -/
theorem extends_fraction (a : ℕ) {b : ℕ} (pos : 0 < b) :
    Extends (.ofMantissaAndAccuracy (a / b) (accuracyOfFraction (a % b) b)) (a / b) := by
  have whole : (a : ℝ) = b * (a / b : ℕ) + (a % b : ℕ) := by exact_mod_cast (Nat.div_add_mod a b).symm
  have rest := Nat.mod_lt a pos
  have pos' : (0 : ℝ) < b := by exact_mod_cast pos
  have quotient : (a / b : ℝ) = (a / b : ℕ) + (a % b : ℕ) / b := by
    rw [whole, add_div, mul_div_cancel_left₀ _ pos'.ne']
  generalize a / b = k at quotient
  generalize a % b = r at quotient rest
  rw [quotient, accuracyOfFraction]
  have below : (r : ℝ) / b < 1 := by
    rw [div_lt_one pos']
    exact_mod_cast rest
  split
  case isTrue zero => simp [Extends, ExtendedMantissa.ofMantissaAndAccuracy, zero]
  case isFalse nonzero =>
    have above : (0 : ℝ) < r / b := by positivity
    rcases Nat.lt_trichotomy (2 * r) b with half | half | half
    · have half' : (r : ℝ) / b < 1 / 2 := by
        rw [div_lt_div_iff₀ pos' two_pos]
        exact_mod_cast (by omega : r * 2 < 1 * b)
      rw [Nat.compare_eq_lt.mpr half]
      constructor <;> linarith
    · have half' : (r : ℝ) / b = 1 / 2 := by
        rw [div_eq_div_iff pos'.ne' two_ne_zero]
        exact_mod_cast (by omega : r * 2 = 1 * b)
      rw [Nat.compare_eq_eq.mpr half]
      simp only [Extends, ExtendedMantissa.ofMantissaAndAccuracy, half']
      ring
    · have half' : (1 : ℝ) / 2 < r / b := by
        rw [div_lt_div_iff₀ two_pos pos']
        exact_mod_cast (by omega : 1 * b < r * 2)
      rw [Nat.compare_eq_gt.mpr half]
      constructor <;> linarith

/-! ## Packed results -/

theorem toNat_packComponents (s : Sign) (e : BitVec 11) (m : BitVec 52) :
    (packComponents Format.binary64 s e m).toNat =
      s.toBitVec.toNat * 2 ^ 63 + (e.toNat * 2 ^ 52 + m.toNat) := by
  have := e.isLt
  have := m.isLt
  unfold packComponents
  rw [BitVec.toNat_append, BitVec.toNat_append, ← Nat.shiftLeft_add_eq_or_of_lt (by omega),
    ← Nat.shiftLeft_add_eq_or_of_lt (by omega), Nat.shiftLeft_eq, Nat.shiftLeft_eq]
  omega

theorem toNat_toBits_pack (u : UnpackedFloat) : (Float.ofModel (.pack u)).toBits.toNat =
    (UnpackedFloat.pack Format.binary64 u).toNat := by
  simp only [Float.toBits, Float.Model.pack, UInt64.toNat]

/-- A result has the place of its bits. -/
theorem rank_pack {u : UnpackedFloat} {s : Sign} {e : BitVec 11} {m : BitVec 52}
    (h : UnpackedFloat.pack Format.binary64 u = packComponents Format.binary64 s e m) :
    rank (.ofModel (.pack u)) = s.apply (e.toNat * 2 ^ 52 + m.toNat : ℕ) := by
  have := e.isLt
  have := m.isLt
  unfold rank
  rw [toNat_toBits_pack, h, toNat_packComponents]
  cases s <;> simp [Sign.apply, Sign.toBitVec] <;> omega

theorem rank_pack_zero (s : Sign) : rank (.ofModel (.pack (.zero s))) = 0 := by
  have packed : UnpackedFloat.pack Format.binary64 (.zero s) = packComponents _ s 0 0 := by
    simp only [UnpackedFloat.pack, packedZero]
  rw [rank_pack packed]
  cases s <;> simp [Sign.apply]

theorem rank_pack_infinity (s : Sign) :
    rank (.ofModel (.pack (.infinity s))) = s.apply (2047 * 2 ^ 52 : ℕ) := by
  have packed : UnpackedFloat.pack Format.binary64 (.infinity s) = packComponents _ s (-1#11) 0 := by
    simp only [UnpackedFloat.pack, packedInfinity]
  rw [rank_pack packed]
  rfl

/-- What does not fit is packed as an infinity. -/
theorem rank_pack_finite (s : Sign) {m k : ℕ} (pos : 0 < m) (short : m < 2 ^ 53)
    (full : 0 < k → 2 ^ 52 ≤ m) :
    rank (.ofModel (.pack (.finite s m (k - 1074) pos))) =
      s.apply (min (k * 2 ^ 52 + m) (2047 * 2 ^ 52) : ℕ) := by
  have biased : ((k : ℤ) - 1074 + Format.binary64.exponentBias + (52 : ℕ)).toNat = k + 1 := by
    have bias : Format.binary64.exponentBias = 1023 := rfl
    omega
  have bits : Format.binary64.mantissaBits = 53 := rfl
  rcases Nat.lt_or_ge k 2046 with small | large
  · rcases Nat.lt_or_ge m (2 ^ 52) with low | high
    · have zero : k = 0 := by omega
      have log : m.log2 ≠ 52 := ((Nat.log2_lt pos.ne').mpr low).ne
      have packed : UnpackedFloat.pack Format.binary64 (.finite s m (k - 1074) pos) =
          packComponents _ s (0#11) (.ofNat 52 m) := by
        simp only [UnpackedFloat.pack, biased, bits]
        rw [if_neg (by omega), if_neg (by omega)]
      rw [rank_pack packed]
      congr 2
      simp only [BitVec.toNat_ofNat]
      omega
    · have log : m.log2 = 52 := (Nat.log2_eq_iff pos.ne').mpr ⟨high, short⟩
      have packed : UnpackedFloat.pack Format.binary64 (.finite s m (k - 1074) pos) =
          packComponents _ s (.ofNat 11 (k + 1)) (.ofNat 52 m) := by
        simp only [UnpackedFloat.pack, biased, bits]
        rw [if_neg (by omega), if_pos (by omega)]
      rw [rank_pack packed]
      congr 2
      simp only [BitVec.toNat_ofNat]
      omega
  · have packed : UnpackedFloat.pack Format.binary64 (.finite s m (k - 1074) pos) =
        packComponents _ s (-1#11) 0 := by
      simp only [UnpackedFloat.pack, packedInfinity, biased]
      rw [if_pos (by omega)]
    rw [rank_pack packed, min_eq_right (by omega)]
    rfl

theorem rank_pack_dite (s : Sign) {m k : ℕ} {e : ℤ} (exponent : e = k - 1074) (short : m < 2 ^ 53)
    (full : 0 < k → 2 ^ 52 ≤ m) :
    rank (.ofModel (.pack (if h : m = 0 then .zero s
      else .finite s m e (Nat.pos_of_ne_zero h)))) =
      s.apply (min (k * 2 ^ 52 + m) (2047 * 2 ^ 52) : ℕ) := by
  subst exponent
  split
  case isTrue zero =>
    have least : k = 0 := by omega
    rw [rank_pack_zero, zero, least]
    cases s <;> simp [Sign.apply]
  case isFalse nonzero => exact rank_pack_finite s _ short full

/-! ## Rounding -/

theorem targetExponent_eq (t : ℤ) : Format.binary64.targetExponent t = max (t - 53) (-1074) := rfl

/-- A mantissa is shifted to the unit in the last place. -/
theorem targetExponent_totalExponent {m : ℕ} {e : ℤ} {q : ℝ} (nonneg : 0 ≤ q) (floor : ⌊q⌋₊ = m)
    (tiny : m = 0 → e ≤ -1074) :
    Format.binary64.targetExponent (totalExponent m e) = (stepOf (q * 2 ^ e) : ℤ) - 1074 := by
  obtain ⟨k, target⟩ : ∃ k : ℕ, Format.binary64.targetExponent (totalExponent m e) = (k : ℤ) - 1074 := by
    rw [targetExponent_eq]
    exact ⟨(max (totalExponent m e - 53) (-1074) + 1074).toNat, by omega⟩
  have above : q < 2 ^ (m.log2 + 1) := by
    refine (Nat.lt_floor_add_one q).trans_le ?_
    rw [floor]
    exact_mod_cast Nat.lt_log2_self
  rw [target]
  rw [targetExponent_eq, totalExponent] at target
  congr 2
  refine (stepOf_eq ?_ fun pos => ?_).symm
  · calc q * 2 ^ e < 2 ^ (m.log2 + 1) * 2 ^ e := by gcongr
      _ = 2 ^ ((m.log2 + 1 : ℕ) + e) := by rw [zpow_add₀ two_ne_zero, zpow_natCast]
      _ ≤ 2 ^ ((k : ℤ) - 1021) := zpow_le_zpow_right₀ one_le_two (by omega)
  · have nonzero : m ≠ 0 := fun zero => by
      have := tiny zero
      simp only [zero, Nat.log2_zero] at target
      omega
    have below : (2 : ℝ) ^ m.log2 ≤ q := by
      refine le_trans ?_ (Nat.floor_le nonneg)
      rw [floor]
      exact_mod_cast Nat.log2_self_le nonzero
    calc (2 : ℝ) ^ ((k : ℤ) - 1022) = 2 ^ ((m.log2 : ℕ) + e) := by congr 1; omega
      _ = 2 ^ m.log2 * 2 ^ e := by rw [zpow_add₀ two_ne_zero, zpow_natCast]
      _ ≤ q * 2 ^ e := by gcongr

/-- The first shift leaves the mantissa of the rounded real. -/
theorem shiftToTargetExponent_eq {m : ℕ} {e : ℤ} {accuracy : Accuracy} {q : ℝ}
    (h : Extends (.ofMantissaAndAccuracy m accuracy) q) (nonneg : 0 ≤ q)
    (small : e ≤ Format.binary64.targetExponent (totalExponent m e)) (tiny : m = 0 → e ≤ -1074) :
    (shiftToTargetExponent Format.binary64 m e accuracy).1.roundedMantissa =
      mantissa (q * 2 ^ e) ∧
    (shiftToTargetExponent Format.binary64 m e accuracy).2 = (stepOf (q * 2 ^ e) : ℤ) - 1074 := by
  have floor : ⌊q⌋₊ = m := by
    rw [h.floor_eq]
    cases accuracy with
    | exact => rfl
    | inexact o => cases o <;> rfl
  have target := targetExponent_totalExponent nonneg floor tiny
  rw [target] at small
  obtain ⟨n, shift⟩ : ∃ n : ℕ, (stepOf (q * 2 ^ e) : ℤ) - 1074 = e + n :=
    ⟨((stepOf (q * 2 ^ e) : ℤ) - 1074 - e).toNat, by omega⟩
  simp only [shiftToTargetExponent, shiftToExponent, target]
  have amount : ((stepOf (q * 2 ^ e) : ℤ) - 1074 - e).toNat = n := by omega
  have scaled : q / 2 ^ n = q * 2 ^ e / unit (q * 2 ^ e) := by
    rw [unit_eq, shift, zpow_add₀ two_ne_zero, zpow_natCast, mul_comm ((2 : ℝ) ^ e), 
      mul_div_mul_right _ _ (by positivity)]
  rw [amount, (h.shiftRight n).roundedMantissa_eq, scaled, mantissa]
  exact ⟨rfl, shift.symm⟩

/-- The second shift only takes a carry. -/
theorem shiftToTargetExponent_carry {m k : ℕ} (short : m ≤ 2 ^ 53) :
    shiftToTargetExponent Format.binary64 m ((k : ℤ) - 1074) .exact =
      if m = 2 ^ 53 then (ExtendedMantissa.ofMantissaAndAccuracy (2 ^ 52) .exact, (k + 1 : ℤ) - 1074)
      else (ExtendedMantissa.ofMantissaAndAccuracy m .exact, (k : ℤ) - 1074) := by
  simp only [shiftToTargetExponent, shiftToExponent, targetExponent_eq, totalExponent]
  split
  case isTrue full =>
    rw [full, Nat.log2_two_pow]
    have amount : (max ((53 : ℕ) + 1 + ((k : ℤ) - 1074) - 53) (-1074) - ((k : ℤ) - 1074)).toNat = 1 := by
      omega
    rw [amount]
    refine Prod.ext rfl ?_
    dsimp only
    omega
  case isFalse short' =>
    have log : m.log2 ≤ 52 := by
      rcases Nat.eq_zero_or_pos m with rfl | pos
      · simp
      · have := (Nat.log2_lt pos.ne').mpr (lt_of_le_of_ne short short')
        omega
    have amount : (max ((m.log2 : ℤ) + 1 + ((k : ℤ) - 1074) - 53) (-1074) - ((k : ℤ) - 1074)).toNat = 0 := by
      omega
    rw [amount]
    refine Prod.ext rfl ?_
    dsimp only
    omega

/-- An exact result with an exponent that is small enough is rounded to the nearest double. -/
theorem rank_roundWithAccuracy (s : Sign) {m : ℕ} {e : ℤ} {accuracy : Accuracy} {q : ℝ}
    (h : Extends (.ofMantissaAndAccuracy m accuracy) q) (nonneg : 0 ≤ q)
    (small : e ≤ Format.binary64.targetExponent (totalExponent m e)) (tiny : m = 0 → e ≤ -1074) :
    rank (.ofModel (.pack (roundWithAccuracy Format.binary64 s m e accuracy))) =
      s.apply (bits (q * 2 ^ e)) := by
  obtain ⟨rounded, exponent⟩ := shiftToTargetExponent_eq h nonneg small tiny
  have short := mantissa_le (q * 2 ^ e)
  have full := le_mantissa (r := q * 2 ^ e)
  unfold roundWithAccuracy bits
  simp only [rounded, exponent, shiftToTargetExponent_carry short]
  by_cases carry : mantissa (q * 2 ^ e) = 2 ^ 53
  · have exponent : (stepOf (q * 2 ^ e) : ℤ) + 1 - 1074 = (stepOf (q * 2 ^ e) + 1 : ℕ) - 1074 := by
      omega
    have place : stepOf (q * 2 ^ e) * 2 ^ 52 + mantissa (q * 2 ^ e) =
        (stepOf (q * 2 ^ e) + 1) * 2 ^ 52 + 2 ^ 52 := by omega
    rw [place]
    simp only [carry, ↓reduceIte]
    exact rank_pack_dite (m := 2 ^ 52) s exponent (by norm_num) (by norm_num)
  · simp only [carry, ↓reduceIte]
    exact rank_pack_dite s rfl (lt_of_le_of_ne short carry) full

theorem apply_bits (s : Sign) {r : ℝ} (nonneg : 0 ≤ r) : s.apply (bits r) = place (withSign s r) := by
  cases s <;> simp [Sign.apply, withSign, place_of_nonneg nonneg]

theorem rank_round (s : Sign) {m : ℕ} (pos : 0 < m) (e : ℤ) :
    rank (.ofModel (.pack (UnpackedFloat.round Format.binary64 s m e))) =
      place (withSign s (m * 2 ^ e)) := by
  unfold UnpackedFloat.round
  simp only [decreaseExponent, Nat.shiftLeft_eq]
  generalize amount : (e - Format.binary64.targetExponent (totalExponent m e)).toNat = n
  have total : totalExponent (m * 2 ^ n) (e - n) = totalExponent m e := by
    have log : (m * 2 ^ n).log2 = m.log2 + n := by
      refine (Nat.log2_eq_iff (by positivity)).mpr ⟨?_, ?_⟩
      · rw [pow_add]
        exact Nat.mul_le_mul_right _ (Nat.log2_self_le pos.ne')
      · rw [add_right_comm, pow_add]
        exact Nat.mul_lt_mul_of_pos_right Nat.lt_log2_self (by positivity)
    rw [totalExponent, totalExponent, log]
    omega
  have same : ((m * 2 ^ n : ℕ) : ℝ) * 2 ^ (e - n) = m * 2 ^ e := by
    rw [zpow_sub₀ two_ne_zero, zpow_natCast]
    push_cast
    field_simp
  rw [rank_roundWithAccuracy s (extends_exact _) (Nat.cast_nonneg _) (by rw [total]; omega)
    (fun zero => by simp [pos.ne'] at zero), same, apply_bits s (by positivity)]

theorem rank_normalize (m e : ℤ) (s : Sign) :
    rank (.ofModel (.pack (UnpackedFloat.normalize Format.binary64 m e s))) = place (m * 2 ^ e) := by
  unfold UnpackedFloat.normalize
  split
  case h_1 less =>
    have below := Int.compare_eq_lt.mp less
    obtain ⟨n, rfl⟩ : ∃ n : ℕ, m = -n := ⟨m.natAbs, by omega⟩
    rw [rank_round .negative (by omega)]
    simp [withSign, Sign.apply]
  case h_2 equal =>
    rw [rank_pack_zero, Int.compare_eq_eq.mp equal, Int.cast_zero, zero_mul, place_zero]
  case h_3 greater =>
    have above := Int.compare_eq_gt.mp greater
    obtain ⟨n, rfl⟩ : ∃ n : ℕ, m = n := ⟨m.natAbs, by omega⟩
    rw [rank_round .positive (by omega)]
    simp [withSign, Sign.apply]

/-! ## Operations -/

/-- A finite double that is unpacked stands for a real. -/
inductive Unpacked : UnpackedFloat → ℝ → Prop where
  | zero (s : Sign) : Unpacked (.zero s) 0
  | finite (s : Sign) {m n : ℕ} {e : ℤ} (digits : Digits m e n) (pos : 0 < m) :
    Unpacked (.finite s m e pos) (withSign s (m * 2 ^ e))

theorem Stands.unpacked {u : UnpackedFloat} {s : Sign} {n : ℕ} (h : Stands u s n)
    (finite : n < 2047 * 2 ^ 52) : Unpacked u (position (s.apply n)) := by
  rw [position_apply]
  cases h with
  | infinity => omega
  | nan s beyond => omega
  | zero => simpa [withSign] using Unpacked.zero s
  | finite s digits pos =>
    rw [digits.magnitude_eq]
    exact .finite s digits pos

theorem unpacked_value {x : Float} (h : IsFinite x) : Unpacked x.toModel.unpack (value x) := by
  obtain ⟨s, n, stands, placed⟩ := exists_stands x
  rw [IsFinite, placed, natAbs_apply] at h
  rw [value, placed]
  exact stands.unpacked h

theorem Unpacked.neg {u : UnpackedFloat} {a : ℝ} (h : Unpacked u a) : Unpacked u.neg (-a) := by
  cases h with
  | zero s => simpa [UnpackedFloat.neg] using Unpacked.zero (-s)
  | finite s digits pos =>
    rw [← withSign_neg]
    exact .finite (-s) digits pos

theorem Unpacked.abs {u : UnpackedFloat} {a : ℝ} (h : Unpacked u a) : Unpacked u.abs |a| := by
  cases h with
  | zero s => simpa [UnpackedFloat.abs] using Unpacked.zero .positive
  | @finite s m n e digits pos =>
    have size : |withSign s ((m : ℝ) * 2 ^ e)| = withSign .positive (m * 2 ^ e) := by
      have : (0 : ℝ) ≤ m * 2 ^ e := by positivity
      cases s <;> simp
    rw [size]
    exact .finite .positive digits pos

/-- A double is packed as it was. -/
theorem Unpacked.rank_pack {u : UnpackedFloat} {a : ℝ} (h : Unpacked u a) :
    rank (.ofModel (.pack u)) = place a := by
  cases h with
  | zero s => rw [rank_pack_zero, place_zero]
  | @finite s m n e digits pos =>
    have ⟨placed, least, greatest, short, full⟩ := digits
    obtain ⟨k, rfl⟩ : ∃ k : ℕ, e = (k : ℤ) - 1074 := ⟨(e + 1074).toNat, by omega⟩
    have split : n = k * 2 ^ 52 + m := by omega
    have within : n ≤ 2047 * 2 ^ 52 := by omega
    rw [rank_pack_finite s pos short (by omega), ← split, min_eq_left within,
      ← digits.magnitude_eq, ← position_apply, place_position (by rwa [natAbs_apply])]

/-- A mantissa at a smaller exponent. -/
theorem apply_mul_two_pow (s : Sign) (m : ℕ) {d e : ℤ} (h : d ≤ e) :
    (s.apply (m * 2 ^ (e - d).toNat : ℕ) : ℝ) * 2 ^ d = withSign s (m * 2 ^ e) := by
  obtain ⟨n, rfl⟩ : ∃ n : ℕ, e = d + n := ⟨(e - d).toNat, by omega⟩
  rw [add_sub_cancel_left, Int.toNat_natCast, zpow_add₀ two_ne_zero, zpow_natCast]
  cases s <;> simp [Sign.apply] <;> ring

/-- The sum of two finite doubles. -/
theorem Unpacked.rank_add {u v : UnpackedFloat} {a b : ℝ} (hu : Unpacked u a) (hv : Unpacked v b) :
    rank (.ofModel (.pack (UnpackedFloat.add Format.binary64 u v))) = place (a + b) := by
  cases hu with
  | zero s =>
    cases hv with
    | zero t =>
      simp only [UnpackedFloat.add]
      split <;> rw [rank_pack_zero, add_zero, place_zero]
    | finite t digits pos =>
      rw [zero_add]
      exact (Unpacked.finite t digits pos).rank_pack
  | finite s digits pos =>
    cases hv with
    | zero t =>
      rw [add_zero]
      exact (Unpacked.finite s digits pos).rank_pack
    | finite t digits' pos' =>
      simp only [UnpackedFloat.add, decreaseExponent, Nat.shiftLeft_eq]
      rw [rank_normalize, Int.cast_add, add_mul, apply_mul_two_pow s _ (min_le_left _ _),
        apply_mul_two_pow t _ (min_le_right _ _)]

/-- The difference of two finite doubles. -/
theorem Unpacked.rank_sub {u v : UnpackedFloat} {a b : ℝ} (hu : Unpacked u a) (hv : Unpacked v b) :
    rank (.ofModel (.pack (UnpackedFloat.sub Format.binary64 u v))) = place (a - b) := by
  cases hu with
  | zero s =>
    cases hv with
    | zero t =>
      simp only [UnpackedFloat.sub]
      split <;> rw [rank_pack_zero, sub_zero, place_zero]
    | finite t digits pos =>
      rw [zero_sub]
      exact (Unpacked.finite t digits pos).neg.rank_pack
  | finite s digits pos =>
    cases hv with
    | zero t =>
      rw [sub_zero]
      exact (Unpacked.finite s digits pos).rank_pack
    | finite t digits' pos' =>
      simp only [UnpackedFloat.sub, decreaseExponent, Nat.shiftLeft_eq]
      rw [rank_normalize, Int.cast_sub, sub_mul, apply_mul_two_pow s _ (min_le_left _ _),
        apply_mul_two_pow t _ (min_le_right _ _)]

/-- A product of mantissas is full, or its exponent is least. -/
theorem le_targetExponent_mul {m n k l : ℕ} {d e : ℤ} (h : Digits m d k) (h' : Digits n e l)
    (pos : 0 < m) (pos' : 0 < n) :
    d + e ≤ Format.binary64.targetExponent (totalExponent (m * n) (d + e)) := by
  rw [targetExponent_eq, totalExponent]
  by_cases least : d + e ≤ -1074
  · exact le_max_of_le_right least
  · have full : 2 ^ 52 ≤ m * n := by
      have := h.least
      have := h'.least
      rcases lt_or_ge (-1074) d with above | below
      · exact (h.full above).trans (Nat.le_mul_of_pos_right m pos')
      · exact (h'.full (by omega)).trans (Nat.le_mul_of_pos_left n pos)
    have := (Nat.le_log2 (by positivity)).mpr full
    omega

/-- The product of two finite doubles. -/
theorem Unpacked.rank_mul {u v : UnpackedFloat} {a b : ℝ} (hu : Unpacked u a) (hv : Unpacked v b) :
    rank (.ofModel (.pack (UnpackedFloat.mul Format.binary64 u v))) = place (a * b) := by
  cases hu with
  | zero s =>
    cases hv <;> simp only [UnpackedFloat.mul] <;> rw [rank_pack_zero, zero_mul, place_zero]
  | finite s digits pos =>
    cases hv with
    | zero t =>
      simp only [UnpackedFloat.mul]
      rw [rank_pack_zero, mul_zero, place_zero]
    | finite t digits' pos' =>
      simp only [UnpackedFloat.mul]
      rw [rank_roundWithAccuracy _ (extends_exact _) (Nat.cast_nonneg _)
        (le_targetExponent_mul digits digits' pos pos')
        (fun zero => by simp [pos.ne', pos'.ne'] at zero), apply_bits _ (by positivity), ← withSign_mul]
      congr 2
      push_cast
      rw [zpow_add₀ two_ne_zero]
      ring

/-- A quotient of mantissas is full, or its exponent is least. -/
theorem full_quotient {m n : ℕ} {d e t : ℤ} (pos : 0 < m) (pos' : 0 < n) (above : -1074 < t)
    (small : t ≤ Format.binary64.targetExponent (totalExponent m d - totalExponent n e)) :
    2 ^ 52 ≤ m * 2 ^ (d - e - t).toNat / n := by
  rw [targetExponent_eq, totalExponent, totalExponent] at small
  rw [Nat.le_div_iff_mul_le pos']
  calc 2 ^ 52 * n ≤ 2 ^ 52 * 2 ^ (n.log2 + 1) := Nat.mul_le_mul_left _ Nat.lt_log2_self.le
    _ = 2 ^ (52 + (n.log2 + 1)) := (pow_add ..).symm
    _ ≤ 2 ^ (m.log2 + (d - e - t).toNat) := Nat.pow_le_pow_right two_pos (by omega)
    _ = 2 ^ m.log2 * 2 ^ (d - e - t).toNat := pow_add ..
    _ ≤ m * 2 ^ (d - e - t).toNat := Nat.mul_le_mul_right _ (Nat.log2_self_le pos.ne')

/-- The quotient of two finite doubles of which the second is not zero. -/
theorem Unpacked.rank_div {u v : UnpackedFloat} {a b : ℝ} (hu : Unpacked u a) (hv : Unpacked v b)
    (nonzero : b ≠ 0) :
    rank (.ofModel (.pack (UnpackedFloat.div Format.binary64 u v))) = place (a / b) := by
  cases hv with
  | zero t => exact absurd rfl nonzero
  | @finite t n _ e digits' pos' =>
    cases hu with
    | zero s =>
      simp only [UnpackedFloat.div]
      rw [rank_pack_zero, zero_div, place_zero]
    | @finite s m _ d digits pos =>
      simp only [UnpackedFloat.div, divCore, Nat.shiftLeft_eq]
      generalize target : min (d - e) (Format.binary64.targetExponent
        (totalExponent m d - totalExponent n e)) = t
      have within : t ≤ d - e := by omega
      have full (above : -1074 < t) : 2 ^ 52 ≤ m * 2 ^ (d - e - t).toNat / n :=
        full_quotient pos pos' above (by omega)
      generalize dividend : m * 2 ^ (d - e - t).toNat = k at full
      have small : t ≤ Format.binary64.targetExponent (totalExponent (k / n) t) := by
        rw [targetExponent_eq, totalExponent]
        by_cases least : t ≤ -1074
        · exact le_max_of_le_right least
        · have full := full (by omega)
          have := (Nat.le_log2 (by omega)).mpr full
          omega
      have exact : (k : ℝ) / n * 2 ^ t = m * 2 ^ d / (n * 2 ^ e) := by
        obtain ⟨j, rfl⟩ : ∃ j : ℕ, d = t + e + j := ⟨(d - e - t).toNat, by omega⟩
        rw [← dividend, show t + e + j - e - t = j by ring, Int.toNat_natCast,
          zpow_add₀ two_ne_zero, zpow_add₀ two_ne_zero, zpow_natCast]
        push_cast
        field_simp
      rw [rank_roundWithAccuracy _ (extends_fraction k pos') (by positivity) small
        (fun zero => by by_contra above; have := full (by omega); omega),
        apply_bits _ (by positivity), exact, withSign_div]

/-! ## Doubles -/

variable {x y : Float}

theorem rank_add (hx : IsFinite x) (hy : IsFinite y) : rank (x + y) = place (value x + value y) :=
  (unpacked_value hx).rank_add (unpacked_value hy)

theorem rank_sub (hx : IsFinite x) (hy : IsFinite y) : rank (x - y) = place (value x - value y) :=
  (unpacked_value hx).rank_sub (unpacked_value hy)

theorem rank_mul (hx : IsFinite x) (hy : IsFinite y) : rank (x * y) = place (value x * value y) :=
  (unpacked_value hx).rank_mul (unpacked_value hy)

theorem rank_div (hx : IsFinite x) (hy : IsFinite y) (nonzero : value y ≠ 0) :
    rank (x / y) = place (value x / value y) :=
  (unpacked_value hx).rank_div (unpacked_value hy) nonzero

theorem rank_neg (hx : IsFinite x) : rank (-x) = -rank x := by
  have negated : rank (-x) = place (-value x) := (unpacked_value hx).neg.rank_pack
  rw [negated, place_neg, value, place_position hx.le]

theorem rank_abs (hx : IsFinite x) : rank x.abs = (rank x).natAbs := by
  have packed : rank x.abs = place |value x| := (unpacked_value hx).abs.rank_pack
  have within : ((rank x).natAbs : ℤ).natAbs ≤ 2047 * 2 ^ 52 := by
    rw [Int.natAbs_natCast]
    exact hx.le
  rw [packed, value, abs_position, ← position_natCast, place_position within]

theorem value_abs (hx : IsFinite x) : value x.abs = |value x| := by
  rw [value, rank_abs hx, position_natCast, value, abs_position]

theorem isFinite_abs (hx : IsFinite x) : IsFinite x.abs := by
  rw [IsFinite, rank_abs hx, Int.natAbs_natCast]
  exact hx

theorem unpack_infinity (h : rank y = (2047 * 2 ^ 52 : ℕ)) :
    y.toModel.unpack = .infinity .positive := by
  obtain ⟨s, n, stands, placed⟩ := exists_stands y
  have size : n = 2047 * 2 ^ 52 := by rw [← natAbs_apply s n, ← placed, h, Int.natAbs_natCast]
  generalize y.toModel.unpack = u at stands
  cases stands with
  | infinity s =>
    cases s with
    | positive => rfl
    | negative =>
      rw [h, Sign.apply] at placed
      omega
  | nan s beyond => omega
  | zero s => omega
  | finite s digits pos => exact absurd size (digits.bounds pos).2.ne

/-- A positive double times infinity. -/
theorem rank_mul_infinity (hx : IsFinite x) (pos : 0 < value x) (hy : rank y = (2047 * 2 ^ 52 : ℕ)) :
    rank (x * y) = (2047 * 2 ^ 52 : ℕ) := by
  have unpacked := unpacked_value hx
  have product : x * y = .ofModel (.pack (UnpackedFloat.mul Format.binary64 x.toModel.unpack
    y.toModel.unpack)) := rfl
  rw [product, unpack_infinity hy]
  generalize x.toModel.unpack = u at unpacked
  generalize value x = r at unpacked pos
  cases unpacked with
  | zero s => exact absurd pos (lt_irrefl 0)
  | finite s digits pos' =>
    cases s with
    | positive => exact rank_pack_infinity .positive
    | negative =>
      rw [withSign_negative, neg_pos] at pos
      exact absurd pos (not_lt.mpr (by positivity))

/-- Zero times infinity. -/
theorem isNaN_mul_infinity (hx : IsFinite x) (zero : value x = 0) (hy : rank y = (2047 * 2 ^ 52 : ℕ)) :
    (x * y).isNaN = true := by
  have unpacked := unpacked_value hx
  have product : x * y = .ofModel (.pack (UnpackedFloat.mul Format.binary64 x.toModel.unpack
    y.toModel.unpack)) := rfl
  rw [product, unpack_infinity hy]
  generalize x.toModel.unpack = u at unpacked
  generalize value x = r at unpacked zero
  cases unpacked with
  | zero s => exact (by decide +kernel : (Float.ofModel (.pack .notANumber)).isNaN = true)
  | @finite s m n e digits pos =>
    have size : (m : ℝ) * 2 ^ e ≠ 0 := by positivity
    cases s with
    | positive => exact absurd ((withSign_positive _).symm.trans zero) size
    | negative => exact absurd (neg_eq_zero.mp ((withSign_negative _).symm.trans zero)) size

theorem isNaN_of_rank_eq_place {x : Float} {r : ℝ} (h : rank x = place r) : x.isNaN = false :=
  isNaN_eq_false_iff.mpr (h ▸ natAbs_place_le r)

theorem rank_nonneg_iff : 0 ≤ rank x ↔ 0 ≤ value x := by
  rw [← strictMono_position.le_iff_le, position_zero, value]

/-- Where a double is multiplied by a number of at least one that is no larger, the product is no
larger, and it is a number if the other is one. -/
theorem rank_mul_mono {z : Float} (hx : IsFinite x) (nonneg : 0 ≤ value x) (hy : y.isNaN = false)
    (hz : z.isNaN = false) (one_le : 1 ≤ value y) (le : value y ≤ value z)
    (number : (x * z).isNaN = false) :
    (x * y).isNaN = false ∧ 0 ≤ rank (x * y) ∧ rank (x * y) ≤ rank (x * z) := by
  have places (finite : IsFinite y) : (x * y).isNaN = false ∧ 0 ≤ rank (x * y) := by
    have placed := rank_mul hx finite
    refine ⟨isNaN_of_rank_eq_place placed, ?_⟩
    rw [placed, ← place_zero]
    exact place_mono (mul_nonneg nonneg (by linarith))
  rcases isFinite_or_infinite hz (by linarith) with finite | infinite
  · have finite' : IsFinite y := isFinite_of_le finite (by linarith) le
    refine ⟨(places finite').1, (places finite').2, ?_⟩
    rw [rank_mul hx finite', rank_mul hx finite]
    exact place_mono (mul_le_mul_of_nonneg_left le nonneg)
  · have pos : 0 < value x := by
      refine lt_of_le_of_ne nonneg fun zero => ?_
      have := isNaN_mul_infinity hx zero.symm infinite
      exact absurd (number.symm.trans this) (by decide)
    rw [rank_mul_infinity hx pos infinite]
    rcases isFinite_or_infinite hy (by linarith) with finite' | infinite'
    · have := isNaN_eq_false_iff.mp (places finite').1
      exact ⟨(places finite').1, (places finite').2, by omega⟩
    · have top := rank_mul_infinity hx pos infinite'
      refine ⟨isNaN_eq_false_iff.mpr ?_, by omega, top.le⟩
      rw [top, Int.natAbs_natCast]

/-- Infinity and a number that is not negative. -/
theorem rank_infinity_add (hx : rank x = (2047 * 2 ^ 52 : ℕ)) (hy : y.isNaN = false)
    (nonneg : 0 ≤ value y) : rank (x + y) = (2047 * 2 ^ 52 : ℕ) := by
  have sum : x + y = .ofModel (.pack (UnpackedFloat.add Format.binary64 x.toModel.unpack
    y.toModel.unpack)) := rfl
  rw [sum, unpack_infinity hx]
  rcases isFinite_or_infinite hy nonneg with finite | infinite
  · have unpacked := unpacked_value finite
    generalize y.toModel.unpack = v at unpacked
    generalize value y = r at unpacked
    cases unpacked <;> exact rank_pack_infinity .positive
  · rw [unpack_infinity infinite]
    exact rank_pack_infinity .positive

theorem rank_add_infinity (hx : IsFinite x) (hy : rank y = (2047 * 2 ^ 52 : ℕ)) :
    rank (x + y) = (2047 * 2 ^ 52 : ℕ) := by
  have sum : x + y = .ofModel (.pack (UnpackedFloat.add Format.binary64 x.toModel.unpack
    y.toModel.unpack)) := rfl
  have unpacked := unpacked_value hx
  rw [sum, unpack_infinity hy]
  generalize x.toModel.unpack = u at unpacked
  generalize value x = r at unpacked
  cases unpacked <;> exact rank_pack_infinity .positive

/-- A sum of numbers that are not negative is no less than the first of them. -/
theorem le_add (hx : 0.0 ≤ x) (hy : 0.0 ≤ y) : x ≤ x + y := by
  have x_number := (isNaN_of_le hx).2
  have y_number := (isNaN_of_le hy).2
  have x_nonneg := (nonneg_iff x_number).mp hx
  have y_nonneg := (nonneg_iff y_number).mp hy
  have largest := isNaN_eq_false_iff.mp x_number
  have of_infinity (sum : rank (x + y) = (2047 * 2 ^ 52 : ℕ)) : x ≤ x + y := by
    have number : (x + y).isNaN = false := isNaN_eq_false_iff.mpr (by rw [sum, Int.natAbs_natCast])
    rw [le_iff_rank_le x_number number, sum]
    omega
  rcases isFinite_or_infinite x_number x_nonneg with finite | infinite
  · rcases isFinite_or_infinite y_number y_nonneg with finite' | infinite'
    · have sum := rank_add finite finite'
      rw [le_iff_rank_le x_number (isNaN_of_rank_eq_place sum), sum]
      calc rank x = place (value x) := by rw [value, place_position largest]
        _ ≤ place (value x + value y) := place_mono (by linarith)
    · exact of_infinity (rank_add_infinity finite infinite')
  · exact of_infinity (rank_infinity_add infinite y_number y_nonneg)

end Depot.Number
