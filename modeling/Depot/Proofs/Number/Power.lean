import Depot.Proofs.Number.Exponential
/-!
# Powers

A double that is at least one has no power, up to the ninth, that is less than the one before. The
third power and those after it are two to the power of multiples of one split real, which are farther
apart than the errors that are made on the way.
-/
namespace Depot.Number
open Real (exp log)

/-- The multiples of a logarithm that are not greater than the ninth. -/
theorem Split.IsLogOf.times {p : Split} {r : ℝ} (h : p.IsLogOf r) {k : ℕ} (least : 3 ≤ k)
    (most : k ≤ 9) : (p.times (Float.ofNat k)).IsExponent ∧
      |value (p.times (Float.ofNat k)).high - k * value p.high| ≤ 1e-10 * value p.high := by
  have tiny_le := tiny_le
  have lower := h.lower
  have upper := h.upper
  have low_le := h.low_le
  have whole : Number.Near (Float.ofNat k) k 0 := by
    have read : IsFinite (Float.ofNat k) ∧ |fraction (Float.ofNat k) - k| ≤ 0 := by
      interval_cases k <;> decide +kernel
    simpa using Number.Near.of_fraction k 0 read
  have cut : head (Float.ofNat k) = Float.ofNat k := by
    interval_cases k <;> decide +kernel
  have k_le : |(k : ℝ)| ≤ 9 := by
    rw [Nat.abs_cast]
    exact_mod_cast most
  have least : (3 : ℝ) ≤ k := by exact_mod_cast least
  have size : |value p.high| ≤ value p.high := abs_le.mpr ⟨by linarith, le_rfl⟩
  have high := whole.mul (f := 1e-13 * value p.high) (.self h.finite_high) k_le size (by linarith)
    (by linarith)
  have none := (whole.sub_self (f := tiny) whole (by linarith) (by linarith)).small_mul
    (f := 1e-20 * value p.high) (.self h.finite_high) size (by nlinarith) (by linarith)
  have product := whole.mul (f := 1e-13 * value p.high) (.self h.finite_low) k_le low_le
    (by linarith) (by linarith)
  have grown : 3 * value p.high ≤ k * value p.high :=
    mul_le_mul_of_nonneg_right least (by linarith)
  have grown_le : k * value p.high ≤ 9 * value p.high :=
    mul_le_mul_of_nonneg_right ((le_abs_self _).trans k_le) (by linarith)
  have product_le : |k * value p.low| ≤ 1e-5 * (k * value p.high) := by
    rw [abs_mul, Nat.abs_cast]
    have := mul_le_mul_of_nonneg_left low_le (by linarith : (0 : ℝ) ≤ k)
    linarith
  have low := (none.add (f := 3e-13 * value p.high) (b := 1e-4 * value p.high) product
    (by rw [zero_add]; linarith) (by linarith) (by linarith)).congr (zero_add _)
  have low_le := low.abs_le product_le
  have error := abs_le.mp high.error
  rw [Split.times, cut]
  refine ⟨⟨high.finite, low.finite, ?_, ?_, ?_⟩, ?_⟩
  · linarith
  · linarith
  · linarith
  · linarith [high.error]

/-! ## The powers of a double -/

section
variable {x : Float}

theorem power_zero (x : Float) : power x (Float.ofNat 0) = 1.0 := by
  have zero : (Float.ofNat 0 == 0.0) = true := by decide +kernel
  rw [power, if_pos zero]

theorem power_one (nan : x.isNaN = false) : power x (Float.ofNat 1) = x := by
  have zero : (Float.ofNat 1 == 0.0) = false := by decide +kernel
  have number : (Float.ofNat 1).isNaN = false := by decide +kernel
  have bounded : (Float.ofNat 1).isInf = false := by decide +kernel
  have one : (Float.ofNat 1 == 1.0) = true := by decide +kernel
  rw [power]
  simp only [zero, number, bounded, one, nan, Bool.false_eq_true, if_false, if_true, Bool.or_self]

theorem power_two (nan : x.isNaN = false) : power x (Float.ofNat 2) = x * x := by
  have zero : (Float.ofNat 2 == 0.0) = false := by decide +kernel
  have number : (Float.ofNat 2).isNaN = false := by decide +kernel
  have bounded : (Float.ofNat 2).isInf = false := by decide +kernel
  have one : (Float.ofNat 2 == 1.0) = false := by decide +kernel
  have minus : (Float.ofNat 2 == -1.0) = false := by decide +kernel
  have two : (Float.ofNat 2 == 2.0) = true := by decide +kernel
  rw [power]
  simp only [zero, number, bounded, one, minus, two, nan, Bool.false_eq_true, if_false, if_true,
    Bool.or_self]

section
variable (finite : IsFinite x) (large : 1 < value x)
include finite large

/-- From the third power on there is no short cut. -/
theorem power_of_three_le {k : ℕ} (least : 3 ≤ k) (most : k ≤ 9) :
    power x (Float.ofNat k) = exp2 ((log2 x.abs).times (Float.ofNat k)) := by
  have zero : (Float.ofNat k == 0.0) = false := by interval_cases k <;> decide +kernel
  have number : (Float.ofNat k).isNaN = false := by interval_cases k <;> decide +kernel
  have bounded : (Float.ofNat k).isInf = false := by interval_cases k <;> decide +kernel
  have one : (Float.ofNat k == 1.0) = false := by interval_cases k <;> decide +kernel
  have minus : (Float.ofNat k == -1.0) = false := by interval_cases k <;> decide +kernel
  have two : (Float.ofNat k == 2.0) = false := by interval_cases k <;> decide +kernel
  have half : (Float.ofNat k == 0.5) = false := by interval_cases k <;> decide +kernel
  have short : ¬2147483648.0 < head (Float.ofNat k).abs := by interval_cases k <;> decide +kernel
  have zero_rank : rank 0.0 = 0 := by decide +kernel
  have above : rank 1.0 < rank x := by
    rw [← strictMono_position.lt_iff_lt]
    exact value_one.trans_lt large
  have one_rank : 0 < rank 1.0 := by decide +kernel
  have size := rank_abs finite
  have size_zero : (x.abs == 0.0) = false := by
    rw [← Bool.not_eq_true]
    intro same
    have := rank_eq_of_beq same
    omega
  have size_one : (x.abs == 1.0) = false := by
    rw [← Bool.not_eq_true]
    intro same
    have := rank_eq_of_beq same
    omega
  have size_bounded : x.abs.isInf = false := by
    rw [← Bool.not_eq_true, isInf_eq_true_iff, size, Int.natAbs_natCast]
    exact finite.ne
  have not_neg {y : Float} (nonneg : 0 ≤ rank y) : ¬y < 0.0 := fun below => by
    have := rank_lt_rank below
    omega
  have inverse : 0 ≤ rank (1.0 / x) := by
    rw [rank_div near_one.finite finite (by linarith), value_one, ← place_zero]
    exact place_mono (by positivity)
  rw [power]
  simp only [zero, number, bounded, one, minus, two, half, finite.isNaN_eq_false, size_zero,
    size_one, size_bounded, not_neg (by omega : 0 ≤ rank x), not_neg inverse, Bool.false_eq_true,
    Bool.false_and, if_false, decide_false, Bool.or_self]
  rw [positivePower]
  simp only [short, if_false]

theorem isLogOf_abs : (log2 x.abs).IsLogOf (value x) := by
  have size : value x.abs = value x := by rw [value_abs finite, abs_of_pos (by linarith)]
  have logarithm := isLogOf_log2 (isFinite_abs finite) (large.trans_eq size.symm)
  rwa [size] at logarithm

/-- A power that has no short cut, by the exponent of two that stands for it. -/
theorem exists_power {k : ℕ} (least : 3 ≤ k) (most : k ≤ 9) :
    ∃ r h, rank (power x (Float.ofNat k)) = place r ∧ 2 ^ (0.97 * h) ≤ r ∧ r ≤ 2 ^ (1.03 * h) ∧
      |h - k * value (log2 x.abs).high| ≤ 1e-10 * value (log2 x.abs).high := by
  obtain ⟨exponent, close⟩ := (isLogOf_abs finite large).times least most
  obtain ⟨r, placed, lower, upper⟩ := exponent.exp2_bounds
  exact ⟨r, _, by rw [power_of_three_le finite large least most, placed], lower, upper, close⟩

/-- The square is the last power that is not reckoned with the logarithm. -/
theorem sq_le_two_rpow {h : ℝ}
    (close : |h - 3 * value (log2 x.abs).high| ≤ 1e-10 * value (log2 x.abs).high) :
    value x * value x ≤ 2 ^ (0.97 * h) := by
  have logarithm := isLogOf_abs finite large
  have lower := logarithm.lower
  have log_le := logarithm.log_le
  have close := abs_le.mp close
  have log_two := mul_le_mul_of_nonneg_left Real.log_two_gt_d9.le (by linarith : 0 ≤ h)
  have square : value x * value x = exp (log (value x) + log (value x)) := by
    rw [Real.exp_add, Real.exp_log (by linarith)]
  rw [square, two_rpow_eq, Real.exp_le_exp]
  linarith

/-- Two powers in a row are what two reals in order are rounded to. -/
theorem exists_powers {k : ℕ} (small : k ≤ 8) :
    ∃ r s, rank (power x (Float.ofNat k)) = place r ∧
      rank (power x (Float.ofNat (k + 1))) = place s ∧ r ≤ s := by
  have nan := finite.isNaN_eq_false
  match k with
  | 0 =>
    refine ⟨1, value x, ?_, by rw [power_one nan, place_value nan], large.le⟩
    rw [power_zero, ← place_value (by decide +kernel), value_one]
  | 1 =>
    refine ⟨value x, value x * value x, by rw [power_one nan, place_value nan],
      by rw [power_two nan, rank_mul finite finite], ?_⟩
    exact le_mul_of_one_le_left (by linarith) large.le
  | 2 =>
    obtain ⟨s, h, placed, lower, -, close⟩ := exists_power finite large le_rfl (by norm_num)
    exact ⟨value x * value x, s, by rw [power_two nan, rank_mul finite finite], placed,
      (sq_le_two_rpow finite large close).trans lower⟩
  | k + 3 =>
    obtain ⟨r, h, placed, -, upper, close⟩ :=
      exists_power finite large (k := k + 3) (by omega) (by omega)
    obtain ⟨s, h', placed', lower, -, close'⟩ :=
      exists_power finite large (k := k + 4) (by omega) (by omega)
    refine ⟨r, s, placed, placed', upper.trans (le_trans ?_ lower)⟩
    refine Real.rpow_le_rpow_of_exponent_le one_le_two ?_
    have close := abs_le.mp close
    have close' := abs_le.mp close'
    have most : (k : ℝ) ≤ 5 := by exact_mod_cast (by omega : k ≤ 5)
    have positive := (isLogOf_abs finite large).lower
    have := mul_le_mul_of_nonneg_right most (by linarith : 0 ≤ value (log2 x.abs).high)
    push_cast at close close'
    linarith

theorem power_le_succ {k : ℕ} (small : k ≤ 8) :
    power x (Float.ofNat k) ≤ power x (Float.ofNat (k + 1)) := by
  obtain ⟨r, s, first, second, le⟩ := exists_powers finite large small
  rw [le_iff_rank_le (isNaN_of_rank_eq_place first) (isNaN_of_rank_eq_place second), first, second]
  exact place_mono le

end

variable (one_le : 1.0 ≤ x)
include one_le

theorem power_step {k : ℕ} (small : k ≤ 8) :
    power x (Float.ofNat k) ≤ power x (Float.ofNat (k + 1)) := by
  have number := (isNaN_of_le one_le).2
  have above := (le_iff_value_le (by decide +kernel) number).mp one_le
  rw [value_one] at above
  rcases isFinite_or_infinite number (by linarith) with finite | infinite
  · rcases above.eq_or_lt with same | large
    · have same : x = 1.0 := eq_of_rank_eq
        (strictMono_position.injective (same.symm.trans value_one.symm)) (by decide +kernel)
      have all : ∀ k ≤ 8, power 1.0 (Float.ofNat k) ≤ power 1.0 (Float.ofNat (k + 1)) := by
        decide +kernel
      rw [same]
      exact all k small
    · exact power_le_succ finite large small
  · have same : x = 1.0 / 0.0 :=
      eq_of_rank_eq (infinite.trans (by decide +kernel)) (by decide +kernel)
    have all : ∀ k ≤ 8,
        power (1.0 / 0.0) (Float.ofNat k) ≤ power (1.0 / 0.0) (Float.ofNat (k + 1)) := by
      decide +kernel
    rw [same]
    exact all k small

theorem isNaN_power {n : ℕ} (small : n ≤ 9) : (power x (Float.ofNat n)).isNaN = false := by
  rcases n.eq_zero_or_pos with rfl | pos
  · exact (isNaN_of_le (power_step one_le (Nat.zero_le 8))).1
  · obtain ⟨k, rfl⟩ : ∃ k, n = k + 1 := ⟨n - 1, by omega⟩
    exact (isNaN_of_le (power_step one_le (by omega))).2

/-- No power of a double that is at least one is less than an earlier one, up to the ninth. -/
theorem power_mono {k n : ℕ} (le : k ≤ n) (small : n ≤ 9) :
    value (power x (Float.ofNat k)) ≤ value (power x (Float.ofNat n)) := by
  induction n, le using Nat.le_induction with
  | base => exact le_rfl
  | succ n le ih =>
    have step := power_step one_le (by omega : n ≤ 8)
    rw [le_iff_value_le (isNaN_power one_le (by omega)) (isNaN_power one_le small)] at step
    exact (ih (by omega)).trans step

theorem one_le_power {n : ℕ} (small : n ≤ 9) : 1 ≤ value (power x (Float.ofNat n)) := by
  have := power_mono one_le n.zero_le small
  rwa [power_zero, value_one] at this

end

end Depot.Number
