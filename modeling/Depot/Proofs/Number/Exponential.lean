import Depot.Proofs.Number.Logarithm
/-!
# Exponentials

Two to the power of a split real is a rounded real. That one lies between two to the power of a
little less and two to the power of a little more than the first part.
-/
namespace Depot.Number
open Real (exp log)

/-! ## Small reals -/

theorem abs_exp_sub_exp_le {z a e : ℝ} (apart : |z - a| ≤ e) (small : e ≤ 1) (le : a ≤ 1) :
    |exp z - exp a| ≤ 6 * e := by
  have split : exp z - exp a = exp a * (exp (z - a) - 1) := by
    rw [mul_sub, ← Real.exp_add, add_sub_cancel, mul_one]
  have factor := Real.abs_exp_sub_one_le (apart.trans small)
  have bounded : exp a ≤ 3 := by
    have := Real.exp_le_exp.mpr le
    linarith [Real.exp_one_lt_d9]
  rw [split, abs_mul, Real.abs_exp]
  have := mul_le_mul bounded factor (abs_nonneg _) (by norm_num)
  linarith

/-- The quotient that stands for the exponential of a small real. -/
theorem abs_exp_sub_quotient_le {z : ℝ} (h : |z| ≤ 0.38) :
    |1 - (z * (z - z * z * (1 / 6)) / (z - z * z * (1 / 6) - 2) - z) - exp z| ≤ 0.112 * |z| ^ 4 := by
  obtain ⟨low, high⟩ := abs_le.mp h
  have taylor := Real.exp_bound (h.trans (by norm_num)) (by norm_num : 0 < 4)
  norm_num [Finset.sum_range_succ, Nat.factorial] at taylor
  have divisor : z - z * z * (1 / 6) - 2 ≤ -1.59 := by nlinarith
  have nonzero : z - z * z * (1 / 6) - 2 ≠ 0 := by linarith
  have same : z * (z - z * z * (1 / 6)) / (z - z * z * (1 / 6) - 2) =
      -(z ^ 2 / 2 + z ^ 3 / 6) + z ^ 4 * (1 / 12 - z / 36) / (z - z * z * (1 / 6) - 2) := by
    rw [div_eq_iff nonzero, add_mul, div_mul_cancel₀ _ nonzero]
    ring
  have rest : |z ^ 4 * (1 / 12 - z / 36) / (z - z * z * (1 / 6) - 2)| ≤ 0.0595 * |z| ^ 4 := by
    rw [abs_div, abs_mul, abs_pow, abs_of_neg (by linarith : z - z * z * (1 / 6) - 2 < 0),
      abs_of_pos (by linarith : 0 < 1 / 12 - z / 36), div_le_iff₀ (by linarith)]
    have := pow_nonneg (abs_nonneg z) 4
    nlinarith
  rw [same]
  generalize z ^ 4 * (1 / 12 - z / 36) / (z - z * z * (1 / 6) - 2) = q at rest
  have taylor := abs_le.mp taylor
  have rest := abs_le.mp rest
  exact abs_le.mpr ⟨by linarith, by linarith⟩

section
variable {z t w : Float} {a r b : ℝ} (hz : Near z a 0) (size : |a| ≤ b) (small : b ≤ 0.38)
  (wide : 1e20 * tiny ≤ b)
include hz size small wide

/-- The polynomial in the quotient, of which only the first two terms matter. -/
theorem near_expTerms :
    Near (z - z * z * (1.66666666666666019037e-01 + z * z * (-2.77777777770155933842e-03 +
      z * z * (6.61375632143793436117e-05 + z * z * (-1.65339022054652515390e-06 +
      z * z * 4.13813679705723846039e-08))))) (a - a * a * (1 / 6)) (1.95e-4 * b) := by
  have := tiny_pos
  have := tiny_le
  have c₁ : Near 1.66666666666666019037e-01 (1 / 6) 1e-13 := by
    simpa using Near.of_fraction (x := 1.66666666666666019037e-01) (1 / 6) 1e-13 (by decide +kernel)
  have c₂ : Near (-2.77777777770155933842e-03) 0 2.8e-3 := by
    simpa using Near.of_fraction (x := -2.77777777770155933842e-03) 0 2.8e-3 (by decide +kernel)
  have c₃ : Near 6.61375632143793436117e-05 0 2.8e-3 := by
    simpa using Near.of_fraction (x := 6.61375632143793436117e-05) 0 2.8e-3 (by decide +kernel)
  have c₄ : Near (-1.65339022054652515390e-06) 0 2.8e-3 := by
    simpa using Near.of_fraction (x := -1.65339022054652515390e-06) 0 2.8e-3 (by decide +kernel)
  have c₅ : Near 4.13813679705723846039e-08 0 3.3e-3 := by
    simpa using Near.of_fraction (x := 4.13813679705723846039e-08) 0 3.3e-3 (by decide +kernel)
  have size' := size.trans small
  have square_le : |a * a| ≤ 0.38 * b := by
    rw [abs_mul]
    exact mul_le_mul size' size (abs_nonneg a) (by norm_num)
  have square := hz.mul (f := 1e-15 * b) hz size' size (by linarith) (by linarith)
  have square' := square.to_small (f := 0.146) square_le (by linarith)
  -- From the innermost coefficient outward the bound stays the same.
  have term {c t : Float} (hc : Near c 0 2.8e-3) (ht : Near t 0 3.3e-3) :
      Near (c + z * z * t) 0 3.3e-3 :=
    hc.small_add_small (square'.small_mul_small (f := 4.85e-4) ht (by linarith) (by norm_num))
      (by linarith) (by norm_num)
  have rest := square'.small_mul_small (f := 4.85e-4) (term c₂ (term c₃ (term c₄ c₅))) (by linarith)
    (by norm_num)
  have factor := c₁.add_small (f := 4.9e-4) (b := 0.17) rest (by norm_num [abs_le]) (by linarith)
    (by norm_num)
  have cube := square.mul (f := 1.9e-4 * b) (b := 0.17) factor square_le (by norm_num [abs_le])
    (by linarith) (by linarith)
  have bounds := abs_le.mp size
  have bounds' := abs_le.mp square_le
  exact hz.sub (b := 1.07 * b) cube (abs_le.mpr ⟨by linarith, by linarith⟩) (by linarith)
    (by linarith)

/-- The quotient, with a correction to its divisor that makes no difference here. -/
theorem near_expQuotient (ht : Near t r (1.95e-4 * b)) (hw : Near w 0 (2e-5 * b))
    (size' : |r| ≤ 1.07 * b) :
    Near ((z * t) / ((t - 2.0) - (w + z * w)) - z) (a * r / (r - 2) - a) (8e-5 * b) := by
  have := tiny_pos
  have := tiny_le
  have two : Near 2.0 2 0 := by simpa using Near.of_fraction (x := 2.0) 2 0 (by decide +kernel)
  have a_le := size.trans small
  have bounds := abs_le.mp size
  have bounds' := abs_le.mp size'
  have divisor_le : |r - 2| ≤ 2.5 := abs_le.mpr ⟨by linarith, by linarith⟩
  have large : 1.59 ≤ |r - 2| := le_abs.mpr (.inr (by linarith))
  have product_le : |a * r| ≤ 0.407 * b := by
    rw [abs_mul]
    have := mul_le_mul a_le size' (abs_nonneg r) (by norm_num)
    linarith
  have quotient_le : |a * r / (r - 2)| ≤ 0.26 * b := by
    rw [abs_div, div_le_iff₀ (by linarith)]
    have := mul_le_mul_of_nonneg_left large (by linarith : 0 ≤ 0.26 * b)
    linarith
  have product := hz.mul (f := 7.5e-5 * b) ht a_le size' (by linarith) (by linarith)
  have correction := hw.small_add_small (f := 3e-5 * b) (hz.mul_small (f := 8e-6 * b) hw a_le
    (by linarith) (by linarith)) (by linarith) (by linarith)
  have divisor := (ht.sub (f := 7.5e-5) two divisor_le (by linarith) (by norm_num)).sub_small
    (f := 9e-5) correction divisor_le (by linarith) (by norm_num)
  have quotient := product.div (f := 7e-5 * b) divisor large (by norm_num) quotient_le
    (by norm_num; linarith) (by linarith)
  have bounds'' := abs_le.mp quotient_le
  exact quotient.sub (b := 1.3 * b) hz (abs_le.mpr ⟨by linarith, by linarith⟩) (by linarith)
    (by linarith)

end

/-- What the exponential of a small split real is the nearest double to. -/
theorem near_expSmall {p : Split} {b : ℝ} (finite : IsFinite p.high) (size : |value p.high| ≤ b)
    (small : b ≤ 0.38) (low : Near p.low 0 (2e-5 * b)) (wide : 1e20 * tiny ≤ b) :
    ∃ r, rank (expSmall p) = place r ∧ |r - exp (value p.high)| ≤ 0.0064 * b := by
  have z := Near.self finite
  have quotient := near_expQuotient z size small wide (near_expTerms z size small wide) low
  generalize value p.high = a at *
  have square_le : a * a ≤ 0.38 * b := by
    rw [← abs_mul_abs_self]
    exact mul_le_mul (size.trans small) size (abs_nonneg a) (by norm_num)
  have bounds := abs_le.mp size
  have difference := quotient (abs_le.mpr ⟨by linarith, by linarith [mul_self_nonneg a]⟩)
  refine ⟨_, rank_sub near_one.finite difference.finite, ?_⟩
  have error := abs_le.mp difference.error
  have main := abs_le.mp (abs_exp_sub_quotient_le (size.trans small))
  have fourth : |a| ^ 4 ≤ 0.055 * b :=
    calc |a| ^ 4 = |a| ^ 3 * |a| := pow_succ ..
      _ ≤ 0.38 ^ 3 * b := by gcongr; exact size.trans small
      _ ≤ 0.055 * b := by linarith [abs_nonneg a]
  rw [value_one]
  exact abs_le.mpr ⟨by linarith, by linarith⟩

/-- A split real without an integer next to it. -/
theorem near_naturalRest {p : Split} {n : ℤ} {b : ℝ} (finite : IsFinite p.high)
    (low : Near p.low 0 (0.03 * b)) (nonneg : 0 ≤ n) (le : n ≤ 1100)
    (size : |value p.high - n| ≤ b) (small : b ≤ 0.515) (wide : 1e20 * tiny ≤ b) :
    (naturalRest p n).Near ((value p.low + (value p.high - n)) * log 2) (2e-6 * b) (1e-6 * b) := by
  have := tiny_pos
  have log_two := Real.log_two_gt_d9
  have log_two' := Real.log_two_lt_d9
  have c₁ : Near 6.93147182464599609375e-01 (log 2) 2.5e-9 := by
    have read : Near 6.93147182464599609375e-01 0.6931471825 4e-11 := by
      simpa using Near.of_fraction (x := 6.93147182464599609375e-01) 0.6931471825 4e-11
        (by decide +kernel)
    exact (read.shift (d := 2.3e-9) (abs_le.mpr ⟨by linarith, by linarith⟩)).mono (by norm_num)
  have c₂ : Near 6.93147180559945286227e-01 0 0.7 := by
    simpa using Near.of_fraction (x := 6.93147180559945286227e-01) 0 0.7 (by decide +kernel)
  have c₃ : Near (-1.90465429995776804525e-09) 0 2e-9 := by
    simpa using Near.of_fraction (x := -1.90465429995776804525e-09) 0 2e-9 (by decide +kernel)
  have low_le := low.abs_le_of_small
  have sum_le : |value p.low + (value p.high - n)| ≤ 1.03 * b := by
    have := abs_add_le (value p.low) (value p.high - n)
    linarith
  have rest := (Near.self finite).sub (f := 1.1e-15 * b) (near_ofInt nonneg le) size (by linarith)
    (by linarith)
  have sum := (Near.self low.finite).add (f := 3e-15 * b) rest sum_le (by linarith) (by linarith)
  have t := sum.head (f := 1e-6 * b) sum_le (by linarith)
  have back := (t.sub (f := 1.01e-6 * b) rest (b := 0.03 * b) (by rwa [add_sub_cancel_right])
    (by linarith) (by linarith)).congr (add_sub_cancel_right ..)
  have left := (Near.self low.finite).sub_self (f := 1.02e-6 * b) back (by linarith) (by linarith)
  have first := left.small_mul_small (f := 7.2e-7 * b) c₂ (by linarith) (by linarith)
  have second := t.mul_small (f := 2.1e-9 * b) c₃ sum_le (by linarith) (by linarith)
  have v := first.small_add_small (f := 7.3e-7 * b) second (by linarith) (by linarith)
  have log_le : |log 2| ≤ 0.7 := abs_le.mpr ⟨by linarith, by linarith⟩
  have u := t.mul (f := 8e-7 * b) c₁ sum_le log_le (by linarith) (by linarith)
  have product_le : |(value p.low + (value p.high - n)) * log 2| ≤ 0.73 * b := by
    rw [abs_mul]
    have := mul_le_mul sum_le log_le (abs_nonneg _) (by linarith)
    linarith
  obtain ⟨high, low⟩ := Split.near_sum (q := 0.73 * b) u v product_le (by linarith) (by linarith)
  exact ⟨high.mono (by linarith), low.mono (by linarith)⟩

/-- The integer next to a positive double. -/
theorem wholePart_spec {z : Float} (finite : IsFinite z) (pos : 0 < value z) (le : value z ≤ 1024) :
    0 ≤ wholePart z ∧ wholePart z ≤ 1025 ∧ |value z - wholePart z| ≤ 0.502 := by
  have tiny_pos := tiny_pos
  have tiny_le := tiny_le
  have half : Near 0.5 0.5 0 := by simpa using Near.of_fraction (x := 0.5) 0.5 0 (by decide +kernel)
  have nonneg : ¬z < 0.0 := fun below => by
    have := strictMono_position (rank_lt_rank below)
    have zero := value_zero
    rw [value] at zero pos
    linarith
  have size : |value z| ≤ 1024 := abs_le.mpr ⟨by linarith, le⟩
  have cut := (Near.self finite).head (f := 1e-3) size (by linarith)
  have sum := cut.add (f := 1.1e-3) (b := 1025) half (abs_le.mpr ⟨by linarith, by linarith⟩)
    (by linarith) (by norm_num)
  rw [wholePart, if_neg nonneg]
  split_ifs with large
  · have e := abs_le.mp sum.error
    have nonneg : 0 ≤ value (head z + 0.5) := by linarith
    have below := Nat.floor_le nonneg
    have above := Nat.lt_floor_add_one (value (head z + 0.5))
    rw [truncate?_of_nonneg sum.finite nonneg, Option.getD_some]
    have floor_le : ⌊value (head z + 0.5)⌋₊ < 1025 := by
      rw [Nat.floor_lt nonneg]
      norm_num at e ⊢
      linarith
    refine ⟨by omega, by omega, ?_⟩
    rw [Int.cast_natCast]
    exact abs_le.mpr ⟨by linarith, by linarith⟩
  · have cut := (Near.self (isFinite_abs finite)).head (f := 1e-3) (b := 1024)
      (by rwa [value_abs finite, abs_abs]) (by linarith)
    rw [lt_iff_rank_lt half.finite.isNaN_eq_false cut.finite.isNaN_eq_false, not_lt] at large
    have below : value _ ≤ value _ := strictMono_position.monotone large
    have e := abs_le.mp cut.error
    have e' := abs_le.mp half.error
    rw [value_abs finite, abs_of_pos pos] at e
    refine ⟨le_rfl, by norm_num, ?_⟩
    rw [Int.cast_zero, sub_zero, abs_of_pos pos]
    linarith

/-- A split real that two is raised to: positive, and with a second part that is much smaller than
the first. -/
structure Split.IsExponent (p : Split) : Prop where
  finite_high : IsFinite p.high
  finite_low : IsFinite p.low
  lower : 1e-16 ≤ value p.high
  upper : value p.high ≤ 10000
  low_le : |value p.low| ≤ 1.1e-5 * value p.high

/-- The exponential of a split real without an integer. -/
theorem near_expSmall_naturalRest {p : Split} {n : ℤ} {b : ℝ} (finite : IsFinite p.high)
    (low : Near p.low 0 (0.03 * b)) (nonneg : 0 ≤ n) (le : n ≤ 1100) (size : |value p.high - n| ≤ b)
    (small : b ≤ 0.515) (wide : 1e21 * tiny ≤ b) :
    ∃ r, rank (expSmall (naturalRest p n)) = place r ∧
      |r - exp ((value p.low + (value p.high - n)) * log 2)| ≤ 0.0047 * b := by
  have := tiny_pos
  obtain ⟨high, rest⟩ := near_naturalRest finite low nonneg le size small (by linarith)
  have log_two := Real.log_two_lt_d9
  have log_nonneg := Real.log_nonneg (one_le_two (α := ℝ))
  have sum_le : |value p.low + (value p.high - n)| ≤ 1.03 * b := by
    have := abs_add_le (value p.low) (value p.high - n)
    have := low.abs_le_of_small
    linarith
  have natural_le : |(value p.low + (value p.high - n)) * log 2| ≤ 0.715 * b := by
    rw [abs_mul, abs_of_nonneg log_nonneg]
    have := mul_le_mul sum_le log_two.le log_nonneg (by linarith)
    linarith
  generalize (value p.low + (value p.high - n)) * log 2 = a at high natural_le ⊢
  have high_le := high.abs_le natural_le
  obtain ⟨r, placed, error⟩ := near_expSmall (b := 0.72 * b) high.finite (by linarith) (by linarith)
    (rest.mono (by linarith)) (by linarith)
  refine ⟨r, placed, ?_⟩
  have moved := abs_exp_sub_exp_le high.error (by linarith) (by linarith [abs_le.mp natural_le])
  have := abs_sub_le r (exp (value (naturalRest p n).high)) (exp a)
  linarith

/-! ## The slack in the exponent -/

theorem exp_add_sub_le {a b : ℝ} (nonneg : 0 ≤ a) (le : a ≤ b) : exp a + (b - a) ≤ exp b := by
  have first := Real.add_one_le_exp a
  have second := Real.add_one_le_exp (b - a)
  have split : exp b = exp a * exp (b - a) := by rw [← Real.exp_add, add_sub_cancel]
  rw [split]
  nlinarith

theorem exp_add_le {a b : ℝ} (less : a + 0.01 ≤ b) (lower : -0.37 ≤ b) : exp a + 0.006 ≤ exp b := by
  have first := Real.add_one_le_exp b
  have second := Real.add_one_le_exp (b - a)
  have split : exp b = exp a * exp (b - a) := by rw [← Real.exp_add, add_sub_cancel]
  have := Real.exp_pos a
  nlinarith

theorem two_rpow_eq (r : ℝ) : (2 : ℝ) ^ r = exp (r * log 2) := by
  rw [Real.rpow_def_of_pos two_pos, mul_comm]

theorem near_of_place {x : Float} {r : ℝ} (h : rank x = place r) (lower : 0.5 ≤ r) (upper : r ≤ 3) :
    Near x r 1e-14 := by
  have := tiny_le
  have size : |r| ≤ 3 := abs_le.mpr ⟨by linarith, upper⟩
  exact (Near.of_rank h (by linarith)).mono (by linarith)

namespace Split.IsExponent
variable {p : Split} (h : p.IsExponent)
include h

theorem near_sum :
    Number.Near (p.low + p.high) (value p.low + value p.high) (1e-13 * value p.high) := by
  have := tiny_le
  have lower := h.lower
  have upper := h.upper
  have low_le := abs_le.mp h.low_le
  exact (Near.self h.finite_low).add (b := 1.1 * value p.high) (.self h.finite_high)
    (abs_le.mpr ⟨by linarith, by linarith⟩) (by linarith) (by linarith)

theorem mul_log_two_bounds : 0.693 * value p.high ≤ value p.high * log 2 ∧
    |value p.low * log 2| ≤ 1.1e-5 * (value p.high * log 2) := by
  have log_two := Real.log_two_gt_d9
  have lower := h.lower
  refine ⟨?_, ?_⟩
  · rw [mul_comm]
    exact mul_le_mul_of_nonneg_left (by linarith) (by linarith)
  · rw [abs_mul, abs_of_pos (by linarith : 0 < log 2), ← mul_assoc]
    exact mul_le_mul_of_nonneg_right h.low_le (by linarith)

/-- Between zero and a half the relative error matters. -/
theorem scale_zero (small : value p.high ≤ 0.515) :
    ∃ r, rank (scale (expSmall (naturalRest p 0)) 0) = place r ∧
      2 ^ (0.97 * value p.high) ≤ r ∧ r ≤ 2 ^ (1.03 * value p.high) := by
  have tiny_le := tiny_le
  have lower := h.lower
  have log_two := Real.log_two_lt_d9
  obtain ⟨least, low_le⟩ := h.mul_log_two_bounds
  have low_le := abs_le.mp low_le
  have most : value p.high * log 2 ≤ 0.515 * 0.7 :=
    mul_le_mul small (by linarith) (Real.log_nonneg one_le_two) (by norm_num)
  obtain ⟨r, placed, error⟩ := near_expSmall_naturalRest (n := 0) (b := value p.high) h.finite_high
    ⟨h.finite_low, by rw [sub_zero]; linarith [h.low_le]⟩ le_rfl (by norm_num)
    (by rw [Int.cast_zero, sub_zero, abs_of_pos (by linarith)]) small (by linarith)
  rw [Int.cast_zero, sub_zero, add_mul] at error
  have error := abs_le.mp error
  have above := exp_add_sub_le (a := 0.97 * value p.high * log 2)
    (b := value p.low * log 2 + value p.high * log 2) (by linarith) (by linarith)
  have below := exp_add_sub_le (a := value p.low * log 2 + value p.high * log 2)
    (b := 1.03 * value p.high * log 2) (by linarith) (by linarith)
  have one := Real.one_le_exp (by linarith : 0 ≤ value p.low * log 2 + value p.high * log 2)
  have three := Real.exp_le_exp.mpr (by linarith : value p.low * log 2 + value p.high * log 2 ≤ 1)
  have near := near_of_place placed (by linarith) (by linarith [Real.exp_one_lt_d9])
  refine ⟨r, ?_, ?_, ?_⟩
  · rw [rank_scale near.finite (by linarith [abs_le.mp near.error]), zpow_zero, mul_one, value,
      place_position near.finite.le, placed]
  · rw [two_rpow_eq]
    linarith
  · rw [two_rpow_eq]
    linarith

/-- Above that the factor takes up the error of rounding twice. -/
theorem scale_pos {n : ℤ} (pos : 0 < n) (le : n ≤ 1100) (size : |value p.high - n| ≤ 0.514) :
    ∃ r, rank (scale (expSmall (naturalRest p n)) n) = place r ∧
      2 ^ (0.97 * value p.high) ≤ r ∧ r ≤ 2 ^ (1.03 * value p.high) := by
  have tiny_le := tiny_le
  have log_two := Real.log_two_lt_d9
  have whole : (1 : ℝ) ≤ n := by exact_mod_cast pos
  have whole_le : (n : ℝ) ≤ 1100 := by exact_mod_cast le
  have bounds := abs_le.mp size
  have low := h.low_le
  obtain ⟨least, low_le⟩ := h.mul_log_two_bounds
  have low_le := abs_le.mp low_le
  obtain ⟨r, placed, error⟩ := near_expSmall_naturalRest (b := 0.515) h.finite_high
    ⟨h.finite_low, by rw [sub_zero]; linarith⟩ pos.le le (by linarith) le_rfl (by linarith)
  have error := abs_le.mp error
  have rest_le : |(value p.low + (value p.high - n)) * log 2| ≤ 0.37 := by
    have sum_le := abs_add_le (value p.low) (value p.high - n)
    rw [abs_mul, abs_of_nonneg (Real.log_nonneg one_le_two)]
    have := mul_le_mul (by linarith : |value p.low + (value p.high - n)| ≤ 0.527) log_two.le
      (Real.log_nonneg one_le_two) (by norm_num)
    linarith
  have rest_le := abs_le.mp rest_le
  have above := exp_add_le (a := (0.97 * value p.high - n) * log 2)
    (b := (value p.low + (value p.high - n)) * log 2) (by linarith) rest_le.1
  have below := exp_add_le (a := (value p.low + (value p.high - n)) * log 2)
    (b := (1.03 * value p.high - n) * log 2) (by linarith) (by linarith)
  have one := Real.add_one_le_exp ((value p.low + (value p.high - n)) * log 2)
  have three := Real.exp_le_exp.mpr (by linarith : (value p.low + (value p.high - n)) * log 2 ≤ 1)
  have near := near_of_place placed (by linarith) (by linarith [Real.exp_one_lt_d9])
  have error' := abs_le.mp near.error
  -- Both bounds are compared before the scaling, where the values are around one.
  have scaled (c : ℝ) : (2 : ℝ) ^ c = exp ((c - n) * log 2) * 2 ^ n := by
    rw [← two_rpow_eq, ← Real.rpow_intCast, ← Real.rpow_add two_pos, sub_add_cancel]
  refine ⟨_, rank_scale near.finite (by linarith) n, ?_, ?_⟩
  · rw [scaled]
    exact mul_le_mul_of_nonneg_right (by linarith) (by positivity)
  · rw [scaled]
    exact mul_le_mul_of_nonneg_right (by linarith) (by positivity)

theorem exp2InRange_bounds (le : value (p.low + p.high) ≤ 1024) :
    ∃ r, rank (exp2InRange p) = place r ∧
      2 ^ (0.97 * value p.high) ≤ r ∧ r ≤ 2 ^ (1.03 * value p.high) := by
  have lower := h.lower
  have sum := h.near_sum
  have low_le := abs_le.mp h.low_le
  have error := abs_le.mp sum.error
  obtain ⟨nonneg, whole_le, close⟩ := wholePart_spec sum.finite (by linarith) le
  have close := abs_le.mp close
  rw [exp2InRange]
  rcases nonneg.eq_or_lt with zero | pos
  · rw [← zero, Int.cast_zero] at close
    rw [← zero]
    exact h.scale_zero (by linarith)
  · exact h.scale_pos pos (by omega) (abs_le.mpr ⟨by linarith, by linarith⟩)

/-- Two to the power of a split real, which is infinity above the range of the doubles. -/
theorem exp2_bounds : ∃ r, rank (exp2 p) = place r ∧
    2 ^ (0.97 * value p.high) ≤ r ∧ r ≤ 2 ^ (1.03 * value p.high) := by
  have lower := h.lower
  have sum := h.near_sum
  have low_le := abs_le.mp h.low_le
  have error := abs_le.mp sum.error
  have top : Number.Near 1024.0 1024 0 := by
    simpa using Number.Near.of_fraction (x := 1024.0) 1024 0 (by decide +kernel)
  have top' := abs_le.mp top.error
  have bottom : value (-1075.0) < 0 := by
    rw [← position_zero]
    exact strictMono_position (by decide +kernel)
  have infinite : rank (1.0 / 0.0) = (2047 * 2 ^ 52 : ℕ) := by decide +kernel
  rw [exp2]
  have numeric := sum.finite.isNaN_eq_false
  split_ifs with beyond below
  · have above : value 1024.0 ≤ value (p.low + p.high) := by
      rw [Bool.or_eq_true, Bool.and_eq_true, decide_eq_true_iff] at beyond
      rcases beyond with above | ⟨same, -⟩
      · exact (strictMono_position (rank_lt_rank above)).le
      · rw [value, value, rank_eq_of_beq same]
    have large : (2 : ℝ) ^ 1024 ≤ 2 ^ (1.03 * value p.high) := by
      rw [← Real.rpow_natCast]
      exact Real.rpow_le_rpow_of_exponent_le one_le_two (by norm_num; linarith)
    refine ⟨_, infinite.trans (place_of_large large).symm, ?_, le_rfl⟩
    exact Real.rpow_le_rpow_of_exponent_le one_le_two (by linarith)
  · have nonpos : value (p.low + p.high) < 0 := by
      rw [Bool.or_eq_true, Bool.and_eq_true, decide_eq_true_iff] at below
      rcases below with below | ⟨same, -⟩
      · exact lt_trans (strictMono_position (rank_lt_rank below)) bottom
      · rwa [value, rank_eq_of_beq same]
    linarith
  · refine h.exp2InRange_bounds ?_
    rw [Bool.or_eq_true, not_or, decide_eq_true_iff, lt_iff_rank_lt top.finite.isNaN_eq_false numeric,
      not_lt] at beyond
    have le : value _ ≤ value _ := strictMono_position.monotone beyond.1
    linarith

end Split.IsExponent

end Depot.Number
