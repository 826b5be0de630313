import Depot.Proofs.Number.Error
/-!
# Logarithms

The split real that stands for the binary logarithm of a double above one has a first part that is
not far below the logarithm, and a second part that is much smaller than the first. Next to one the
logarithm is small itself, so the errors are measured by the distance from the centre that it is
reckoned around.
-/
namespace Depot.Number

/-- A double of which the logarithm is reckoned around a centre that is not far from it. -/
structure Around (m c : Float) (w : ℝ) : Prop where
  finite : IsFinite m
  finite_center : IsFinite c
  lower : 0.86 ≤ value m
  upper : value m ≤ 2
  center_lower : 1 ≤ value c
  center_upper : value c ≤ 1.5
  apart : |value m - value c| ≤ w
  wide : 1e20 * tiny ≤ w
  narrow : w ≤ 0.3

/-- How far `m` is from `c`, relative to their sum. -/
noncomputable def relative (m c : Float) : ℝ := (value m - value c) / (value m + value c)

namespace Around
variable {m c : Float} {w : ℝ} (h : Around m c w)
include h

theorem abs_sum_le : |value m + value c| ≤ 3.5 := by
  have := h.lower
  have := h.upper
  have := h.center_lower
  have := h.center_upper
  rw [abs_le]
  constructor <;> linarith

theorem le_abs_sum : 1.86 ≤ |value m + value c| := by
  have := h.lower
  have := h.center_lower
  exact le_abs.mpr (.inl (by linarith))

theorem abs_inverse_le : |1 / (value m + value c)| ≤ 0.54 := by
  have least := h.le_abs_sum
  rw [abs_div, abs_one, div_le_iff₀ (by linarith)]
  linarith

theorem abs_relative_le : |relative m c| ≤ 0.54 * w := by
  rw [relative, div_eq_mul_one_div, abs_mul, mul_comm]
  exact mul_le_mul h.abs_inverse_le h.apart (abs_nonneg _) (by norm_num)

theorem relative_mul_sum : relative m c * (value m + value c) = value m - value c := by
  refine div_mul_cancel₀ _ (abs_pos.mp ?_)
  linarith [h.le_abs_sum]

theorem near_sub : Near (m - c) (value m - value c) (1.1e-15 * w) := by
  have := tiny_pos
  have := h.wide
  have := h.narrow
  exact (Near.self h.finite).sub (.self h.finite_center) h.apart (by linarith) (by linarith)

theorem near_add : Near (m + c) (value m + value c) 5e-15 := by
  have := tiny_le
  exact (Near.self h.finite).add (.self h.finite_center) h.abs_sum_le (by linarith) (by linarith)

theorem near_inverse : Near (1.0 / (m + c)) (1 / (value m + value c)) 3e-15 := by
  have := tiny_le
  refine near_one.div h.near_add (b := 1.86) h.le_abs_sum (by norm_num) h.abs_inverse_le ?_ ?_
  · norm_num at this ⊢
    linarith
  · norm_num

theorem near_gap : Near (gap m c) (relative m c) (5e-15 * w) := by
  have := h.wide
  have := h.narrow
  have := tiny_pos
  exact (h.near_sub.mul h.near_inverse h.apart h.abs_inverse_le (by linarith) (by linarith)).congr
    (mul_one_div ..)

/-- The products in the rest of a gap nearly cancel out. -/
theorem near_gapRest : Near (gapRest m c) 0 (6e-6 * w) := by
  have := tiny_pos
  have := tiny_le
  have := h.wide
  have := h.narrow
  have size : |value m| ≤ 2 := by
    rw [abs_of_nonneg (by linarith [h.lower])]
    exact h.upper
  have gap_le := h.abs_relative_le
  have gapHigh := h.near_gap.head (f := 0.53e-6 * w) gap_le (by linarith)
  have cut := (Near.self h.finite).head (f := 2e-6) size (by linarith)
  have sumHigh := (cut.add (f := 2.1e-6) (.self h.finite_center) h.abs_sum_le (by linarith)
    (by linarith)).head (f := 5.5e-6) h.abs_sum_le (by linarith)
  -- The upper half of the sum leaves little of it, as the centre is taken off exactly.
  have sumRest := (sumHigh.sub (b := 2) (f := 5.6e-6) (.self h.finite_center) (by simpa using size)
    (by linarith) (by linarith)).congr (add_sub_cancel_right ..)
  have sumLow := (Near.self h.finite).sub_self (f := 5.7e-6) sumRest (by linarith) (by linarith)
  -- The gap times the sum is the difference of the two.
  have product := (gapHigh.mul (f := 5e-6 * w) sumHigh gap_le h.abs_sum_le (by linarith)
    (by linarith)).congr h.relative_mul_sum
  have rest := h.near_sub.sub_self (f := 5.1e-6 * w) product (by linarith) (by linarith)
  have product' := gapHigh.mul_small (f := 4e-6 * w) sumLow gap_le (by linarith) (by linarith)
  have left := rest.small_sub_small (f := 9.5e-6 * w) product' (by linarith) (by linarith)
  exact h.near_inverse.mul_small left h.abs_inverse_le (by linarith) (by linarith)

end Around

/-! ## The series -/

theorem near_seriesTerms {s : Float} (h : Near s 0 0.03) : Near (seriesTerms s) 0 6e-4 := by
  have := tiny_le
  have c₆ : Near 2.06975017800338417784e-01 0 0.62 := by
    simpa using Near.of_fraction (x := 2.06975017800338417784e-01) 0 0.62 (by decide +kernel)
  have c₅ : Near 2.30660745775561754067e-01 0 0.6 := by
    simpa using Near.of_fraction (x := 2.30660745775561754067e-01) 0 0.6 (by decide +kernel)
  have c₄ : Near 2.72728123808534006489e-01 0 0.6 := by
    simpa using Near.of_fraction (x := 2.72728123808534006489e-01) 0 0.6 (by decide +kernel)
  have c₃ : Near 3.33333329818377432918e-01 0 0.6 := by
    simpa using Near.of_fraction (x := 3.33333329818377432918e-01) 0 0.6 (by decide +kernel)
  have c₂ : Near 4.28571428578550184252e-01 0 0.6 := by
    simpa using Near.of_fraction (x := 4.28571428578550184252e-01) 0 0.6 (by decide +kernel)
  have c₁ : Near 5.99999999999994648725e-01 0 0.6 := by
    simpa using Near.of_fraction (x := 5.99999999999994648725e-01) 0 0.6 (by decide +kernel)
  -- From the innermost coefficient outward the bound stays the same.
  have term {a t : Float} (ha : Near a 0 0.6) (ht : Near t 0 0.62) : Near (a + s * t) 0 0.62 :=
    ha.small_add_small (h.small_mul_small (f := 0.019) ht (by linarith) (by norm_num)) (by linarith)
      (by norm_num)
  have terms := term c₁ (term c₂ (term c₃ (term c₄ (term c₅ c₆))))
  have square := h.small_mul_small (f := 0.00091) h (by linarith) (by norm_num)
  exact square.small_mul_small terms (by linarith) (by norm_num)

/-- The upper half of the sum of the series, and what it leaves of its terms. -/
theorem near_seriesHead {a t : Float} (ha : Near a 0 0.03) (ht : Near t 0 6.1e-4) :
    Near (head (3.0 + a + t)) 3 0.0308 ∧ Near (t - ((head (3.0 + a + t) - 3.0) - a)) 0 3.3e-6 := by
  have := tiny_le
  have three : Near 3.0 3 0 := by
    simpa using Near.of_fraction (x := 3.0) 3 0 (by decide +kernel)
  have size := abs_le.mp ha.abs_le_of_small
  have size' := abs_le.mp ht.abs_le_of_small
  have first := three.add (f := 5e-15) (b := 3.04) (.self ha.finite)
    (abs_le.mpr ⟨by linarith, by linarith⟩) (by linarith) (by norm_num)
  have sum := first.add (f := 1e-14) (b := 3.04) (.self ht.finite)
    (abs_le.mpr ⟨by linarith, by linarith⟩) (by linarith) (by norm_num)
  have high := sum.head (f := 3e-6) (b := 3.04) (abs_le.mpr ⟨by linarith, by linarith⟩)
    (by linarith)
  have left := high.sub (f := 3.1e-6) (b := 0.04) three (abs_le.mpr ⟨by linarith, by linarith⟩)
    (by linarith) (by norm_num)
  have rest := (left.sub (f := 3.2e-6) (b := 0.04) (.self ha.finite)
    (abs_le.mpr ⟨by linarith, by linarith⟩) (by linarith) (by norm_num)).congr (s := value t)
    (by ring)
  refine ⟨(high.shift (d := 0.0307) (abs_le.mpr ⟨by linarith, by linarith⟩)).mono (by norm_num), ?_⟩
  exact (Near.self ht.finite).sub_self rest (by linarith) (by norm_num)

theorem near_logSeries {s rest : Float} {g w : ℝ} (hs : Near s g (5e-15 * w))
    (hr : Near rest 0 (6e-6 * w)) (bound : |g| ≤ 0.54 * w) (wide : 1e20 * tiny ≤ w)
    (narrow : w ≤ 0.3) : (logSeries s rest).Near (3 * g) (0.018 * w) (2e-6 * w) := by
  have := tiny_pos
  have := tiny_le
  have sHigh := hs.head (f := 0.53e-6 * w) bound (by linarith)
  have small := hs.to_small (f := 0.17) bound (by linarith)
  have small' := sHigh.to_small (f := 0.17) bound (by linarith)
  have series := near_seriesTerms (small.small_mul_small small (by linarith) (by norm_num))
  have sum := small'.small_add_small (f := 0.35) small (by linarith) (by norm_num)
  have added := hr.small_mul_small (f := 1e-6) sum (by linarith) (by norm_num)
  obtain ⟨high, low⟩ := near_seriesHead
    (small'.small_mul_small small' (by linarith) (by norm_num))
    (series.small_add_small added (by linarith) (by norm_num))
  have product := (sHigh.mul (f := 0.017 * w) (b := 3) high bound (by norm_num) (by linarith)
    (by linarith)).congr (mul_comm g 3)
  have first := hr.small_mul (f := 2e-5 * w) (b := 3) high (by norm_num) (by linarith) (by linarith)
  have second := low.small_mul (f := 2e-6 * w) hs bound (by linarith) (by linarith)
  have products := first.small_add_small (f := 3e-5 * w) second (by linarith) (by linarith)
  have size : |3 * g| ≤ 1.62 * w := by
    rw [abs_mul, abs_of_pos (three_pos : (0 : ℝ) < 3)]
    linarith
  exact Split.near_ofSum product products size (by linarith) (by linarith) (by linarith)
    (by linarith)

theorem near_ofInt {n : ℤ} (nonneg : 0 ≤ n) (le : n ≤ 1100) : Near (ofInt n) n 0 := by
  have size := value_ofInt (n := n) (by omega)
  refine ⟨isFinite_of_abs_le size ?_, by simp [size]⟩
  rw [abs_of_nonneg (by exact_mod_cast nonneg)]
  calc (n : ℝ) ≤ 1100 := by exact_mod_cast le
    _ ≤ 2 ^ 53 := by norm_num

/-- The upper half of the sum of four doubles, of which the second is small, and what it leaves of
them. -/
theorem near_sumHead {z y k w : Float} {r d e l n t : ℝ} (hz : Near z r d) (hy : Near y 0 e)
    (hk : Near k l 0) (hw : Near w n 0) (hl : 0 ≤ l) (hn : 0 ≤ n) (size : |r| + d + e + l + n ≤ t)
    (wide : 1e20 * tiny ≤ t) (small : t ≤ 1e9) :
    Split.Near ⟨head (((z + y) + k) + w), y - (((head (((z + y) + k) + w) - w) - k) - z)⟩
      (r + l + n) (d + e + 1e-6 * t) (1e-6 * t) := by
  have := tiny_pos
  have := abs_le.mp hz.error
  have := abs_le.mp hy.abs_le_of_small
  have := hz.nonneg
  have := hy.nonneg
  have := neg_abs_le r
  have := le_abs_self r
  have s₁ := (Near.self hz.finite).add (f := 1.1e-15 * t) (b := t) (.self hy.finite)
    (abs_le.mpr ⟨by linarith, by linarith⟩) (by linarith) (by linarith)
  have s₂ := s₁.add (f := 2.2e-15 * t) (b := t) hk (abs_le.mpr ⟨by linarith, by linarith⟩)
    (by linarith) (by linarith)
  have s₃ := s₂.add (f := 3.3e-15 * t) (b := t) hw (abs_le.mpr ⟨by linarith, by linarith⟩)
    (by linarith) (by linarith)
  -- The summands are taken off again in reverse, so each step is next to a sum from before.
  have high := s₃.head (f := 0.96e-6 * t) (b := t) (abs_le.mpr ⟨by linarith, by linarith⟩)
    (by linarith)
  have r₂ := (high.sub (f := 0.97e-6 * t) (b := t) hw (abs_le.mpr ⟨by linarith, by linarith⟩)
    (by linarith) (by linarith)).congr (add_sub_cancel_right ..)
  have r₁ := (r₂.sub (f := 0.98e-6 * t) (b := t) hk (abs_le.mpr ⟨by linarith, by linarith⟩)
    (by linarith) (by linarith)).congr (add_sub_cancel_right ..)
  exact ⟨(high.shift (d := d + e) (abs_le.mpr ⟨by linarith, by linarith⟩)).mono (by linarith),
    hy.left_of_sum hz.finite r₁ (by linarith) (by linarith)⟩

/-- The logarithm around a centre, of which the logarithm is `l`. -/
theorem Around.near_logAround {m c : Float} {w : ℝ} (h : Around m c w) {n : ℤ} (nonneg : 0 ≤ n)
    (le : n ≤ 1100) {centerHigh centerLow : Float} {l : ℝ} (hh : Near centerHigh l 0)
    (hl : Near centerLow 0 (1e-7 * l)) (center : l ≤ 1) :
    (logAround m n c centerHigh centerLow).Near (2.8854 * relative m c + l + n)
      (0.018 * w + 2e-6 * (w + l + n)) (2e-6 * (w + l + n)) := by
  have := tiny_pos
  have wide := h.wide
  have narrow := h.narrow
  have center_nonneg := hl.nonneg
  have whole_nonneg : (0 : ℝ) ≤ n := by exact_mod_cast nonneg
  have whole_le : (n : ℝ) ≤ 1100 := by exact_mod_cast le
  have c₁ : Near 9.61796700954437255859e-01 0.9618 4e-6 := by
    simpa using Near.of_fraction (x := 9.61796700954437255859e-01) 0.9618 4e-6 (by decide +kernel)
  have c₂ : Near (-7.02846165095275826516e-09) 0 1e-8 := by
    simpa using Near.of_fraction (x := -7.02846165095275826516e-09) 0 1e-8 (by decide +kernel)
  have c₃ : Near 9.61796693925975554329e-01 0 0.97 := by
    simpa using Near.of_fraction (x := 9.61796693925975554329e-01) 0 0.97 (by decide +kernel)
  have series := near_logSeries h.near_gap h.near_gapRest h.abs_relative_le wide narrow
  have gap_le := abs_le.mp h.abs_relative_le
  have size : |3 * relative m c| ≤ 1.62 * w := abs_le.mpr ⟨by linarith, by linarith⟩
  have zHigh := c₁.mul (f := 0.0176 * w) (a := 0.97) series.high (by norm_num [abs_le]) size
    (by linarith) (by linarith)
  have first := c₂.small_mul (f := 2e-8 * w) series.high size (by linarith) (by linarith)
  have second := series.low.small_mul_small (f := 1.95e-6 * w) c₃ (by linarith) (by linarith)
  have zLow := (first.small_add_small (f := 2e-6 * w) second (by linarith)
    (by linarith)).small_add_small (f := 2.1e-6 * w + 1.1e-7 * l) hl (by linarith) (by linarith)
  have size' : |0.9618 * (3 * relative m c)| ≤ 1.57 * w := abs_le.mpr ⟨by linarith, by linarith⟩
  obtain ⟨high, low⟩ := near_sumHead (t := 1.6 * (w + l + n)) zHigh zLow hh (near_ofInt nonneg le)
    (by linarith) whole_nonneg (by linarith) (by linarith) (by linarith)
  exact ⟨(high.congr (by ring)).mono (by linarith), low.mono (by linarith)⟩

/-! ## The logarithm of a double above one -/

/-- A fraction with the exponent of one. -/
theorem toNat_fraction_or (b : UInt64) :
    ((b &&& 0x000FFFFFFFFFFFFF) ||| 0x3FF0000000000000).toNat =
      1023 * 2 ^ 52 + b.toNat % 2 ^ 52 := by
  have mask : (0x000FFFFFFFFFFFFF : UInt64).toNat = 2 ^ 52 - 1 := rfl
  have exponent : (0x3FF0000000000000 : UInt64).toNat = 2 ^ 52 * 1023 := rfl
  rw [UInt64.toNat_or, UInt64.toNat_and, mask, exponent, Nat.and_two_pow_sub_one_eq_mod, Nat.or_comm,
    ← Nat.two_pow_add_eq_or_of_lt (Nat.mod_lt _ (by norm_num)), mul_comm]

theorem value_of_bits {x : Float} {m k : ℕ} (h : rank x = (k * 2 ^ 52 + m : ℕ)) (full : 2 ^ 52 ≤ m)
    (short : m ≤ 2 ^ 53) : value x = m * 2 ^ ((k : ℤ) - 1074) := by
  rw [value, h, position_natCast, magnitude_add short fun _ => full]

/-- A finite double that is at least one is a double between one and two, times a power of two. -/
theorem normalized_spec {x : Float} (h : IsFinite x) (large : 1 ≤ value x) :
    ∃ m n, normalized x = (m, n) ∧ IsFinite m ∧ 1 ≤ value m ∧ value m < 2 ∧ 0 ≤ n ∧ n ≤ 1023 ∧
      value x = value m * 2 ^ n := by
  have one : rank 1.0 = 1023 * 2 ^ 52 := by decide +kernel
  have above : 1023 * 2 ^ 52 ≤ rank x := by
    rw [← one, ← strictMono_position.le_iff_le]
    exact value_one.trans_le large
  have normal : ¬x < 2.2250738585072014e-308 := by
    intro below
    have := rank_lt_rank below
    have least : rank 2.2250738585072014e-308 = 2 ^ 52 := by decide +kernel
    omega
  have size : rank x = if (x.toBits.toNat : ℤ) < 2 ^ 63 then (x.toBits.toNat : ℤ)
    else 2 ^ 63 - x.toBits.toNat := rfl
  have within : x.toBits.toNat < 2 ^ 64 := x.toBits.toNat_lt
  have shifted : (x.toBits >>> 52).toNat = x.toBits.toNat / 2 ^ 52 := by
    rw [UInt64.toNat_shiftRight, Nat.shiftRight_eq_div_pow]
    rfl
  have cut := toNat_fraction_or x.toBits
  rw [normalized, if_neg normal]
  dsimp only
  rw [shifted]
  rw [IsFinite] at h
  have read : rank x = x.toBits.toNat := by
    rw [size] at above ⊢
    split_ifs at above ⊢ <;> omega
  generalize x.toBits.toNat = b at *
  generalize (x.toBits &&& 0x000FFFFFFFFFFFFF) ||| 0x3FF0000000000000 = a at *
  have placed : rank (Float.ofBits a) = (1022 * 2 ^ 52 + (2 ^ 52 + b % 2 ^ 52) : ℕ) := by
    rw [rank_ofBits (by omega), if_pos (by omega), cut]
    omega
  have size := value_of_bits placed (by omega) (by omega)
  have split : rank x = ((b / 2 ^ 52 - 1) * 2 ^ 52 + (2 ^ 52 + b % 2 ^ 52) : ℕ) := by omega
  have size' := value_of_bits split (by omega) (by omega)
  have finite : IsFinite (Float.ofBits a) := by
    rw [IsFinite, placed]
    omega
  have fraction : b % 2 ^ 52 < 2 ^ 52 := Nat.mod_lt _ (by norm_num)
  have low : (2 : ℝ) ^ 52 ≤ (2 ^ 52 + b % 2 ^ 52 : ℕ) := by exact_mod_cast Nat.le_add_right _ _
  have high : ((2 ^ 52 + b % 2 ^ 52 : ℕ) : ℝ) < 2 ^ 53 := by
    exact_mod_cast (by omega : 2 ^ 52 + b % 2 ^ 52 < 2 ^ 53)
  refine ⟨_, _, rfl, finite, ?_, ?_, by omega, by omega, ?_⟩
  · rw [size]
    norm_num at low ⊢
    linarith
  · rw [size]
    norm_num at high ⊢
    linarith
  · have exponent : (((b / 2 ^ 52 - 1 : ℕ) : ℤ) - 1074) =
        ((1022 : ℕ) : ℤ) - 1074 + ((b / 2 ^ 52 : ℕ) - 1023 + 0) := by omega
    rw [size', size, mul_assoc, ← zpow_add₀ two_ne_zero, exponent]

/-- A split real that is next to the binary logarithm of a real above one: not far below it, and with
a second part that is much smaller than the first. -/
structure Split.IsLogOf (p : Split) (r : ℝ) : Prop where
  finite_high : IsFinite p.high
  finite_low : IsFinite p.low
  lower : 1e-16 ≤ value p.high
  upper : value p.high ≤ 1100
  low_le : |value p.low| ≤ 1e-5 * value p.high
  log_le : Real.log r ≤ 0.97 * value p.high

theorem Split.Near.isLogOf {p : Split} {q r e d : ℝ} (h : p.Near q e d) (lower : 1e-16 ≤ q - e)
    (upper : q + e ≤ 1100) (low_le : d ≤ 1e-5 * (q - e)) (log_le : Real.log r ≤ 0.97 * (q - e)) :
    p.IsLogOf r := by
  have := abs_le.mp h.high.error
  have := h.low.abs_le_of_small
  refine ⟨h.high.finite, h.low.finite, ?_, ?_, ?_, ?_⟩ <;> linarith

section
variable {m : Float} {r : ℝ} {n : ℤ}

theorem log_mul_two_zpow_le (pos : 0 < r) (nonneg : 0 ≤ n) :
    Real.log (r * 2 ^ n) ≤ Real.log r + 0.6932 * n := by
  have whole_nonneg : (0 : ℝ) ≤ n := by exact_mod_cast nonneg
  have two := Real.log_two_lt_d9
  rw [Real.log_mul pos.ne' (by positivity), Real.log_zpow, mul_comm (n : ℝ)]
  gcongr
  linarith

/-- Around one, for a double that is not a power of two. -/
theorem isLogOf_one (finite : IsFinite m) (lower : 1 + 2e-16 ≤ value m) (upper : value m ≤ 1.225) :
    (logAround m 0 1.0 0.0 0.0).IsLogOf (value m) := by
  have tiny_le := tiny_le
  have one := value_one
  have around : Around m 1.0 (value m - 1) :=
    { finite, finite_center := near_one.finite, lower := by linarith, upper := by linarith
      center_lower := one.ge, center_upper := by linarith
      apart := by rw [one, abs_of_nonneg (by linarith)]
      wide := by linarith, narrow := by linarith }
  have zero : Near 0.0 0 0 := by simpa using Near.of_fraction (x := 0.0) 0 0 (by decide +kernel)
  have near := around.near_logAround (n := 0) le_rfl (by norm_num) zero (by simpa using zero)
    (by norm_num)
  have gap : (value m - 1) * 0.449 ≤ relative m 1.0 := by
    rw [relative, one, le_div_iff₀ (by linarith)]
    nlinarith
  have gap_le := (abs_le.mp around.abs_relative_le).2
  have log_le := Real.log_le_sub_one_of_pos (by linarith : 0 < value m)
  norm_num at near
  refine near.isLogOf ?_ ?_ ?_ ?_ <;> linarith

/-- Around one, with a power of two. -/
theorem isLogOf_scaled (finite : IsFinite m) (lower : 0.866 ≤ value m) (upper : value m ≤ 1.225)
    (pos : 1 ≤ n) (le : n ≤ 1024) (hr : 0 < r) (close : r ≤ value m + 1e-6) :
    (logAround m n 1.0 0.0 0.0).IsLogOf (r * 2 ^ n) := by
  have tiny_le := tiny_le
  have one := value_one
  have whole : (1 : ℝ) ≤ n := by exact_mod_cast pos
  have whole_le : (n : ℝ) ≤ 1024 := by exact_mod_cast le
  have around : Around m 1.0 0.3 :=
    { finite, finite_center := near_one.finite, lower := by linarith, upper := by linarith
      center_lower := one.ge, center_upper := by linarith
      apart := by rw [one]; exact abs_le.mpr ⟨by linarith, by linarith⟩
      wide := by linarith, narrow := le_rfl }
  have zero : Near 0.0 0 0 := by simpa using Near.of_fraction (x := 0.0) 0 0 (by decide +kernel)
  have near := around.near_logAround (n := n) (by omega) (by omega) zero (by simpa using zero)
    (by norm_num)
  have gap : (value m - 1) * 0.54 - 0.025 ≤ relative m 1.0 := by
    rw [relative, one, le_div_iff₀ (by linarith)]
    nlinarith
  have gap_le := (abs_le.mp around.abs_relative_le).2
  have log_le := Real.log_le_sub_one_of_pos hr
  have scaled := log_mul_two_zpow_le hr (by omega : 0 ≤ n)
  refine near.isLogOf ?_ ?_ ?_ ?_ <;> linarith

theorem log_le_around {r : ℝ} (pos : 0 < r) : Real.log r ≤ 0.4143 + (2 / 3 * r - 1) := by
  have center : Real.log 1.5 ≤ 0.4143 := by
    rw [Real.log_le_iff_le_exp (by norm_num)]
    refine le_trans ?_ (Real.quadratic_le_exp_of_nonneg (by norm_num))
    norm_num
  have rest := Real.log_le_sub_one_of_pos (by positivity : 0 < 2 / 3 * r)
  have inverse : Real.log (2 / 3) = -Real.log 1.5 := by
    rw [← Real.log_inv]
    norm_num
  rw [Real.log_mul (by norm_num) pos.ne', inverse] at rest
  linarith

/-- Around one and a half. -/
theorem isLogOf_oneAndHalf (finite : IsFinite m) (lower : 1.2247 ≤ value m)
    (upper : value m ≤ 1.7321) (nonneg : 0 ≤ n) (le : n ≤ 1024) :
    (logAround m n 1.5 5.84962487220764160156e-01 1.35003920212974897128e-08).IsLogOf
      (value m * 2 ^ n) := by
  have tiny_le := tiny_le
  have whole : (0 : ℝ) ≤ n := by exact_mod_cast nonneg
  have whole_le : (n : ℝ) ≤ 1024 := by exact_mod_cast le
  have center : Near 1.5 1.5 0 := by
    simpa using Near.of_fraction (x := 1.5) 1.5 0 (by decide +kernel)
  have high : Near 5.84962487220764160156e-01 0.58496 1e-5 := by
    simpa using Near.of_fraction (x := 5.84962487220764160156e-01) 0.58496 1e-5 (by decide +kernel)
  have low : Near 1.35003920212974897128e-08 0 2e-8 := by
    simpa using Near.of_fraction (x := 1.35003920212974897128e-08) 0 2e-8 (by decide +kernel)
  have size : value 1.5 = 1.5 := by linarith [abs_le.mp center.error]
  have size' := abs_le.mp high.error
  have around : Around m 1.5 0.3 :=
    { finite, finite_center := center.finite, lower := by linarith, upper := by linarith
      center_lower := by linarith, center_upper := size.le
      apart := by rw [size]; exact abs_le.mpr ⟨by linarith, by linarith⟩
      wide := by linarith, narrow := le_rfl }
  have near := around.near_logAround nonneg (by omega) (.self high.finite) (low.mono (by linarith))
    (by linarith)
  have gap : (value m - 1.5) * 0.36 - 0.013 ≤ relative m 1.5 := by
    rw [relative, size, le_div_iff₀ (by linarith)]
    nlinarith
  have gap_le := (abs_le.mp around.abs_relative_le).2
  have log_le := log_le_around (by linarith : 0 < value m)
  have scaled := log_mul_two_zpow_le (by linarith : 0 < value m) nonneg
  refine near.isLogOf ?_ ?_ ?_ ?_ <;> linarith

/-- The next double after one. -/
theorem one_add_le_value (large : 1 < value m) : 1 + 2e-16 ≤ value m := by
  have one : rank 1.0 = 1023 * 2 ^ 52 := by decide +kernel
  have above : rank 1.0 < rank m := by
    rw [← strictMono_position.lt_iff_lt]
    exact value_one.trans_lt large
  have next : position (1022 * 2 ^ 52 + (2 ^ 52 + 1) : ℕ) = 1 + 2 ^ (-52 : ℤ) := by
    rw [position_natCast, magnitude_add (by norm_num) (by norm_num)]
    norm_num
  have placed : ((1022 * 2 ^ 52 + (2 ^ 52 + 1) : ℕ) : ℤ) ≤ rank m := by
    push_cast
    omega
  refine le_trans ?_ (strictMono_position.monotone placed)
  rw [next]
  norm_num

end

theorem isLogOf_log2 {x : Float} (h : IsFinite x) (large : 1 < value x) :
    (log2 x).IsLogOf (value x) := by
  obtain ⟨m, n, normal, finite, lower, upper, nonneg, le, size⟩ := normalized_spec h large.le
  have tiny_le := tiny_le
  have v₁ : Near 1.22474479675292968750 1.224745 1e-6 := by
    simpa using Near.of_fraction (x := 1.22474479675292968750) 1.224745 1e-6 (by decide +kernel)
  have v₂ : Near 1.73205471038818359375 1.732055 1e-6 := by
    simpa using Near.of_fraction (x := 1.73205471038818359375) 1.732055 1e-6 (by decide +kernel)
  have cut := (Near.self finite).head (f := 2e-6) (b := 2) (abs_le.mpr ⟨by linarith, upper.le⟩)
    (by linarith)
  have e₁ := abs_le.mp v₁.error
  have e₂ := abs_le.mp v₂.error
  have e₃ := abs_le.mp cut.error
  have number := cut.finite.isNaN_eq_false
  rw [log2, normal]
  dsimp only
  split_ifs with first second
  · rw [le_iff_value_le number v₁.finite.isNaN_eq_false] at first
    rcases nonneg.eq_or_lt with rfl | pos
    · rw [zpow_zero, mul_one] at size
      rw [size] at large ⊢
      exact isLogOf_one finite (one_add_le_value large) (by linarith)
    · rw [size]
      exact isLogOf_scaled finite (by linarith) (by linarith) pos (by omega) (by linarith)
        (by linarith)
  · rw [le_iff_value_le number v₁.finite.isNaN_eq_false, not_le] at first
    have below : value (head m) < value 1.73205471038818359375 :=
      strictMono_position (rank_lt_rank second)
    rw [size]
    exact isLogOf_oneAndHalf finite (by linarith) (by linarith) nonneg (by omega)
  · rw [lt_iff_rank_lt number v₂.finite.isNaN_eq_false, not_lt] at second
    have above : value 1.73205471038818359375 ≤ value (head m) := strictMono_position.monotone second
    have half : Near 0.5 0.5 0 := by
      simpa using Near.of_fraction (x := 0.5) 0.5 0 (by decide +kernel)
    -- Half of the double is next to one again, and the power of two makes up for it.
    have halved := (Near.self finite).mul (f := 3e-15) (a := 2) (b := 0.5) half
      (abs_le.mpr ⟨by linarith, by linarith⟩) (by norm_num [abs_le]) (by linarith) (by norm_num)
    have e₄ := abs_le.mp halved.error
    have doubled : value x = value m * 0.5 * 2 ^ (n + 1) := by
      rw [size, zpow_add_one₀ two_ne_zero]
      ring
    rw [doubled]
    exact isLogOf_scaled halved.finite (by linarith) (by linarith) (by omega) (by omega)
      (by linarith) (by linarith)

end Depot.Number
