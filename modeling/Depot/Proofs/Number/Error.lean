import Depot.Proofs.Number.Exact
import Depot.Number.Power
/-!
# Rounding errors

How far a double may be from a real that it stands for, from one operation to the next. Rounding
moves a result by a small part of it, and by less than a tiny real where it is that small itself.
-/
namespace Depot.Number

/-- Far above the least double, and far below any error that matters. -/
noncomputable def tiny : ℝ := twoPow (-1000)

theorem tiny_pos : 0 < tiny := by
  unfold tiny twoPow
  positivity

theorem tiny_le : tiny ≤ 1e-40 := by
  have small : tiny ≤ 2 ^ (-200 : ℤ) := zpow_le_zpow_right₀ one_le_two (by norm_num)
  exact small.trans (by norm_num)

/-- What a finite double stands for, as a fraction. -/
def fraction (x : Float) : ℚ :=
  match exact x with
  | .finite negative m k => (if negative then -1 else 1) * (m * 2 ^ k)
  | _ => 0

theorem value_eq_fraction {x : Float} (h : IsFinite x) : value x = fraction x := by
  obtain ⟨negative, m, k, read⟩ := exists_exact h
  rw [value_of_exact read, fraction, read]
  push_cast
  split <;> norm_num

/-- A finite double that is next to a real. -/
structure Near (x : Float) (r e : ℝ) : Prop where
  finite : IsFinite x
  error : |value x - r| ≤ e

theorem abs_nearest_sub_le_add_tiny {r : ℝ} (h : |r| ≤ 2 ^ 40) :
    |nearest r - r| ≤ |r| / 10 ^ 15 + tiny := by
  have moved := abs_nearest_sub_le (h.trans (pow_le_pow_right₀ one_le_two (by norm_num)))
  have least : (2 : ℝ) ^ (-1075 : ℤ) ≤ tiny := zpow_le_zpow_right₀ one_le_two (by norm_num)
  have := abs_nonneg r
  linarith

namespace Near
variable {x y : Float} {r s d e f : ℝ}

theorem nonneg (h : Near x r e) : 0 ≤ e := (abs_nonneg _).trans h.error

theorem mono (h : Near x r e) (le : e ≤ f) : Near x r f := ⟨h.finite, h.error.trans le⟩

theorem shift (h : Near x r e) (le : |r - s| ≤ d) : Near x s (e + d) := by
  refine ⟨h.finite, (abs_sub_le _ r _).trans ?_⟩
  linarith [h.error]

theorem abs_le (h : Near x r e) {b : ℝ} (le : |r| ≤ b) : |value x| ≤ b + e := by
  have := h.error
  have := abs_sub_abs_le_abs_sub (value x) r
  linarith

/-- A double whose value is a rounded real. -/
theorem of_rank (h : rank x = place r) (small : |r| ≤ 2 ^ 40) :
    Near x r (|r| / 10 ^ 15 + tiny) := by
  have size : value x = nearest r := by rw [value, h, nearest]
  have moved := abs_nearest_sub_le_add_tiny small
  refine ⟨?_, by rwa [size]⟩
  have least : tiny ≤ 1 := (zpow_le_zpow_right₀ one_le_two (by norm_num)).trans_eq (zpow_zero _)
  have := abs_sub_abs_le_abs_sub (nearest r) r
  have bound : |nearest r| < 2 ^ 42 := by
    norm_num at small ⊢
    linarith
  rw [isFinite_iff, size]
  exact bound.trans_le (pow_le_pow_right₀ one_le_two (by norm_num))

theorem of_fraction (r e : ℚ) (h : IsFinite x ∧ |fraction x - r| ≤ e) : Near x r e := by
  refine ⟨h.1, ?_⟩
  rw [value_eq_fraction h.1]
  exact_mod_cast h.2

theorem self (h : IsFinite x) : Near x (value x) 0 := ⟨h, by simp⟩

theorem congr (h : Near x r e) (same : r = s) : Near x s e := same ▸ h

/-- An operation on two doubles, each next to a real. -/
theorem op {z : Float} {exact near b : ℝ} (h : rank z = place exact) (close : |exact - near| ≤ e)
    (bound : |near| ≤ b) (le : e + (b + e) / 10 ^ 15 + tiny ≤ f) (small : b + f ≤ 10 ^ 12) :
    Near z near f := by
  have size : |exact| ≤ b + e := by
    have := abs_sub_abs_le_abs_sub exact near
    linarith
  have := tiny_pos
  have : 0 ≤ (b + e) / 10 ^ 15 := div_nonneg ((abs_nonneg _).trans size) (by norm_num)
  have share : |exact| / 10 ^ 15 ≤ (b + e) / 10 ^ 15 := by gcongr
  exact ((of_rank h (by norm_num at small ⊢; linarith)).shift close).mono (by linarith)

theorem add (hx : Near x r d) (hy : Near y s e) {b : ℝ} (bound : |r + s| ≤ b)
    (le : d + e + (b + (d + e)) / 10 ^ 15 + tiny ≤ f) (small : b + f ≤ 10 ^ 12) :
    Near (x + y) (r + s) f := by
  refine op (rank_add hx.finite hy.finite) ?_ bound le small
  rw [add_sub_add_comm]
  exact (abs_add_le _ _).trans (add_le_add hx.error hy.error)

theorem sub (hx : Near x r d) (hy : Near y s e) {b : ℝ} (bound : |r - s| ≤ b)
    (le : d + e + (b + (d + e)) / 10 ^ 15 + tiny ≤ f) (small : b + f ≤ 10 ^ 12) :
    Near (x - y) (r - s) f := by
  refine op (rank_sub hx.finite hy.finite) ?_ bound le small
  rw [sub_sub_sub_comm]
  exact (abs_sub _ _).trans (add_le_add hx.error hy.error)

theorem mul (hx : Near x r d) (hy : Near y s e) {a b : ℝ} (hr : |r| ≤ a) (hs : |s| ≤ b)
    (le : d * (b + e) + a * e + (a * b + (d * (b + e) + a * e)) / 10 ^ 15 + tiny ≤ f)
    (small : a * b + f ≤ 10 ^ 12) : Near (x * y) (r * s) f := by
  have a_nonneg := (abs_nonneg r).trans hr
  refine op (rank_mul hx.finite hy.finite) ?_ ?_ le small
  · calc |value x * value y - r * s|
        = |(value x - r) * value y + r * (value y - s)| := by ring_nf
      _ ≤ |value x - r| * |value y| + |r| * |value y - s| := by
        rw [← abs_mul, ← abs_mul]
        exact abs_add_le _ _
      _ ≤ d * (b + e) + a * e := by
        have := hx.error
        have := hy.error
        have := hy.abs_le hs
        have := hx.nonneg
        gcongr
  · rw [abs_mul]
    gcongr

theorem div (hx : Near x r d) (hy : Near y s e) {b q : ℝ} (hs : b ≤ |s|) (apart : e < b)
    (bound : |r / s| ≤ q)
    (le : (d + q * e) / (b - e) + (q + (d + q * e) / (b - e)) / 10 ^ 15 + tiny ≤ f)
    (small : q + f ≤ 10 ^ 12) : Near (x / y) (r / s) f := by
  have nonzero : s ≠ 0 := by
    rintro rfl
    rw [abs_zero] at hs
    linarith [hy.nonneg]
  have least : b - e ≤ |value y| := by
    have := abs_sub_abs_le_abs_sub s (value y)
    rw [abs_sub_comm] at this
    linarith [hy.error]
  have pos : 0 < b - e := by linarith
  have nonzero' : value y ≠ 0 := abs_pos.mp (pos.trans_le least)
  refine op (rank_div hx.finite hy.finite nonzero') ?_ bound le small
  have same : value x / value y - r / s = ((value x - r) - r / s * (value y - s)) / value y := by
    field_simp
    ring
  rw [same, abs_div]
  have error : |(value x - r) - r / s * (value y - s)| ≤ d + q * e := by
    refine (abs_sub _ _).trans (add_le_add hx.error ?_)
    rw [abs_mul]
    exact mul_le_mul bound hy.error (abs_nonneg _) ((abs_nonneg _).trans bound)
  have := (abs_nonneg _).trans error
  gcongr

/-! A double that is next to zero is added, or is a factor. -/

theorem add_small (hx : Near x r d) (hy : Near y 0 e) {b : ℝ} (bound : |r| ≤ b)
    (le : d + e + (b + (d + e)) / 10 ^ 15 + tiny ≤ f) (small : b + f ≤ 10 ^ 12) :
    Near (x + y) r f :=
  (hx.add hy (by rwa [add_zero]) le small).congr (add_zero r)

theorem sub_small (hx : Near x r d) (hy : Near y 0 e) {b : ℝ} (bound : |r| ≤ b)
    (le : d + e + (b + (d + e)) / 10 ^ 15 + tiny ≤ f) (small : b + f ≤ 10 ^ 12) :
    Near (x - y) r f :=
  (hx.sub hy (by rwa [sub_zero]) le small).congr (sub_zero r)

theorem mul_small (hx : Near x r d) (hy : Near y 0 e) {a : ℝ} (hr : |r| ≤ a)
    (le : (a + d) * e + (a + d) * e / 10 ^ 15 + tiny ≤ f) (small : f ≤ 10 ^ 12) :
    Near (x * y) 0 f :=
  (hx.mul hy hr (b := 0) (by simp) (by linarith) (by linarith)).congr (mul_zero r)

theorem small_mul (hx : Near x 0 d) (hy : Near y s e) {b : ℝ} (hs : |s| ≤ b)
    (le : d * (b + e) + d * (b + e) / 10 ^ 15 + tiny ≤ f) (small : f ≤ 10 ^ 12) :
    Near (x * y) 0 f :=
  (hx.mul hy (a := 0) (by simp) hs (by linarith) (by linarith)).congr (zero_mul s)

theorem small_mul_small (hx : Near x 0 d) (hy : Near y 0 e)
    (le : d * e + d * e / 10 ^ 15 + tiny ≤ f) (small : f ≤ 10 ^ 12) : Near (x * y) 0 f :=
  hx.small_mul hy (b := 0) (by simp) (by linarith) small

theorem small_add_small (hx : Near x 0 d) (hy : Near y 0 e)
    (le : d + e + (d + e) / 10 ^ 15 + tiny ≤ f) (small : f ≤ 10 ^ 12) : Near (x + y) 0 f :=
  hx.add_small hy (b := 0) (by simp) (by linarith) (by linarith)

theorem small_sub_small (hx : Near x 0 d) (hy : Near y 0 e)
    (le : d + e + (d + e) / 10 ^ 15 + tiny ≤ f) (small : f ≤ 10 ^ 12) : Near (x - y) 0 f :=
  hx.sub_small hy (b := 0) (by simp) (by linarith) (by linarith)

/-- The difference of two doubles that are next to the same real. -/
theorem sub_self (hx : Near x r d) (hy : Near y r e) (le : d + e + (d + e) / 10 ^ 15 + tiny ≤ f)
    (small : f ≤ 10 ^ 12) : Near (x - y) 0 f :=
  (hx.sub hy (b := 0) (by simp) (by linarith) (by linarith)).congr (by simp)

theorem abs_le_of_small (h : Near x 0 e) : |value x| ≤ e := by simpa using h.error

theorem to_small (h : Near x r e) {b : ℝ} (bound : |r| ≤ b) (le : b + e ≤ f) : Near x 0 f :=
  (h.shift (s := 0) (by simpa using bound)).mono (by linarith)

end Near

theorem near_one : Near 1.0 1 0 := by
  simpa using Near.of_fraction (x := 1.0) 1 0 (by decide +kernel)

/-! ## The upper half of the bits -/

theorem toNat_and_upper (b : UInt64) :
    (b &&& 0xFFFFFFFF00000000).toNat = b.toNat - b.toNat % 2 ^ 32 := by
  have mask : (0xFFFFFFFF00000000 : UInt64).toNat = (2 ^ 32 - 1) * 2 ^ 32 := rfl
  have split : b.toNat - b.toNat % 2 ^ 32 = b.toNat / 2 ^ 32 * 2 ^ 32 := by omega
  have within : b.toNat / 2 ^ 32 < 2 ^ 32 := by
    have := b.toNat_lt
    omega
  rw [UInt64.toNat_and, mask, split]
  refine Nat.eq_of_testBit_eq fun i => ?_
  rw [Nat.testBit_and, Nat.testBit_mul_two_pow, Nat.testBit_mul_two_pow, Nat.testBit_two_pow_sub_one,
    Nat.testBit_div_two_pow]
  by_cases low : 32 ≤ i
  · by_cases high : i - 32 < 32
    · simp [low, high, Nat.sub_add_cancel low]
    · have above : b.toNat.testBit i = false :=
        Nat.testBit_lt_two_pow (b.toNat_lt.trans_le (Nat.pow_le_pow_right two_pos (by omega)))
      simp [above, Nat.sub_add_cancel low]
  · simp [low]

/-- Without the lower half of its bits a double has the same sign. -/
theorem rank_head {x : Float} (h : IsFinite x) :
    (rank (head x)).natAbs = (rank x).natAbs - (rank x).natAbs % 2 ^ 32 ∧
      (0 ≤ rank x → 0 ≤ rank (head x)) ∧ (rank x ≤ 0 → rank (head x) ≤ 0) := by
  have within : x.toBits.toNat < 2 ^ 64 := x.toBits.toNat_lt
  have size : rank x = if (x.toBits.toNat : ℤ) < 2 ^ 63 then (x.toBits.toNat : ℤ)
    else 2 ^ 63 - x.toBits.toNat := rfl
  have cut := toNat_and_upper x.toBits
  rw [IsFinite, size] at h
  rw [size, head]
  generalize x.toBits &&& 0xFFFFFFFF00000000 = b at cut ⊢
  generalize x.toBits.toNat = n at *
  have small : b.toNat % 2 ^ 63 < 2047 * 2 ^ 52 := by
    rw [cut]
    split_ifs at h <;> omega
  rw [rank_ofBits small, cut]
  refine ⟨?_, ?_, ?_⟩ <;> split_ifs <;> omega

theorem magnitude_sub_mod (n : ℕ) : magnitude (n - n % 2 ^ 32) ≤ magnitude n ∧
    magnitude n ≤ magnitude (n - n % 2 ^ 32) + (magnitude n / 2 ^ 20 + tiny) := by
  refine ⟨strictMono_magnitude.monotone (Nat.sub_le ..), ?_⟩
  obtain ⟨m, short, split, full⟩ := step_spec n
  generalize step n = k at split full
  have low : n % 2 ^ 32 = m % 2 ^ 32 := by omega
  have cut : n - n % 2 ^ 32 = k * 2 ^ 52 + (m - m % 2 ^ 32) := by omega
  have size : magnitude n = m * 2 ^ ((k : ℤ) - 1074) := by rw [split, magnitude_add short.le full]
  rw [cut, magnitude_add (by omega) (fun pos => by have := full pos; omega), size]
  have rest : ((m - m % 2 ^ 32 : ℕ) : ℝ) = m - (m % 2 ^ 32 : ℕ) := Nat.cast_sub (Nat.mod_le ..)
  have low : ((m % 2 ^ 32 : ℕ) : ℝ) ≤ 2 ^ 32 := by exact_mod_cast (Nat.mod_lt m (by norm_num)).le
  have scale : (0 : ℝ) < 2 ^ ((k : ℤ) - 1074) := by positivity
  have least : k = 0 → (2 : ℝ) ^ 32 * 2 ^ ((k : ℤ) - 1074) ≤ tiny := by
    rintro rfl
    rw [tiny, twoPow, ← zpow_natCast, ← zpow_add₀ two_ne_zero]
    exact zpow_le_zpow_right₀ one_le_two (by norm_num)
  rw [rest, sub_mul]
  generalize (2 : ℝ) ^ ((k : ℤ) - 1074) = u at scale least
  generalize ((m % 2 ^ 32 : ℕ) : ℝ) = a at low
  rcases Nat.eq_zero_or_pos k with zero | pos
  · have := (mul_le_mul_of_nonneg_right low scale.le).trans (least zero)
    have : (0 : ℝ) ≤ m * u / 2 ^ 20 := by positivity
    linarith
  · have large : (2 : ℝ) ^ 52 ≤ m := by exact_mod_cast full pos
    have share : a ≤ m / 2 ^ 20 := by
      refine low.trans ?_
      rw [le_div_iff₀ (by positivity), ← pow_add]
      exact large
    have := mul_le_mul_of_nonneg_right share scale.le
    have := tiny_pos
    linarith

/-- The upper half of the bits of a double is next to it, and has the same sign. -/
theorem abs_value_head_sub_le {x : Float} (h : IsFinite x) :
    |value (head x) - value x| ≤ |value x| / 2 ^ 20 + tiny := by
  obtain ⟨cut, up, down⟩ := rank_head h
  obtain ⟨below, above⟩ := magnitude_sub_mod (rank x).natAbs
  rw [← cut] at below above
  have same : |value (head x) - value x| =
      |magnitude (rank (head x)).natAbs - magnitude (rank x).natAbs| := by
    unfold value
    obtain ⟨n, nonneg | nonpos⟩ := (rank x).eq_nat_or_neg
    · obtain ⟨m, placed⟩ := Int.eq_ofNat_of_zero_le (up (by omega))
      rw [nonneg, placed, position_natCast, position_natCast, Int.natAbs_natCast, Int.natAbs_natCast]
    · obtain ⟨m, placed⟩ := Int.eq_ofNat_of_zero_le (neg_nonneg.mpr (down (by omega)))
      rw [nonpos, ← neg_neg (rank (head x)), placed, position_neg, position_neg, position_natCast,
        position_natCast, Int.natAbs_neg, Int.natAbs_neg, Int.natAbs_natCast, Int.natAbs_natCast,
        neg_sub_neg, abs_sub_comm]
  rw [same, value, abs_position, abs_sub_comm, abs_of_nonneg (by linarith)]
  linarith

theorem Near.head {x : Float} {r e f b : ℝ} (h : Near x r e) (bound : |r| ≤ b)
    (le : e + ((b + e) / 2 ^ 20 + tiny) ≤ f) : Near (head x) r f := by
  have size := h.abs_le bound
  have moved := abs_value_head_sub_le h.finite
  refine ⟨?_, ?_⟩
  · have := (rank_head h.finite).1
    have := h.finite
    rw [IsFinite] at this ⊢
    omega
  · have := abs_sub_le (value (Number.head x)) (value x) r
    have := h.error
    norm_num at moved le ⊢
    linarith

/-! ## Split reals -/

/-- A split real whose first part is next to a real, and whose second part is small. -/
structure Split.Near (p : Split) (r e d : ℝ) : Prop where
  high : Number.Near p.high r e
  low : Number.Near p.low 0 d

theorem Near.abs_add_le_of_small {a b : Float} {r d e q : ℝ} (ha : Near a r e) (hb : Near b 0 d)
    (bound : |r| ≤ q) : |value a + value b| ≤ q + e + d := by
  have := abs_add_le (value a) (value b)
  have := ha.abs_le bound
  have := hb.abs_le_of_small
  linarith

/-- What a double that is next to a sum leaves of the second summand. -/
theorem Near.left_of_sum {a b z : Float} {d g f : ℝ} (ha : IsFinite a) (hb : Near b 0 d)
    (hz : Near z (value a + value b) g) (le : g + (d + g) * 3e-15 + 3 * tiny ≤ f)
    (small : d + g ≤ 1e10) : Near (b - (z - a)) 0 f := by
  have := tiny_pos
  have := tiny_le
  have := hb.nonneg
  have := hz.nonneg
  have back := (hz.sub (f := g + (d + g) * 1e-15 + tiny) (b := d) (.self ha)
    (by rw [add_sub_cancel_left]; exact hb.abs_le_of_small) (by linarith) (by linarith)).congr
    (add_sub_cancel_left ..)
  have left := (Near.self hb.finite).sub_self (f := g + (d + g) * 3e-15 + 3 * tiny) back
    (by linarith) (by linarith)
  exact left.mono le

namespace Split
variable {a b : Float} {r d e q f l : ℝ} (ha : Number.Near a r e) (hb : Number.Near b 0 d)
  (bound : |r| ≤ q) (wide : 1e19 * tiny ≤ q + e + d) (small : q + e + d ≤ 1e9)
include ha hb bound wide small

/-- A sum split anew: its upper half, and what that leaves of the correction. -/
theorem near_ofSum (le : e + d + (q + e + d) * 1e-6 ≤ f) (le' : (q + e + d) * 1e-6 ≤ l) :
    (ofSum a b).Near r f l := by
  have := tiny_pos
  have := (abs_nonneg r).trans bound
  have := ha.nonneg
  have := hb.nonneg
  have sum := ha.abs_add_le_of_small hb bound
  have total := (Near.self ha.finite).add (f := (q + e + d) * 1.2e-15) (.self hb.finite) sum
    (by linarith) (by linarith)
  have high := total.head (f := (q + e + d) * 0.98e-6) sum (by linarith)
  refine ⟨(high.shift (d := e + d) ?_).mono (by linarith),
    hb.left_of_sum ha.finite high (by linarith) (by linarith)⟩
  have := abs_add_le (value a - r) (value b)
  rw [sub_add_eq_add_sub] at this
  linarith [ha.error, hb.abs_le_of_small]

/-- The sum of a double and a correction to it, and what it leaves of them. -/
theorem near_sum :
    Split.Near ⟨a + b, b - ((a + b) - a)⟩ r (e + d + (q + e + d) * 1e-14) ((q + e + d) * 1e-14) := by
  have := tiny_pos
  have := (abs_nonneg r).trans bound
  have := ha.nonneg
  have := hb.nonneg
  have sum := ha.abs_add_le_of_small hb bound
  have total := (Near.self ha.finite).add (f := (q + e + d) * 1.2e-15) (.self hb.finite) sum
    (by linarith) (by linarith)
  exact ⟨ha.add_small hb bound (by linarith) (by linarith),
    hb.left_of_sum ha.finite total (by linarith) (by linarith)⟩

end Split
end Depot.Number
