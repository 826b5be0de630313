import Depot.Proofs.Number.Order
/-!
# Doubles as reals

A double is the real that its bits stand for, and its order is that of the reals. An infinity
stands for the first power of two above the doubles, so it takes part in the order and in rounding.
-/
namespace Depot.Number
open Float.Model Float.Model.UnpackedFloat

/-! ## What bits stand for -/

/-- The exponent of the last place of the doubles with these bits, above the least exponent. -/
def step (n : ℕ) : ℕ := n / 2 ^ 52 - 1

/-- A power of two. -/
noncomputable def twoPow (e : ℤ) : ℝ := 2 ^ e

/-- What these bits stand for, the sign apart. -/
noncomputable def magnitude (n : ℕ) : ℝ := (n - step n * 2 ^ 52 : ℕ) * twoPow (step n - 1074)

theorem magnitude_add {m k : ℕ} (short : m ≤ 2 ^ 53) (full : 0 < k → 2 ^ 52 ≤ m) :
    magnitude (k * 2 ^ 52 + m) = m * 2 ^ ((k : ℤ) - 1074) := by
  rcases Nat.lt_or_eq_of_le short with short | rfl
  · have step : step (k * 2 ^ 52 + m) = k := by rw [step]; omega
    rw [magnitude, twoPow, step, Nat.add_sub_cancel_left]
  · have step : step (k * 2 ^ 52 + 2 ^ 53) = k + 1 := by rw [step]; omega
    have rest : k * 2 ^ 52 + 2 ^ 53 - (k + 1) * 2 ^ 52 = 2 ^ 52 := by omega
    have exponent : ((k + 1 : ℕ) : ℤ) - 1074 = ((k : ℤ) - 1074) + 1 := by omega
    rw [magnitude, twoPow, step, rest, exponent, zpow_add_one₀ two_ne_zero]
    push_cast
    ring

/-- The bits above the step are a mantissa: a full one, or the least step. -/
theorem step_spec (n : ℕ) : ∃ m < 2 ^ 53, n = step n * 2 ^ 52 + m ∧ (0 < step n → 2 ^ 52 ≤ m) :=
  ⟨n - step n * 2 ^ 52, by rw [step]; omega, by rw [step]; omega, by rw [step]; omega⟩

theorem magnitude_lt_succ (n : ℕ) : magnitude n < magnitude (n + 1) := by
  obtain ⟨m, short, split, full⟩ := step_spec n
  generalize step n = k at split full
  rw [split, add_assoc, magnitude_add (by omega) full, magnitude_add (by omega) (by omega)]
  gcongr
  omega

theorem strictMono_magnitude : StrictMono magnitude := strictMono_nat_of_lt_succ magnitude_lt_succ

@[simp] theorem magnitude_zero : magnitude 0 = 0 := by simp [magnitude]

theorem magnitude_nonneg (n : ℕ) : 0 ≤ magnitude n := by unfold magnitude twoPow; positivity

/-- The bits of infinity. -/
theorem magnitude_infinity : magnitude (2047 * 2 ^ 52) = 2 ^ 1024 := by
  have split : 2047 * 2 ^ 52 = 2046 * 2 ^ 52 + 2 ^ 52 := by norm_num
  have exponent : ((2046 : ℕ) : ℤ) - 1074 = (972 : ℕ) := rfl
  rw [split, magnitude_add (by norm_num) (by norm_num), exponent, zpow_natCast, Nat.cast_pow,
    Nat.cast_ofNat, ← pow_add]

/-- What a place among the doubles stands for. -/
noncomputable def position (r : ℤ) : ℝ := r.sign * magnitude r.natAbs

@[simp] theorem position_natCast (n : ℕ) : position n = magnitude n := by
  rcases Nat.eq_zero_or_pos n with rfl | pos
  · simp [position]
  · rw [position, Int.sign_eq_one_of_pos (by omega), Int.natAbs_natCast]
    simp

@[simp] theorem position_neg (r : ℤ) : position (-r) = -position r := by
  simp [position]

theorem strictMono_position : StrictMono position := by
  intro r s less
  rcases le_or_gt 0 r with hr | hr
  · lift r to ℕ using hr
    lift s to ℕ using by omega
    simpa using strictMono_magnitude (by omega)
  · obtain ⟨m, rfl⟩ : ∃ m : ℕ, r = -m := ⟨r.natAbs, by omega⟩
    rcases le_or_gt 0 s with hs | hs
    · lift s to ℕ using hs
      have positive : 0 < magnitude m := by simpa using strictMono_magnitude (show 0 < m by omega)
      have := magnitude_nonneg s
      simp only [position_neg, position_natCast]
      linarith
    · obtain ⟨n, rfl⟩ : ∃ n : ℕ, s = -n := ⟨s.natAbs, by omega⟩
      simpa using strictMono_magnitude (show n < m by omega)

@[simp] theorem position_zero : position 0 = 0 := by simp [position]

theorem abs_position (r : ℤ) : |position r| = magnitude r.natAbs := by
  obtain ⟨n, rfl | rfl⟩ := r.eq_nat_or_neg <;> simp [abs_of_nonneg (magnitude_nonneg n)]

/-! ## What doubles stand for -/

/-- What a double stands for. -/
noncomputable def value (x : Float) : ℝ := position (rank x)

theorem le_iff_value_le {x y : Float} (hx : x.isNaN = false) (hy : y.isNaN = false) :
    x ≤ y ↔ value x ≤ value y := by
  rw [le_iff_rank_le hx hy, value, value, strictMono_position.le_iff_le]

/-- Neither NaN nor an infinity. -/
def IsFinite (x : Float) : Prop := (rank x).natAbs < 2047 * 2 ^ 52

instance (x : Float) : Decidable (IsFinite x) := inferInstanceAs (Decidable (_ < _))

theorem isFinite_iff {x : Float} : IsFinite x ↔ |value x| < 2 ^ 1024 := by
  rw [value, abs_position, ← magnitude_infinity, strictMono_magnitude.lt_iff_lt, IsFinite]

theorem Digits.magnitude_eq {m n : ℕ} {e : ℤ} (h : Digits m e n) : magnitude n = m * 2 ^ e := by
  obtain ⟨place, least, -, short, full⟩ := h
  obtain ⟨k, rfl⟩ : ∃ k : ℕ, e = (k : ℤ) - 1074 := ⟨(e + 1074).toNat, by omega⟩
  have split : n = k * 2 ^ 52 + m := by omega
  rw [split, magnitude_add (by omega) (by omega)]

/-- A real with a sign. -/
def withSign (s : Sign) (r : ℝ) : ℝ := s.apply 1 * r

@[simp] theorem withSign_positive (r : ℝ) : withSign .positive r = r := by simp [withSign, Sign.apply]

@[simp] theorem withSign_negative (r : ℝ) : withSign .negative r = -r := by simp [withSign, Sign.apply]

theorem withSign_neg (s : Sign) (r : ℝ) : withSign (-s) r = -withSign s r := by
  cases s with
  | negative => exact (withSign_positive r).trans (by simp)
  | positive => exact (withSign_negative r).trans (by simp)

theorem withSign_mul (s t : Sign) (a b : ℝ) : withSign (s * t) (a * b) = withSign s a * withSign t b := by
  cases s <;> cases t
  · exact (withSign_positive _).trans (by simp)
  · exact (withSign_negative _).trans (by simp)
  · exact (withSign_negative _).trans (by simp)
  · exact (withSign_positive _).trans (by simp)

theorem withSign_div (s t : Sign) (a b : ℝ) : withSign (s / t) (a / b) = withSign s a / withSign t b := by
  cases s <;> cases t
  · exact (withSign_positive _).trans (by simp [neg_div_neg_eq])
  · exact (withSign_negative _).trans (by simp [neg_div])
  · exact (withSign_negative _).trans (by simp [div_neg])
  · exact (withSign_positive _).trans (by simp)

@[simp] theorem natAbs_apply (s : Sign) (n : ℕ) : (s.apply n).natAbs = n := by
  cases s <;> simp [Sign.apply]

theorem position_apply (s : Sign) (n : ℕ) : position (s.apply n) = withSign s (magnitude n) := by
  cases s <;> simp [Sign.apply]

/-- A double has the place of what it is unpacked to. -/
theorem exists_stands (x : Float) : ∃ s n, Stands x.toModel.unpack s n ∧ rank x = s.apply n := by
  have stands := stands_unpack x.toModel.toBits.toBitVec
  have place := apply_size x.toBits.toNat x.toBits.toNat_lt
  exact ⟨_, _, stands, place.symm⟩

/-- NaN lies beyond the infinities. -/
theorem isNaN_eq_false_iff {x : Float} : x.isNaN = false ↔ (rank x).natAbs ≤ 2047 * 2 ^ 52 := by
  obtain ⟨s, n, stands, placed⟩ := exists_stands x
  have read : x.isNaN = x.toModel.unpack.isNaN := rfl
  rw [read, placed, natAbs_apply]
  generalize x.toModel.unpack = u at stands
  cases stands with
  | infinity | zero => simp [UnpackedFloat.isNaN]
  | nan s beyond => simpa [UnpackedFloat.isNaN] using beyond
  | finite s digits pos => simpa [UnpackedFloat.isNaN] using (digits.bounds pos).2.le

theorem isFinite_eq_true_iff {x : Float} : x.isFinite = true ↔ IsFinite x := by
  obtain ⟨s, n, stands, placed⟩ := exists_stands x
  have read : x.isFinite = x.toModel.unpack.isFinite := rfl
  rw [read, IsFinite, placed, natAbs_apply]
  generalize x.toModel.unpack = u at stands
  cases stands with
  | infinity | zero => simp [UnpackedFloat.isFinite]
  | nan s beyond => simpa [UnpackedFloat.isFinite] using beyond.le
  | finite s digits pos => simpa [UnpackedFloat.isFinite] using (digits.bounds pos).2

theorem isInf_eq_true_iff {x : Float} : x.isInf = true ↔ (rank x).natAbs = 2047 * 2 ^ 52 := by
  obtain ⟨s, n, stands, placed⟩ := exists_stands x
  have read : x.isInf = x.toModel.unpack.isInf := rfl
  rw [read, placed, natAbs_apply]
  generalize x.toModel.unpack = u at stands
  cases stands with
  | infinity | zero => simp [UnpackedFloat.isInf]
  | nan s beyond => simpa [UnpackedFloat.isInf] using beyond.ne'
  | finite s digits pos => simpa [UnpackedFloat.isInf] using (digits.bounds pos).2.ne

theorem IsFinite.isNaN_eq_false {x : Float} (h : IsFinite x) : x.isNaN = false :=
  isNaN_eq_false_iff.mpr h.le

/-- A double has the place of what it is read as. -/
theorem rank_of_exact {x : Float} {negative : Bool} {m : ℕ} {e : ℤ}
    (h : exact x = .finite negative m e) :
    ∃ n : ℕ, Digits m e n ∧ rank x = if negative then -(n : ℤ) else n := by
  have digits := natAbs_rank x
  rw [h] at digits
  refine ⟨_, digits, ?_⟩
  have within : x.toBits.toNat < 2 ^ 64 := x.toBits.toNat_lt
  unfold exact at h
  dsimp only at h
  split_ifs at h
  all_goals
    obtain ⟨sign, -, -⟩ := Exact.finite.inj h
    rw [← sign]
    unfold rank
    simp only [beq_iff_eq, Nat.pow_eq]
    split_ifs <;> omega

theorem isFinite_of_exact {x : Float} {negative : Bool} {m : ℕ} {e : ℤ}
    (h : exact x = .finite negative m e) : IsFinite x := by
  obtain ⟨n, ⟨place, -, greatest, short, -⟩, placed⟩ := rank_of_exact h
  rw [IsFinite, placed]
  split_ifs <;> omega

theorem exists_exact {x : Float} (h : IsFinite x) : ∃ negative m e, exact x = .finite negative m e := by
  have digits := natAbs_rank x
  cases read : exact x with
  | finite negative m e => exact ⟨_, _, _, rfl⟩
  | _ =>
    rw [read] at digits
    exact absurd h (Nat.not_lt.mpr digits)

theorem value_of_exact {x : Float} {negative : Bool} {m : ℕ} {e : ℤ}
    (h : exact x = .finite negative m e) : value x = (if negative then -1 else 1) * (m * 2 ^ e) := by
  obtain ⟨n, digits, placed⟩ := rank_of_exact h
  rw [value, placed, ← digits.magnitude_eq]
  cases negative <;> simp

theorem isFinite_of_isIntegral {x : Float} (h : isIntegral x = true) : IsFinite x := by
  unfold isIntegral at h
  split at h
  case h_1 read => exact isFinite_of_exact read
  case h_2 => cases h

theorem value_zero : value 0.0 = 0 := by
  have read : exact 0.0 = .finite false 0 (-1074) := by decide +kernel
  rw [value_of_exact read]
  simp

theorem value_one : value 1.0 = 1 := by
  have read : exact 1.0 = .finite false (2 ^ 52) (-52) := by decide +kernel
  rw [value_of_exact read]
  norm_num

theorem nonneg_iff {x : Float} (h : x.isNaN = false) : 0.0 ≤ x ↔ 0 ≤ value x := by
  rw [le_iff_value_le (by decide +kernel) h, value_zero]

theorem isFinite_of_le {x y : Float} (hy : IsFinite y) (nonneg : 0 ≤ value x)
    (le : value x ≤ value y) : IsFinite x := by
  rw [isFinite_iff] at hy ⊢
  rw [abs_of_nonneg nonneg]
  exact le.trans_lt ((le_abs_self _).trans_lt hy)

/-- A number that is not negative is finite or infinity. -/
theorem isFinite_or_infinite {x : Float} (h : x.isNaN = false) (nonneg : 0 ≤ value x) :
    IsFinite x ∨ rank x = (2047 * 2 ^ 52 : ℕ) := by
  have := isNaN_eq_false_iff.mp h
  have positive : 0 ≤ rank x := by
    rw [← strictMono_position.le_iff_le, position_zero]
    exact nonneg
  rw [IsFinite]
  omega

end Depot.Number
