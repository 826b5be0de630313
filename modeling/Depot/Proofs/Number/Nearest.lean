import Depot.Proofs.Number.Value
/-!
# The nearest double

Reals are rounded to the nearest double, ties to the even mantissa. Rounding keeps the order of
the reals and leaves doubles as they are, and it moves a real by half a unit of its last place at
most. From half a unit below the first power of two above the doubles on, it gives infinity.
-/
namespace Depot.Number

/-! ## Natural numbers -/

/-- The natural number that is nearest; a half goes to the even neighbour. -/
noncomputable def roundEven (q : ℝ) : ℕ :=
  if q - ⌊q⌋₊ < ⌊q⌋₊ + 1 - q then ⌊q⌋₊
  else if ⌊q⌋₊ + 1 - q < q - ⌊q⌋₊ then ⌊q⌋₊ + 1
  else ⌊q⌋₊ + ⌊q⌋₊ % 2

@[simp] theorem roundEven_natCast (n : ℕ) : roundEven n = n := by simp [roundEven]

theorem floor_le_roundEven (q : ℝ) : ⌊q⌋₊ ≤ roundEven q := by
  rw [roundEven]
  split_ifs <;> omega

theorem roundEven_le_floor_add_one (q : ℝ) : roundEven q ≤ ⌊q⌋₊ + 1 := by
  rw [roundEven]
  split_ifs <;> omega

theorem roundEven_mono {q r : ℝ} (h : q ≤ r) : roundEven q ≤ roundEven r := by
  rcases (Nat.floor_mono h).lt_or_eq with below | same
  · exact (roundEven_le_floor_add_one q).trans ((Nat.succ_le_of_lt below).trans (floor_le_roundEven r))
  · unfold roundEven
    rw [same]
    split_ifs <;> first | omega | linarith

theorem abs_roundEven_sub_le {q : ℝ} (h : 0 ≤ q) : |roundEven q - q| ≤ 1 / 2 := by
  have below := Nat.floor_le h
  have above := Nat.lt_floor_add_one q
  have parity : ⌊q⌋₊ % 2 = 0 ∨ ⌊q⌋₊ % 2 = 1 := by omega
  rw [abs_le, roundEven]
  split_ifs
  · constructor <;> linarith
  · push_cast
    constructor <;> linarith
  · rcases parity with even | odd
    · rw [even, Nat.add_zero]
      constructor <;> linarith
    · rw [odd]
      push_cast
      constructor <;> linarith

/-! ## Units in the last place -/

/-- The exponent of the last place of the doubles around a real, above the least exponent. -/
noncomputable def stepOf (r : ℝ) : ℕ := sInf {k : ℕ | r < twoPow (k - 1021)}

theorem lt_stepOf (r : ℝ) : r < 2 ^ ((stepOf r : ℤ) - 1021) := by
  have bounded : {k : ℕ | r < 2 ^ ((k : ℤ) - 1021)}.Nonempty := by
    obtain ⟨k, above⟩ := pow_unbounded_of_one_lt r (one_lt_two : (1 : ℝ) < 2)
    have exponent : (k : ℤ) = (k + 1021 : ℕ) - 1021 := by omega
    rw [← zpow_natCast, exponent] at above
    exact ⟨k + 1021, above⟩
  exact Nat.sInf_mem bounded

theorem stepOf_le {r : ℝ} {k : ℕ} (h : r < 2 ^ ((k : ℤ) - 1021)) : stepOf r ≤ k := Nat.sInf_le h

theorem le_of_stepOf_pos {r : ℝ} (h : 0 < stepOf r) : 2 ^ ((stepOf r : ℤ) - 1022) ≤ r := by
  by_contra below
  have exponent : (stepOf r : ℤ) - 1022 = (stepOf r - 1 : ℕ) - 1021 := by omega
  have := stepOf_le (exponent ▸ not_le.mp below)
  omega

theorem stepOf_mono {r s : ℝ} (h : r ≤ s) : stepOf r ≤ stepOf s := stepOf_le (h.trans_lt (lt_stepOf s))

theorem stepOf_eq {r : ℝ} {k : ℕ} (lt : r < 2 ^ ((k : ℤ) - 1021))
    (le : 0 < k → 2 ^ ((k : ℤ) - 1022) ≤ r) : stepOf r = k := by
  refine le_antisymm (stepOf_le lt) ?_
  by_contra below
  have less := (le (by omega)).trans_lt (lt_stepOf r)
  have := (zpow_lt_zpow_iff_right₀ (one_lt_two : (1 : ℝ) < 2)).mp less
  omega

/-- One in the last place of the doubles around a real. -/
noncomputable def unit (r : ℝ) : ℝ := twoPow (stepOf r - 1074)

theorem unit_eq (r : ℝ) : unit r = 2 ^ ((stepOf r : ℤ) - 1074) := rfl

theorem unit_pos (r : ℝ) : 0 < unit r := by rw [unit_eq]; positivity

theorem two_pow_mul_unit (r : ℝ) (n : ℕ) : 2 ^ n * unit r = 2 ^ ((n : ℤ) + stepOf r - 1074) := by
  rw [unit_eq, ← zpow_natCast, ← zpow_add₀ two_ne_zero]
  congr 1
  omega

theorem div_unit_lt (r : ℝ) : r / unit r < 2 ^ 53 := by
  rw [div_lt_iff₀ (unit_pos r), two_pow_mul_unit]
  refine (lt_stepOf r).trans_eq ?_
  congr 1
  omega

theorem le_div_unit {r : ℝ} (h : 0 < stepOf r) : 2 ^ 52 ≤ r / unit r := by
  rw [le_div_iff₀ (unit_pos r), two_pow_mul_unit]
  refine Eq.trans_le ?_ (le_of_stepOf_pos h)
  congr 1
  omega

/-! ## Rounding -/

/-- The mantissa of a rounded real. -/
noncomputable def mantissa (r : ℝ) : ℕ := roundEven (r / unit r)

theorem mantissa_le (r : ℝ) : mantissa r ≤ 2 ^ 53 := by
  have := roundEven_mono (div_unit_lt r).le
  rwa [show (2 : ℝ) ^ 53 = (2 ^ 53 : ℕ) by norm_num, roundEven_natCast] at this

theorem le_mantissa {r : ℝ} (h : 0 < stepOf r) : 2 ^ 52 ≤ mantissa r := by
  have := roundEven_mono (le_div_unit h)
  rwa [show (2 : ℝ) ^ 52 = (2 ^ 52 : ℕ) by norm_num, roundEven_natCast] at this

/-- The bits of the double that is nearest to a real that is not negative. -/
noncomputable def bits (r : ℝ) : ℕ := min (stepOf r * 2 ^ 52 + mantissa r) (2047 * 2 ^ 52)

theorem bits_mono {r s : ℝ} (h : r ≤ s) : bits r ≤ bits s := by
  have ordered : stepOf r * 2 ^ 52 + mantissa r ≤ stepOf s * 2 ^ 52 + mantissa s := by
    rcases (stepOf_mono h).lt_or_eq with below | same
    · have := mantissa_le r
      have := le_mantissa (Nat.zero_lt_of_lt below)
      omega
    · have scaled : r / unit r ≤ s / unit s := by
        rw [unit_eq, unit_eq, same]
        gcongr
      have : mantissa r ≤ mantissa s := roundEven_mono scaled
      omega
  exact min_le_min_right _ ordered

theorem bits_magnitude {n : ℕ} (h : n ≤ 2047 * 2 ^ 52) : bits (magnitude n) = n := by
  obtain ⟨m, short, split, full⟩ := step_spec n
  generalize step n = k at split full
  have size : magnitude n = m * 2 ^ ((k : ℤ) - 1074) := by
    rw [split, magnitude_add short.le full]
  have step : stepOf (magnitude n) = k := by
    refine stepOf_eq ?_ fun pos => ?_
    · have exponent : (k : ℤ) - 1021 = (53 : ℕ) + ((k : ℤ) - 1074) := by omega
      rw [size, exponent, zpow_add₀ two_ne_zero, zpow_natCast]
      gcongr
      exact_mod_cast short
    · have exponent : (k : ℤ) - 1022 = (52 : ℕ) + ((k : ℤ) - 1074) := by omega
      rw [size, exponent, zpow_add₀ two_ne_zero, zpow_natCast]
      gcongr
      exact_mod_cast full pos
  have digits : mantissa (magnitude n) = m := by
    rw [mantissa, unit_eq, step, size, mul_div_cancel_right₀ _ (by positivity), roundEven_natCast]
  rw [bits, step, digits, ← split, min_eq_left h]

theorem bits_of_nonpos {r : ℝ} (h : r ≤ 0) : bits r = 0 := by
  have least := bits_mono h
  rw [← magnitude_zero, bits_magnitude (Nat.zero_le _)] at least
  omega

/-- Below the last power of two, a real is moved by half a unit at most. -/
theorem abs_magnitude_bits_sub_le {r : ℝ} (nonneg : 0 ≤ r) (h : r ≤ 2 ^ 1023) :
    |magnitude (bits r) - r| ≤ unit r / 2 := by
  have small : stepOf r ≤ 2045 := by
    refine stepOf_le (h.trans_lt ?_)
    rw [show ((2045 : ℕ) : ℤ) - 1021 = (1024 : ℕ) from rfl, zpow_natCast]
    exact pow_lt_pow_right₀ one_lt_two (by norm_num)
  have short := mantissa_le r
  have within : bits r = stepOf r * 2 ^ 52 + mantissa r := min_eq_left (by omega)
  have scaled := abs_roundEven_sub_le (div_nonneg nonneg (unit_pos r).le)
  rw [within, magnitude_add short le_mantissa, ← unit_eq, mantissa]
  calc |roundEven (r / unit r) * unit r - r|
      = |roundEven (r / unit r) - r / unit r| * unit r := by
        rw [← abs_of_pos (unit_pos r), ← abs_mul, abs_of_pos (unit_pos r), sub_mul,
          div_mul_cancel₀ _ (unit_pos r).ne']
    _ ≤ 1 / 2 * unit r := by gcongr; exact (unit_pos r).le
    _ = unit r / 2 := by ring

theorem unit_le {r : ℝ} (h : 0 ≤ r) : unit r ≤ r / 2 ^ 52 + 2 ^ (-1074 : ℤ) := by
  rcases Nat.eq_zero_or_pos (stepOf r) with zero | pos
  · have unit : unit r = 2 ^ (-1074 : ℤ) := by
      rw [unit_eq, zero]
      norm_num
    rw [unit]
    exact le_add_of_nonneg_left (by positivity)
  · have full := (le_div_iff₀ (unit_pos r)).mp (le_div_unit pos)
    have small : unit r ≤ r / 2 ^ 52 := by
      rw [le_div_iff₀ (by positivity)]
      linarith
    exact small.trans (le_add_of_nonneg_right (by positivity))

/-- The place among the doubles that is nearest to a real. -/
noncomputable def place (r : ℝ) : ℤ := bits r - bits (-r)

theorem place_of_nonneg {r : ℝ} (h : 0 ≤ r) : place r = bits r := by
  rw [place, bits_of_nonpos (neg_nonpos.mpr h)]
  simp

@[simp] theorem place_neg (r : ℝ) : place (-r) = -place r := by
  rw [place, place, neg_neg, neg_sub]

@[simp] theorem place_zero : place 0 = 0 := by rw [place, neg_zero, sub_self]

theorem place_mono {r s : ℝ} (h : r ≤ s) : place r ≤ place s := by
  have := bits_mono h
  have := bits_mono (neg_le_neg h)
  rw [place, place]
  omega

theorem natAbs_place_le (r : ℝ) : (place r).natAbs ≤ 2047 * 2 ^ 52 := by
  have bounded (s : ℝ) : bits s ≤ 2047 * 2 ^ 52 := min_le_right ..
  have := bounded r
  have := bounded (-r)
  rw [place]
  omega

/-- The double that is nearest to a real, as a real. -/
noncomputable def nearest (r : ℝ) : ℝ := position (place r)

@[simp] theorem nearest_neg (r : ℝ) : nearest (-r) = -nearest r := by simp [nearest]

theorem nearest_mono {r s : ℝ} (h : r ≤ s) : nearest r ≤ nearest s :=
  strictMono_position.monotone (place_mono h)

theorem place_position {n : ℤ} (h : n.natAbs ≤ 2047 * 2 ^ 52) : place (position n) = n := by
  obtain ⟨k, rfl | rfl⟩ := n.eq_nat_or_neg
  · rw [position_natCast, place_of_nonneg (magnitude_nonneg k), bits_magnitude (by simpa using h)]
  · rw [position_neg, position_natCast, place_neg, place_of_nonneg (magnitude_nonneg k),
      bits_magnitude (by simpa using h)]

theorem place_value {x : Float} (h : x.isNaN = false) : place (value x) = rank x :=
  place_position (isNaN_eq_false_iff.mp h)

/-- A real that is too large for a double. -/
theorem place_of_large {r : ℝ} (h : 2 ^ 1024 ≤ r) : place r = (2047 * 2 ^ 52 : ℕ) := by
  have top : place (2 ^ 1024) = (2047 * 2 ^ 52 : ℕ) := by
    rw [← magnitude_infinity, ← position_natCast, place_position (by norm_num)]
  refine le_antisymm ?_ (top ▸ place_mono h)
  have := natAbs_place_le r
  omega

theorem nearest_value {x : Float} (h : x.isNaN = false) : nearest (value x) = value x := by
  rw [nearest, place_value h, value]

theorem nearest_zero : nearest 0 = 0 := by rw [nearest, place_zero, position_zero]

theorem nearest_nonneg {r : ℝ} (h : 0 ≤ r) : 0 ≤ nearest r := nearest_zero ▸ nearest_mono h

theorem abs_nearest_sub_le {r : ℝ} (h : |r| ≤ 2 ^ 1023) :
    |nearest r - r| ≤ |r| / 2 ^ 53 + 2 ^ (-1075 : ℤ) := by
  wlog nonneg : 0 ≤ r generalizing r with positive
  · have := positive (r := -r) (by rwa [abs_neg]) (by linarith)
    rwa [nearest_neg, abs_neg, neg_sub_neg, abs_sub_comm] at this
  rw [abs_of_nonneg nonneg] at h ⊢
  have moved := abs_magnitude_bits_sub_le nonneg h
  have small := unit_le nonneg
  have half : (2 : ℝ) ^ (-1074 : ℤ) = 2 * 2 ^ (-1075 : ℤ) := by
    rw [← zpow_one_add₀ two_ne_zero]
    norm_num
  rw [nearest, place_of_nonneg nonneg, position_natCast]
  refine moved.trans ?_
  rw [half] at small
  linarith

end Depot.Number
