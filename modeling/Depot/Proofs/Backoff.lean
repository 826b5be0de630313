import Depot.Proofs.Number.Power
import Depot.Proofs.Retry
import Depot.Proofs.Settings.Building
/-!
# Bounded delays

A delay grows from retry to retry up to the maximum, and the jitter is added to that. So the delays
of a policy keep to its maximum exactly if the last of them does for the greatest random number.
-/
namespace Depot

namespace Number
open Float.Model Float.Model.UnpackedFloat
variable {x y z : Float}

theorem isNaN_add (h : x.isNaN = true) : (x + y).isNaN = true := by
  have sum : x + y = .ofModel (.pack (UnpackedFloat.add Format.binary64 x.toModel.unpack
    y.toModel.unpack)) := rfl
  have read : x.toModel.unpack.isNaN = true := h
  rw [sum]
  generalize x.toModel.unpack = u at read
  generalize y.toModel.unpack = v
  have unknown : UnpackedFloat.add Format.binary64 u v = .notANumber := by
    cases u <;> simp [UnpackedFloat.isNaN] at read
    cases v <;> rfl
  rw [unknown]
  decide +kernel

theorem floor_of_isNaN (h : x.isNaN = true) : floor x = x := by
  unfold floor
  split
  case h_2 => rfl
  case h_1 read =>
    have := (isFinite_of_exact read).isNaN_eq_false
    exact absurd (h.symm.trans this) (by decide)

/-! ## Jitter -/

/-- A delay with its jitter, cut to an integer. -/
noncomputable def jittered (grown jitter draw : ℝ) : ℝ :=
  ⌊nearest (grown + nearest (nearest (grown * jitter) * draw))⌋₊

theorem jittered_mono {g g' j d d' : ℝ} (grown : 0 ≤ g) (jitter : 0 ≤ j) (draw : 0 ≤ d) (hg : g ≤ g')
    (hd : d ≤ d') : jittered g j d ≤ jittered g' j d' := by
  have share : nearest (g * j) ≤ nearest (g' * j) := nearest_mono (by gcongr)
  have share_nonneg : 0 ≤ nearest (g * j) := nearest_nonneg (mul_nonneg grown jitter)
  have part : nearest (nearest (g * j) * d) ≤ nearest (nearest (g' * j) * d') :=
    nearest_mono (mul_le_mul share hd draw (share_nonneg.trans share))
  unfold jittered
  exact_mod_cast Nat.floor_mono (nearest_mono (add_le_add hg part))

theorem jittered_nonneg (g j d : ℝ) : 0 ≤ jittered g j d := Nat.cast_nonneg _

/-- A finite delay with its jitter is a number, though it may be infinite. -/
theorem value_jittered (hx : IsFinite x) (hy : IsFinite y) (hz : IsFinite z) (grown : 0 ≤ value x)
    (jitter : 0 ≤ value y) (jitter_le : value y ≤ 1) (draw : 0 ≤ value z) (draw_le : value z ≤ 1) :
    (floor (x + x * y * z)).isNaN = false ∧
      value (floor (x + x * y * z)) = jittered (value x) (value y) (value z) := by
  have share : value (x * y) = nearest (value x * value y) := by rw [value, rank_mul hx hy, nearest]
  have share_nonneg : 0 ≤ value (x * y) := share ▸ nearest_nonneg (mul_nonneg grown jitter)
  have share_le : value (x * y) ≤ value x := by
    rw [share]
    exact (nearest_mono (mul_le_of_le_one_right grown jitter_le)).trans_eq
      (nearest_value hx.isNaN_eq_false)
  have finite : IsFinite (x * y) := isFinite_of_le hx share_nonneg share_le
  have part : value (x * y * z) = nearest (nearest (value x * value y) * value z) := by
    rw [value, rank_mul finite hz, nearest, share, nearest]
  have part_nonneg : 0 ≤ value (x * y * z) := by
    rw [part, ← share]
    exact nearest_nonneg (mul_nonneg share_nonneg draw)
  have part_le : value (x * y * z) ≤ value (x * y) := by
    rw [part, ← share]
    exact (nearest_mono (mul_le_of_le_one_right share_nonneg draw_le)).trans_eq
      (nearest_value finite.isNaN_eq_false)
  have finite' : IsFinite (x * y * z) := isFinite_of_le finite part_nonneg part_le
  have sum := rank_add hx finite'
  have number := isNaN_of_rank_eq_place sum
  have size : value (x + x * y * z) = nearest (value x + value (x * y * z)) := by
    rw [value, sum, nearest]
  have nonneg : 0 ≤ value (x + x * y * z) := size ▸ nearest_nonneg (add_nonneg grown part_nonneg)
  refine ⟨isNaN_floor number, ?_⟩
  rw [value_floor number nonneg, size, part, jittered]

end Number

namespace RetryPolicy
open Number
variable {p : RetryPolicy}

/-- The delay before retry number `n + 1`, without a maximum and jitter. -/
def uncapped (p : RetryPolicy) (n : ℕ) : Float :=
  p.initialBackoffMs * power p.backoffMultiplier (Float.ofNat n)

theorem delay_succ (p : RetryPolicy) {n : ℕ} (small : n ≤ 9) (draw : Float) :
    p.delay (Float.ofNat (n + 1)) draw =
      floor (minimum (p.uncapped n) p.maxBackoffMs +
        minimum (p.uncapped n) p.maxBackoffMs * p.jitterFactor * draw) := by
  have before : Float.ofNat (n + 1) - 1.0 = Float.ofNat n := by
    interval_cases n <;> decide +kernel
  rw [delay, before, uncapped]

/-- A random number: from zero, and less than one. -/
def IsDraw (draw : Float) : Prop := 0.0 ≤ draw ∧ draw < 1.0

/-- A number of milliseconds that is no longer than the maximum. -/
def IsWithinMaximum (p : RetryPolicy) (ms : Float) : Prop :=
  ms.isFinite = true ∧ 0.0 ≤ ms ∧ ms ≤ p.maxBackoffMs

/-- The delays of a policy with this many retries keep to the maximum, and with the same random number
none is shorter than the one before it. -/
structure IsBounded (p : RetryPolicy) (most : ℕ) : Prop where
  within : ∀ {k draw}, 1 ≤ k → k ≤ most → IsDraw draw → p.IsWithinMaximum (p.delay (Float.ofNat k) draw)
  grows : ∀ {k draw}, 1 ≤ k → k < most → IsDraw draw →
    p.delay (Float.ofNat k) draw ≤ p.delay (Float.ofNat (k + 1)) draw
  slept : ∀ {α : Type} {marked : α → Bool} {outcomes : ℕ → Outcome α} {draws : ℕ → Float}
    {budget : ℕ} {ms : Float}, (∀ n, IsDraw (draws n)) →
      .slept ms ∈ (Retry.execute p marked outcomes draws budget 0).events → p.IsWithinMaximum ms

/-- The greatest random number. -/
theorem IsDraw.value_le {draw : Float} (h : IsDraw draw) : value draw ≤ value 0.9999999999999999 := by
  have below := rank_lt_rank h.2
  have top : rank 1.0 = 4607182418800017408 := by decide +kernel
  have greatest : rank 0.9999999999999999 = 4607182418800017407 := by decide +kernel
  refine strictMono_position.monotone ?_
  omega

theorem IsDraw.value_nonneg {draw : Float} (h : IsDraw draw) : 0 ≤ value draw :=
  (nonneg_iff (isNaN_of_le h.1).2).mp h.1

theorem isDraw_greatest : IsDraw 0.9999999999999999 := ⟨by decide +kernel, by decide +kernel⟩

theorem value_greatest_le : value 0.9999999999999999 ≤ 1 := by
  rw [← value_one]
  exact strictMono_position.monotone (by decide +kernel)

theorem IsDraw.isFinite {draw : Float} (h : IsDraw draw) : IsFinite draw :=
  isFinite_of_le (y := 0.9999999999999999) (by decide +kernel) h.value_nonneg h.value_le

section Valid
variable (valid : p.IsValid)
include valid

theorem IsValid.value_initialBackoffMs : 0 ≤ value p.initialBackoffMs :=
  (nonneg_iff (isNaN_of_le valid.initialBackoffMs_nonneg).2).mp valid.initialBackoffMs_nonneg

theorem IsValid.value_maxBackoffMs : 0 ≤ value p.maxBackoffMs :=
  (nonneg_iff (isNaN_of_le valid.maxBackoffMs_nonneg).2).mp valid.maxBackoffMs_nonneg

theorem IsValid.value_jitterFactor : 0 ≤ value p.jitterFactor ∧ value p.jitterFactor ≤ 1 := by
  have number := (isNaN_of_le valid.jitterFactor_nonneg).2
  rw [← nonneg_iff number, ← value_one, ← le_iff_value_le number (by decide +kernel)]
  exact ⟨valid.jitterFactor_nonneg, valid.jitterFactor_le⟩

theorem IsValid.isFinite_jitterFactor : IsFinite p.jitterFactor := by
  obtain ⟨nonneg, le⟩ := valid.value_jitterFactor
  rw [← value_one] at le
  exact isFinite_of_le (by decide +kernel) nonneg le

/-- An earlier delay without a maximum is a number if a later one is, and it is no longer. -/
theorem IsValid.uncapped_mono {k n : ℕ} (le : k ≤ n) (small : n ≤ 9)
    (number : (p.uncapped n).isNaN = false) :
    (p.uncapped k).isNaN = false ∧ 0 ≤ value (p.uncapped k) ∧
      value (p.uncapped k) ≤ value (p.uncapped n) := by
  have one_le := valid.one_le_backoffMultiplier
  obtain ⟨number', nonneg, below⟩ := rank_mul_mono
    (isFinite_of_isIntegral valid.initialBackoffMs_integral) valid.value_initialBackoffMs
    (isNaN_power one_le (le.trans small)) (isNaN_power one_le small)
    (one_le_power one_le (le.trans small)) (power_mono one_le le small) number
  exact ⟨number', rank_nonneg_iff.mp nonneg, strictMono_position.monotone below⟩

/-- A delay is a number if there is one without a maximum. -/
theorem IsValid.value_delay {n : ℕ} (small : n ≤ 9) (number : (p.uncapped n).isNaN = false)
    {draw : Float} (h : IsDraw draw) :
    (p.delay (Float.ofNat (n + 1)) draw).isNaN = false ∧
      value (p.delay (Float.ofNat (n + 1)) draw) =
        jittered (min (value (p.uncapped n)) (value p.maxBackoffMs)) (value p.jitterFactor)
          (value draw) := by
  have finite := isFinite_of_isIntegral valid.maxBackoffMs_integral
  have nonneg := (valid.uncapped_mono le_rfl small number).2.1
  have capped := value_minimum number finite.isNaN_eq_false
  have grown_nonneg : 0 ≤ value (minimum (p.uncapped n) p.maxBackoffMs) := by
    rw [capped]
    exact le_min nonneg valid.value_maxBackoffMs
  have grown_le : value (minimum (p.uncapped n) p.maxBackoffMs) ≤ value p.maxBackoffMs := by
    rw [capped]
    exact min_le_right ..
  have grown_finite := isFinite_of_le finite grown_nonneg grown_le
  rw [delay_succ p small, ← capped]
  exact value_jittered grown_finite valid.isFinite_jitterFactor h.isFinite grown_nonneg
    valid.value_jitterFactor.1 valid.value_jitterFactor.2 h.value_nonneg
    (h.value_le.trans value_greatest_le)

end Valid

/-- There is no delay if there is none without a maximum. -/
theorem isNaN_uncapped {n : ℕ} (small : n ≤ 9) {draw : Float}
    (number : (p.delay (Float.ofNat (n + 1)) draw).isNaN = false) : (p.uncapped n).isNaN = false := by
  rw [← Bool.not_eq_true]
  intro unknown
  have grown : minimum (p.uncapped n) p.maxBackoffMs = p.uncapped n := by rw [minimum, if_pos unknown]
  have sum := isNaN_add (y := p.uncapped n * p.jitterFactor * draw) unknown
  rw [delay_succ p small, grown, floor_of_isNaN sum] at number
  exact absurd (sum.symm.trans number) (by decide)

/-- A valid policy allows up to ten retries. -/
theorem IsValid.exists_most (valid : p.IsValid) : ∃ most ≤ 10, natural? p.maxRetries = some most := by
  have number := (isNaN_of_le valid.maxRetries_nonneg).2
  have ten : value 10.0 = 10 := by
    have read : exact 10.0 = .finite false 5629499534213120 (-49) := by decide +kernel
    rw [value_of_exact read]
    norm_num
  obtain ⟨most, whole, size⟩ :=
    exists_natural? valid.maxRetries_integral ((nonneg_iff number).mp valid.maxRetries_nonneg)
  have le := valid.maxRetries_le
  rw [le_iff_value_le number (by decide +kernel), ten, size] at le
  exact ⟨most, by exact_mod_cast le, whole⟩

/-- No delay is longer than a later one for a random number that is no less. -/
theorem IsValid.delay_mono (valid : p.IsValid) {k n : ℕ} (le : k ≤ n) (small : n ≤ 9)
    (number : (p.uncapped n).isNaN = false) {draw draw' : Float} (h : IsDraw draw) (h' : IsDraw draw')
    (below : value draw ≤ value draw') :
    p.delay (Float.ofNat (k + 1)) draw ≤ p.delay (Float.ofNat (n + 1)) draw' := by
  obtain ⟨number', nonneg, grows⟩ := valid.uncapped_mono le small number
  obtain ⟨numeric, size⟩ := valid.value_delay (le.trans small) number' h
  obtain ⟨numeric', size'⟩ := valid.value_delay small number h'
  rw [le_iff_value_le numeric numeric', size, size']
  exact jittered_mono (le_min nonneg valid.value_maxBackoffMs) valid.value_jitterFactor.1
    h.value_nonneg (min_le_min_right _ grows) below

theorem IsValid.isWithinMaximum (valid : p.IsValid) {n : ℕ} (small : n ≤ 9)
    (number : (p.uncapped n).isNaN = false) {draw : Float} (h : IsDraw draw)
    (le : p.delay (Float.ofNat (n + 1)) draw ≤ p.maxBackoffMs) :
    p.IsWithinMaximum (p.delay (Float.ofNat (n + 1)) draw) := by
  obtain ⟨numeric, size⟩ := valid.value_delay small number h
  have nonneg : 0 ≤ value (p.delay (Float.ofNat (n + 1)) draw) := by
    rw [size]
    exact jittered_nonneg ..
  have finite := isFinite_of_isIntegral valid.maxBackoffMs_integral
  have below := (le_iff_value_le numeric finite.isNaN_eq_false).mp le
  exact ⟨isFinite_eq_true_iff.mpr (isFinite_of_le finite nonneg below),
    (nonneg_iff numeric).mpr nonneg, le⟩

/-- A valid policy has a whole number of retries. Its delays are finite, not negative and no longer than
its maximum, whatever the random numbers, and with the same random number no delay is shorter than the
one before it, exactly if the delay before the last retry is no longer than the maximum for the greatest
random number. -/
theorem isBounded_iff (valid : p.IsValid) : ∃ most, natural? p.maxRetries = some most ∧
    (p.IsBounded most ↔
      most = 0 ∨ p.delay (Float.ofNat most) 0.9999999999999999 ≤ p.maxBackoffMs) := by
  obtain ⟨most, small, whole⟩ := valid.exists_most
  have limit : p.limit? = some most := ceilNat?_of_natural? whole
  refine ⟨most, whole, fun bounded => ?_, fun condition => ?_⟩
  · rcases Nat.eq_zero_or_pos most with zero | pos
    · exact .inl zero
    · exact .inr (bounded.within pos le_rfl isDraw_greatest).2.2
  cases most with
  | zero =>
    refine ⟨fun _ _ => by omega, fun _ _ => by omega, fun _ slept => ?_⟩
    obtain ⟨n, before, -⟩ := Retry.exists_of_slept _ _ _ limit slept
    omega
  | succ n =>
    have last := condition.resolve_left n.succ_ne_zero
    have number := isNaN_uncapped (by omega) (isNaN_of_le last).1
    have within {k : ℕ} {draw : Float} (le : k ≤ n) (h : IsDraw draw) :
        p.IsWithinMaximum (p.delay (Float.ofNat (k + 1)) draw) := by
      have number' := (valid.uncapped_mono le (by omega) number).1
      have le_last := valid.delay_mono le (by omega) number h isDraw_greatest h.value_le
      exact valid.isWithinMaximum (by omega) number' h (Number.le_trans le_last last)
    refine ⟨fun {k draw} from_one le h => ?_, fun {k draw} from_one less h => ?_, ?_⟩
    · obtain ⟨k, rfl⟩ : ∃ j, k = j + 1 := ⟨k - 1, by omega⟩
      exact within (by omega) h
    · obtain ⟨k, rfl⟩ : ∃ j, k = j + 1 := ⟨k - 1, by omega⟩
      have number' := (valid.uncapped_mono (k := k + 1) (by omega) (by omega) number).1
      exact valid.delay_mono k.le_succ (by omega) number' h h le_rfl
    · intro α marked outcomes draws budget ms random slept
      obtain ⟨k, before, rfl⟩ := Retry.exists_of_slept _ _ _ limit slept
      exact within (by omega) (random k)

/-- One retry after a second, with jitter of up to half a second. -/
def oneSecond : RetryPolicy where
  maxRetries := 1.0
  initialBackoffMs := 1000.0
  maxBackoffMs := 1000.0
  backoffMultiplier := 2.0
  jitterFactor := 0.5

/-- A delay of 1450 ms where 1000 ms is the maximum. -/
theorem not_isBounded_oneSecond : oneSecond.IsValid ∧ natural? oneSecond.maxRetries = some 1 ∧
    IsDraw 0.9 ∧ oneSecond.delay 1.0 0.9 = 1450.0 ∧ ¬oneSecond.IsBounded 1 := by
  have valid : oneSecond.IsValid := by constructor <;> decide +kernel
  have draw : IsDraw 0.9 := ⟨by decide +kernel, by decide +kernel⟩
  have delayed : oneSecond.delay 1.0 0.9 = 1450.0 := by decide +kernel
  refine ⟨valid, by decide +kernel, draw, delayed, fun bounded => ?_⟩
  have first : Float.ofNat 1 = 1.0 := by decide +kernel
  have within := (bounded.within le_rfl le_rfl draw).2.2
  rw [first, delayed] at within
  have above : ¬(1450.0 : Float) ≤ oneSecond.maxBackoffMs := by decide +kernel
  exact above within

/-- Three retries, each after the double of the delay before, and without jitter. -/
def doubling : RetryPolicy where
  maxRetries := 3.0
  initialBackoffMs := 100.0
  maxBackoffMs := 1000.0
  backoffMultiplier := 2.0
  jitterFactor := 0.0

theorem isBounded_iff_doubling : doubling.IsValid ∧
    ∃ most, natural? doubling.maxRetries = some most ∧ doubling.IsBounded most := by
  have valid : doubling.IsValid := by constructor <;> decide +kernel
  obtain ⟨most, whole, bounded⟩ := isBounded_iff valid
  have three : natural? doubling.maxRetries = some 3 := by decide +kernel
  obtain rfl : 3 = most := Option.some.inj (three.symm.trans whole)
  exact ⟨valid, 3, three, bounded.mpr (.inr (by decide +kernel))⟩

end RetryPolicy
end Depot
