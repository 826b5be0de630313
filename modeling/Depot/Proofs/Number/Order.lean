import Depot.Proofs.Number.Rank
/-!
# The order of doubles

Numbers are ordered like their ranks; NaN is neither above nor below anything.
-/
namespace Depot.Number
open Float.Model Float.Model.UnpackedFloat

theorem compare_swap (u v : UnpackedFloat) :
    v.compare u = (u.compare v).map Ordering.swap := by
  cases u with
  | notANumber => cases v <;> rfl
  | infinity s => cases v with
    | infinity t => cases s <;> cases t <;> rfl
    | _ => cases s <;> rfl
  | zero s => cases v with
    | zero t => rfl
    | notANumber => rfl
    | infinity t | finite t => cases t <;> rfl
  | finite s m e => cases v with
    | notANumber => cases s <;> rfl
    | infinity t => cases s <;> cases t <;> rfl
    | zero t => cases s <;> rfl
    | finite t n d =>
      have swapped : (compare d e).then (compare n m) = ((compare e d).then (compare m n)).swap := by
        rw [Ordering.swap_then, Int.compare_swap, Nat.compare_swap]
      cases s <;> cases t <;> simp [UnpackedFloat.compare, swapped]

theorem le_iff_compare {x y : Float} : x ≤ y ↔
    ∃ o, x.toModel.unpack.compare y.toModel.unpack = some o ∧ o.isLE = true := by
  have unfolded : x ≤ y ↔ x.toModel.unpack.le y.toModel.unpack = true :=
    ⟨fun h => of_decide_eq_true h, fun h => decide_eq_true h⟩
  rw [unfolded, UnpackedFloat.le, Option.any_eq_true]

/-- Only numbers are compared. -/
theorem isSome_compare_iff (u v : UnpackedFloat) :
    (u.compare v).isSome = true ↔ u.isNaN = false ∧ v.isNaN = false := by
  cases u with
  | notANumber => simp [UnpackedFloat.compare, UnpackedFloat.isNaN]
  | infinity s | zero s | finite s =>
    cases v with
    | notANumber => simp [UnpackedFloat.compare, UnpackedFloat.isNaN]
    | infinity t | zero t | finite t =>
      cases s <;> cases t <;> simp [UnpackedFloat.compare, UnpackedFloat.isNaN]

theorem isNaN_of_le {x y : Float} (h : x ≤ y) : x.isNaN = false ∧ y.isNaN = false := by
  obtain ⟨o, compared, -⟩ := le_iff_compare.mp h
  exact (isSome_compare_iff _ _).mp (by rw [compared]; rfl)

theorem lt_iff_compare {x y : Float} :
    x < y ↔ x.toModel.unpack.compare y.toModel.unpack = some .lt := by
  have unfolded : x < y ↔ (x.toModel.unpack.compare y.toModel.unpack == some .lt) = true :=
    ⟨fun h => of_decide_eq_true h, fun h => decide_eq_true h⟩
  rw [unfolded, beq_iff_eq]

theorem isNaN_of_lt {x y : Float} (h : x < y) : x.isNaN = false ∧ y.isNaN = false :=
  (isSome_compare_iff _ _).mp (by rw [lt_iff_compare.mp h]; rfl)

theorem le_iff_rank_le {x y : Float} (hx : x.isNaN = false) (hy : y.isNaN = false) :
    x ≤ y ↔ rank x ≤ rank y := by
  obtain ⟨o, compared⟩ := Option.isSome_iff_exists.mp ((isSome_compare_iff _ _).mpr ⟨hx, hy⟩)
  rw [le_iff_compare, compared]
  cases o with
  | lt => simp [(rank_lt_rank (lt_iff_compare.mpr compared)).le]
  | eq =>
    have same : (x.toModel.unpack.compare y.toModel.unpack == some .eq) = true :=
      beq_iff_eq.mpr compared
    have same : (x == y) = true := same
    simp [(rank_eq_of_beq same).le]
  | gt =>
    have less := compare_swap x.toModel.unpack y.toModel.unpack
    rw [compared] at less
    simp [rank_lt_rank (lt_iff_compare.mpr less)]

protected theorem le_trans {x y z : Float} (hxy : x ≤ y) (hyz : y ≤ z) : x ≤ z := by
  obtain ⟨hx, hy⟩ := isNaN_of_le hxy
  obtain ⟨-, hz⟩ := isNaN_of_le hyz
  rw [le_iff_rank_le hx hy] at hxy
  rw [le_iff_rank_le hy hz] at hyz
  exact (le_iff_rank_le hx hz).mpr (hxy.trans hyz)

theorem lt_iff_rank_lt {x y : Float} (hx : x.isNaN = false) (hy : y.isNaN = false) :
    x < y ↔ rank x < rank y := by
  refine ⟨rank_lt_rank, fun less => ?_⟩
  obtain ⟨o, compared⟩ := Option.isSome_iff_exists.mp ((isSome_compare_iff _ _).mpr ⟨hx, hy⟩)
  cases o with
  | lt => exact lt_iff_compare.mpr compared
  | eq =>
    have same : (x.toModel.unpack.compare y.toModel.unpack == some .eq) = true := by rw [compared]; rfl
    have same : (x == y) = true := same
    exact absurd (rank_eq_of_beq same) less.ne
  | gt =>
    have swapped := compare_swap x.toModel.unpack y.toModel.unpack
    rw [compared] at swapped
    exact absurd (rank_lt_rank (lt_iff_compare.mpr swapped)) (by omega)

protected theorem lt_of_lt_of_le {x y z : Float} (hxy : x < y) (hyz : y ≤ z) : x < z := by
  obtain ⟨hx, hy⟩ := isNaN_of_lt hxy
  obtain ⟨-, hz⟩ := isNaN_of_le hyz
  have less := rank_lt_rank hxy
  rw [le_iff_rank_le hy hz] at hyz
  exact (lt_iff_rank_lt hx hz).mpr (less.trans_le hyz)

protected theorem le_of_lt {x y : Float} (h : x < y) : x ≤ y := by
  obtain ⟨hx, hy⟩ := isNaN_of_lt h
  exact (le_iff_rank_le hx hy).mpr (rank_lt_rank h).le

end Depot.Number
