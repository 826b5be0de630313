import Depot.Proofs.Number.Rank
/-!
# Decimal numerals

The double nearest to a decimal numeral is a number: it may be infinite, but it is never NaN.
-/
namespace Depot.Number
open Float.Model Float.Model.UnpackedFloat

section Unpacking
variable {b : BitVec Format.binary64.numBits}

theorem isNaN_unpack_of_exponent (h : unpackExponent b ≠ -1#_) :
    (UnpackedFloat.unpack Format.binary64 b).isNaN = false := by
  unfold UnpackedFloat.unpack
  simp only [h, if_false]
  split
  · split <;> rfl
  · rfl

theorem isNaN_unpack_of_mantissa (h : unpackMantissa b = 0#_) :
    (UnpackedFloat.unpack Format.binary64 b).isNaN = false := by
  unfold UnpackedFloat.unpack
  simp only [h, if_true]
  split
  · rfl
  · split <;> rfl

end Unpacking

/-- What is a number stays one when it is packed. -/
theorem isNaN_unpack_pack {u : UnpackedFloat} (h : u.isNaN = false) :
    (UnpackedFloat.unpack Format.binary64 (pack Format.binary64 u)).isNaN = false := by
  fun_cases pack Format.binary64 u with
  | case1 => cases h
  | case2 s => exact isNaN_unpack_of_mantissa (by simp [packedInfinity])
  | case3 s => exact isNaN_unpack_of_mantissa (by simp [packedZero])
  | case4 s m e pos biased large => exact isNaN_unpack_of_mantissa (by simp [packedInfinity])
  | case5 s m e pos bits biased small normal =>
    apply isNaN_unpack_of_exponent
    rw [unpackExponent_packComponents, ne_eq, ← BitVec.toNat_inj]
    simp at small ⊢
    omega
  | case6 s m e pos bits biased small subnormal =>
    apply isNaN_unpack_of_exponent
    rw [unpackExponent_packComponents]
    decide

theorem isNaN_neg {x : Float} (h : x.isNaN = false) : (-x).isNaN = false := by
  apply isNaN_unpack_pack
  have number : x.toModel.unpack.isNaN = false := h
  cases unpacked : x.toModel.unpack with
  | notANumber =>
    rw [unpacked] at number
    cases number
  | _ => rfl

theorem isNaN_ofBits {n : Nat} (h : n < 2047 * 2 ^ 52) :
    (Float.ofBits n.toUInt64).isNaN = false := by
  apply isNaN_unpack_pack
  apply isNaN_unpack_of_exponent
  rw [ne_eq, ← BitVec.toNat_inj, toNat_unpackExponent]
  simp
  omega

theorem isNaN_ofRatio (num den : Nat) : (ofRatio num den).isNaN = false := by
  unfold ofRatio
  split
  · decide +kernel
  · dsimp only
    split
    case isTrue => decide +kernel
    case isFalse finite => exact isNaN_ofBits (by simpa using finite)

theorem isNaN_ofDecimal (negative : Bool) (digits : Nat) (exponent : Int) :
    (ofDecimal negative digits exponent).isNaN = false := by
  have magnitude : (if digits = 0 ∨ (Nat.toDigits 10 digits).length + exponent < -330 then 0.0
      else if (Nat.toDigits 10 digits).length + exponent > 310 then 1.0 / 0.0
      else ofRatio (digits * Nat.pow 10 exponent.toNat) (Nat.pow 10 (-exponent).toNat)).isNaN =
      false := by
    split
    · decide +kernel
    · split
      · decide +kernel
      · exact isNaN_ofRatio ..
  unfold ofDecimal
  dsimp only
  split
  · exact isNaN_neg magnitude
  · exact magnitude

end Depot.Number
