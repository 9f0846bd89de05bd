import FlowPriority.Proofs.Double.Arithmetic

/-!
Products of doubles.

The product of two doubles that are finite and not negative is the double nearest to the product of
the numbers they stand for. So it only grows with either of them.
-/

namespace FlowPriority

namespace Double

open Float.Model (UnpackedFloat Format)
open Float.Model.UnpackedFloat

theorem cast_mul_zpow (mantissa mantissa' : ℕ) (exponent exponent' : ℤ) :
    (mantissa * 2 ^ exponent : ℝ) * (mantissa' * 2 ^ exponent') =
      (mantissa * mantissa' : ℕ) * 2 ^ (exponent + exponent') := by
  rw [zpow_add₀ two_ne_zero]
  push_cast
  ring

section Product

variable {mantissa mantissa' : ℕ} {exponent exponent' : ℤ}

/-- All bits of the exact product lie on the grain around it or below. -/
theorem add_le_grain (positive : 0 < mantissa) (positive' : 0 < mantissa')
    (canonical : Canonical mantissa exponent) (canonical' : Canonical mantissa' exponent') :
    exponent + exponent' ≤ grain (mantissa * 2 ^ exponent * (mantissa' * 2 ^ exponent')) := by
  have product : 0 < mantissa * mantissa' := Nat.mul_pos positive positive'
  rw [cast_mul_zpow]
  have log := log_eq_of_floor product (floor_mul_zpow_div _ (exponent + exponent'))
  have grained := log_sub_le_grain
    (pos_of_floor product (floor_mul_zpow_div _ (exponent + exponent')))
  have bits (large : 2 ^ 52 ≤ mantissa * mantissa') : 52 ≤ (mantissa * mantissa').log2 :=
    (Nat.le_log2 (Nat.ne_of_gt product)).mpr large
  rcases canonical.full with least | full
  · rcases canonical'.full with least' | full'
    · have lowest := le_grain ((mantissa * mantissa' : ℕ) * 2 ^ (exponent + exponent') : ℝ)
      omega
    · have enough := bits (full'.trans (Nat.le_mul_of_pos_left _ positive))
      omega
  · have enough := bits (full.trans (Nat.le_mul_of_pos_right _ positive'))
    omega

theorem ordinal_mul_finite (positive : 0 < mantissa) (positive' : 0 < mantissa')
    (canonical : Canonical mantissa exponent) (canonical' : Canonical mantissa' exponent') :
    ordinal (.ofModel (.pack (UnpackedFloat.mul .binary64
        (.finite .positive mantissa exponent positive)
        (.finite .positive mantissa' exponent' positive')))) =
      ordinalOf (mantissa * 2 ^ exponent * (mantissa' * 2 ^ exponent')) := by
  apply ordinal_roundWithAccuracy _ (add_le_grain positive positive' canonical canonical')
  rw [ofMantissaAndAccuracy_exact, cast_mul_zpow,
    mul_div_cancel_right₀ _ (zpow_ne_zero _ two_ne_zero)]

end Product

theorem ordinal_mul {first second : Float} (finite : ordinal first < infinityOrdinal)
    (finite' : ordinal second < infinityOrdinal) :
    ordinal (first * second) = ordinalOf (value first * value second) := by
  change ordinal (.ofModel (.pack (UnpackedFloat.mul .binary64 first.toModel.unpack
    second.toModel.unpack))) = _
  by_cases zero : ordinal first = 0
  · rw [value, unpack_of_ordinal_eq_zero zero, zero_mul, ordinalOf_zero]
    by_cases zero' : ordinal second = 0
    · rw [unpack_of_ordinal_eq_zero zero']
      rfl
    · rw [unpack_of_ordinal zero' finite']
      rfl
  · by_cases zero' : ordinal second = 0
    · rw [value.eq_def second, unpack_of_ordinal_eq_zero zero', mul_zero, ordinalOf_zero,
        unpack_of_ordinal zero finite]
      rfl
    · rw [value_of_ordinal finite, value_of_ordinal finite', unpack_of_ordinal zero finite,
        unpack_of_ordinal zero' finite']
      exact ordinal_mul_finite _ _ (canonical_of_binade _) (canonical_of_binade _)

theorem ordinal_mul_mono {first second first' second' : Float}
    (more : ordinal first ≤ ordinal first') (more' : ordinal second ≤ ordinal second')
    (finite : ordinal first' < infinityOrdinal) (finite' : ordinal second' < infinityOrdinal) :
    ordinal (first * second) ≤ ordinal (first' * second') := by
  rw [ordinal_mul (more.trans_lt finite) (more'.trans_lt finite'), ordinal_mul finite finite']
  apply ordinalOf_mono
  have nonneg := value_nonneg (more'.trans_lt finite')
  have nonneg' := value_nonneg finite
  have above := value_mono more finite
  have above' := value_mono more' finite'
  gcongr

end Double

end FlowPriority
