import FlowPriority.Classifier.Options
import FlowPriority.Proofs.Power.Nearest

/-!
How scores compare.

A flow that is older and has less work scores at least as high. Counts, powers and quotients are all
rounded to the nearest double, so this does not depend on how fine the doubles are.
-/

namespace FlowPriority

open Double
open Float.Model (UnpackedFloat)

namespace Classifier

theorem lt_zero_iff (double : Float) :
    double < 0.0 ↔ double.toModel.unpack.lt (.zero .positive) = true := by
  have zero : (0.0 : Float).toModel.unpack = .zero .positive := unpack_of_ordinal_eq_zero rfl
  rw [← zero]
  change decide (double.toModel < (0.0 : Float).toModel) = true ↔ _
  rw [decide_eq_true_iff]
  rfl

theorem acceptsAlpha_iff (alpha : Float) :
    Options.acceptsAlpha alpha = true ↔ Unsigned alpha.toModel.unpack := by
  rw [Options.acceptsAlpha, Bool.and_eq_true, Bool.not_eq_true', decide_eq_false_iff_not,
    lt_zero_iff, Float.isFinite, Float.Model.isFinite]
  generalize alpha.toModel.unpack = unpacked
  constructor
  · rintro ⟨finite, notBelow⟩
    rcases unpacked with _ | _ | sign | ⟨_ | _, mantissa, exponent, positive⟩
    · cases finite
    · cases finite
    · exact .zero sign
    · exact absurd rfl notBelow
    · exact .finite mantissa exponent positive
  · intro unsigned
    cases unsigned with
    | zero sign => exact ⟨rfl, Bool.false_ne_true⟩
    | finite mantissa exponent positive => exact ⟨rfl, Bool.false_ne_true⟩

end Classifier

section Counts

theorem ordinal_toFloat_mono {count count' : UInt64} (more : count ≤ count') :
    ordinal count.toFloat ≤ ordinal count'.toFloat := by
  rw [ordinal_toFloat, ordinal_toFloat]
  exact ordinalOf_mono (Nat.cast_le.mpr (UInt64.le_iff_toNat_le.mp more))

/-- Two to the power of 64, which is what the largest counts are rounded to. -/
theorem ordinal_toFloat_le (count : UInt64) : ordinal count.toFloat ≤ ordinal (nearest 1 64) := by
  rw [ordinal_toFloat, ordinal_nearest one_pos, Nat.cast_one, one_mul]
  apply ordinalOf_mono
  exact_mod_cast count.toNat_lt.le

theorem toFloat_finite (count : UInt64) : ordinal count.toFloat < infinityOrdinal :=
  (ordinal_toFloat_le count).trans_lt (by decide)

end Counts

/-- The number that is raised to the scoring exponent. -/
def scoreBase (work : UInt64) : ℕ := wholePart (max work 1).toFloat

theorem max_one_toNat (work : UInt64) : (max work 1).toNat = max work.toNat 1 := by
  change (if work ≤ 1 then 1 else work).toNat = _
  split
  · rename_i least
    exact (Nat.max_eq_right (UInt64.le_iff_toNat_le.mp least)).symm
  · rename_i more
    rw [UInt64.le_iff_toNat_le] at more
    exact (Nat.max_eq_left (Nat.le_of_not_le more)).symm

theorem scoreBase_mono {work work' : UInt64} (more : work ≤ work') :
    scoreBase work ≤ scoreBase work' := by
  have ordered : max work 1 ≤ max work' 1 := by
    rw [UInt64.le_iff_toNat_le, max_one_toNat, max_one_toNat]
    exact max_le_max_right 1 (UInt64.le_iff_toNat_le.mp more)
  rw [scoreBase, scoreBase, wholePart_eq_floor (toFloat_finite _),
    wholePart_eq_floor (toFloat_finite _)]
  exact Nat.floor_mono (value_mono (ordinal_toFloat_mono ordered) (toFloat_finite _))

theorem scoreBase_one : scoreBase 0 = 1 := by
  decide +kernel

theorem scoreBase_pos (work : UInt64) : 0 < scoreBase work := by
  have least := scoreBase_mono (UInt64.zero_le (a := work))
  rw [scoreBase_one] at least
  exact least

theorem scoreBase_le (work : UInt64) : scoreBase work ≤ 2 ^ 64 := by
  have largest : work ≤ -1 := UInt64.le_iff_toNat_le.mpr (Nat.le_sub_one_of_lt work.toNat_lt)
  refine (scoreBase_mono largest).trans (Nat.le_of_eq ?_)
  decide +kernel

section Powers

variable {alpha : Float} (unsigned : Unsigned alpha.toModel.unpack)

include unsigned

theorem ordinal_power_mono {base base' : ℕ} (positive : 0 < base) (more : base ≤ base') :
    ordinal (Power.power base alpha) ≤ ordinal (Power.power base' alpha) := by
  rw [Power.ordinal_power positive unsigned, Power.ordinal_power (positive.trans_le more) unsigned]
  apply ordinalOf_mono
  exact Real.rpow_le_rpow (Nat.cast_nonneg _) (Nat.cast_le.mpr more) unsigned.value_nonneg

theorem ordinal_one_le_power {base : ℕ} (positive : 0 < base) :
    ordinal 1.0 ≤ ordinal (Power.power base alpha) := by
  have atLeastOne : (1 : ℝ) ≤ (base : ℝ) ^ value alpha :=
    Real.one_le_rpow (Nat.one_le_cast.mpr positive) unsigned.value_nonneg
  rw [Power.ordinal_power positive unsigned, ordinal_one]
  exact ordinalOf_mono atLeastOne

theorem ordinal_power_ne_zero {base : ℕ} (positive : 0 < base) :
    ordinal (Power.power base alpha) ≠ 0 := by
  have one : 0 < ordinal 1.0 := by decide
  exact (one.trans_le (ordinal_one_le_power unsigned positive)).ne'

theorem ordinal_power_le {base : ℕ} (positive : 0 < base) :
    ordinal (Power.power base alpha) ≤ infinityOrdinal := by
  rw [Power.ordinal_power positive unsigned]
  exact ordinalOf_le _

theorem ordinal_power_le_two (small : alpha ≤ 0.015625) {base : ℕ} (positive : 0 < base)
    (bounded : base ≤ 2 ^ 64) : ordinal (Power.power base alpha) ≤ ordinal 2.0 := by
  have exponent : value alpha ≤ ((64 : ℕ) : ℝ)⁻¹ := by
    have place : ordinal 0.015625 = 1017 * 2 ^ 52 := by decide
    have sixtyFourth : value 0.015625 = ((64 : ℕ) : ℝ)⁻¹ := by
      rw [value_of_ordinal (by decide), place]
      norm_num [binade, zpow_neg]
    exact (value_le_value unsigned (.of_ordinal (by decide)) small).trans_eq sixtyFourth
  have two : ordinalOf 2 = ordinal 2.0 := by
    have exact := ordinal_nearest one_pos 1
    rw [Nat.cast_one, one_mul, zpow_one] at exact
    rw [← exact]
    decide
  have large : (base : ℝ) ≤ 2 ^ 64 := by exact_mod_cast bounded
  rw [Power.ordinal_power positive unsigned, ← two]
  apply ordinalOf_mono
  calc (base : ℝ) ^ value alpha ≤ (2 ^ 64) ^ value alpha :=
        Real.rpow_le_rpow (Nat.cast_nonneg _) large unsigned.value_nonneg
    _ ≤ (2 ^ 64) ^ ((64 : ℕ) : ℝ)⁻¹ :=
        Real.rpow_le_rpow_of_exponent_le (one_le_pow₀ one_le_two) exponent
    _ = 2 := Real.pow_rpow_inv_natCast zero_le_two (by decide)

end Powers

section RawScore

variable {alpha : Float} (unsigned : Unsigned alpha.toModel.unpack)

include unsigned

theorem rawScore_mono {age age' work work' : UInt64} (older : age ≤ age') (less : work' ≤ work) :
    rawScore age work alpha ≤ rawScore age' work' alpha := by
  have nonzero := ordinal_power_ne_zero unsigned (scoreBase_pos work')
  have bounded := ordinal_power_le unsigned (scoreBase_pos work)
  have bounded' := ordinal_power_le unsigned (scoreBase_pos work')
  have smaller := ordinal_power_mono unsigned (scoreBase_pos work') (scoreBase_mono less)
  apply le_of_ordinal_le
  · exact ordinal_div_mono (ordinal_toFloat_mono older) smaller (toFloat_finite age') nonzero
      bounded
  · exact ordinal_div_le (toFloat_finite age') nonzero bounded'

theorem ordinal_rawScore_le_age (age work : UInt64) :
    ordinal (rawScore age work alpha) ≤ ordinal age.toFloat := by
  have atLeastOne := ordinal_one_le_power unsigned (scoreBase_pos work)
  have bounded := ordinal_power_le unsigned (scoreBase_pos work)
  have finite := toFloat_finite age
  calc ordinal (rawScore age work alpha) ≤ ordinal (age.toFloat / 1.0) :=
        ordinal_div_mono (le_refl _) atLeastOne finite (by decide) bounded
    _ = ordinal age.toFloat := ordinal_div_one finite

theorem rawScore_of_no_age (work : UInt64) : rawScore 0 work alpha = 0.0 := by
  have none_passed : ordinal (UInt64.toFloat 0) = 0 := rfl
  have nonzero := ordinal_power_ne_zero unsigned (scoreBase_pos work)
  have bounded := ordinal_power_le unsigned (scoreBase_pos work)
  exact eq_of_ordinal_eq (ordinal_div_of_zero none_passed nonzero bounded)

theorem half_le_rawScore (small : alpha ≤ 0.015625) {age : UInt64} (older : 1 ≤ age)
    (work : UInt64) : 0.5 ≤ rawScore age work alpha := by
  have nonzero := ordinal_power_ne_zero unsigned (scoreBase_pos work)
  have bounded := ordinal_power_le unsigned (scoreBase_pos work)
  have two := ordinal_power_le_two unsigned small (scoreBase_pos work) (scoreBase_le work)
  have half : (0.5 : Float) = UInt64.toFloat 1 / 2.0 := eq_of_ordinal_eq (by decide +kernel)
  rw [half]
  apply le_of_ordinal_le
  · exact ordinal_div_mono (ordinal_toFloat_mono older) two (toFloat_finite age) nonzero (by decide)
  · exact ordinal_div_le (toFloat_finite age) nonzero bounded

end RawScore

end FlowPriority
