import FlowPriority.Proofs.Double.Rounding
import Mathlib.Algebra.Order.Field.Power

/-!
Doubles as real numbers, and the operations on them that round correctly.

A dyadic number, a count and a quotient all come out as the double nearest to the exact result. A
double that is finite and not negative is the nearest one to the number it stands for.
-/

namespace FlowPriority

namespace Double

open Float.Model (UnpackedFloat Format totalExponent)
open Float.Model.UnpackedFloat

theorem floor_mul_zpow_div (mantissa : ℕ) (exponent : ℤ) :
    ⌊(mantissa * 2 ^ exponent : ℝ) / 2 ^ exponent⌋₊ = mantissa := by
  rw [mul_div_cancel_right₀ _ (zpow_ne_zero _ two_ne_zero), Nat.floor_natCast]

theorem ordinal_nearest {mantissa : ℕ} (positive : 0 < mantissa) (exponent : ℤ) :
    ordinal (nearest mantissa exponent) = ordinalOf (mantissa * 2 ^ exponent) := by
  have target := targetExponent_of_pos positive (floor_mul_zpow_div mantissa exponent)
  simp only [nearest, UnpackedFloat.round, decreaseExponent, target]
  apply ordinal_roundWithAccuracy
  · rw [ofMantissaAndAccuracy_exact, Nat.shiftLeft_eq, Nat.cast_mul, Nat.cast_pow, Nat.cast_ofNat,
      zpow_sub₀ two_ne_zero, zpow_natCast]
    congr 1
    field_simp
  · omega

theorem ordinalOf_zero : ordinalOf 0 = 0 := by
  have least : grain 0 = -1074 := grain_of_small (zpow_pos two_pos _).le
  have none_left := roundedMantissa_extended_natCast 0
  rw [Nat.cast_zero] at none_left
  rw [ordinalOf, units, least, zero_div, none_left]
  rfl

theorem ordinal_one : ordinal 1.0 = ordinalOf 1 := by
  have nearestOne := ordinal_nearest one_pos 0
  rw [Nat.cast_one, zpow_zero, one_mul] at nearestOne
  rw [← nearestOne]
  decide

theorem ordinal_toFloat (count : UInt64) : ordinal count.toFloat = ordinalOf count.toNat := by
  rcases Nat.eq_zero_or_pos count.toNat with zero | positive
  · have none_counted : count = 0 := UInt64.toNat_inj.mp (zero.trans UInt64.toNat_zero.symm)
    rw [zero, Nat.cast_zero, ordinalOf_zero, none_counted]
    rfl
  · have above : compare (count.toNat : ℤ) 0 = .gt := Int.compare_eq_gt.mpr (by omega)
    have same : count.toFloat = nearest count.toNat 0 := by
      rw [UInt64.toFloat, Float.Model.ofUInt64, UnpackedFloat.ofUInt64, UnpackedFloat.ofNat,
        UnpackedFloat.ofInt, UnpackedFloat.normalize, above]
      rfl
    rw [same, ordinal_nearest positive, zpow_zero, mul_one]

theorem ofMantissaAndAccuracy_fraction (quotient : ℕ) {rest divisor : ℕ}
    (remaining : rest < divisor) :
    ExtendedMantissa.ofMantissaAndAccuracy quotient (accuracyOfFraction rest divisor) =
      ⟨(2 * quotient + 2 * rest / divisor) / 2, (2 * quotient + 2 * rest / divisor) % 2 != 0,
        decide (¬2 * rest % divisor = 0)⟩ := by
  have positive : 0 < divisor := Nat.zero_lt_of_lt remaining
  by_cases exact : rest = 0
  · simp [exact, accuracyOfFraction, ExtendedMantissa.ofMantissaAndAccuracy]
  · rw [accuracyOfFraction, if_neg exact]
    rcases Nat.lt_trichotomy (2 * rest) divisor with below | half | above
    · simp [Nat.div_eq_of_lt below, Nat.mod_eq_of_lt below, Nat.compare_eq_lt.mpr below, exact,
        ExtendedMantissa.ofMantissaAndAccuracy]
    · have cut : (2 * quotient + 1) / 2 = quotient := by omega
      simp [half, cut, Nat.div_self positive, ExtendedMantissa.ofMantissaAndAccuracy]
    · have one : 2 * rest / divisor = 1 := Nat.div_eq_of_lt_le (by omega) (by omega)
      have excess : 2 * rest % divisor ≠ 0 := by
        rw [Nat.mod_eq_sub_mod above.le, Nat.mod_eq_of_lt (by omega)]
        omega
      have cut : (2 * quotient + 1) / 2 = quotient := by omega
      simp [one, excess, cut, Nat.compare_eq_gt.mpr above, ExtendedMantissa.ofMantissaAndAccuracy]

theorem extended_div (dividend : ℕ) {divisor : ℕ} (positive : 0 < divisor) :
    ExtendedMantissa.ofMantissaAndAccuracy (dividend / divisor)
        (accuracyOfFraction (dividend % divisor) divisor) =
      extended (dividend / divisor) := by
  have doubled : 2 * ((dividend : ℝ) / divisor) = (2 * dividend : ℕ) / divisor := by
    push_cast
    ring
  have decomposed : 2 * dividend =
      divisor * (2 * (dividend / divisor)) + 2 * (dividend % divisor) := by
    nth_rewrite 1 [← Nat.div_add_mod dividend divisor]
    ring
  have halves : 2 * dividend / divisor =
      2 * (dividend / divisor) + 2 * (dividend % divisor) / divisor := by
    rw [decomposed, Nat.mul_add_div positive]
  have whole : (2 * dividend : ℕ) / (divisor : ℝ) = (2 * dividend / divisor : ℕ) ↔
      2 * (dividend % divisor) % divisor = 0 := by
    rw [div_eq_iff (Nat.cast_ne_zero.mpr (Nat.ne_of_gt positive)), ← Nat.cast_mul, Nat.cast_inj,
      eq_comm, ← Nat.dvd_iff_div_mul_eq, Nat.dvd_iff_mod_eq_zero, decomposed, Nat.mul_add_mod]
  simp only [extended, doubled, Nat.floor_div_eq_div, ne_eq, whole]
  rw [halves]
  exact ofMantissaAndAccuracy_fraction _ (Nat.mod_lt _ positive)

noncomputable def value (double : Float) : ℝ :=
  match double.toModel.unpack with
  | .finite .positive mantissa exponent _ => mantissa * 2 ^ exponent
  | .finite .negative mantissa exponent _ => -(mantissa * 2 ^ exponent)
  | _ => 0

theorem grain_of_canonical {mantissa : ℕ} {exponent : ℤ} (canonical : Canonical mantissa exponent) :
    grain (mantissa * 2 ^ exponent) = exponent := by
  rcases Nat.lt_or_ge mantissa (2 ^ 52) with small | large
  · have least : exponent = -1074 := canonical.full.resolve_right (Nat.not_le_of_lt small)
    have bound : (mantissa : ℝ) ≤ 2 ^ 52 := by exact_mod_cast small.le
    rw [least]
    apply grain_of_small
    calc (mantissa : ℝ) * 2 ^ (-1074 : ℤ) ≤ 2 ^ 52 * 2 ^ (-1074 : ℤ) := by gcongr
      _ = 2 ^ (-1022 : ℤ) := by
        rw [← zpow_natCast, ← zpow_add₀ two_ne_zero]
        norm_num
  · have positive : 0 < mantissa := Nat.zero_lt_of_lt large
    have log := log_eq_of_floor positive (floor_mul_zpow_div mantissa exponent)
    have bits : mantissa.log2 = 52 := by
      have within := (Nat.log2_lt (Nat.ne_of_gt positive)).mpr canonical.fits
      have above := (Nat.le_log2 (Nat.ne_of_gt positive)).mpr large
      omega
    have least := canonical.least
    have normal : (2 : ℝ) ^ (-1022 : ℤ) ≤ mantissa * 2 ^ exponent := by
      have reached := (Int.zpow_le_iff_le_log one_lt_two
        (pos_of_floor positive (floor_mul_zpow_div mantissa exponent))).mpr
        (show -1022 ≤ Int.log 2 (mantissa * 2 ^ exponent : ℝ) by omega)
      exact_mod_cast reached
    rw [grain_of_large normal, log, bits]
    ring

theorem ordinalOf_of_canonical {mantissa : ℕ} {exponent : ℤ}
    (canonical : Canonical mantissa exponent) :
    ordinalOf (mantissa * 2 ^ exponent) =
      min ((exponent + 1074).toNat * 2 ^ 52 + mantissa) infinityOrdinal := by
  rw [ordinalOf, units, grain_of_canonical canonical,
    mul_div_cancel_right₀ _ (zpow_ne_zero _ two_ne_zero), roundedMantissa_extended_natCast]

theorem canonical_of_binade (ordinal : ℕ) :
    Canonical (ordinal - binade ordinal * 2 ^ 52) (binade ordinal - 1074) := by
  unfold binade
  exact ⟨by omega, by omega, by omega⟩

section Value

variable {double : Float}

theorem value_of_ordinal (finite : ordinal double < infinityOrdinal) :
    value double = (ordinal double - binade (ordinal double) * 2 ^ 52 : ℕ) *
      2 ^ (binade (ordinal double) - 1074 : ℤ) := by
  by_cases zero : ordinal double = 0
  · rw [value, unpack_of_ordinal_eq_zero zero, zero]
    simp
  · rw [value, unpack_of_ordinal zero finite]

theorem value_nonneg (finite : ordinal double < infinityOrdinal) : 0 ≤ value double := by
  rw [value_of_ordinal finite]
  exact mul_nonneg (Nat.cast_nonneg _) (zpow_pos two_pos _).le

theorem ordinalOf_value (finite : ordinal double < infinityOrdinal) :
    ordinalOf (value double) = ordinal double := by
  rw [value_of_ordinal finite, ordinalOf_of_canonical (canonical_of_binade _)]
  unfold infinityOrdinal binade at *
  omega

theorem value_mono {other : Float} (lower : ordinal double ≤ ordinal other)
    (finite : ordinal other < infinityOrdinal) : value double ≤ value other := by
  by_contra above
  have back := ordinalOf_mono (le_of_not_ge above)
  rw [ordinalOf_value finite, ordinalOf_value (lower.trans_lt finite)] at back
  rw [eq_of_ordinal_eq (lower.antisymm back)] at above
  exact above (le_refl _)

theorem wholePart_eq_floor (finite : ordinal double < infinityOrdinal) :
    wholePart double = ⌊value double⌋₊ := by
  by_cases zero : ordinal double = 0
  · rw [wholePart, value, unpack_of_ordinal_eq_zero zero]
    simp
  · rw [value_of_ordinal finite, wholePart, unpack_of_ordinal zero finite]
    simp only
    generalize ordinal double - binade (ordinal double) * 2 ^ 52 = mantissa
    generalize (binade (ordinal double) - 1074 : ℤ) = exponent
    split
    · rename_i whole
      obtain ⟨places, rfl⟩ := Int.eq_ofNat_of_zero_le whole
      rw [Int.toNat_natCast, Nat.shiftLeft_eq, zpow_natCast]
      exact_mod_cast (Nat.floor_natCast _).symm
    · rename_i part
      obtain ⟨places, rfl⟩ : ∃ places : ℕ, exponent = -places := ⟨(-exponent).toNat, by omega⟩
      have quotient := Nat.floor_div_eq_div (K := ℝ) mantissa (2 ^ places)
      rw [neg_neg, Int.toNat_natCast, Nat.shiftRight_eq_div_pow, ← quotient, zpow_neg,
        zpow_natCast, ← div_eq_mul_inv]
      push_cast
      rfl

end Value

theorem log_div_le {dividend divisor : ℝ} (positive : 0 < dividend) (nonzero : 0 < divisor) :
    Int.log 2 dividend - Int.log 2 divisor - 1 ≤ Int.log 2 (dividend / divisor) := by
  have reached := Int.zpow_log_le_self one_lt_two positive
  have within := Int.lt_zpow_succ_log_self one_lt_two divisor
  rw [← Int.zpow_le_iff_le_log one_lt_two (div_pos positive nonzero), le_div_iff₀ nonzero]
  generalize Int.log 2 dividend = high at reached
  generalize Int.log 2 divisor = low at within
  calc ((2 : ℕ) : ℝ) ^ (high - low - 1) * divisor
      ≤ ((2 : ℕ) : ℝ) ^ (high - low - 1) * ((2 : ℕ) : ℝ) ^ (low + 1) := by gcongr
    _ = ((2 : ℕ) : ℝ) ^ high := by
        rw [← zpow_add₀ (by norm_num)]
        congr 1
        ring
    _ ≤ dividend := reached

section Division

variable {dividend divisor : ℕ} (positive : 0 < dividend) (nonzero : 0 < divisor)
  (exponent exponent' : ℤ)

include positive nonzero

theorem targetExponent_div_le :
    Format.binary64.targetExponent
        (totalExponent dividend exponent - totalExponent divisor exponent') ≤
      grain (dividend * 2 ^ exponent / (divisor * 2 ^ exponent')) := by
  have above : (0 : ℝ) < dividend * 2 ^ exponent := by positivity
  have below : (0 : ℝ) < divisor * 2 ^ exponent' := by positivity
  have high := log_eq_of_floor positive (floor_mul_zpow_div dividend exponent)
  have low := log_eq_of_floor nonzero (floor_mul_zpow_div divisor exponent')
  have quotient := log_div_le above below
  have grained := log_sub_le_grain (div_pos above below)
  have least := le_grain (dividend * 2 ^ exponent / (divisor * 2 ^ exponent') : ℝ)
  rw [targetExponent_eq, totalExponent, totalExponent]
  omega

theorem ordinal_div_finite :
    ordinal (.ofModel (.pack (UnpackedFloat.div .binary64
        (.finite .positive dividend exponent positive)
        (.finite .positive divisor exponent' nonzero)))) =
      ordinalOf (dividend * 2 ^ exponent / (divisor * 2 ^ exponent')) := by
  have fine := targetExponent_div_le positive nonzero exponent exponent'
  simp only [UnpackedFloat.div, divCore]
  generalize Format.binary64.targetExponent _ = target at fine
  apply ordinal_roundWithAccuracy
  · rw [extended_div _ nonzero, Nat.shiftLeft_eq, Nat.cast_mul, Nat.cast_pow, Nat.cast_ofNat]
    congr 1
    generalize least : min (exponent - exponent') target = scale
    have spacing : (2 : ℝ) ^ exponent =
        2 ^ (exponent - exponent' - scale).toNat * 2 ^ scale * 2 ^ exponent' := by
      rw [← zpow_natCast, ← zpow_add₀ two_ne_zero, ← zpow_add₀ two_ne_zero]
      congr 1
      omega
    rw [spacing]
    field_simp
  · omega

end Division

theorem ordinal_div {dividend divisor : Float} (finite : ordinal dividend < infinityOrdinal)
    (positive : ordinal divisor ≠ 0) (bounded : ordinal divisor < infinityOrdinal) :
    ordinal (dividend / divisor) = ordinalOf (value dividend / value divisor) := by
  change ordinal (.ofModel (.pack (UnpackedFloat.div .binary64 dividend.toModel.unpack
    divisor.toModel.unpack))) = _
  rw [value_of_ordinal bounded, unpack_of_ordinal positive bounded]
  by_cases zero : ordinal dividend = 0
  · rw [value, unpack_of_ordinal_eq_zero zero, zero_div, ordinalOf_zero]
    rfl
  · rw [value_of_ordinal finite, unpack_of_ordinal zero finite]
    exact ordinal_div_finite _ _ _ _

theorem value_one : value 1.0 = 1 := by
  have place : ordinal 1.0 = 1023 * 2 ^ 52 := by decide
  rw [value_of_ordinal (by decide), place]
  norm_num [binade, zpow_neg]

theorem ordinal_div_one {dividend : Float} (finite : ordinal dividend < infinityOrdinal) :
    ordinal (dividend / 1.0) = ordinal dividend := by
  rw [ordinal_div finite (by decide) (by decide), value_one, div_one, ordinalOf_value finite]

theorem ordinal_div_infinity {dividend divisor : Float}
    (finite : ordinal dividend < infinityOrdinal) (infinite : ordinal divisor = infinityOrdinal) :
    ordinal (dividend / divisor) = 0 := by
  change ordinal (.ofModel (.pack (UnpackedFloat.div .binary64 dividend.toModel.unpack
    divisor.toModel.unpack))) = _
  rw [unpack_of_ordinal_eq_infinity infinite]
  by_cases zero : ordinal dividend = 0
  · rw [unpack_of_ordinal_eq_zero zero]
    rfl
  · rw [unpack_of_ordinal zero finite]
    rfl

theorem ordinalOf_le (number : ℝ) : ordinalOf number ≤ infinityOrdinal := Nat.min_le_right _ _

theorem value_pos {double : Float} (nonzero : ordinal double ≠ 0)
    (finite : ordinal double < infinityOrdinal) : 0 < value double := by
  rw [value_of_ordinal finite]
  have mantissa := Nat.sub_pos_of_lt (binade_mul_lt nonzero)
  positivity

theorem ordinal_div_mono {dividend divisor dividend' divisor' : Float}
    (more : ordinal dividend ≤ ordinal dividend') (less : ordinal divisor' ≤ ordinal divisor)
    (finite : ordinal dividend' < infinityOrdinal) (nonzero : ordinal divisor' ≠ 0)
    (bounded : ordinal divisor ≤ infinityOrdinal) :
    ordinal (dividend / divisor) ≤ ordinal (dividend' / divisor') := by
  have finiteLess := more.trans_lt finite
  rcases bounded.lt_or_eq with within | infinite
  · have within' := less.trans_lt within
    have nonzero' : ordinal divisor ≠ 0 := by omega
    have positive := value_pos nonzero within'
    have nonneg := value_nonneg finite
    have above := value_mono more finite
    have below := value_mono less within
    rw [ordinal_div finiteLess nonzero' within, ordinal_div finite nonzero within']
    apply ordinalOf_mono
    gcongr
  · rw [ordinal_div_infinity finiteLess infinite]
    exact Nat.zero_le _

theorem ordinal_div_of_zero {dividend divisor : Float} (zero : ordinal dividend = 0)
    (nonzero : ordinal divisor ≠ 0) (bounded : ordinal divisor ≤ infinityOrdinal) :
    ordinal (dividend / divisor) = 0 := by
  have finite : ordinal dividend < infinityOrdinal := zero.trans_lt (by decide)
  rcases bounded.lt_or_eq with within | infinite
  · rw [ordinal_div finite nonzero within, value, unpack_of_ordinal_eq_zero zero, zero_div,
      ordinalOf_zero]
  · exact ordinal_div_infinity finite infinite

theorem ordinal_div_le {dividend divisor : Float} (finite : ordinal dividend < infinityOrdinal)
    (nonzero : ordinal divisor ≠ 0) (bounded : ordinal divisor ≤ infinityOrdinal) :
    ordinal (dividend / divisor) ≤ infinityOrdinal := by
  rcases bounded.lt_or_eq with within | infinite
  · rw [ordinal_div finite nonzero within]
    exact ordinalOf_le _
  · rw [ordinal_div_infinity finite infinite]
    exact Nat.zero_le _

/-- Finite and not below zero, with zeros of either sign. -/
inductive Unsigned : UnpackedFloat → Prop where
  | zero (sign : Sign) : Unsigned (.zero sign)
  | finite (mantissa : ℕ) (exponent : ℤ) (positive : 0 < mantissa) :
      Unsigned (.finite .positive mantissa exponent positive)

theorem Unsigned.of_ordinal {double : Float} (finite : ordinal double < infinityOrdinal) :
    Unsigned double.toModel.unpack := by
  by_cases zero : ordinal double = 0
  · rw [unpack_of_ordinal_eq_zero zero]
    exact .zero .positive
  · rw [unpack_of_ordinal zero finite]
    exact .finite _ _ _

theorem Unsigned.value_nonneg {double : Float} (unsigned : Unsigned double.toModel.unpack) :
    0 ≤ value double := by
  unfold value
  generalize double.toModel.unpack = unpacked at unsigned
  cases unsigned with
  | zero sign => exact le_refl 0
  | finite mantissa exponent positive => positivity

theorem finite_le_finite {mantissa mantissa' : ℕ} {exponent exponent' : ℤ}
    (canonical : Canonical mantissa exponent) (canonical' : Canonical mantissa' exponent')
    (lower : exponent < exponent' ∨ exponent = exponent' ∧ mantissa ≤ mantissa') :
    (mantissa * 2 ^ exponent : ℝ) ≤ mantissa' * 2 ^ exponent' := by
  rcases lower with finer | ⟨rfl, less⟩
  · have fits : (mantissa : ℝ) ≤ 2 ^ 53 := by exact_mod_cast canonical.fits.le
    have full : (2 : ℝ) ^ 52 ≤ mantissa' := by
      have least := canonical.least
      have set := canonical'.full.resolve_left (by omega)
      exact_mod_cast set
    calc (mantissa * 2 ^ exponent : ℝ) ≤ 2 ^ 53 * 2 ^ exponent := by gcongr
      _ = 2 ^ 52 * 2 ^ (exponent + 1) := by
        rw [zpow_add₀ two_ne_zero, zpow_one]
        ring
      _ ≤ mantissa' * 2 ^ exponent' := by
        gcongr
        · exact one_le_two
        · omega
  · gcongr

theorem value_le_value {first second : Float} (unsigned : Unsigned first.toModel.unpack)
    (unsigned' : Unsigned second.toModel.unpack) (lower : first ≤ second) :
    value first ≤ value second := by
  obtain ⟨_, _, ranked⟩ := (le_iff_unpack first second).mp lower
  unfold value
  generalize unpacked : first.toModel.unpack = left at unsigned ranked
  generalize unpacked' : second.toModel.unpack = right at unsigned' ranked
  cases unsigned with
  | zero sign =>
      cases unsigned' with
      | zero sign' => exact le_refl _
      | finite mantissa exponent positive => positivity
  | finite mantissa exponent positive =>
      cases unsigned' with
      | zero sign' => simp [rank, Prod.Lex.toLex_le_toLex] at ranked
      | finite mantissa' exponent' positive' =>
          have lower : exponent < exponent' ∨ exponent = exponent' ∧ mantissa ≤ mantissa' := by
            simpa [rank, Prod.Lex.toLex_le_toLex] using ranked
          exact finite_le_finite (canonical_of_unpack unpacked) (canonical_of_unpack unpacked')
            lower

end Double

end FlowPriority
