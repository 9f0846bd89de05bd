import FlowPriority.Proofs.Double.Order
import Mathlib.Algebra.Order.Archimedean.Real.Basic
import Mathlib.Algebra.Order.Floor.Semifield
import Mathlib.Data.Int.Log
import Mathlib.Tactic.Ring
import Mathlib.Tactic.Linarith
import Mathlib.Tactic.Positivity
import Mathlib.Tactic.FieldSimp

/-!
Rounding to the nearest double.

A number is cut into a mantissa on the grain of the doubles around it and what lies beyond. The
rounded mantissa only grows with the number, and so does the ordinal of the double it leads to.
Whatever operation rounds correctly is monotone for that reason.
-/

namespace FlowPriority

namespace Double

open Float.Model (UnpackedFloat Format totalExponent)
open Float.Model.UnpackedFloat

/-- Two is a numeral of the reals. -/
instance two_atLeastTwo : Nat.AtLeastTwo 2 := ⟨le_rfl⟩

/-- The whole part of a number, its first bit after the point, and whether there is more. -/
noncomputable def extended (number : ℝ) : ExtendedMantissa where
  mantissa := ⌊2 * number⌋₊ / 2
  roundBit := ⌊2 * number⌋₊ % 2 != 0
  stickyBit := decide (2 * number ≠ ⌊2 * number⌋₊)

theorem floor_eq_half (number : ℝ) : ⌊number⌋₊ = ⌊2 * number⌋₊ / 2 := by
  have halved := Nat.floor_div_natCast (2 * number) 2
  rwa [Nat.cast_ofNat, mul_div_cancel_left₀ number two_ne_zero] at halved

theorem eq_floor_iff (number : ℝ) :
    number = ⌊number⌋₊ ↔ 2 * number = ⌊2 * number⌋₊ ∧ ⌊2 * number⌋₊ % 2 = 0 := by
  constructor
  · intro whole
    have doubled : 2 * number = (2 * ⌊number⌋₊ : ℕ) := by
      rw [whole, Nat.floor_natCast]
      push_cast
      rfl
    rw [doubled, Nat.floor_natCast]
    exact ⟨rfl, Nat.mul_mod_right 2 _⟩
  · rintro ⟨whole, even⟩
    have exact : ⌊2 * number⌋₊ = 2 * ⌊number⌋₊ := by
      have half := floor_eq_half number
      omega
    rw [exact] at whole
    push_cast at whole
    linarith

theorem shiftRightOne_extended (number : ℝ) :
    (extended number).shiftRightOne = extended (number / 2) := by
  have whole : 2 * (number / 2) = number := by ring
  have sticky := not_congr (eq_floor_iff number)
  rw [not_and_or, or_comm] at sticky
  simp only [extended, ExtendedMantissa.shiftRightOne, whole, ← floor_eq_half,
    ExtendedMantissa.mk.injEq, true_and]
  rw [Bool.eq_iff_iff, Bool.or_eq_true, bne_iff_ne, decide_eq_true_iff, decide_eq_true_iff]
  exact sticky.symm

theorem shiftRight_extended (number : ℝ) (shift : ℕ) :
    extended number >>> shift = extended (number / 2 ^ shift) := by
  change Nat.repeat ExtendedMantissa.shiftRightOne shift (extended number) = _
  induction shift with
  | zero => rw [Nat.repeat, pow_zero, div_one]
  | succ shift ih => rw [Nat.repeat, ih, shiftRightOne_extended, pow_succ, div_div]

/-- A half rounds to the even neighbour. -/
theorem roundedMantissa_extended (number : ℝ) :
    (extended number).roundedMantissa =
      ⌊2 * number⌋₊ / 2 +
        if ⌊2 * number⌋₊ % 2 = 1 ∧
          (2 * number ≠ ⌊2 * number⌋₊ ∨ ⌊2 * number⌋₊ / 2 % 2 = 1) then 1 else 0 := by
  unfold ExtendedMantissa.roundedMantissa ExtendedMantissa.accuracy extended
  generalize ⌊2 * number⌋₊ = halves
  rcases Nat.mod_two_eq_zero_or_one halves with even | odd
  · by_cases exact : 2 * number = halves
    · simp [exact, even, Accuracy.roundToNearestEven]
    · simp [exact, even, Accuracy.roundToNearestEven]
  · by_cases exact : 2 * number = halves
    · simp only [exact, odd, Accuracy.roundToNearestEven, Nat.reduceBNe, ne_eq, not_true_eq_false,
        decide_false, false_or, true_and]
      split <;> omega
    · simp [exact, odd, Accuracy.roundToNearestEven]

theorem roundedMantissa_extended_natCast (count : ℕ) :
    (extended count).roundedMantissa = count := by
  have doubled : 2 * (count : ℝ) = (2 * count : ℕ) := by
    push_cast
    rfl
  rw [roundedMantissa_extended, doubled, Nat.floor_natCast, Nat.mul_mod_right]
  simp

theorem roundedMantissa_extended_mono {first second : ℝ} (lower : first ≤ second) :
    (extended first).roundedMantissa ≤ (extended second).roundedMantissa := by
  have doubled : 2 * first ≤ 2 * second := by linarith
  have halves := Nat.floor_mono doubled
  rw [roundedMantissa_extended, roundedMantissa_extended]
  rcases halves.lt_or_eq with below | same
  · -- the number of halves goes up by one, and an odd number rounds up at most to the next one
    split <;> split <;> omega
  · rw [← same]
    -- equally many halves, and more beyond them in the second number if there is in the first
    have further (odd : ⌊2 * first⌋₊ % 2 = 1) (beyond : 2 * first ≠ ⌊2 * first⌋₊) :
        2 * second ≠ ⌊2 * first⌋₊ := by
      have reached : (⌊2 * first⌋₊ : ℝ) ≤ 2 * first :=
        (Nat.le_floor_iff' (by omega)).mp (Nat.le_refl _)
      exact ((lt_of_le_of_ne reached beyond.symm).trans_le doubled).ne'
    split
    · rename_i up
      rw [if_pos ⟨up.1, up.2.imp_left (further up.1)⟩]
    · omega

/-- The exponent of the spacing of doubles around a number. -/
noncomputable def grain (number : ℝ) : ℤ := Int.log 2 (max number (2 ^ (-1022 : ℤ))) - 52

/-- The mantissa that a number is rounded to on the grain around it. -/
noncomputable def units (number : ℝ) : ℕ := (extended (number / 2 ^ grain number)).roundedMantissa

/-- The ordinal of the double nearest to a number that is not negative. -/
noncomputable def ordinalOf (number : ℝ) : ℕ :=
  min ((grain number + 1074).toNat * 2 ^ 52 + units number) infinityOrdinal

theorem grain_mono {first second : ℝ} (lower : first ≤ second) : grain first ≤ grain second := by
  have more := Int.log_mono_right (b := 2) (lt_max_of_lt_right (zpow_pos two_pos _))
    (max_le_max_right (2 ^ (-1022 : ℤ)) lower)
  unfold grain
  omega

theorem log_least : Int.log 2 ((2 : ℝ) ^ (-1022 : ℤ)) = -1022 :=
  Int.log_zpow one_lt_two (-1022)

theorem grain_of_small {number : ℝ} (small : number ≤ 2 ^ (-1022 : ℤ)) : grain number = -1074 := by
  rw [grain, max_eq_right small, log_least]
  norm_num

theorem grain_of_large {number : ℝ} (large : 2 ^ (-1022 : ℤ) ≤ number) :
    grain number = Int.log 2 number - 52 := by
  rw [grain, max_eq_left large]

theorem le_grain (number : ℝ) : -1074 ≤ grain number := by
  have least := Int.log_mono_right (b := 2) (zpow_pos two_pos _)
    (le_max_right number (2 ^ (-1022 : ℤ)))
  rw [log_least] at least
  unfold grain
  omega

theorem log_sub_le_grain {number : ℝ} (positive : 0 < number) :
    Int.log 2 number - 52 ≤ grain number := by
  have more := Int.log_mono_right (b := 2) positive (le_max_left number (2 ^ (-1022 : ℤ)))
  unfold grain
  omega

theorem lt_zpow_grain (number : ℝ) : number < 2 ^ (grain number + 53) := by
  have above := Int.lt_zpow_succ_log_self one_lt_two (max number (2 ^ (-1022 : ℤ)))
  refine (le_max_left number _).trans_lt (above.trans_eq ?_)
  congr 1
  unfold grain
  ring

theorem zpow_grain_le {number : ℝ} (normal : grain number ≠ -1074) :
    2 ^ (grain number + 52) ≤ number := by
  have large : 2 ^ (-1022 : ℤ) < number := lt_of_not_ge (mt grain_of_small normal)
  have reached := Int.zpow_log_le_self one_lt_two ((zpow_pos two_pos _).trans large)
  rw [grain_of_large large.le, sub_add_cancel]
  exact_mod_cast reached

theorem units_le (number : ℝ) : units number ≤ 2 ^ 53 := by
  have bound : number / 2 ^ grain number ≤ (2 ^ 53 : ℕ) := by
    rw [div_le_iff₀ (zpow_pos two_pos _)]
    have below := lt_zpow_grain number
    rw [zpow_add₀ two_ne_zero, mul_comm] at below
    exact_mod_cast below.le
  exact (roundedMantissa_extended_mono bound).trans_eq (roundedMantissa_extended_natCast _)

theorem le_units (number : ℝ) (normal : grain number ≠ -1074) : 2 ^ 52 ≤ units number := by
  have bound : (2 ^ 52 : ℕ) ≤ number / 2 ^ grain number := by
    rw [le_div_iff₀ (zpow_pos two_pos _)]
    have above := zpow_grain_le normal
    rw [zpow_add₀ two_ne_zero, mul_comm] at above
    exact_mod_cast above
  exact (roundedMantissa_extended_natCast _).symm.trans_le (roundedMantissa_extended_mono bound)

theorem ordinalOf_mono {first second : ℝ} (lower : first ≤ second) :
    ordinalOf first ≤ ordinalOf second := by
  have least := le_grain first
  have most := units_le first
  rcases (grain_mono lower).lt_or_eq with below | same
  · have enough := le_units second (by omega)
    unfold ordinalOf
    omega
  · have more : units first ≤ units second := by
      unfold units
      rw [same]
      exact roundedMantissa_extended_mono
        (div_le_div_of_nonneg_right lower (zpow_pos two_pos _).le)
    unfold ordinalOf
    omega

theorem targetExponent_eq (total : ℤ) :
    Format.binary64.targetExponent total = max (total - 53) (-1074) := rfl

theorem pos_of_floor {number : ℝ} {mantissa : ℕ} {exponent : ℤ} (positive : 0 < mantissa)
    (whole : ⌊number / 2 ^ exponent⌋₊ = mantissa) : 0 < number := by
  have quotient : 0 < number / 2 ^ exponent := Nat.pos_of_floor_pos (whole ▸ positive)
  exact (div_pos_iff_of_pos_right (zpow_pos two_pos _)).mp quotient

theorem log_eq_of_floor {number : ℝ} {mantissa : ℕ} {exponent : ℤ} (positive : 0 < mantissa)
    (whole : ⌊number / 2 ^ exponent⌋₊ = mantissa) :
    Int.log 2 number = mantissa.log2 + exponent := by
  have unit : (0 : ℝ) < 2 ^ exponent := zpow_pos two_pos _
  have nonzero := pos_of_floor positive whole
  obtain ⟨low, high⟩ := (Nat.floor_eq_iff' (Nat.ne_of_gt positive)).mp whole
  have lower : (2 : ℝ) ^ (mantissa.log2 + exponent : ℤ) ≤ number := by
    have power : 2 ^ mantissa.log2 ≤ mantissa := Nat.log2_self_le (Nat.ne_of_gt positive)
    have power' : (2 : ℝ) ^ mantissa.log2 ≤ mantissa := by exact_mod_cast power
    rw [zpow_add₀ two_ne_zero, ← le_div_iff₀ unit, zpow_natCast]
    exact power'.trans low
  have upper : number < (2 : ℝ) ^ (mantissa.log2 + 1 + exponent : ℤ) := by
    have power : mantissa + 1 ≤ 2 ^ (mantissa.log2 + 1) := Nat.lt_log2_self
    have power' : (mantissa + 1 : ℝ) ≤ 2 ^ (mantissa.log2 + 1 : ℤ) := by exact_mod_cast power
    rw [zpow_add₀ two_ne_zero, ← div_lt_iff₀ unit]
    exact high.trans_le power'
  have least := (Int.zpow_le_iff_le_log one_lt_two nonzero).mp (by exact_mod_cast lower)
  have most := (Int.lt_zpow_iff_log_lt one_lt_two nonzero).mp (by exact_mod_cast upper)
  omega

theorem targetExponent_of_pos {number : ℝ} {mantissa : ℕ} {exponent : ℤ} (positive : 0 < mantissa)
    (whole : ⌊number / 2 ^ exponent⌋₊ = mantissa) :
    Format.binary64.targetExponent (totalExponent mantissa exponent) = grain number := by
  have log := log_eq_of_floor positive whole
  rw [targetExponent_eq, totalExponent]
  rcases le_total (2 ^ (-1022 : ℤ)) number with large | small
  · have grained := grain_of_large large
    have least := le_grain number
    omega
  · have most := Int.log_mono_right (b := 2) (pos_of_floor positive whole) small
    rw [log_least] at most
    rw [grain_of_small small]
    omega

theorem targetExponent_eq_grain {number : ℝ} {mantissa : ℕ} {exponent : ℤ}
    (whole : ⌊number / 2 ^ exponent⌋₊ = mantissa) (fine : exponent ≤ grain number) :
    Format.binary64.targetExponent (totalExponent mantissa exponent) = grain number := by
  rcases Nat.eq_zero_or_pos mantissa with zero | positive
  · have below : number < 2 ^ exponent := by
      rwa [zero, Nat.floor_eq_zero, div_lt_one (zpow_pos two_pos _)] at whole
    have least : grain number = -1074 := by
      by_contra normal
      have between := (zpow_grain_le normal).trans_lt below
      rw [zpow_lt_zpow_iff_right₀ one_lt_two] at between
      omega
    rw [least] at fine
    rw [targetExponent_eq, totalExponent, zero, Nat.log2_zero, least]
    omega
  · exact targetExponent_of_pos positive whole

theorem mantissa_ofMantissaAndAccuracy (mantissa : ℕ) (accuracy : Accuracy) :
    (ExtendedMantissa.ofMantissaAndAccuracy mantissa accuracy).mantissa = mantissa := by
  rcases accuracy with _ | (_ | _ | _) <;> rfl

theorem ofMantissaAndAccuracy_exact (mantissa : ℕ) :
    ExtendedMantissa.ofMantissaAndAccuracy mantissa .exact = extended mantissa := by
  have doubled : 2 * (mantissa : ℝ) = (2 * mantissa : ℕ) := by
    push_cast
    rfl
  rw [extended, doubled, Nat.floor_natCast, Nat.mul_mod_right, Nat.mul_div_cancel_left _ two_pos]
  simp [ExtendedMantissa.ofMantissaAndAccuracy]

section Rounding

variable {number : ℝ} {mantissa : ℕ} {exponent : ℤ} {accuracy : Accuracy}

theorem shiftToTargetExponent_eq
    (represents : ExtendedMantissa.ofMantissaAndAccuracy mantissa accuracy =
      extended (number / 2 ^ exponent))
    (fine : exponent ≤ grain number) :
    shiftToTargetExponent .binary64 mantissa exponent accuracy =
      (extended (number / 2 ^ grain number), grain number) := by
  have whole : ⌊number / 2 ^ exponent⌋₊ = mantissa := by
    rw [floor_eq_half, ← mantissa_ofMantissaAndAccuracy mantissa accuracy, represents]
    rfl
  have up : exponent + ((grain number - exponent).toNat : ℕ) = grain number := by omega
  have spacing : (2 : ℝ) ^ exponent * 2 ^ (grain number - exponent).toNat = 2 ^ grain number := by
    rw [← zpow_natCast, ← zpow_add₀ two_ne_zero, up]
  simp only [shiftToTargetExponent, targetExponent_eq_grain whole fine, shiftToExponent, represents,
    shiftRight_extended, div_div, spacing, up]

/-- A mantissa that was rounded up to a power of two has one bit more than there is room for. -/
theorem shiftToTargetExponent_carry {rounded : ℕ} {grain : ℤ} (most : rounded ≤ 2 ^ 53)
    (least : -1074 ≤ grain) :
    let shifted := shiftToTargetExponent .binary64 rounded grain .exact
    (shifted.1.mantissa, shifted.2) =
      if rounded = 2 ^ 53 then (2 ^ 52, grain + 1) else (rounded, grain) := by
  have shift : (Format.binary64.targetExponent (totalExponent rounded grain) - grain).toNat =
      if rounded = 2 ^ 53 then 1 else 0 := by
    rw [targetExponent_eq, totalExponent]
    split
    · rename_i carried
      have log : rounded.log2 = 53 := by
        rw [carried]
        decide
      omega
    · rename_i fits
      have log : rounded.log2 < 53 := by
        rcases Nat.eq_zero_or_pos rounded with zero | positive
        · rw [zero]
          decide
        · exact (Nat.log2_lt (Nat.ne_of_gt positive)).mpr (by omega)
      omega
  simp only [shiftToTargetExponent, shiftToExponent, shift]
  split
  · rename_i carried
    rw [carried]
    rfl
  · exact Prod.ext rfl (Int.add_zero grain)

theorem ordinal_pack_of_canonical {mantissa : ℕ} {exponent : ℤ}
    (canonical : Canonical mantissa exponent) :
    ordinal (.ofModel (.pack (if zero : mantissa = 0 then .zero .positive
        else .finite .positive mantissa exponent (Nat.pos_of_ne_zero zero)))) =
      min ((exponent + 1074).toNat * 2 ^ 52 + mantissa) infinityOrdinal := by
  split
  · rename_i zero
    have least : exponent = -1074 := canonical.full.resolve_right (by omega)
    rw [ordinal_pack_zero, least, zero]
    rfl
  · exact ordinal_pack_finite _ canonical

/-- Mantissa and exponent of the double nearest to a number, unless it is beyond all doubles. -/
noncomputable def nearestParts (number : ℝ) : ℕ × ℤ :=
  if units number = 2 ^ 53 then (2 ^ 52, grain number + 1) else (units number, grain number)

theorem nearestParts_canonical (number : ℝ) :
    Canonical (nearestParts number).1 (nearestParts number).2 := by
  have least := le_grain number
  have most := units_le number
  have enough := le_units number
  unfold nearestParts
  split
  · exact ⟨by norm_num, Int.le_add_one least, .inr (Nat.le_refl _)⟩
  · rename_i fits
    exact ⟨Nat.lt_of_le_of_ne most fits, least, or_iff_not_imp_left.mpr enough⟩

theorem ordinalOf_eq_nearestParts (number : ℝ) :
    ordinalOf number =
      min (((nearestParts number).2 + 1074).toNat * 2 ^ 52 + (nearestParts number).1)
        infinityOrdinal := by
  have least := le_grain number
  unfold nearestParts ordinalOf
  split
  · rename_i full
    rw [full]
    simp only
    omega
  · rfl

theorem ordinal_roundWithAccuracy
    (represents : ExtendedMantissa.ofMantissaAndAccuracy mantissa accuracy =
      extended (number / 2 ^ exponent))
    (fine : exponent ≤ grain number) :
    ordinal (.ofModel (.pack (roundWithAccuracy .binary64 .positive mantissa exponent accuracy))) =
      ordinalOf number := by
  have rounded : (extended (number / 2 ^ grain number)).roundedMantissa = units number := rfl
  have carry := shiftToTargetExponent_carry (units_le number) (le_grain number)
  have canonical := nearestParts_canonical number
  rw [ordinalOf_eq_nearestParts, nearestParts, ← carry]
  rw [nearestParts, ← carry] at canonical
  simp only [roundWithAccuracy, shiftToTargetExponent_eq represents fine, rounded]
  exact ordinal_pack_of_canonical canonical

end Rounding

theorem ofMantissaAndAccuracy_eta (mantissa : ExtendedMantissa) :
    ExtendedMantissa.ofMantissaAndAccuracy mantissa.mantissa mantissa.accuracy = mantissa := by
  rcases mantissa with ⟨_, _ | _, _ | _⟩ <;> rfl

/-- Numbers that are cut alike on a fine enough scale have the same nearest double. -/
theorem ordinalOf_eq_of_extended_eq {first second : ℝ} (exponent : ℤ) (fine : exponent ≤ -1074)
    (same : extended (first / 2 ^ exponent) = extended (second / 2 ^ exponent)) :
    ordinalOf first = ordinalOf second := by
  have cut := ofMantissaAndAccuracy_eta (extended (second / 2 ^ exponent))
  rw [← ordinal_roundWithAccuracy (cut.trans same.symm) (fine.trans (le_grain first)),
    ordinal_roundWithAccuracy cut (fine.trans (le_grain second))]

theorem ordinalOf_of_huge {number : ℝ} (huge : 2 ^ (1024 : ℤ) ≤ number) :
    ordinalOf number = infinityOrdinal := by
  have positive : 0 < number := (zpow_pos two_pos _).trans_le huge
  have log : 1024 ≤ Int.log 2 number := by
    rwa [← Int.zpow_le_iff_le_log one_lt_two positive, Nat.cast_ofNat]
  have grained := log_sub_le_grain positive
  have enough := le_units number (by omega)
  unfold ordinalOf infinityOrdinal
  omega

end Double

end FlowPriority
