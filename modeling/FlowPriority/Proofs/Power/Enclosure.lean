import FlowPriority.Power.Enclosure
import FlowPriority.Proofs.Double.Arithmetic
import Mathlib.Analysis.SpecialFunctions.Pow.Real

/-!
Enclosed powers.

A square root rounded down or up bounds the real root, and so a power taken bit by bit stays between
its two bounds. Where both round to one double, that is the double nearest to the power.
-/

namespace FlowPriority

namespace Power

theorem improveRoot_eq (number guess : ℕ) :
    improveRoot number guess = Nat.sqrt.iter number guess := by
  induction guess using improveRoot.induct number with
  | case1 guess lower ih =>
      rw [improveRoot, if_pos lower, ih]
      conv_rhs => rw [Nat.sqrt.iter]
      rw [dif_pos lower]
  | case2 guess settled =>
      rw [improveRoot, if_neg settled, Nat.sqrt.iter, dif_neg settled]

theorem floorSqrt_eq (number : ℕ) : floorSqrt number = Nat.sqrt number := by
  rw [floorSqrt, improveRoot_eq, Nat.sqrt]

theorem floorSqrt_le (number : ℕ) : (floorSqrt number : ℝ) ≤ √number := by
  rw [floorSqrt_eq]
  exact Real.nat_sqrt_le_real_sqrt

theorem le_ceilSqrt (number : ℕ) : √number ≤ ceilSqrt number := by
  unfold ceilSqrt
  split
  · rename_i square
    rw [Real.sqrt_le_left (Nat.cast_nonneg _), pow_two]
    exact_mod_cast square.ge
  · rw [floorSqrt_eq, Nat.cast_add, Nat.cast_one]
    exact Real.real_sqrt_le_nat_sqrt_succ

noncomputable def partialPower (base fraction bits : ℕ) : ℝ :=
  (base : ℝ) ^ ((fraction % 2 ^ bits : ℕ) / 2 ^ bits : ℝ)

section Bits

variable (precision : ℕ) {base : ℕ} (fraction bits : ℕ)

theorem partialPower_zero : partialPower base fraction 0 = 1 := by
  simp [partialPower, Nat.mod_one]

theorem partialPower_succ (positive : 0 < base) :
    partialPower base fraction (bits + 1) =
      √(bitFactor base fraction bits * partialPower base fraction bits) := by
  have nonzero : (0 : ℝ) < base := Nat.cast_pos.mpr positive
  have factor : (bitFactor base fraction bits : ℝ) =
      (base : ℝ) ^ ((fraction / 2 ^ bits % 2 : ℕ) : ℝ) := by
    rw [bitFactor, Nat.testBit_eq_decide_div_mod_eq]
    rcases Nat.mod_two_eq_zero_or_one (fraction / 2 ^ bits) with unset | set
    · simp [unset]
    · simp [set]
  rw [factor, partialPower, partialPower, Real.sqrt_eq_rpow, ← Real.rpow_add nonzero,
    ← Real.rpow_mul nonzero.le, Nat.mod_pow_succ]
  congr 1
  push_cast
  field_simp
  ring

theorem partialPower_nonneg (base : ℕ) : 0 ≤ partialPower base fraction bits :=
  Real.rpow_nonneg (Nat.cast_nonneg base) _

theorem sqrt_scaled {number : ℝ} (nonneg : 0 ≤ number) :
    √(number * 2 ^ precision * 2 ^ precision) = √number * 2 ^ precision := by
  rw [mul_assoc, ← pow_two, Real.sqrt_mul nonneg, Real.sqrt_sq (by positivity)]

theorem lowerPower_le (positive : 0 < base) :
    (lowerPower precision base fraction bits : ℝ) ≤
      partialPower base fraction bits * 2 ^ precision := by
  induction bits with
  | zero => simp [lowerPower, partialPower_zero, Nat.shiftLeft_eq]
  | succ bit ih =>
      have nonneg := partialPower_nonneg fraction bit base
      rw [lowerPower, partialPower_succ fraction bit positive]
      refine (floorSqrt_le _).trans ?_
      rw [Nat.shiftLeft_eq, ← sqrt_scaled precision (by positivity)]
      apply Real.sqrt_le_sqrt
      push_cast
      rw [mul_assoc _ (partialPower base fraction bit)]
      gcongr

theorem le_upperPower (positive : 0 < base) :
    partialPower base fraction bits * 2 ^ precision ≤
      (upperPower precision base fraction bits : ℝ) := by
  induction bits with
  | zero => simp [upperPower, partialPower_zero, Nat.shiftLeft_eq]
  | succ bit ih =>
      have nonneg := partialPower_nonneg fraction bit base
      rw [upperPower, partialPower_succ fraction bit positive]
      refine le_trans ?_ (le_ceilSqrt _)
      rw [Nat.shiftLeft_eq, ← sqrt_scaled precision (by positivity)]
      apply Real.sqrt_le_sqrt
      push_cast
      rw [mul_assoc _ (partialPower base fraction bit)]
      gcongr

theorem le_lowerPower (positive : 0 < base) :
    2 ^ precision ≤ lowerPower precision base fraction bits := by
  induction bits with
  | zero => simp [lowerPower, Nat.shiftLeft_eq]
  | succ bit ih =>
      have factor : 1 ≤ bitFactor base fraction bit := by
        unfold bitFactor
        split
        · exact positive
        · exact Nat.le_refl 1
      rw [lowerPower, floorSqrt_eq, Nat.shiftLeft_eq, Nat.le_sqrt]
      exact Nat.mul_le_mul_right _ (le_mul_of_one_le_of_le factor ih)

end Bits

noncomputable def Exponent.value (exponent : Exponent) : ℝ :=
  exponent.whole + exponent.fraction / 2 ^ exponent.depth

def Exponent.Proper (exponent : Exponent) : Prop := exponent.fraction < 2 ^ exponent.depth

namespace Enclosure

structure Holds (enclosed : Enclosure) (number : ℝ) : Prop where
  low : enclosed.low ≤ number * 2 ^ enclosed.scale
  high : number * 2 ^ enclosed.scale ≤ enclosed.high

theorem power_holds (precision : ℕ) {base : ℕ} (positive : 0 < base) {exponent : Exponent}
    (proper : exponent.Proper) :
    (power precision base exponent).Holds ((base : ℝ) ^ exponent.value) := by
  have split : (base : ℝ) ^ exponent.value =
      base ^ exponent.whole * partialPower base exponent.fraction exponent.depth := by
    rw [Exponent.value, Real.rpow_add (Nat.cast_pos.mpr positive), Real.rpow_natCast, partialPower,
      Nat.mod_eq_of_lt proper]
  have lower := lowerPower_le precision exponent.fraction exponent.depth positive
  have upper := le_upperPower precision exponent.fraction exponent.depth positive
  constructor
  · rw [split, mul_assoc, power, Nat.pow_eq, Nat.cast_mul, Nat.cast_pow]
    gcongr
  · rw [split, mul_assoc, power, Nat.pow_eq, Nat.cast_mul, Nat.cast_pow]
    gcongr

theorem power_low_pos (precision : ℕ) {base : ℕ} (positive : 0 < base) (exponent : Exponent) :
    0 < (power precision base exponent).low :=
  Nat.mul_pos (Nat.pow_pos positive)
    ((Nat.two_pow_pos precision).trans_le (le_lowerPower precision _ _ positive))

theorem ordinal_of_nearest? {enclosed : Enclosure} {number : ℝ} {double : Float}
    (holds : enclosed.Holds number) (positive : 0 < enclosed.low)
    (settled : enclosed.nearest? = some double) :
    Double.ordinal double = Double.ordinalOf number := by
  have ordered : enclosed.low ≤ enclosed.high := by exact_mod_cast holds.low.trans holds.high
  unfold nearest? at settled
  simp only [Option.ite_none_right_eq_some, Option.some_inj] at settled
  obtain ⟨same, rfl⟩ := settled
  apply le_antisymm
  · rw [Double.ordinal_nearest positive, zpow_neg, zpow_natCast, ← div_eq_mul_inv]
    exact Double.ordinalOf_mono ((div_le_iff₀ (by positivity)).mpr holds.low)
  · rw [same, Double.ordinal_nearest (positive.trans_le ordered), zpow_neg, zpow_natCast,
      ← div_eq_mul_inv]
    exact Double.ordinalOf_mono ((le_div_iff₀ (by positivity)).mpr holds.high)

end Enclosure

end Power

end FlowPriority
