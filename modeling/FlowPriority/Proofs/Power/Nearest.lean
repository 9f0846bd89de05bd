import FlowPriority.Power.Basic
import FlowPriority.Proofs.Power.Enclosure

/-!
Powers are the nearest doubles.

The root of exact integers that is left as a last resort keeps one bit more than it needs, and that
bit tells whether anything was cut off. A power is therefore correctly rounded whichever way it was
found.
-/

namespace FlowPriority

namespace Power

open Double
open Float.Model (UnpackedFloat)
open Float.Model.UnpackedFloat (ExtendedMantissa Sign)

theorem floorRoot_pow_le (depth number : ℕ) : floorRoot depth number ^ 2 ^ depth ≤ number := by
  induction depth generalizing number with
  | zero => simp [floorRoot]
  | succ depth ih =>
      rw [floorRoot, floorSqrt_eq, pow_succ, pow_mul]
      calc (floorRoot depth (Nat.sqrt number) ^ 2 ^ depth) ^ 2 ≤ Nat.sqrt number ^ 2 :=
            Nat.pow_le_pow_left (ih _) 2
        _ ≤ number := Nat.sqrt_le' number

theorem lt_floorRoot_succ_pow (depth number : ℕ) :
    number < (floorRoot depth number + 1) ^ 2 ^ depth := by
  induction depth generalizing number with
  | zero => simp [floorRoot]
  | succ depth ih =>
      rw [floorRoot, floorSqrt_eq, pow_succ, pow_mul]
      calc number < (Nat.sqrt number + 1) ^ 2 := Nat.lt_succ_sqrt' number
        _ ≤ ((floorRoot depth (Nat.sqrt number) + 1) ^ 2 ^ depth) ^ 2 :=
            Nat.pow_le_pow_left (ih _) 2

section Root

variable {scaled denominator depth : ℕ} {number : ℝ}

theorem floorRoot_eq_floor (nonzero : 0 < denominator) (nonneg : 0 ≤ number)
    (power : number ^ 2 ^ depth = scaled / denominator) :
    floorRoot depth (scaled / denominator) = ⌊number⌋₊ := by
  have order : 2 ^ depth ≠ 0 := (Nat.two_pow_pos depth).ne'
  have low := floorRoot_pow_le depth (scaled / denominator)
  have high := lt_floorRoot_succ_pow depth (scaled / denominator)
  rw [eq_comm, Nat.floor_eq_iff nonneg]
  generalize floorRoot depth (scaled / denominator) = root at low high
  have below : (0 : ℝ) < denominator := Nat.cast_pos.mpr nonzero
  constructor
  · rw [← pow_le_pow_iff_left₀ (Nat.cast_nonneg _) nonneg order, power, le_div_iff₀ below]
    have reached := (Nat.le_div_iff_mul_le nonzero).mp low
    exact_mod_cast reached
  · rw [← pow_lt_pow_iff_left₀ nonneg (by positivity) order, power, div_lt_iff₀ below]
    have within := (Nat.div_lt_iff_lt_mul nonzero).mp high
    exact_mod_cast within

theorem floorRoot_exact_iff (nonzero : 0 < denominator) (nonneg : 0 ≤ number)
    (power : number ^ 2 ^ depth = scaled / denominator) (root : ℕ) :
    root ^ 2 ^ depth * denominator = scaled ↔ number = root := by
  have below : (denominator : ℝ) ≠ 0 := Nat.cast_ne_zero.mpr nonzero.ne'
  rw [← pow_left_inj₀ nonneg (Nat.cast_nonneg root) (Nat.two_pow_pos depth).ne', power,
    div_eq_iff below, eq_comm]
  exact_mod_cast Iff.rfl

end Root

/-- One more bit tells a whole number from one with something beyond, and no more is needed. -/
theorem extended_quarter (number : ℝ) :
    extended ((2 * ⌊number⌋₊ + if number = ⌊number⌋₊ then 0 else 1 : ℕ) / 4) =
      extended (number / 2) := by
  have whole : 2 * (number / 2) = number := by ring
  by_cases exact : number = ⌊number⌋₊
  · rw [if_pos exact]
    congr 1
    push_cast
    linarith
  · have cut : 2 * (((2 * ⌊number⌋₊ + 1 : ℕ) : ℝ) / 4) = ⌊number⌋₊ + 1 / 2 := by
      push_cast
      ring
    have floored : ⌊(⌊number⌋₊ + 1 / 2 : ℝ)⌋₊ = ⌊number⌋₊ := by
      rw [Nat.floor_eq_iff (by positivity)]
      constructor <;> linarith
    rw [if_neg exact]
    simp only [extended, whole, cut, floored, ExtendedMantissa.mk.injEq, true_and]
    simp [exact]

theorem ordinal_nearestRoot {numerator denominator depth : ℕ} (nonzero : 0 < denominator)
    {number : ℝ} (positive : 0 < number)
    (power : number ^ 2 ^ depth = numerator / denominator) :
    ordinal (nearestRoot numerator denominator depth) = ordinalOf number := by
  have scaledPower : (number * 2 ^ exactPrecision) ^ 2 ^ depth =
      (numerator <<< (exactPrecision <<< depth) : ℕ) / denominator := by
    rw [mul_pow, power, Nat.shiftLeft_eq, Nat.shiftLeft_eq, pow_mul]
    push_cast
    ring
  have scaledPositive : 0 < number * 2 ^ exactPrecision := by positivity
  have floored := floorRoot_eq_floor nonzero scaledPositive.le scaledPower
  have exact := floorRoot_exact_iff nonzero scaledPositive.le scaledPower
  have quarter := extended_quarter (number * 2 ^ exactPrecision)
  simp only [nearestRoot, Nat.one_shiftLeft, Nat.pow_eq, floored, exact]
  have some_set : 0 < 2 * ⌊number * 2 ^ exactPrecision⌋₊ +
      if number * 2 ^ exactPrecision = ⌊number * 2 ^ exactPrecision⌋₊ then 0 else 1 := by
    split
    · rename_i whole
      rw [whole, Nat.cast_pos] at scaledPositive
      omega
    · omega
  rw [ordinal_nearest some_set]
  apply ordinalOf_eq_of_extended_eq (1 - exactPrecision) (by decide)
  have half : number / 2 ^ (1 - exactPrecision : ℤ) = number * 2 ^ exactPrecision / 2 := by
    rw [zpow_sub₀ two_ne_zero, zpow_one, zpow_natCast]
    field_simp
  have two_places : (-(exactPrecision + 1 : ℕ) : ℤ) - (1 - exactPrecision) = -2 := by
    push_cast
    ring
  have rescaled : (2 : ℝ) ^ (-(exactPrecision + 1 : ℕ) : ℤ) / 2 ^ (1 - exactPrecision : ℤ) =
      1 / 4 := by
    rw [← zpow_sub₀ two_ne_zero, two_places]
    norm_num
  rw [half, ← quarter, mul_div_assoc, rescaled, mul_one_div]

namespace Exponent

theorem ofQuotient_proper (mantissa depth : ℕ) : (ofQuotient mantissa depth).Proper := by
  induction depth generalizing mantissa with
  | zero => simp [ofQuotient, Proper]
  | succ depth ih =>
      rw [ofQuotient]
      split
      · exact ih _
      · rw [Proper, Nat.one_shiftLeft]
        exact Nat.mod_lt _ (Nat.two_pow_pos _)

theorem ofDyadic_proper (mantissa : ℕ) (exponent : ℤ) : (ofDyadic mantissa exponent).Proper :=
  ofQuotient_proper _ _

theorem value_ofQuotient (mantissa depth : ℕ) :
    (ofQuotient mantissa depth).value = mantissa / 2 ^ depth := by
  induction depth generalizing mantissa with
  | zero => simp [ofQuotient, value]
  | succ depth ih =>
      rw [ofQuotient]
      split
      · rename_i even
        have halves : (mantissa : ℝ) = 2 * (mantissa / 2 : ℕ) := by
          exact_mod_cast (Nat.mul_div_cancel' (Nat.dvd_of_mod_eq_zero even)).symm
        rw [ih, pow_succ', halves]
        field_simp
      · have parts : (mantissa : ℝ) = 2 ^ (depth + 1) * (mantissa / 2 ^ (depth + 1) : ℕ) +
            (mantissa % 2 ^ (depth + 1) : ℕ) := by
          exact_mod_cast (Nat.div_add_mod mantissa (2 ^ (depth + 1))).symm
        simp only [value, Nat.shiftRight_eq_div_pow, Nat.one_shiftLeft]
        rw [parts]
        field_simp

theorem value_ofDyadic (mantissa : ℕ) (exponent : ℤ) :
    (ofDyadic mantissa exponent).value = mantissa * 2 ^ exponent := by
  have parts : exponent = exponent.toNat - (-exponent).toNat := by omega
  rw [ofDyadic, value_ofQuotient, Nat.shiftLeft_eq]
  conv_rhs => rw [parts, zpow_sub₀ two_ne_zero, zpow_natCast, zpow_natCast]
  push_cast
  ring

theorem numerator_eq (exponent : Exponent) :
    (exponent.numerator : ℝ) = exponent.value * 2 ^ exponent.depth := by
  rw [numerator, value, Nat.shiftLeft_eq]
  push_cast
  field_simp

end Exponent

theorem settle_eq_some {enclosure : ℕ → Enclosure} {double : Float}
    (settled : settle enclosure = some double) :
    ∃ precision, (enclosure precision).nearest? = some double := by
  obtain ⟨precision, _, found⟩ := List.exists_of_findSome?_eq_some settled
  exact ⟨precision, found⟩

theorem pow_numerator (base : ℕ) (exponent : Exponent) :
    ((base : ℝ) ^ exponent.value) ^ 2 ^ exponent.depth = base ^ exponent.numerator := by
  rw [← Real.rpow_natCast, ← Real.rpow_mul (Nat.cast_nonneg base), ← Real.rpow_natCast,
    Exponent.numerator_eq]
  push_cast
  rfl

section Raise

variable {base : ℕ} (positive : 0 < base)

include positive

theorem huge_of_guard {exponent : Exponent} (beyond : 1024 ≤ exponent.whole * base.log2) :
    (2 : ℝ) ^ (1024 : ℤ) ≤ (base : ℝ) ^ exponent.value := by
  have atLeastOne : (1 : ℝ) ≤ base := Nat.one_le_cast.mpr positive
  have whole : (exponent.whole : ℝ) ≤ exponent.value :=
    le_add_of_nonneg_right (by positivity)
  have bits : (2 : ℝ) ^ base.log2 ≤ base := by exact_mod_cast Nat.log2_self_le positive.ne'
  calc (2 : ℝ) ^ (1024 : ℤ) ≤ 2 ^ ((exponent.whole * base.log2 : ℕ) : ℤ) :=
        zpow_le_zpow_right₀ one_le_two (by exact_mod_cast beyond)
    _ = (2 ^ base.log2) ^ exponent.whole := by rw [zpow_natCast, mul_comm, pow_mul]
    _ ≤ (base : ℝ) ^ exponent.whole := pow_le_pow_left₀ (by positivity) bits _
    _ = (base : ℝ) ^ (exponent.whole : ℝ) := (Real.rpow_natCast _ _).symm
    _ ≤ (base : ℝ) ^ exponent.value := Real.rpow_le_rpow_of_exponent_le atLeastOne whole

theorem ordinal_raise {exponent : Exponent} (proper : exponent.Proper) :
    ordinal (raise base exponent) = ordinalOf ((base : ℝ) ^ exponent.value) := by
  unfold raise
  split
  · rename_i beyond
    rw [ordinalOf_of_huge (huge_of_guard positive beyond)]
    rfl
  · cases settled : settle fun precision => Enclosure.power precision base exponent with
    | some double =>
        obtain ⟨precision, found⟩ := settle_eq_some settled
        exact Enclosure.ordinal_of_nearest? (Enclosure.power_holds precision positive proper)
          (Enclosure.power_low_pos precision positive exponent) found
    | none =>
        apply ordinal_nearestRoot one_pos (Real.rpow_pos_of_pos (Nat.cast_pos.mpr positive) _)
        rw [pow_numerator, Nat.cast_one, div_one, Nat.pow_eq, Nat.cast_pow]

/-- Powers are rounded correctly. -/
theorem ordinal_power {exponent : Float} (unsigned : Unsigned exponent.toModel.unpack) :
    ordinal (power base exponent) = ordinalOf ((base : ℝ) ^ value exponent) := by
  unfold power value
  split
  · have one : base = 1 := by omega
    rw [one, Nat.cast_one, Real.one_rpow, ordinal_one]
  · generalize exponent.toModel.unpack = unpacked at unsigned
    cases unsigned with
    | zero sign => simp only [Real.rpow_zero, ordinal_one]
    | finite mantissa exponent nonzero =>
        have raised := ordinal_raise positive (Exponent.ofDyadic_proper mantissa exponent)
        rw [Exponent.value_ofDyadic] at raised
        exact raised

end Raise

end Power

end FlowPriority
