import FlowPriority.Double
import Mathlib

/-!
The order of doubles.

Doubles that are numbers are ordered by their side of zero, then by their exponents, then by their
mantissas. Among those that are not negative the bits count up in the same order, so that a double
is as good as the natural number that its bits stand for.
-/

namespace FlowPriority

namespace Double

open Float.Model (UnpackedFloat Format)
open Float.Model.UnpackedFloat

/-- Where a double stands: its side of zero, then exponent and mantissa, upside down below zero. -/
def rank : UnpackedFloat → ℤ ×ₗ ℤ ×ₗ ℤ
  | .notANumber => toLex (0, toLex (0, 0))
  | .infinity .negative => toLex (-2, toLex (0, 0))
  | .finite .negative mantissa exponent _ => toLex (-1, toLex (-exponent, -mantissa))
  | .zero _ => toLex (0, toLex (0, 0))
  | .finite .positive mantissa exponent _ => toLex (1, toLex (exponent, mantissa))
  | .infinity .positive => toLex (2, toLex (0, 0))

section Rank

variable (exponent exponent' : ℤ) (mantissa mantissa' : ℕ)

theorem isLE_then_iff :
    ((compare exponent exponent').then (compare mantissa mantissa')).isLE = true ↔
      exponent < exponent' ∨ exponent = exponent' ∧ mantissa ≤ mantissa' := by
  rw [Ordering.isLE_then_iff_or, Int.compare_eq_lt, Int.compare_eq_eq, Nat.isLE_compare]

theorem isGE_then_iff :
    ((compare exponent exponent').then (compare mantissa mantissa')).isGE = true ↔
      exponent' < exponent ∨ exponent = exponent' ∧ mantissa' ≤ mantissa := by
  rw [← Ordering.isLE_swap, Ordering.swap_then, Int.compare_swap, Nat.compare_swap, isLE_then_iff,
    eq_comm]

theorem unpacked_le_iff (first second : UnpackedFloat) :
    first.le second = true ↔
      first ≠ .notANumber ∧ second ≠ .notANumber ∧ rank first ≤ rank second := by
  rcases first with (_ | _) | _ | _ | ⟨_ | _, mantissa, exponent, _⟩ <;>
    rcases second with (_ | _) | _ | _ | ⟨_ | _, mantissa', exponent', _⟩ <;>
    simp [UnpackedFloat.le, UnpackedFloat.compare, rank, Prod.Lex.toLex_le_toLex, isLE_then_iff,
      isGE_then_iff]
  all_goals rfl

theorem then_eq_lt_iff :
    (compare exponent exponent').then (compare mantissa mantissa') = .lt ↔
      exponent < exponent' ∨ exponent = exponent' ∧ mantissa < mantissa' := by
  rw [Ordering.then_eq_lt, Int.compare_eq_lt, Int.compare_eq_eq, Nat.compare_eq_lt]

theorem then_eq_gt_iff :
    (compare exponent exponent').then (compare mantissa mantissa') = .gt ↔
      exponent' < exponent ∨ exponent = exponent' ∧ mantissa' < mantissa := by
  rw [Ordering.then_eq_gt, Int.compare_eq_gt, Int.compare_eq_eq, Nat.compare_eq_gt]

theorem unpacked_lt_iff (first second : UnpackedFloat) :
    first.lt second = true ↔
      first ≠ .notANumber ∧ second ≠ .notANumber ∧ rank first < rank second := by
  rcases first with (_ | _) | _ | _ | ⟨_ | _, mantissa, exponent, _⟩ <;>
    rcases second with (_ | _) | _ | _ | ⟨_ | _, mantissa', exponent', _⟩ <;>
    simp [UnpackedFloat.lt, UnpackedFloat.compare, rank, Prod.Lex.toLex_lt_toLex, then_eq_lt_iff,
      then_eq_gt_iff]
  all_goals rfl

end Rank

theorem le_iff_unpack (first second : Float) :
    first ≤ second ↔ first.toModel.unpack ≠ .notANumber ∧ second.toModel.unpack ≠ .notANumber ∧
      rank first.toModel.unpack ≤ rank second.toModel.unpack := by
  rw [← unpacked_le_iff]
  change decide (first.toModel ≤ second.toModel) = true ↔ _
  rw [decide_eq_true_iff]
  rfl

theorem le_trans {first second third : Float} (lower : first ≤ second) (upper : second ≤ third) :
    first ≤ third := by
  rw [le_iff_unpack] at lower upper ⊢
  exact ⟨lower.1, upper.2.1, lower.2.2.trans upper.2.2⟩

theorem lt_iff_unpack (first second : Float) :
    first < second ↔ first.toModel.unpack ≠ .notANumber ∧ second.toModel.unpack ≠ .notANumber ∧
      rank first.toModel.unpack < rank second.toModel.unpack := by
  rw [← unpacked_lt_iff]
  change decide (first.toModel < second.toModel) = true ↔ _
  rw [decide_eq_true_iff]
  rfl

theorem isNaN_eq_false_iff (double : Float) :
    double.isNaN = false ↔ double.toModel.unpack ≠ .notANumber := by
  rw [Float.isNaN, Float.Model.isNaN]
  cases double.toModel.unpack <;> simp [UnpackedFloat.isNaN]

/-- Every number is in order with itself, and nothing else is. -/
theorem le_self_iff (double : Float) : double ≤ double ↔ double.isNaN = false := by
  rw [le_iff_unpack, isNaN_eq_false_iff]
  simp

theorem numbers_of_le {first second : Float} (ordered : first ≤ second) :
    first.isNaN = false ∧ second.isNaN = false := by
  rw [le_iff_unpack] at ordered
  rw [isNaN_eq_false_iff, isNaN_eq_false_iff]
  exact ⟨ordered.1, ordered.2.1⟩

theorem not_le_iff {first second : Float} (number : first.isNaN = false)
    (number' : second.isNaN = false) : ¬first ≤ second ↔ second < first := by
  rw [isNaN_eq_false_iff] at number number'
  rw [le_iff_unpack, lt_iff_unpack]
  simp [number, number']

theorem lt_of_lt_of_le {first second third : Float} (lower : first < second)
    (upper : second ≤ third) : first < third := by
  rw [lt_iff_unpack] at lower ⊢
  rw [le_iff_unpack] at upper
  exact ⟨lower.1, upper.2.1, lower.2.2.trans_le upper.2.2⟩

theorem not_le_of_lt {first second : Float} (below : first < second) : ¬second ≤ first := by
  rw [lt_iff_unpack] at below
  rw [le_iff_unpack]
  exact fun ordered => below.2.2.not_ge ordered.2.2

def ordinal (double : Float) : ℕ := double.toModel.toBits.toNat

def infinityOrdinal : ℕ := 2047 * 2 ^ 52

/-- How often the spacing of doubles has doubled up to an ordinal. -/
def binade (ordinal : ℕ) : ℕ := ordinal / 2 ^ 52 - 1

theorem eq_of_ordinal_eq {first second : Float} (same : ordinal first = ordinal second) :
    first = second := by
  obtain ⟨⟨firstBits, _⟩⟩ := first
  obtain ⟨⟨secondBits, _⟩⟩ := second
  cases UInt64.toNat_inj.mp same
  rfl

theorem binade_mul_lt {ordinal : ℕ} (positive : ordinal ≠ 0) :
    binade ordinal * 2 ^ 52 < ordinal := by
  unfold binade
  omega

theorem bias_eq :
    (Format.binary64.exponentBias : ℤ) + Format.binary64.mantissaBitsWithoutImplicit = 1075 := rfl

section Bits

variable (bits : BitVec Format.binary64.numBits)

theorem unpackExponent_toNat :
    (unpackExponent bits).toNat = bits.toNat / 2 ^ 52 % 2 ^ 11 := by
  rw [unpackExponent, BitVec.toNat_cast, BitVec.extractLsb_toNat, Nat.shiftRight_eq_div_pow]
  rfl

theorem unpackMantissa_toNat : (unpackMantissa bits).toNat = bits.toNat % 2 ^ 52 := by
  rw [unpackMantissa, BitVec.toNat_cast, BitVec.extractLsb_toNat, Nat.shiftRight_zero]
  rfl

theorem unpackSign_toNat : (unpackSign bits).toNat = bits.toNat / 2 ^ 63 % 2 := by
  rw [unpackSign, BitVec.toNat_cast, BitVec.extractLsb_toNat, Nat.shiftRight_eq_div_pow]
  rfl

theorem implicit_toNat : (1#1 ++ unpackMantissa bits).toNat = 2 ^ 52 + bits.toNat % 2 ^ 52 := by
  rw [BitVec.toNat_append, ← Nat.shiftLeft_add_eq_or_of_lt (unpackMantissa bits).isLt,
    unpackMantissa_toNat]
  rfl

theorem packComponents_toNat (exponent : BitVec 11) (mantissa : BitVec 52) :
    (packComponents .binary64 .positive exponent mantissa).toNat =
      exponent.toNat * 2 ^ 52 + mantissa.toNat := by
  have unsigned : (Sign.toBitVec .positive).toNat = 0 := rfl
  rw [packComponents, BitVec.toNat_append, BitVec.toNat_append,
    ← Nat.shiftLeft_add_eq_or_of_lt mantissa.isLt, ← Nat.shiftLeft_add_eq_or_of_lt exponent.isLt,
    unsigned, Nat.zero_shiftLeft, Nat.zero_add, Nat.shiftLeft_eq]

theorem unpack_of_bounded (positive : bits.toNat ≠ 0) (bounded : bits.toNat < infinityOrdinal) :
    UnpackedFloat.unpack .binary64 bits =
      .finite .positive (bits.toNat - binade bits.toNat * 2 ^ 52) (binade bits.toNat - 1074)
        (Nat.sub_pos_of_lt (binade_mul_lt positive)) := by
  unfold infinityOrdinal at bounded
  have sign : unpackSign bits = 0#1 := by
    apply BitVec.eq_of_toNat_eq
    rw [unpackSign_toNat, BitVec.toNat_ofNat]
    omega
  have exponent : (unpackExponent bits).toNat = bits.toNat / 2 ^ 52 := by
    rw [unpackExponent_toNat]
    exact Nat.mod_eq_of_lt (by omega)
  have below : unpackExponent bits ≠ -1#11 := by
    intro full
    have quotient : bits.toNat / 2 ^ 52 = 2047 := exponent.symm.trans (congrArg BitVec.toNat full)
    omega
  have bias := bias_eq
  have implicit := implicit_toNat bits
  simp only [UnpackedFloat.unpack, sign, if_neg below]
  by_cases subnormal : bits.toNat < 2 ^ 52
  · have unset : unpackExponent bits = 0#11 := by
      apply BitVec.eq_of_toNat_eq
      rw [exponent, BitVec.toNat_ofNat, Nat.zero_mod]
      omega
    have nonzero : unpackMantissa bits ≠ 0#52 := by
      intro empty
      have zero := congrArg BitVec.toNat empty
      rw [unpackMantissa_toNat, BitVec.toNat_ofNat, Nat.zero_mod] at zero
      omega
    rw [if_pos unset, dif_neg nonzero]
    simp only [finite.injEq, exponent, unpackMantissa_toNat, binade, bias]
    exact ⟨rfl, by omega, by omega⟩
  · have set : unpackExponent bits ≠ 0#11 := by
      intro empty
      have zero := congrArg BitVec.toNat empty
      rw [exponent, BitVec.toNat_ofNat, Nat.zero_mod] at zero
      omega
    rw [if_neg set]
    simp only [finite.injEq, exponent, implicit, binade, bias]
    exact ⟨rfl, by omega, by omega⟩

end Bits

section Unpack

variable {double : Float}

theorem unpack_of_ordinal_eq_zero (zero : ordinal double = 0) :
    double.toModel.unpack = .zero .positive := by
  have bits : double.toModel.toBits.toBitVec = 0#64 := BitVec.eq_of_toNat_eq zero
  rw [Float.Model.unpack, bits]
  rfl

theorem unpack_of_ordinal_eq_infinity (top : ordinal double = infinityOrdinal) :
    double.toModel.unpack = .infinity .positive := by
  have bits : double.toModel.toBits.toBitVec = infinity.toModel.toBits.toBitVec :=
    BitVec.eq_of_toNat_eq top
  rw [Float.Model.unpack, bits]
  rfl

theorem unpack_of_ordinal (positive : ordinal double ≠ 0)
    (bounded : ordinal double < infinityOrdinal) :
    double.toModel.unpack =
      .finite .positive (ordinal double - binade (ordinal double) * 2 ^ 52)
        (binade (ordinal double) - 1074) (Nat.sub_pos_of_lt (binade_mul_lt positive)) :=
  unpack_of_bounded _ positive bounded

theorem unpack_ne_notANumber (bounded : ordinal double ≤ infinityOrdinal) :
    double.toModel.unpack ≠ .notANumber := by
  by_cases zero : ordinal double = 0
  · simp [unpack_of_ordinal_eq_zero zero]
  · rcases bounded.lt_or_eq with finite | top
    · simp [unpack_of_ordinal zero finite]
    · simp [unpack_of_ordinal_eq_infinity top]

theorem isFinite_of_ordinal_lt (finite : ordinal double < infinityOrdinal) :
    double.isFinite = true := by
  rw [Float.isFinite, Float.Model.isFinite]
  by_cases zero : ordinal double = 0
  · rw [unpack_of_ordinal_eq_zero zero]
    rfl
  · rw [unpack_of_ordinal zero finite]
    rfl

end Unpack

/-- What doubles unpack into: all 53 bits are in use, except at the least exponent. -/
structure Canonical (mantissa : ℕ) (exponent : ℤ) : Prop where
  fits : mantissa < 2 ^ 53
  least : -1074 ≤ exponent
  full : exponent = -1074 ∨ 2 ^ 52 ≤ mantissa

theorem canonical_of_unpack {bits : BitVec Format.binary64.numBits} {sign : Sign} {mantissa : ℕ}
    {exponent : ℤ} {positive : 0 < mantissa}
    (unpacked : UnpackedFloat.unpack .binary64 bits = .finite sign mantissa exponent positive) :
    Canonical mantissa exponent := by
  have below := unpackMantissa_toNat bits
  have bias := bias_eq
  have implicit := implicit_toNat bits
  simp only [UnpackedFloat.unpack, bias] at unpacked
  split at unpacked
  · split at unpacked <;> cases unpacked
  · split at unpacked
    · rename_i unset
      split at unpacked
      · cases unpacked
      · obtain ⟨_, rfl, rfl⟩ := finite.inj unpacked
        rw [unset, below, BitVec.toNat_ofNat, Nat.zero_mod]
        exact ⟨by omega, by omega, by omega⟩
    · rename_i set
      have nonzero : (unpackExponent bits).toNat ≠ 0 := by
        intro zero
        exact set (BitVec.eq_of_toNat_eq (by rw [zero, BitVec.toNat_ofNat, Nat.zero_mod]))
      obtain ⟨_, rfl, rfl⟩ := finite.inj unpacked
      rw [implicit]
      exact ⟨by omega, by omega, by omega⟩

theorem ordinal_pack_zero : ordinal (.ofModel (.pack (.zero .positive))) = 0 := rfl

theorem ordinal_pack_finite {mantissa : ℕ} {exponent : ℤ} (positive : 0 < mantissa)
    (canonical : Canonical mantissa exponent) :
    ordinal (.ofModel (.pack (.finite .positive mantissa exponent positive))) =
      min ((exponent + 1074).toNat * 2 ^ 52 + mantissa) infinityOrdinal := by
  obtain ⟨fits, least, full⟩ := canonical
  have biased : (exponent + (Format.binary64.exponentBias : ℤ) +
      Format.binary64.mantissaBitsWithoutImplicit).toNat = (exponent + 1074).toNat + 1 := by
    change (exponent + 1023 + 52).toNat = _
    omega
  have normal : mantissa.log2 + 1 = Format.binary64.mantissaBits ↔ 2 ^ 52 ≤ mantissa := by
    change mantissa.log2 + 1 = 53 ↔ _
    have within := (Nat.log2_lt (Nat.ne_of_gt positive)).mpr fits
    rw [← Nat.le_log2 (Nat.ne_of_gt positive)]
    omega
  have top : (packedInfinity .binary64 .positive).toNat = 2047 * 2 ^ 52 := rfl
  change (UnpackedFloat.pack .binary64 _).toNat = _
  simp only [UnpackedFloat.pack, biased, normal, infinityOrdinal]
  split
  · rw [top]
    omega
  · split
    · rw [packComponents_toNat, BitVec.toNat_ofNat, BitVec.toNat_ofNat]
      omega
    · rw [packComponents_toNat, BitVec.toNat_ofNat, BitVec.toNat_ofNat]
      omega

theorem rank_le_of_ordinal_le {first second : Float} (lower : ordinal first ≤ ordinal second)
    (bounded : ordinal second ≤ infinityOrdinal) :
    rank first.toModel.unpack ≤ rank second.toModel.unpack := by
  rcases lower.lt_or_eq with below | same
  · have positive : ordinal second ≠ 0 := Nat.ne_of_gt (Nat.zero_lt_of_lt below)
    have finite : ordinal first < infinityOrdinal := below.trans_le bounded
    by_cases zero : ordinal first = 0
    · rw [unpack_of_ordinal_eq_zero zero]
      rcases bounded.lt_or_eq with within | top
      · simp [unpack_of_ordinal positive within, rank, Prod.Lex.toLex_le_toLex]
      · simp [unpack_of_ordinal_eq_infinity top, rank, Prod.Lex.toLex_le_toLex]
    · rw [unpack_of_ordinal zero finite]
      rcases bounded.lt_or_eq with within | top
      · rw [unpack_of_ordinal positive within]
        simp only [rank, Prod.Lex.toLex_le_toLex, binade, lt_self_iff_false, true_and, false_or]
        omega
      · simp [unpack_of_ordinal_eq_infinity top, rank, Prod.Lex.toLex_le_toLex]
  · rw [eq_of_ordinal_eq same]

theorem le_of_ordinal_le {first second : Float} (lower : ordinal first ≤ ordinal second)
    (bounded : ordinal second ≤ infinityOrdinal) : first ≤ second := by
  rw [le_iff_unpack]
  exact ⟨unpack_ne_notANumber (lower.trans bounded), unpack_ne_notANumber bounded,
    rank_le_of_ordinal_le lower bounded⟩

end Double

end FlowPriority
