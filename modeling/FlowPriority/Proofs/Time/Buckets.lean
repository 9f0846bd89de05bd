import FlowPriority.Time
import Mathlib.Data.UInt

/-!
Rounding an instant down to the start of its bucket.

Whatever the width, if there is one, the start is the only multiple of it, among all integers, from
which the instant is less than a width away. Buckets keep the order of their instants, and rounding
to a multiple of a width is not changed by rounding to the width first.
-/

namespace FlowPriority

namespace Instant

variable (instant : Instant) {width : UInt64}

theorem eq_iff_toNat_eq (first second : Instant) :
    first = second ↔ first.nanos.toNat = second.nanos.toNat := by
  rw [UInt64.toNat_inj]
  cases first
  cases second
  simp

/-- What is taken off an instant never exceeds it. -/
theorem rest_le (width : UInt64) : instant.nanos % width ≤ instant.nanos := by
  rw [UInt64.le_iff_toNat_le, UInt64.toNat_mod]
  exact Nat.mod_le ..

theorem bucketStart_toNat (width : UInt64) :
    (instant.bucketStart width).nanos.toNat =
      instant.nanos.toNat - instant.nanos.toNat % width.toNat := by
  rw [bucketStart, UInt64.toNat_sub_of_le _ _ (instant.rest_le width), UInt64.toNat_mod]

theorem bucketStart_toNat_eq_mul (width : UInt64) :
    (instant.bucketStart width).nanos.toNat =
      instant.nanos.toNat / width.toNat * width.toNat := by
  rw [bucketStart_toNat, Nat.div_mul_self_eq_mod_sub_self]

theorem bucket_eq_ok (positive : width ≠ 0) :
    instant.bucket width = .ok (instant.bucketStart width) :=
  if_neg positive

/-- A multiple of the width with the instant less than a width after it is the start. -/
theorem start_unique (positive : width ≠ 0) (start : ℤ) :
    ((width.toNat : ℤ) ∣ start ∧ start ≤ instant.nanos.toNat ∧
        instant.nanos.toNat < start + width.toNat) ↔
      start = (instant.bucketStart width).nanos.toNat := by
  have width_pos : 0 < width.toNat := by
    apply Nat.pos_of_ne_zero
    intro zero
    exact positive (UInt64.toNat_inj.mp zero)
  rw [bucketStart_toNat_eq_mul]
  constructor
  · rintro ⟨⟨count, rfl⟩, begun, unfinished⟩
    -- The bounds leave a remainder short of a width, and so make `count` the quotient.
    have quotient : (instant.nanos.toNat : ℤ) / width.toNat = count :=
      (Int.ediv_emod_unique (r := instant.nanos.toNat - width.toNat * count) (by omega)).mpr
        ⟨by omega, by omega, by omega⟩ |>.1
    rw [← quotient, Int.mul_comm]
    push_cast
    rfl
  · rintro rfl
    have parts := Nat.div_add_mod' instant.nanos.toNat width.toNat
    have rest := Nat.mod_lt instant.nanos.toNat width_pos
    refine ⟨?_, by omega, by omega⟩
    push_cast
    exact Int.dvd_mul_left ..

/-- An instant lies in the bucket that starts at a multiple of the width. -/
theorem bucketStart_eq_iff (start : Instant) (positive : width ≠ 0)
    (aligned : width.toNat ∣ start.nanos.toNat) :
    instant.bucketStart width = start ↔
      start.nanos.toNat ≤ instant.nanos.toNat ∧
        instant.nanos.toNat < start.nanos.toNat + width.toNat := by
  have unique := instant.start_unique positive start.nanos.toNat
  rw [Int.natCast_dvd_natCast, and_iff_right aligned] at unique
  rw [eq_comm, eq_iff_toNat_eq]
  omega

theorem bucketStart_mono {earlier later : Instant} (ordered : earlier.nanos ≤ later.nanos)
    (width : UInt64) : (earlier.bucketStart width).nanos ≤ (later.bucketStart width).nanos := by
  rw [UInt64.le_iff_toNat_le] at ordered ⊢
  rw [bucketStart_toNat_eq_mul, bucketStart_toNat_eq_mul]
  exact Nat.mul_le_mul_right _ (Nat.div_le_div_right ordered)

theorem bucketStart_bucketStart {wide : UInt64} (nested : width.toNat ∣ wide.toNat) :
    (instant.bucketStart width).bucketStart wide = instant.bucketStart wide := by
  obtain ⟨count, same⟩ := nested
  have start := instant.bucketStart_toNat width
  rw [bucketStart_toNat_eq_mul, Nat.mul_comm] at start
  rw [eq_iff_toNat_eq, bucketStart_toNat, bucketStart_toNat, bucketStart_toNat, same, ← start,
    Nat.mul_mod_mul_left, Nat.mod_mul, Nat.sub_add_eq, ← start]

end Instant

end FlowPriority
