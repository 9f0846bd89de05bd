/-!
Simulated time: instants on a run's logical clock, and the spans between them.

An instant counts nanoseconds in a machine word and saturates where a longer span does not fit.
The difference of two instants never goes below zero.
-/

namespace FlowPriority

/-- Brings a count into a machine word, the largest word standing for everything beyond it. -/
def saturate (count : Nat) : UInt64 :=
  UInt64.ofNat (min count (UInt64.size - 1))

theorem saturate_toNat (count : Nat) : (saturate count).toNat = min count (UInt64.size - 1) := by
  rw [saturate, UInt64.toNat_ofNat']
  exact Nat.mod_eq_of_lt (Nat.lt_of_le_of_lt (Nat.min_le_right ..) (by decide))

theorem saturate_ne_zero {count : Nat} (positive : count ≠ 0) : saturate count ≠ 0 := by
  intro zero
  have same := saturate_toNat count
  rw [zero, UInt64.size] at same
  simp only [UInt64.toNat_zero] at same
  omega

structure Span where
  nanos : Nat
deriving DecidableEq

namespace Span

def nanosPerSecond : Nat := 1000000000

def ofParts (seconds nanos : Nat) : Span := ⟨seconds * nanosPerSecond + nanos⟩

def seconds (span : Span) : Nat := span.nanos / nanosPerSecond

def subsecond (span : Span) : Nat := span.nanos % nanosPerSecond

end Span

/-- A point on the logical clock, in nanoseconds since the start of the run. -/
structure Instant where
  nanos : UInt64
deriving DecidableEq

namespace Instant

def zero : Instant := ⟨0⟩

instance : Ord Instant := ⟨compareOn (·.nanos)⟩

instance : Std.TransOrd Instant := inferInstanceAs (Std.TransCmp (compareOn _))

instance : Std.LawfulEqOrd Instant where
  eq_of_compare {first second} same := by
    have : first.nanos = second.nanos := Std.LawfulEqOrd.eq_of_compare same
    cases first
    cases second
    simp_all

instance : LT Instant := ⟨fun first second => first.nanos < second.nanos⟩

instance (first second : Instant) : Decidable (first < second) :=
  inferInstanceAs (Decidable (first.nanos < second.nanos))

instance : ToString Instant := ⟨fun instant => toString instant.nanos.toNat ++ "ns"⟩

def ofSpan (span : Span) : Instant := ⟨saturate span.nanos⟩

def ofMicros (micros : UInt64) : Instant := ⟨saturate (micros.toNat * 1000)⟩

/-- The time elapsed since `earlier`, none at all if `earlier` is later. -/
def since (instant earlier : Instant) : Span :=
  ⟨instant.nanos.toNat - earlier.nanos.toNat⟩

instance : HSub Instant Instant Span := ⟨since⟩

def bucketStart (instant : Instant) (width : UInt64) : Instant :=
  ⟨instant.nanos - instant.nanos % width⟩

inductive BucketError where
  | zeroWidth
deriving DecidableEq

def BucketError.message : BucketError → String
  | zeroWidth => "attempt to calculate the remainder with a divisor of zero"

/-- Buckets need a width: without one there is no start to round down to. -/
def bucket (instant : Instant) (width : UInt64) : Except BucketError Instant :=
  if width = 0 then .error .zeroWidth else .ok (instant.bucketStart width)

end Instant

end FlowPriority
