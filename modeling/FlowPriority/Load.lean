import FlowPriority.ConfigError
import FlowPriority.Time
import Std.Data.ExtTreeMap

/-!
The load series of a node: bytes seen per time bucket, in time order.

It serves reporting only and never feeds back into scheduling.
-/

namespace FlowPriority

structure Load where
  /-- Width of a bucket in nanoseconds. -/
  width : UInt64
  width_ne_zero : width ≠ 0
  /-- Bytes by the start of their bucket. -/
  buckets : Std.ExtTreeMap Instant UInt64

namespace Load

def ofWidth (width : Span) : Except ConfigError Load :=
  if positive : width.nanos ≠ 0 then
    .ok ⟨saturate width.nanos, saturate_ne_zero positive, ∅⟩
  else .error .emptyLoadBucket

def record (load : Load) (now : Instant) (bytes : UInt32) : Load :=
  { load with
    buckets := load.buckets.alter (now.bucketStart load.width) fun known =>
      some (known.getD 0 + bytes.toUInt64) }

def get? (load : Load) (start : Instant) : Option UInt64 := load.buckets[start]?

theorem get?_record (load : Load) (now start : Instant) (bytes : UInt32) :
    (load.record now bytes).get? start =
      if now.bucketStart load.width = start then some ((load.get? start).getD 0 + bytes.toUInt64)
      else load.get? start := by
  simp only [get?, record, Std.ExtTreeMap.getElem?_alter, Std.LawfulEqOrd.compare_eq_iff_eq]
  split
  · rename_i same
    rw [same]
  · rfl

def size (load : Load) : Nat := load.buckets.size

def isEmpty (load : Load) : Bool := load.buckets.isEmpty

def toList (load : Load) : List (Instant × UInt64) := load.buckets.toList

def total (load : Load) : UInt64 := load.toList.foldl (fun sum bucket => sum + bucket.2) 0

def rates (load : Load) : List (Instant × Float) :=
  let scale := 1000000000.0 / load.width.toFloat
  load.toList.map fun (start, bytes) => (start, bytes.toFloat * scale)

end Load

end FlowPriority
