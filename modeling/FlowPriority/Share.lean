/-!
Shares of byte counts, and the binary units that byte counts are given in.
-/

namespace FlowPriority

/-- A part of a whole as a fraction, nothing being the share of an empty whole. -/
def share (part whole : UInt64) : Float :=
  if whole = 0 then 0.0 else part.toFloat / whole.toFloat

theorem share_of_empty (part : UInt64) : share part 0 = 0.0 := rfl

def kibibyte : UInt32 := 1024

def mebibyte : UInt32 := 1024 * kibibyte

def gibibyte : UInt32 := 1024 * mebibyte

end FlowPriority
