/-!
Sets of characters given by the code points at which membership changes.

A set is an ascending array: a character belongs to it when an odd number of entries lie at or
below its code point, so that even places open a range and odd places close it.
-/

namespace FlowPriority.Text

def inRanges (boundaries : Array Nat) (char : Char) : Bool :=
  boundaries.countP (· ≤ char.toNat) % 2 == 1

end FlowPriority.Text
