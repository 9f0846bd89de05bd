import FlowPriority.Flow.Key

/-!
A hasher that rotates its state by five bits, takes in one word and multiplies by a fixed odd
number, word after word.
-/

namespace FlowPriority

def HashInput.words : HashInput → List UInt64
  | byte value => [value.toUInt64]
  | half value => [value.toUInt64]
  | word value => [value.toUInt64]
  | long value => [value]
  | wide low high => [low, high]

namespace Hasher

def absorb (state word : UInt64) : UInt64 :=
  (((state <<< 5) ||| (state >>> 59)) ^^^ word) * 0x517cc1b727220a95

def rotating : Hasher := fun inputs => (inputs.flatMap HashInput.words).foldl absorb 0

end Hasher

end FlowPriority
