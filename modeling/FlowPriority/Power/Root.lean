/-!
Square roots of natural numbers, rounded down and rounded up.
-/

namespace FlowPriority.Power

/-- Lowers a guess that is not below the root as long as averaging brings it down. -/
def improveRoot (number guess : Nat) : Nat :=
  if (guess + number / guess) / 2 < guess then improveRoot number ((guess + number / guess) / 2)
  else guess
termination_by guess

def floorSqrt (number : Nat) : Nat :=
  if number ≤ 1 then number else improveRoot number (1 <<< (number.log2 / 2 + 1))

def ceilSqrt (number : Nat) : Nat :=
  if floorSqrt number * floorSqrt number = number then floorSqrt number else floorSqrt number + 1

/-- The root of order `2 ^ depth`, rounded down. -/
def floorRoot : (depth number : Nat) → Nat
  | 0, number => number
  | depth + 1, number => floorRoot depth (floorSqrt number)

end FlowPriority.Power
