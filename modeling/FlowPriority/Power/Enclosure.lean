import FlowPriority.Double
import FlowPriority.Power.Root

/-!
Powers of natural numbers with binary fractions as exponents, enclosed between two natural numbers
on a common scale.

The bits of a fraction are taken from the least significant one up: if `r` is the power for the
lower bits, then the root of `r` times the base or times one is the power for one bit more. Rounding
every root down gives the lower end, rounding every root up the upper end.
-/

namespace FlowPriority.Power

/-- The non-negative number `whole + fraction / 2 ^ depth`, with `fraction` below `2 ^ depth`. -/
structure Exponent where
  whole : Nat
  fraction : Nat
  depth : Nat

/-- The number `mantissa / 2 ^ depth` in lowest terms, with its whole part split off. -/
def Exponent.ofQuotient (mantissa : Nat) : (depth : Nat) → Exponent
  | 0 => ⟨mantissa, 0, 0⟩
  | depth + 1 =>
    if mantissa % 2 = 0 then ofQuotient (mantissa / 2) depth
    else ⟨mantissa >>> (depth + 1), mantissa % (1 <<< (depth + 1)), depth + 1⟩

def Exponent.ofDyadic (mantissa : Nat) (exponent : Int) : Exponent :=
  ofQuotient (mantissa <<< exponent.toNat) (-exponent).toNat

/-- The number times `2 ^ depth`. -/
def Exponent.numerator (exponent : Exponent) : Nat :=
  (exponent.whole <<< exponent.depth) + exponent.fraction

/-- A number known to lie between `low / 2 ^ scale` and `high / 2 ^ scale`. -/
structure Enclosure where
  low : Nat
  high : Nat
  scale : Nat

/-- The factor that one bit of an exponent stands for. -/
def bitFactor (base fraction bit : Nat) : Nat := if fraction.testBit bit then base else 1

/-- A bound from below on the power for the lowest bits of a fraction, on scale `precision`. -/
def lowerPower (precision base fraction : Nat) : (bits : Nat) → Nat
  | 0 => 1 <<< precision
  | bit + 1 =>
    floorSqrt ((bitFactor base fraction bit * lowerPower precision base fraction bit) <<< precision)

/-- A bound from above on the power for the lowest bits of a fraction, on scale `precision`. -/
def upperPower (precision base fraction : Nat) : (bits : Nat) → Nat
  | 0 => 1 <<< precision
  | bit + 1 =>
    ceilSqrt ((bitFactor base fraction bit * upperPower precision base fraction bit) <<< precision)

namespace Enclosure

def power (precision base : Nat) (exponent : Exponent) : Enclosure where
  low := base.pow exponent.whole * lowerPower precision base exponent.fraction exponent.depth
  high := base.pow exponent.whole * upperPower precision base exponent.fraction exponent.depth
  scale := precision

/-- One divided by a positive number, on a scale fine enough to keep its precision. -/
def reciprocal (enclosed : Enclosure) : Enclosure :=
  let scale := enclosed.scale + enclosed.high.log2
  { low := (1 <<< (enclosed.scale + scale)) / enclosed.high
    high := (1 <<< (enclosed.scale + scale)) / enclosed.low + 1
    scale }

/-- The double nearest to the enclosed number, where both ends agree on it. -/
def nearest? (enclosed : Enclosure) : Option Float :=
  let low := Double.nearest enclosed.low (-enclosed.scale)
  let high := Double.nearest enclosed.high (-enclosed.scale)
  if low = high then some low else none

end Enclosure

end FlowPriority.Power
