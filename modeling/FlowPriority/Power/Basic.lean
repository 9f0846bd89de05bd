import FlowPriority.Power.Enclosure

/-!
Correctly rounded powers: a natural number raised to a double, rounded once to the nearest double.

The power is enclosed more and more closely until both ends round to the same double. Should no
precision on the list be enough, the root is taken of exact integers instead, so that the result is
the nearest double for every input.
-/

namespace FlowPriority.Power

/-- Bits after the point that are tried one after the other. -/
def precisions : List Nat := [128, 512, 2048]

/-- Bits after the point that are enough for a double of any size. -/
def exactPrecision : Nat := 1200

/-- The nearest double to a quotient's root of order `2 ^ depth`, from exact integers. -/
def nearestRoot (numerator denominator depth : Nat) : Float :=
  let scaled := numerator <<< (exactPrecision <<< depth)
  let root := floorRoot depth (scaled / denominator)
  let inexact := if root.pow (1 <<< depth) * denominator = scaled then 0 else 1
  Double.nearest (2 * root + inexact) (-(exactPrecision + 1 : Nat))

def settle (enclosure : Nat → Enclosure) : Option Float :=
  precisions.findSome? fun precision => (enclosure precision).nearest?

def raise (base : Nat) (exponent : Exponent) : Float :=
  if 1024 ≤ exponent.whole * base.log2 then Double.infinity
  else
    match settle fun precision => .power precision base exponent with
    | some double => double
    | none => nearestRoot (base.pow exponent.numerator) 1 exponent.depth

def lower (base : Nat) (exponent : Exponent) : Float :=
  if 1075 ≤ exponent.whole * base.log2 then 0.0
  else
    match settle fun precision => (Enclosure.power precision base exponent).reciprocal with
    | some double => double
    | none => nearestRoot 1 (base.pow exponent.numerator) exponent.depth

/-- A positive natural number raised to a double. One stays one whatever the exponent. -/
def power (base : Nat) (exponent : Float) : Float :=
  if base ≤ 1 then 1.0
  else
    match exponent.toModel.unpack with
    | .notANumber => Double.notANumber
    | .infinity .positive => Double.infinity
    | .infinity .negative => 0.0
    | .zero _ => 1.0
    | .finite .positive mantissa binary _ => raise base (.ofDyadic mantissa binary)
    | .finite .negative mantissa binary _ => lower base (.ofDyadic mantissa binary)

end FlowPriority.Power
