/-!
Doubles as numbers: the special values, rounding a dyadic number to its nearest double, and the
whole number that a double stands for.

A double unpacks into a sign, a mantissa and a binary exponent, and every operation below is stated
on these three.
-/

namespace FlowPriority.Double

open Float.Model (UnpackedFloat)

def infinity : Float := Float.ofBits 0x7FF0000000000000

def notANumber : Float := Float.ofBits 0x7FF8000000000000

/-- The double nearest to `mantissa * 2 ^ exponent`, the even one of two equally near. -/
def nearest (mantissa : Nat) (exponent : Int) : Float :=
  .ofModel (.pack (UnpackedFloat.round .binary64 .positive mantissa exponent))

/-- The whole number at or below a double, zero for everything that has none. -/
def wholePart (double : Float) : Nat :=
  match double.toModel.unpack with
  | .finite .positive mantissa exponent _ =>
    if 0 ≤ exponent then mantissa <<< exponent.toNat else mantissa >>> (-exponent).toNat
  | _ => 0

end FlowPriority.Double
