/-!
The shortest decimal that reads back as a given double.

A double stands for all reals that round to it, an interval around it whose ends belong to it when
its mantissa is even. On the coarsest decimal grid with a point in that interval, the nearer of the
value's two neighbours is taken, the upper one of two equally near.
-/

namespace FlowPriority

/-- The number `coefficient * 10 ^ exponent`. -/
structure Decimal where
  coefficient : Nat
  exponent : Int
deriving DecidableEq

namespace Decimal

/--
The reals that round to one double. The value and the two ends are given in units of `2 ^ unit`.
-/
structure Interval where
  low : Nat
  value : Nat
  high : Nat
  unit : Int
  closed : Bool

/--
The interval of `mantissa * 2 ^ exponent`. It reaches half way to either neighbour, and the lower
neighbour of a power of two is twice as near.
-/
def Interval.ofDouble (mantissa : Nat) (exponent : Int) : Interval where
  low := if mantissa = 1 <<< 52 ∧ -1074 < exponent then 4 * mantissa - 1 else 4 * mantissa - 2
  value := 4 * mantissa
  high := 4 * mantissa + 2
  unit := exponent - 2
  closed := mantissa % 2 == 0

/-- The grid point next to the value on the grid of multiples of `10 ^ grid`, if one is inside. -/
def Interval.gridPoint? (interval : Interval) (grid : Int) : Option Nat :=
  let numerator := Nat.pow 10 (-grid).toNat <<< interval.unit.toNat
  let denominator := Nat.pow 10 grid.toNat <<< (-interval.unit).toNat
  let value := interval.value * numerator
  let inside (point : Nat) : Bool :=
    if interval.closed then
      interval.low * numerator ≤ point * denominator ∧ point * denominator ≤ interval.high * numerator
    else
      interval.low * numerator < point * denominator ∧ point * denominator < interval.high * numerator
  let below := value / denominator
  let above := below + 1
  match inside below, inside above with
  | true, true =>
    if value - below * denominator < above * denominator - value then some below else some above
  | true, false => some below
  | false, true => some above
  | false, false => none

/-- A grid that is coarser than `mantissa * 2 ^ exponent` is large. -/
def coarsestGrid (mantissa : Nat) (exponent : Int) : Int :=
  ((mantissa.log2 + 1 + exponent) * 30103) / 100000 + 2

/-- Grids to look at, from the coarsest to one that is finer than any double needs. -/
def gridCount : Nat := 25

/-- The shortest decimal that reads back as `mantissa * 2 ^ exponent`. -/
def shortest (mantissa : Nat) (exponent : Int) : Decimal :=
  let interval := Interval.ofDouble mantissa exponent
  let coarsest := coarsestGrid mantissa exponent
  let found := (List.range gridCount).findSome? fun (step : Nat) =>
    (interval.gridPoint? (coarsest - step)).map fun point => ⟨point, coarsest - step⟩
  found.getD ⟨mantissa, exponent⟩

end Decimal

end FlowPriority
