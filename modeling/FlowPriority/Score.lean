import FlowPriority.Power.Basic

/-!
Raw scores: the age of a flow weighed against its work, the bytes sent so far or those remaining.
-/

namespace FlowPriority

def defaultAlpha : Float := 0.001

/-- Age over work to the power `alpha`. No work at all counts as one byte. -/
def rawScore (ageNanos work : UInt64) (alpha : Float) : Float :=
  ageNanos.toFloat / Power.power (Double.wholePart (max work 1).toFloat) alpha

end FlowPriority
