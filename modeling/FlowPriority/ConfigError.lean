import FlowPriority.Decimal.Style
import FlowPriority.Level
import FlowPriority.Text.Quoted

/-!
Misconfigurations found while a classifier or an aggregator is set up.

None of them can be recovered from later: a wrong threshold table would silently corrupt every
classification.
-/

namespace FlowPriority

inductive ConfigError where
  | unknownProfile (id : UInt32)
  /-- A profile name, blanks trimmed off, that no profile has. -/
  | unknownProfileName (name : String)
  | invalidAlpha (alpha : Float)
  | emptyLoadBucket
  /-- A threshold table whose limit at the level exceeds the limit of the level below. -/
  | risingThreshold (level : Level)
deriving DecidableEq

namespace ConfigError

def message : ConfigError → String
  | unknownProfile id => s!"Unknown workload profile: {id.toNat}"
  | unknownProfileName name => "Unknown workload profile name: " ++ Text.quoted name
  | invalidAlpha alpha =>
    "Invalid alpha: " ++ Decimal.Style.plain.write alpha ++ " (must be finite and non-negative)"
  | emptyLoadBucket => "Load bucket width must be non-zero"
  | risingThreshold level => s!"Threshold at level {level.val} is larger than the one below it"

def causeText : ConfigError → String
  | unknownProfile id => s!"UnknownProfile({id.toNat})"
  | unknownProfileName name => "UnknownProfileName(" ++ Text.quoted name ++ ")"
  | invalidAlpha alpha => "InvalidAlpha(" ++ Decimal.Style.marked.write alpha ++ ")"
  | emptyLoadBucket => "InvalidLoadBucket"
  | risingThreshold level => "NonMonotonicThresholds \x7b level: " ++ toString level.val ++ " \x7d"

end ConfigError

end FlowPriority
