import FlowPriority.Load
import FlowPriority.Packet
import FlowPriority.Profile
import FlowPriority.Score

/-!
Options of a classifier: how it scores, which packets it leaves alone, and how it reports its load.

Options are checked once, when a classifier is set up. A custom threshold table wins over the one
of profile and mode in whatever order they are given.
-/

namespace FlowPriority.Classifier

structure Options where
  alpha : Float := defaultAlpha
  profile : Profile := .w1
  customTable : Option ThresholdTable := none
  /-- Whether packets are scored. If not, every one of them goes to the floor. -/
  scoring : Bool := true
  mode : ScoringMode := .blind
  /-- Whether connection setup, teardown and control ports bypass scoring and flow records. -/
  controlGate : Bool := true
  /-- Ports whose traffic counts as control traffic, in either direction. -/
  controlPorts : List UInt16 := []
  loadBucket : Span := ⟨1⟩

namespace Options

inductive Setting where
  | alpha (value : Float)
  | profile (value : Profile)
  | customTable (value : ThresholdTable)
  | scoring (value : Bool)
  | mode (value : ScoringMode)
  | controlGate (value : Bool)
  | controlPort (value : UInt16)
  | loadBucket (value : Span)

def Setting.nonBlind : Setting := .mode .nonBlind

def set (options : Options) : Setting → Options
  | .alpha value => { options with alpha := value }
  | .profile value => { options with profile := value }
  | .customTable value => { options with customTable := some value }
  | .scoring value => { options with scoring := value }
  | .mode value => { options with mode := value }
  | .controlGate value => { options with controlGate := value }
  | .controlPort value => { options with controlPorts := options.controlPorts ++ [value] }
  | .loadBucket value => { options with loadBucket := value }

def ofSettings (settings : List Setting) : Options := settings.foldl set {}

def thresholds (options : Options) : ThresholdTable :=
  options.customTable.getD (options.profile.thresholds options.mode)

def acceptsAlpha (alpha : Float) : Bool := alpha.isFinite && !decide (alpha < 0.0)

def isControl (options : Options) (packet : Packet) : Bool :=
  options.controlGate && packet.transport.any fun header =>
    header.flags.isHandshake || options.controlPorts.contains header.destinationPort ||
      options.controlPorts.contains header.sourcePort

end Options

end FlowPriority.Classifier
