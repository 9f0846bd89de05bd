import FlowPriority.Decimal.Style
import FlowPriority.Flow.Key
import FlowPriority.Profile
import FlowPriority.Time

/-!
Diagnostic events: what a node has to tell about its work, most of it a packet at a time.

Events are returned with the results of the operations that give rise to them, in order. A reader
picks those of a severity that matters, and finds in each a message and named fields.
-/

namespace FlowPriority

inductive Event where
  | classifierReady (profile : Profile) (mode : ScoringMode) (alpha : Float) (scoring : Bool)
  | newFlow (flow : FlowKey)
  | clockBackwards (now last : Instant)
  | missingSizeHint (flow : FlowKey)
  | unrecognizedPacket (size : UInt32)
  | controlPacket (flow : FlowKey)
  | classified (flow : FlowKey) (bytes : UInt64) (level : Level)
  | observed (flow : FlowKey) (level : Level)
deriving DecidableEq

inductive Severity where
  | trace
  | debug
  | info
  | warn
deriving DecidableEq

namespace Severity

def rank : Severity → Nat
  | trace => 0
  | debug => 1
  | info => 2
  | warn => 3

def name : Severity → String
  | trace => "TRACE"
  | debug => "DEBUG"
  | info => "INFO"
  | warn => "WARN"

def ofName? (name : String) : Option Severity :=
  [trace, debug, info, warn].find? fun severity => severity.name = name

end Severity

namespace Event

def severity : Event → Severity
  | classifierReady .. => .info
  | newFlow _ => .debug
  | clockBackwards .. => .warn
  | missingSizeHint _ => .warn
  | unrecognizedPacket _ => .trace
  | controlPacket _ => .trace
  | classified .. => .trace
  | observed .. => .trace

def message : Event → String
  | classifierReady .. => "classifier ready"
  | newFlow _ => "new flow"
  | clockBackwards .. => "clock moved backwards"
  | missingSizeHint _ => "no flow size hint on first packet, assuming a large flow"
  | unrecognizedPacket _ => "no flow key, using level 0"
  | controlPacket _ => "control packet, using level 0"
  | classified .. => "classified"
  | observed .. => "observed"

inductive Field where
  | text (value : String)
  | count (value : Nat)
  | real (value : Float)
  | flag (value : Bool)
deriving DecidableEq

def modeName : ScoringMode → String
  | .blind => "Blind"
  | .nonBlind => "NonBlind"

def fields : Event → List (String × Field)
  | classifierReady profile mode alpha scoring =>
    [("profile", .text (toString profile)), ("mode", .text (modeName mode)), ("alpha", .real alpha),
      ("pbs_enabled", .flag scoring)]
  | newFlow flow => [("flow", .text (toString flow))]
  | clockBackwards now last => [("now", .text (toString now)), ("last", .text (toString last))]
  | missingSizeHint flow => [("flow", .text (toString flow))]
  | unrecognizedPacket size => [("size", .count size.toNat)]
  | controlPacket flow => [("flow", .text (toString flow))]
  | classified flow bytes level =>
    [("flow", .text (toString flow)), ("bytes", .count bytes.toNat),
      ("level", .text (toString level.val))]
  | observed flow level => [("flow", .text (toString flow)), ("level", .text (toString level.val))]

def atLeast (severity : Severity) (events : List Event) : List Event :=
  events.filter fun event => decide (severity.rank ≤ event.severity.rank)

end Event

end FlowPriority
