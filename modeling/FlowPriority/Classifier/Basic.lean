import FlowPriority.Classifier.Options
import FlowPriority.Ledger
import FlowPriority.Passage

/-!
The priority classifier of an endpoint.

It keeps a record of every flow, scores each data packet by the age of its flow and the bytes sent
or remaining, bins the score into a level and tags the packet with it. Packets without a flow and
control packets go to the floor and leave every flow record untouched. Classifying never fails.
-/

namespace FlowPriority

structure Classifier where
  options : Classifier.Options
  ledger : Ledger
  alpha_accepted : Classifier.Options.acceptsAlpha options.alpha = true

namespace Classifier

/-- Sets up a classifier. The exponent is checked before the width of the load buckets. -/
def ofOptions (options : Options) : Except ConfigError Classifier :=
  if accepted : Options.acceptsAlpha options.alpha = true then
    match Load.ofWidth options.loadBucket with
    | .ok load => .ok { options, ledger := { load }, alpha_accepted := accepted }
    | .error error => .error error
  else .error (.invalidAlpha options.alpha)

def thresholds (classifier : Classifier) : ThresholdTable := classifier.options.thresholds

def readyEvent (classifier : Classifier) : Event :=
  .classifierReady classifier.options.profile classifier.options.mode classifier.options.alpha
    classifier.options.scoring

structure Scored where
  record : FlowRecord
  packet : Packet
  level : Level
  events : List Event

/-- Takes the hint off a packet whose flow has declared no size yet, and learns the size from it. -/
def learnSize (key : FlowKey) (record : FlowRecord) (packet : Packet) :
    FlowRecord × Packet × List Event :=
  match record.declaredSize, packet.sizeHint with
  | some _, _ => (record, packet, [])
  | none, some hint =>
    ({ record with declaredSize := some hint.toUInt64 }, packet.withoutSizeHint, [])
  | none, none => (record, packet, if record.awaitsFirst then [.missingSizeHint key] else [])

def sample (alpha : Float) (record : FlowRecord) (work : UInt64) : ScoreSample where
  score := rawScore record.ageNanos work alpha
  bytesSent := record.bytesSent
  ageNanos := record.ageNanos

def addSample (record : FlowRecord) (taken : ScoreSample) : FlowRecord :=
  { record with scores := record.scores.push taken }

/--
Scores a packet that its record has just seen. The first packet of a blind flow has nothing to go
on: it is scored like any other but put on the floor.
-/
def score (options : Options) (key : FlowKey) (record : FlowRecord) (packet : Packet) : Scored :=
  if !options.scoring then { record, packet, level := .floor, events := [] }
  else
    match options.mode with
    | .blind =>
      let taken := sample options.alpha record record.bytesSent
      { record := addSample record taken
        packet
        level := if record.awaitsFirst then .floor else options.thresholds.bin taken.score
        events := [] }
    | .nonBlind =>
      let (learned, rest, events) := learnSize key record packet
      let taken := sample options.alpha learned learned.remainingBytes
      { record := addSample learned taken
        packet := rest
        level := options.thresholds.bin taken.score
        events }

def classify (classifier : Classifier) (arrival : Arrival) : Passage Classifier :=
  let ⟨packet, now⟩ := arrival
  let ledger := classifier.ledger.recordEgress packet.size now
  match packet.flow with
  | none =>
    { node := { classifier with ledger }
      packet := packet.tagged .floor
      level := .floor
      events := [.unrecognizedPacket packet.size] }
  | some key =>
    if classifier.options.isControl packet then
      { node := { classifier with ledger }
        packet := packet.tagged .floor
        level := .floor
        events := [.controlPacket key] }
    else
      let known := ledger.flow key
      let scored := score classifier.options key (known.see packet.size now) packet
      let record := scored.record.settle scored.level packet.size
      { node := { classifier with ledger := ledger.setFlow key record }
        packet := scored.packet.tagged scored.level
        level := scored.level
        events := ledger.openingEvents key ++ known.clockEvents now ++ scored.events ++
          [.classified key record.bytesSent scored.level] }

end Classifier

end FlowPriority
