import FlowPriority.Event
import FlowPriority.Share

/-!
The running state of one flow, as seen from a single node.

A packet is accounted in two steps: its size and time when it is seen, and its level once that is
known. Byte and packet counters are machine words and wrap.
-/

namespace FlowPriority

structure ScoreSample where
  score : Float
  /-- Bytes of the flow so far, the packet included. -/
  bytesSent : UInt64
  ageNanos : UInt64
deriving DecidableEq

structure FlowRecord where
  bytesSent : UInt64 := 0
  packetsSent : UInt32 := 0
  firstSeen : Instant := .zero
  lastSeen : Instant := .zero
  /-- Whether no packet has been put into a level yet. -/
  awaitsFirst : Bool := true
  declaredSize : Option UInt64 := none
  bytesByLevel : Vector UInt64 8 := .replicate 8 0
  packetsByLevel : Vector UInt32 8 := .replicate 8 0
  scores : Array ScoreSample := #[]
deriving DecidableEq

namespace FlowRecord

/-- The size assumed for a flow that has declared none. Such flows look like large ones. -/
def assumedSize : UInt64 := 20000000

def fresh : FlowRecord := {}

def see (record : FlowRecord) (size : UInt32) (now : Instant) : FlowRecord :=
  { record with
    bytesSent := record.bytesSent + size.toUInt64
    packetsSent := record.packetsSent + 1
    firstSeen := if record.awaitsFirst then now else record.firstSeen
    lastSeen := now }

def clockEvents (record : FlowRecord) (now : Instant) : List Event :=
  if !record.awaitsFirst && now < record.lastSeen then [.clockBackwards now record.lastSeen] else []

/-- Accounts the level of the packet seen last, which closes out the first packet. -/
def settle (record : FlowRecord) (level : Level) (size : UInt32) : FlowRecord :=
  { record with
    bytesByLevel := Level.adjust record.bytesByLevel level (· + size.toUInt64)
    packetsByLevel := Level.adjust record.packetsByLevel level (· + 1)
    awaitsFirst := false }

def age (record : FlowRecord) : Span := record.lastSeen - record.firstSeen

def ageNanos (record : FlowRecord) : UInt64 := saturate record.age.nanos

/-- Bytes left to send, at least one even when more than the whole size has been sent. -/
def remainingBytes (record : FlowRecord) : UInt64 :=
  let size := record.declaredSize.getD assumedSize
  max 1 (if record.bytesSent ≤ size then size - record.bytesSent else 0)

def byteShare (record : FlowRecord) (level : Level) : Float :=
  share (record.bytesByLevel.get level) record.bytesSent

def rate? (record : FlowRecord) : Option Float :=
  if record.ageNanos = 0 then none
  else some (record.bytesSent.toFloat * 8.0 / record.ageNanos.toFloat)

end FlowRecord

end FlowPriority
