import FlowPriority.Flow.Record
import FlowPriority.Load

/-!
The books of a node: a record for every flow it has seen, and totals over every packet it has
processed, packets of no flow included.
-/

namespace FlowPriority

structure Ledger where
  flows : Std.ExtTreeMap FlowKey FlowRecord := ∅
  totalBytes : UInt64 := 0
  load : Load

namespace Ledger

def recordEgress (ledger : Ledger) (size : UInt32) (now : Instant) : Ledger :=
  { ledger with
    totalBytes := ledger.totalBytes + size.toUInt64
    load := ledger.load.record now size }

def flow? (ledger : Ledger) (key : FlowKey) : Option FlowRecord := ledger.flows[key]?

/-- The record of a flow, a fresh one on first sight. -/
def flow (ledger : Ledger) (key : FlowKey) : FlowRecord := (ledger.flow? key).getD .fresh

def openingEvents (ledger : Ledger) (key : FlowKey) : List Event :=
  if (ledger.flow? key).isNone then [.newFlow key] else []

def setFlow (ledger : Ledger) (key : FlowKey) (record : FlowRecord) : Ledger :=
  { ledger with flows := ledger.flows.insert key record }

def toList (ledger : Ledger) : List (FlowKey × FlowRecord) := ledger.flows.toList

def flowCount (ledger : Ledger) : Nat := ledger.flows.size

@[simp]
theorem flow?_setFlow (ledger : Ledger) (key other : FlowKey) (record : FlowRecord) :
    (ledger.setFlow key record).flow? other = if key = other then some record else ledger.flow? other := by
  simp [flow?, setFlow, Std.ExtTreeMap.getElem?_insert]

@[simp]
theorem flow?_recordEgress (ledger : Ledger) (size : UInt32) (now : Instant) (key : FlowKey) :
    (ledger.recordEgress size now).flow? key = ledger.flow? key := rfl

end Ledger

end FlowPriority
