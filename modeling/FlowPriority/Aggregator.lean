import FlowPriority.Ledger
import FlowPriority.Passage

/-!
The aggregator of a switch.

It scores nothing. It trusts the priority tag that a packet carries, counts the packet under the
level of that tag, and leaves it as it is. Packets without a tag count as the floor.
-/

namespace FlowPriority

structure Aggregator.Options where
  loadBucket : Span := ⟨1⟩

structure Aggregator where
  options : Aggregator.Options
  ledger : Ledger

namespace Aggregator

def ofOptions (options : Options) : Except ConfigError Aggregator :=
  match Load.ofWidth options.loadBucket with
  | .ok load => .ok { options, ledger := { load } }
  | .error error => .error error

def observe (aggregator : Aggregator) (arrival : Arrival) : Passage Aggregator :=
  let ⟨packet, now⟩ := arrival
  let ledger := aggregator.ledger.recordEgress packet.size now
  let level := packet.priority.getD .floor
  match packet.flow with
  | none => { node := { aggregator with ledger }, packet, level, events := [] }
  | some key =>
    let known := ledger.flow key
    let record := (known.see packet.size now).settle level packet.size
    { node := { aggregator with ledger := ledger.setFlow key record }
      packet
      level
      events := ledger.openingEvents key ++ known.clockEvents now ++ [.observed key level] }

def flowRates (aggregator : Aggregator) : List Float :=
  aggregator.ledger.toList.filterMap fun (_, record) => record.rate?

end Aggregator

end FlowPriority
