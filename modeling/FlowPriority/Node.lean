import FlowPriority.Aggregator
import FlowPriority.Classifier.Basic

/-!
Observation points: a classifier at an endpoint, an aggregator at a switch.
-/

namespace FlowPriority

inductive Node where
  | classifier (host : Classifier)
  | aggregator (switch : Aggregator)

namespace Node

def ledger : Node → Ledger
  | .classifier host => host.ledger
  | .aggregator switch => switch.ledger

def pass (node : Node) (arrival : Arrival) : Passage Node :=
  match node with
  | .classifier host =>
    let passage := host.classify arrival
    { passage with node := .classifier passage.node }
  | .aggregator switch =>
    let passage := switch.observe arrival
    { passage with node := .aggregator passage.node }

end Node

end FlowPriority
