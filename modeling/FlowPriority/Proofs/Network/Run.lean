import FlowPriority.Network
import FlowPriority.Proofs.Node.Outgoing

/-!
Runs of a network: packets sent along paths, one after the other.

A packet pays visits to the nodes on its path. A visit shows the node and the packet before they
have dealt with each other, the hop of a journey what came of it.
-/

namespace FlowPriority

/-- A packet at a node, each as it was before the other. -/
structure Visit where
  name : String
  node : Node
  arrival : Arrival

structure Dispatch where
  packet : Packet
  path : List Stop

namespace Network

@[simp]
theorem node?_put (network : Network) (name other : String) (node : Node) :
    (network.put name node).node? other =
      if name = other then some node else network.node? other := by
  simp [node?, put, Std.ExtTreeMap.getElem?_insert]

/-- The visits of a packet along a path, as far as there are nodes on it. -/
def visits (network : Network) (packet : Packet) : (path : List Stop) → List Visit
  | [] => []
  | ⟨name, now⟩ :: path =>
    match network.node? name with
    | none => []
    | some node =>
      let passage := node.pass ⟨packet, now⟩
      ⟨name, node, ⟨packet, now⟩⟩ :: (network.put name passage.node).visits passage.packet path

/-- The packet as it leaves the last node that it came to. -/
def delivered (network : Network) (dispatch : Dispatch) : Packet :=
  ((network.send dispatch.packet dispatch.path).hops.getLast?.map (·.packet)).getD dispatch.packet

def after (network : Network) (dispatch : Dispatch) : Network :=
  (network.send dispatch.packet dispatch.path).network

def run (network : Network) (dispatches : List Dispatch) : Network := dispatches.foldl after network

theorem hops_send (network : Network) (packet : Packet) (path : List Stop) :
    (network.send packet path).hops =
      (network.visits packet path).map fun visit => visit.node.pass visit.arrival := by
  induction path generalizing network packet with
  | nil => rfl
  | cons stop path ih =>
      rw [send, visits]
      cases network.node? stop.name with
      | none => rfl
      | some node => exact congrArg _ (ih _ _)

section Hop

variable {network : Network} {name : String} {node : Node}

theorem visits_cons (found : network.node? name = some node) (packet : Packet) (now : Instant)
    (path : List Stop) :
    network.visits packet (⟨name, now⟩ :: path) =
      ⟨name, node, ⟨packet, now⟩⟩ ::
        (network.put name (node.pass ⟨packet, now⟩).node).visits
          (node.pass ⟨packet, now⟩).packet path := by
  rw [visits, found]

theorem after_cons (found : network.node? name = some node) (packet : Packet) (now : Instant)
    (path : List Stop) :
    network.after ⟨packet, ⟨name, now⟩ :: path⟩ =
      (network.put name (node.pass ⟨packet, now⟩).node).after
        ⟨(node.pass ⟨packet, now⟩).packet, path⟩ := by
  rw [after, after, send, found]

theorem delivered_cons (found : network.node? name = some node) (packet : Packet) (now : Instant)
    (path : List Stop) :
    network.delivered ⟨packet, ⟨name, now⟩ :: path⟩ =
      (network.put name (node.pass ⟨packet, now⟩).node).delivered
        ⟨(node.pass ⟨packet, now⟩).packet, path⟩ := by
  rw [delivered, delivered, hops_send, hops_send, visits_cons found, List.map_cons,
    List.getLast?_cons]
  cases (List.map (fun visit : Visit => visit.node.pass visit.arrival) _).getLast? <;> rfl

end Hop

/-- A packet stays where it is and changes nothing if there is no node under the next name. -/
theorem send_of_missing {network : Network} {name : String} (missing : network.node? name = none)
    (packet : Packet) (now : Instant) (path : List Stop) :
    network.visits packet (⟨name, now⟩ :: path) = [] ∧
      network.after ⟨packet, ⟨name, now⟩ :: path⟩ = network ∧
      network.delivered ⟨packet, ⟨name, now⟩ :: path⟩ = packet := by
  simp [visits, after, delivered, send, missing]

theorem run_append (network : Network) (first second : List Dispatch) :
    network.run (first ++ second) = (network.run first).run second := by
  rw [run, run, run, List.foldl_append]

end Network

end FlowPriority
