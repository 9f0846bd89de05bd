import FlowPriority.Node

/-!
Networks of named nodes, and packets on their way through them.
-/

namespace FlowPriority

structure Network where
  nodes : Std.ExtTreeMap String Node := ∅

/-- A name on the way of a packet, and the instant at which the packet gets there. -/
structure Stop where
  name : String
  now : Instant

def Stop.atOnce (names : List String) (now : Instant) : List Stop :=
  names.map fun name => ⟨name, now⟩

namespace Network

def node? (network : Network) (name : String) : Option Node := network.nodes[name]?

def put (network : Network) (name : String) (node : Node) : Network :=
  ⟨network.nodes.insert name node⟩

def remove (network : Network) (name : String) : Network := ⟨network.nodes.erase name⟩

structure Journey where
  network : Network
  hops : List (Passage Node)
  /-- The name under which no node was found, where the packet got lost. -/
  missing : Option String

/-- Sends a packet along a path of nodes. A node may come up more than once. -/
def send (network : Network) (packet : Packet) : (path : List Stop) → Journey
  | [] => ⟨network, [], none⟩
  | ⟨name, now⟩ :: path =>
    match network.node? name with
    | none => ⟨network, [], some name⟩
    | some node =>
      let passage := node.pass ⟨packet, now⟩
      let rest := (network.put name passage.node).send passage.packet path
      { rest with hops := passage :: rest.hops }

end Network

end FlowPriority
