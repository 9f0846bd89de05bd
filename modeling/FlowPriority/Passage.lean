import FlowPriority.Event
import FlowPriority.Packet

/-!
The passage of a packet through a node, and of a whole trace of packets one after the other.
-/

namespace FlowPriority

/-- What is left when a packet has passed a node. -/
structure Passage (Node : Type) where
  node : Node
  packet : Packet
  /-- The level it was put into or counted in. -/
  level : Level
  events : List Event

structure Arrival where
  packet : Packet
  now : Instant
deriving DecidableEq

def passages {Node : Type} (pass : Node → Arrival → Passage Node) (node : Node) :
    List Arrival → List (Passage Node)
  | [] => []
  | arrival :: rest =>
    let passage := pass node arrival
    passage :: passages pass passage.node rest

def replay {Node : Type} (pass : Node → Arrival → Passage Node) (node : Node)
    (trace : List Arrival) : Node :=
  trace.foldl (fun current arrival => (pass current arrival).node) node

theorem replay_append {Node : Type} (pass : Node → Arrival → Passage Node) (node : Node)
    (first second : List Arrival) :
    replay pass node (first ++ second) = replay pass (replay pass node first) second := by
  simp [replay]

theorem passages_append {Node : Type} (pass : Node → Arrival → Passage Node) (node : Node)
    (first second : List Arrival) :
    passages pass node (first ++ second) =
      passages pass node first ++ passages pass (replay pass node first) second := by
  induction first generalizing node with
  | nil => rfl
  | cons arrival rest ih => simp [passages, replay, ih]

theorem passages_length {Node : Type} (pass : Node → Arrival → Passage Node) (node : Node)
    (trace : List Arrival) : (passages pass node trace).length = trace.length := by
  induction trace generalizing node with
  | nil => rfl
  | cons arrival rest ih => simp [passages, ih]

end FlowPriority
