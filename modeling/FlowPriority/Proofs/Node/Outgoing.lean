import FlowPriority.Proofs.Node.Step

/-!
The packet as it leaves a node.

Size, flow and transport header stay as they are. A classifier replaces the tag, and takes the hint
off a packet when it has yet to learn the size of the flow. An aggregator changes nothing.
-/

namespace FlowPriority

/-- Two arrivals that are alike but for the size hint and the tag of their packets. -/
structure Arrival.SameHeader (first second : Arrival) : Prop where
  now : first.now = second.now
  size : first.packet.size = second.packet.size
  flow : first.packet.flow = second.packet.flow
  transport : first.packet.transport = second.packet.transport

/-- Whether a classifier looks for the size of the flow that a packet belongs to. -/
def Classifier.awaitsSize (host : Classifier) (packet : Packet) : Bool :=
  host.options.scoring && host.options.mode == .nonBlind && !host.options.isControl packet &&
    packet.flow.any fun key => (host.ledger.flow key).declaredSize.isNone

theorem Classifier.awaitsSize_iff {host : Classifier} {packet : Packet} {key : FlowKey}
    (flow : packet.flow = some key) (letThrough : host.options.isControl packet = false) :
    host.awaitsSize packet = true ↔
      host.options.learnsSizes = true ∧ (host.ledger.flow key).declaredSize = none := by
  simp [awaitsSize, Options.learnsSizes, flow, letThrough]

theorem Classifier.classify_packet (host : Classifier) (arrival : Arrival) :
    (host.classify arrival).packet =
      (if host.awaitsSize arrival.packet then arrival.packet.withoutSizeHint
        else arrival.packet).tagged (host.classify arrival).level := by
  obtain ⟨packet, now⟩ := arrival
  cases flow : packet.flow with
  | none => simp [classify, awaitsSize, flow]
  | some key =>
      cases gated : host.options.isControl packet with
      | true => simp [classify, awaitsSize, flow, gated]
      | false =>
          have taken : (score host.options key ((host.ledger.flow key).see packet.size now)
              packet).packet =
                if host.awaitsSize packet then packet.withoutSizeHint else packet := by
            simp only [score_packet, awaitsSize_iff flow gated]
            rfl
          simp only [classify, flow, gated, Bool.false_eq_true, if_false]
          exact congrArg (Packet.tagged · _) taken

theorem Classifier.classify_level_of_gated {host : Classifier} {arrival : Arrival}
    (unbooked : (Node.classifier host).flowOf arrival.packet = none) :
    (host.classify arrival).level = .floor := by
  obtain ⟨packet, now⟩ := arrival
  cases flow : packet.flow with
  | none => simp [classify, flow]
  | some key =>
      have gated : host.options.isControl packet = true := by
        simpa [Node.flowOf, flow] using unbooked
      simp [classify, flow, gated]

theorem Aggregator.observe_packet (switch : Aggregator) (arrival : Arrival) :
    (switch.observe arrival).packet = arrival.packet := by
  obtain ⟨packet, now⟩ := arrival
  cases flow : packet.flow <;> simp [observe, flow]

theorem Aggregator.observe_level (switch : Aggregator) (arrival : Arrival) :
    (switch.observe arrival).level = arrival.packet.priority.getD .floor := by
  obtain ⟨packet, now⟩ := arrival
  cases flow : packet.flow <;> simp [observe, flow]

namespace Node

def awaitsSize (node : Node) (packet : Packet) : Bool :=
  match node with
  | .classifier host => host.awaitsSize packet
  | .aggregator _ => false

/-- Nothing but hint and tag of a packet changes on its way through a node. -/
theorem pass_sameHeader (node : Node) (arrival : Arrival) :
    Arrival.SameHeader { arrival with packet := (node.pass arrival).packet } arrival := by
  cases node with
  | classifier host =>
      rw [pass, host.classify_packet]
      split
      · exact ⟨rfl, rfl, rfl, rfl⟩
      · exact ⟨rfl, rfl, rfl, rfl⟩
  | aggregator switch =>
      rw [pass, switch.observe_packet]
      exact ⟨rfl, rfl, rfl, rfl⟩

theorem pass_sizeHint (node : Node) (arrival : Arrival) :
    (node.pass arrival).packet.sizeHint =
      if node.awaitsSize arrival.packet then none else arrival.packet.sizeHint := by
  cases node with
  | classifier host =>
      rw [pass, host.classify_packet, awaitsSize]
      split
      · rfl
      · rfl
  | aggregator switch => rw [pass, switch.observe_packet, awaitsSize, if_neg Bool.false_ne_true]

end Node

end FlowPriority
