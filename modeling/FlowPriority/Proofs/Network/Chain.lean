import FlowPriority.Proofs.Network.Run
import FlowPriority.Proofs.Node.Forwarding

/-!
A host and the switches behind it.

Every packet is classified once and then passes the switches one after the other. They report the
level that the host chose, and count what the host counts.
-/

namespace FlowPriority

namespace Network

/-- Sends a packet past nodes that it reaches all at the same instant. -/
def sendAtOnce (network : Network) (arrival : Arrival) (names : List String) : Journey :=
  network.send arrival.packet (Stop.atOnce names arrival.now)

/-- What happens to a packet that passes one switch after the other. -/
structure Relayed (network : Network) (arrival : Arrival) (names : List String) : Prop where
  missing : (network.sendAtOnce arrival names).missing = none
  levels : (network.sendAtOnce arrival names).hops.map (·.level) =
    List.replicate names.length (arrival.packet.priority.getD Level.floor)
  observed : ∀ name ∈ names, ∀ switch, network.node? name = some (.aggregator switch) →
    (network.sendAtOnce arrival names).network.node? name =
      some (.aggregator (switch.observe arrival).node)
  elsewhere : ∀ name, name ∉ names →
    (network.sendAtOnce arrival names).network.node? name = network.node? name

theorem relayed {network : Network} {names : List String} (distinct : names.Nodup)
    (present : ∀ name ∈ names, ∃ switch, network.node? name = some (.aggregator switch))
    (arrival : Arrival) : Relayed network arrival names := by
  induction names generalizing network with
  | nil => exact ⟨rfl, rfl, by simp, fun _ _ => rfl⟩
  | cons next names ih =>
      obtain ⟨fresh, distinctRest⟩ := List.nodup_cons.mp distinct
      obtain ⟨switch, found⟩ := present next List.mem_cons_self
      -- no name comes twice, so this hop leaves the switches further on alone
      have others (name : String) (later : name ∈ names) : next ≠ name := by
        intro same
        exact fresh (same ▸ later)
      have untouched (name : String) (later : name ∈ names) :
          (network.put next (.aggregator (switch.observe arrival).node)).node? name =
            network.node? name := by
        rw [node?_put, if_neg (others name later)]
      have rest : Relayed (network.put next (.aggregator (switch.observe arrival).node)) arrival
          names := by
        apply ih distinctRest
        intro name later
        rw [untouched name later]
        exact present name (List.mem_cons_of_mem next later)
      have step : network.sendAtOnce arrival (next :: names) =
          let journey := (network.put next (.aggregator (switch.observe arrival).node)).sendAtOnce
            arrival names
          { journey with
            hops := (Node.aggregator switch).pass arrival :: journey.hops } := by
        rw [sendAtOnce, Stop.atOnce, List.map_cons, send, found]
        simp only [Node.pass, switch.observe_packet]
        rfl
      constructor
      · rw [step]
        exact rest.missing
      · rw [step, List.map_cons, rest.levels, Node.pass, switch.observe_level,
          List.length_cons, List.replicate_succ]
      · intro name member other known
        rw [step]
        rcases List.mem_cons.mp member with here | later
        · subst name
          have same : switch = other := by simpa [found] using known
          rw [rest.elsewhere next fresh, node?_put, if_pos rfl, same]
        · exact rest.observed name later other ((untouched name later).trans known)
      · intro name absent
        rw [List.mem_cons, not_or] at absent
        obtain ⟨different, notLater⟩ := absent
        rw [step]
        change (Network.sendAtOnce _ arrival names).network.node? name = _
        rw [rest.elsewhere name notLater, node?_put, if_neg (Ne.symm different)]

/-- A host just set up, and behind it switches just set up, every node under a name of its own. -/
structure Chain (network : Network) (options : Classifier.Options) (host : String)
    (switches : List String) : Prop where
  distinct : (host :: switches).Nodup
  host : ∃ node, Classifier.ofOptions options = .ok node ∧
    network.node? host = some (.classifier node)
  switches : ∀ name ∈ switches, ∃ switchOptions switch,
    Aggregator.ofOptions switchOptions = .ok switch ∧
      network.node? name = some (.aggregator switch)

/-- What happens to a packet on its way from a host through the switches behind it. -/
structure Delivers (network : Network) (arrival : Arrival) (host : String)
    (switches : List String) (node : Classifier) : Prop where
  missing : (network.sendAtOnce arrival (host :: switches)).missing = none
  levels : (network.sendAtOnce arrival (host :: switches)).hops.map (·.level) =
    List.replicate (host :: switches).length (node.classify arrival).level
  classified : (network.sendAtOnce arrival (host :: switches)).network.node? host =
    some (.classifier (node.classify arrival).node)
  observed : ∀ name ∈ switches, ∀ switch, network.node? name = some (.aggregator switch) →
    (network.sendAtOnce arrival (host :: switches)).network.node? name =
      some (.aggregator
        (switch.observe { arrival with packet := (node.classify arrival).packet }).node)

theorem delivers {network : Network} {host : String} {switches : List String} {node : Classifier}
    (distinct : (host :: switches).Nodup) (found : network.node? host = some (.classifier node))
    (present : ∀ name ∈ switches, ∃ switch, network.node? name = some (.aggregator switch))
    (arrival : Arrival) : Delivers network arrival host switches node := by
  obtain ⟨separate, distinctSwitches⟩ := List.nodup_cons.mp distinct
  have untouched (name : String) (member : name ∈ switches) :
      (network.put host (.classifier (node.classify arrival).node)).node? name =
        network.node? name := by
    rw [node?_put, if_neg]
    intro same
    exact separate (same ▸ member)
  have rest : Relayed (network.put host (.classifier (node.classify arrival).node))
      { arrival with packet := (node.classify arrival).packet } switches := by
    apply relayed distinctSwitches
    intro name member
    rw [untouched name member]
    exact present name member
  have step : network.sendAtOnce arrival (host :: switches) =
      let journey := (network.put host (.classifier (node.classify arrival).node)).sendAtOnce
        { arrival with packet := (node.classify arrival).packet } switches
      { journey with hops := (Node.classifier node).pass arrival :: journey.hops } := by
    rw [sendAtOnce, Stop.atOnce, List.map_cons, send, found]
    rfl
  constructor
  · rw [step]
    exact rest.missing
  · rw [step, List.map_cons, rest.levels, node.classify_priority, List.length_cons,
      List.replicate_succ]
    rfl
  · rw [step]
    change (Network.sendAtOnce _ _ switches).network.node? host = _
    rw [rest.elsewhere host separate, node?_put, if_pos rfl]
  · intro name member switch known
    rw [step]
    exact rest.observed name member switch ((untouched name member).trans known)

def along (names : List String) (trace : List Arrival) : List Dispatch :=
  trace.map fun arrival => ⟨arrival.packet, Stop.atOnce names arrival.now⟩

theorem run_along_snoc (network : Network) (names : List String) (trace : List Arrival)
    (arrival : Arrival) :
    network.run (along names (trace ++ [arrival])) =
      ((network.run (along names trace)).sendAtOnce arrival names).network := by
  rw [along, List.map_append, run_append]
  rfl

section Trace

variable {network : Network} {host : String} {switches : List String} {node : Classifier}

theorem present_of_moved {later : Network} {move : Aggregator → Aggregator}
    (present : ∀ name ∈ switches, ∃ switch, network.node? name = some (.aggregator switch))
    (moved : ∀ name ∈ switches, ∀ switch, network.node? name = some (.aggregator switch) →
      later.node? name = some (.aggregator (move switch))) :
    ∀ name ∈ switches, ∃ switch, later.node? name = some (.aggregator switch) := by
  intro name member
  obtain ⟨switch, known⟩ := present name member
  exact ⟨move switch, moved name member switch known⟩

/-- Along a chain the host runs on the trace, and the switches on what the host lets go. -/
theorem run_along (distinct : (host :: switches).Nodup)
    (found : network.node? host = some (.classifier node))
    (present : ∀ name ∈ switches, ∃ switch, network.node? name = some (.aggregator switch))
    (trace : List Arrival) :
    (network.run (along (host :: switches) trace)).node? host =
        some (.classifier (replay Classifier.classify node trace)) ∧
      ∀ name ∈ switches, ∀ switch, network.node? name = some (.aggregator switch) →
        (network.run (along (host :: switches) trace)).node? name =
          some (.aggregator (replay Aggregator.observe switch (node.forwarded trace))) := by
  induction trace using List.reverseRecOn with
  | nil => exact ⟨found, fun _ _ _ known => known⟩
  | append_singleton trace arrival ih =>
      obtain ⟨atHost, atSwitches⟩ := ih
      have later := delivers distinct atHost (present_of_moved present atSwitches) arrival
      rw [run_along_snoc, replay_append, Classifier.forwarded_snoc]
      refine ⟨later.classified, ?_⟩
      intro name member switch known
      rw [replay_append]
      exact later.observed name member _ (atSwitches name member switch known)

end Trace

/--
Along a chain every switch reports the level that the host gave to the packet. Its books are those
of the host with the control packets added on the floor, whatever the trace.
-/
theorem switches_measure_host {network : Network} {options : Classifier.Options} {host : String}
    {switches : List String} (chain : network.Chain options host switches)
    (trace : List Arrival) :
    (∀ earlier arrival later, trace = earlier ++ arrival :: later →
      let journey := (network.run (along (host :: switches) earlier)).send arrival.packet
        (Stop.atOnce (host :: switches) arrival.now)
      journey.missing = none ∧
        ∃ level, journey.hops.map (·.level) = List.replicate (switches.length + 1) level) ∧
    ∃ node, (network.run (along (host :: switches) trace)).node? host = some (.classifier node) ∧
      ∀ name ∈ switches, ∃ switch,
        (network.run (along (host :: switches) trace)).node? name = some (.aggregator switch) ∧
        Measures (fun key => Classifier.controlPackets options key trace) node.ledger
          switch.ledger := by
  obtain ⟨distinct, ⟨node, accepted, found⟩, switchesFound⟩ := chain
  have present (name : String) (member : name ∈ switches) :
      ∃ switch, network.node? name = some (.aggregator switch) := by
    obtain ⟨_, switch, _, known⟩ := switchesFound name member
    exact ⟨switch, known⟩
  have ran := run_along distinct found present
  constructor
  · intro earlier arrival later _
    have sent := delivers distinct (ran earlier).1 (present_of_moved present (ran earlier).2)
      arrival
    exact ⟨sent.missing, _, sent.levels⟩
  · refine ⟨_, (ran trace).1, ?_⟩
    intro name member
    obtain ⟨switchOptions, switch, switchAccepted, known⟩ := switchesFound name member
    refine ⟨_, (ran trace).2 name member switch known, ?_⟩
    have measures := measures_forwarded accepted switchAccepted trace
    rw [Node.replay_classifier, Node.replay_aggregator,
      Classifier.options_of_ofOptions accepted] at measures
    exact measures

def hostWithTwoSwitches (host : Classifier) (edge core : Aggregator) : Network :=
  ((({} : Network).put "host" (.classifier host)).put "edge" (.aggregator edge)).put "core"
    (.aggregator core)

/-- A flow that opens with a handshake, and a packet of another flow. -/
def openedFlow : List Arrival :=
  [⟨(Packet.ofFlow ⟨7⟩ 40).withFlags .syn, ⟨0⟩⟩, ⟨.ofFlow ⟨7⟩ 1460, ⟨1200⟩⟩,
    ⟨.ofFlow ⟨8⟩ 1460, ⟨1800⟩⟩, ⟨.ofFlow ⟨7⟩ 1460, ⟨2400⟩⟩]

theorem switches_measure_host_openedFlow :
    ∃ host edge core node switch,
      Classifier.ofOptions { alpha := 10.0 } = .ok host ∧
      Aggregator.ofOptions {} = .ok edge ∧
      Aggregator.ofOptions { loadBucket := ⟨100000⟩ } = .ok core ∧
      let network := (hostWithTwoSwitches host edge core).run
        (along ["host", "edge", "core"] openedFlow)
      network.node? "host" = some (.classifier node) ∧
      network.node? "core" = some (.aggregator switch) ∧
      (switch.ledger.flow ⟨7⟩).bytesSent = (node.ledger.flow ⟨7⟩).bytesSent + 40 ∧
      (switch.ledger.flow ⟨7⟩).packetsByLevel.get Level.floor =
        (node.ledger.flow ⟨7⟩).packetsByLevel.get Level.floor + 1 ∧
      (switch.ledger.flow? ⟨8⟩).isSome = (node.ledger.flow? ⟨8⟩).isSome := by
  have hostAccepted : Classifier.ofOptions { alpha := 10.0 } =
      .ok (.fresh { alpha := 10.0 } (by decide) (by decide)) := rfl
  have edgeAccepted : Aggregator.ofOptions {} = .ok (.fresh {} (by decide)) := rfl
  have coreAccepted : Aggregator.ofOptions { loadBucket := ⟨100000⟩ } =
      .ok (.fresh { loadBucket := ⟨100000⟩ } (by decide)) := rfl
  have chain : (hostWithTwoSwitches (.fresh { alpha := 10.0 } (by decide) (by decide))
      (.fresh {} (by decide)) (.fresh { loadBucket := ⟨100000⟩ } (by decide))).Chain
        { alpha := 10.0 } "host" ["edge", "core"] := by
    constructor
    · decide
    · exact ⟨_, hostAccepted, by simp [hostWithTwoSwitches]⟩
    · simp only [List.forall_mem_cons, List.not_mem_nil, false_implies, implies_true, and_true]
      exact ⟨⟨_, _, edgeAccepted, by simp [hostWithTwoSwitches]⟩,
        ⟨_, _, coreAccepted, by simp [hostWithTwoSwitches]⟩⟩
  obtain ⟨_, node, atHost, measured⟩ := switches_measure_host chain openedFlow
  obtain ⟨switch, atCore, measures⟩ := measured "core" (by simp)
  have caught : Classifier.controlPackets { alpha := 10.0 } ⟨7⟩ openedFlow =
      openedFlow.take 1 := by decide +kernel
  have uncaught : Classifier.controlPackets { alpha := 10.0 } ⟨8⟩ openedFlow = [] := by
    decide +kernel
  have sent := (measures.sent ⟨7⟩).1
  have onFloor := (measures.onFloor ⟨7⟩).2
  rw [caught] at sent onFloor
  exact ⟨_, _, _, node, switch, hostAccepted, edgeAccepted, coreAccepted, atHost, atCore, sent,
    onFloor, measures.sameFlows ⟨8⟩ uncaught⟩

end Network

end FlowPriority
