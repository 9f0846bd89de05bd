import FlowPriority.Proofs.Ledger.Conservation
import FlowPriority.Proofs.Node.Outgoing
import FlowPriority.Report.Basic

/-!
Flows do not see each other.

What becomes of a packet depends on the record of its own flow only, and what becomes of the totals
does not depend on the order of the packets. So two traces that keep the order within each flow lead
to the same levels, packets, records and reports, however the flows are interleaved.
-/

namespace FlowPriority

theorem Ledger.ext_flow? {first second : Ledger}
    (flows : ∀ key, first.flow? key = second.flow? key)
    (totalBytes : first.totalBytes = second.totalBytes) (load : first.load = second.load) :
    first = second := by
  obtain ⟨_, _, _⟩ := first
  obtain ⟨_, _, _⟩ := second
  cases totalBytes
  cases load
  congr
  exact Std.ExtTreeMap.ext_getElem? flows

structure Outcome where
  arrival : Arrival
  level : Level
  packet : Packet
deriving DecidableEq

namespace Node

def arrivalsOf (node : Node) (key : FlowKey) (trace : List Arrival) : List Arrival :=
  trace.filter fun arrival => node.flowOf arrival.packet = some key

def outcomes (node : Node) (trace : List Arrival) : List Outcome :=
  (trace.zip (passages Node.pass node trace)).map fun entry =>
    ⟨entry.1, entry.2.level, entry.2.packet⟩

def outcomesOf (node : Node) (key : FlowKey) (trace : List Arrival) : List Outcome :=
  (node.outcomes trace).filter fun outcome => node.flowOf outcome.arrival.packet = some key

/-- The packet that goes on after it has been booked in the record of its flow. -/
def handOn (node : Node) (key : FlowKey) (record : FlowRecord) (arrival : Arrival) : Packet :=
  let graded := node.grade key (record.see arrival.packet.size arrival.now) arrival.packet
  match node with
  | .classifier _ => graded.packet.tagged graded.level
  | .aggregator _ => graded.packet

def setAside (node : Node) (arrival : Arrival) : Outcome :=
  match node with
  | .classifier _ => ⟨arrival, .floor, arrival.packet.tagged .floor⟩
  | .aggregator _ => ⟨arrival, arrival.packet.priority.getD .floor, arrival.packet⟩

/-- What a node makes of the packets of one flow, taken by themselves. -/
def follow (node : Node) (key : FlowKey) : FlowRecord → List Arrival → List Outcome
  | _, [] => []
  | record, arrival :: rest =>
    ⟨arrival, node.levelOf key record arrival, node.handOn key record arrival⟩ ::
      node.follow key (node.book key record arrival) rest

@[simp]
theorem levelOf_withLedger (node : Node) (ledger : Ledger) :
    (node.withLedger ledger).levelOf = node.levelOf := by
  funext key record arrival
  rw [levelOf, levelOf, grade_withLedger]

@[simp]
theorem book_withLedger (node : Node) (ledger : Ledger) :
    (node.withLedger ledger).book = node.book := by
  funext key record arrival
  rw [book, book, grade_withLedger, levelOf_withLedger]

@[simp]
theorem handOn_withLedger (node : Node) (ledger : Ledger) :
    (node.withLedger ledger).handOn = node.handOn := by
  cases node <;> rfl

@[simp]
theorem setAside_withLedger (node : Node) (ledger : Ledger) :
    (node.withLedger ledger).setAside = node.setAside := by
  cases node <;> rfl

@[simp]
theorem follow_withLedger (node : Node) (ledger : Ledger) :
    (node.withLedger ledger).follow = node.follow := by
  funext key record trace
  induction trace generalizing record with
  | nil => rfl
  | cons arrival rest ih =>
      rw [follow, follow, levelOf_withLedger, handOn_withLedger, book_withLedger, ih]

theorem pass_packet {node : Node} {arrival : Arrival} {key : FlowKey}
    (booked : node.flowOf arrival.packet = some key) :
    (node.pass arrival).packet = node.handOn key (node.ledger.flow key) arrival := by
  obtain ⟨packet, now⟩ := arrival
  cases node with
  | classifier host =>
      by_cases gated : host.options.isControl packet = true
      · simp [flowOf, gated] at booked
      · have flow : packet.flow = some key := by simpa [flowOf, gated] using booked
        simp only [pass, Classifier.classify, flow, gated]
        rfl
  | aggregator switch => exact switch.observe_packet ⟨packet, now⟩

theorem pass_setAside {node : Node} {arrival : Arrival}
    (unbooked : node.flowOf arrival.packet = none) :
    ⟨arrival, (node.pass arrival).level, (node.pass arrival).packet⟩ = node.setAside arrival := by
  cases node with
  | classifier host =>
      have level := Classifier.classify_level_of_gated unbooked
      have ignored : host.awaitsSize arrival.packet = false := by
        rw [flowOf_eq_none_iff, leavesOut, Bool.or_eq_true, Option.isNone_iff_eq_none] at unbooked
        rcases unbooked with unkeyed | gated
        · simp [Classifier.awaitsSize, unkeyed]
        · simp [Classifier.awaitsSize, gated]
      simp only [pass, Classifier.classify_packet, level, ignored, setAside]
      rfl
  | aggregator switch =>
      simp only [pass, switch.observe_packet, switch.observe_level, setAside]

theorem outcomes_cons (node : Node) (arrival : Arrival) (rest : List Arrival) :
    node.outcomes (arrival :: rest) =
      ⟨arrival, (node.pass arrival).level, (node.pass arrival).packet⟩ ::
        (node.pass arrival).node.outcomes rest := rfl

theorem outcomesOf_eq_follow (node : Node) (key : FlowKey) (trace : List Arrival) :
    node.outcomesOf key trace =
      node.follow key (node.ledger.flow key) (node.arrivalsOf key trace) := by
  induction trace generalizing node with
  | nil => rfl
  | cons arrival rest ih =>
      -- a packet of another flow changes the ledger, but not the record that is followed
      have later := ih (node.pass arrival).node
      rw [pass_node, outcomesOf, arrivalsOf] at later
      simp only [flowOf_withLedger, follow_withLedger, ledger_withLedger, flow_enter] at later
      rw [outcomesOf, arrivalsOf, outcomes_cons, pass_node]
      by_cases booked : node.flowOf arrival.packet = some key
      · rw [if_pos booked] at later
        simp only [booked, decide_true, List.filter_cons_of_pos, later, follow]
        rw [pass_level booked, pass_packet booked]
      · rw [if_neg booked] at later
        simpa [booked] using later

theorem outcomes_setAside (node : Node) (trace : List Arrival) :
    (node.outcomes trace).filter (fun outcome => node.flowOf outcome.arrival.packet = none) =
      (trace.filter fun arrival => node.flowOf arrival.packet = none).map node.setAside := by
  induction trace generalizing node with
  | nil => rfl
  | cons arrival rest ih =>
      have later := ih (node.pass arrival).node
      rw [pass_node] at later
      simp only [flowOf_withLedger, setAside_withLedger] at later
      rw [outcomes_cons, pass_node]
      by_cases unbooked : node.flowOf arrival.packet = none
      · simp only [unbooked, decide_true, List.filter_cons_of_pos, later, List.map_cons]
        rw [pass_setAside unbooked]
      · simpa [unbooked] using later

theorem flow?_replay (node : Node) (key : FlowKey) (trace : List Arrival) :
    (replay Node.pass node trace).ledger.flow? key =
      if node.arrivalsOf key trace = [] then node.ledger.flow? key
      else some ((node.arrivalsOf key trace).foldl (node.book key) (node.ledger.flow key)) := by
  induction trace using List.reverseRecOn with
  | nil => rfl
  | append_singleton trace arrival ih =>
      have soFar : (replay Node.pass node trace).ledger.flow key =
          (node.arrivalsOf key trace).foldl (node.book key) (node.ledger.flow key) := by
        rw [Ledger.flow, ih]
        split
        · rename_i nothing
          rw [nothing]
          rfl
        · rfl
      rw [ledger_replay_snoc, flow?_enter, soFar]
      by_cases booked : node.flowOf arrival.packet = some key
      · simp [arrivalsOf, booked]
      · simpa [arrivalsOf, booked] using ih

theorem totalBytes_replay_add (node : Node) (trace : List Arrival) :
    (replay Node.pass node trace).ledger.totalBytes =
      node.ledger.totalBytes + UInt64.ofNat (bytesOf trace) := by
  apply ledger_induction (motive := fun ledger trace =>
    ledger.totalBytes = node.ledger.totalBytes + UInt64.ofNat (bytesOf trace))
  · simp
  · intro ledger trace arrival counted
    simp [totalBytes_enter, counted, UInt64.ofNat_add, add_assoc]

theorem replay_congr (node : Node) {first second : List Arrival} (permuted : first.Perm second)
    (ordered : ∀ key, node.arrivalsOf key first = node.arrivalsOf key second) :
    replay Node.pass node first = replay Node.pass node second := by
  have books : (replay Node.pass node first).ledger = (replay Node.pass node second).ledger := by
    apply Ledger.ext_flow?
    · intro key
      rw [flow?_replay, flow?_replay, ordered]
    · rw [totalBytes_replay_add, totalBytes_replay_add, bytesOf_perm permuted]
    · rw [load_replay, load_replay, Load.recordAll_perm _ permuted]
  rw [ledger_replay, ledger_replay] at books
  rw [replay_pass, replay_pass, books]

theorem outcomesOf_congr (node : Node) {first second : List Arrival} (key : FlowKey)
    (ordered : node.arrivalsOf key first = node.arrivalsOf key second) :
    node.outcomesOf key first = node.outcomesOf key second := by
  rw [outcomesOf_eq_follow, outcomesOf_eq_follow, ordered]

theorem outcomes_perm (node : Node) {first second : List Arrival} (permuted : first.Perm second)
    (ordered : ∀ key, node.arrivalsOf key first = node.arrivalsOf key second) :
    (node.outcomes first).Perm (node.outcomes second) := by
  rw [List.perm_iff_count]
  intro outcome
  -- an outcome occurs among those of its own flow, or among those of packets set aside
  cases booked : node.flowOf outcome.arrival.packet with
  | some key =>
      have own : decide (node.flowOf outcome.arrival.packet = some key) = true := by simp [booked]
      have same := outcomesOf_congr node key (ordered key)
      have counted (trace : List Arrival) := List.count_filter (l := node.outcomes trace)
        (p := fun outcome => node.flowOf outcome.arrival.packet = some key) own
      rw [← counted, ← counted]
      exact congrArg (List.count outcome) same
  | none =>
      have aside : decide (node.flowOf outcome.arrival.packet = none) = true := by simp [booked]
      have counted (trace : List Arrival) := List.count_filter (l := node.outcomes trace)
        (p := fun outcome => node.flowOf outcome.arrival.packet = none) aside
      rw [← counted, ← counted, outcomes_setAside, outcomes_setAside]
      exact ((permuted.filter _).map _).count_eq outcome

/--
Traces that are rearranged without changing the order within any flow give every packet the same
level and send it on alike. They end in the same records, totals and load series, and in the same
reports.
-/
theorem interleaving_unobservable (node : Node) {first second : List Arrival}
    (permuted : first.Perm second)
    (ordered : ∀ key, node.arrivalsOf key first = node.arrivalsOf key second) :
    (∀ key, node.outcomesOf key first = node.outcomesOf key second) ∧
    (node.outcomes first).Perm (node.outcomes second) ∧
    replay Node.pass node first = replay Node.pass node second ∧
    ∀ kind, (replay Node.pass node first).report kind =
      (replay Node.pass node second).report kind := by
  have state := replay_congr node permuted ordered
  refine ⟨?_, node.outcomes_perm permuted ordered, state, ?_⟩
  · intro key
    exact outcomesOf_congr node key (ordered key)
  · intro kind
    rw [state]

/-- Two flows one after the other, then a handshake and a packet of no flow. -/
def flowAfterFlow : List Arrival :=
  [⟨(Packet.ofFlow ⟨7⟩ 1000).withSizeHint 10000, ⟨1000⟩⟩, ⟨.ofFlow ⟨7⟩ 1000, ⟨500⟩⟩,
    ⟨.ofFlow ⟨8⟩ 1500, ⟨1200⟩⟩, ⟨.ofFlow ⟨8⟩ 1500, ⟨9000⟩⟩,
    ⟨(Packet.ofFlow ⟨7⟩ 40).withFlags .syn, ⟨0⟩⟩, ⟨.unrecognized 60, ⟨9500⟩⟩]

def flowsInterleaved : List Arrival :=
  [⟨(Packet.ofFlow ⟨7⟩ 40).withFlags .syn, ⟨0⟩⟩, ⟨.unrecognized 60, ⟨9500⟩⟩,
    ⟨.ofFlow ⟨8⟩ 1500, ⟨1200⟩⟩, ⟨(Packet.ofFlow ⟨7⟩ 1000).withSizeHint 10000, ⟨1000⟩⟩,
    ⟨.ofFlow ⟨8⟩ 1500, ⟨9000⟩⟩, ⟨.ofFlow ⟨7⟩ 1000, ⟨500⟩⟩]

theorem interleaving_unobservable_twoFlows :
    ∃ host, Classifier.ofOptions { alpha := 10.0, mode := .nonBlind } = .ok host ∧
      (Node.classifier host).outcomesOf ⟨7⟩ flowAfterFlow =
        (Node.classifier host).outcomesOf ⟨7⟩ flowsInterleaved ∧
      ∀ kind, (replay Node.pass (.classifier host) flowAfterFlow).report kind =
        (replay Node.pass (.classifier host) flowsInterleaved).report kind := by
  have accepted : Classifier.ofOptions { alpha := 10.0, mode := .nonBlind } =
      .ok (.fresh { alpha := 10.0, mode := .nonBlind } (by decide) (by decide)) := rfl
  have permuted : flowAfterFlow.Perm flowsInterleaved := by decide
  have ordered (key : FlowKey) :
      (Node.classifier (.fresh { alpha := 10.0, mode := .nonBlind } (by decide)
        (by decide))).arrivalsOf key flowAfterFlow =
      (Node.classifier (.fresh { alpha := 10.0, mode := .nonBlind } (by decide)
        (by decide))).arrivalsOf key flowsInterleaved := by
    by_cases seven : ⟨7⟩ = key
    · subst key
      rfl
    · by_cases eight : ⟨8⟩ = key
      · subst key
        rfl
      · simp [arrivalsOf, flowAfterFlow, flowsInterleaved, flowOf, Packet.ofFlow,
          Packet.withSizeHint, Packet.withFlags, Packet.unrecognized, seven, eight]
  obtain ⟨outcomes, _, _, texts⟩ := interleaving_unobservable _ permuted ordered
  exact ⟨_, accepted, outcomes ⟨7⟩, texts⟩

end Node

end FlowPriority
