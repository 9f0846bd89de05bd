import FlowPriority.Node
import FlowPriority.Proofs.Classifier.Score
import Mathlib.Data.List.Induction

/-!
What one packet does to the books of a node, and what a whole run does.

A classifier and an aggregator keep the same books. They differ in the packets they leave out of
the flow records, and in how they grade the others: a classifier scores them, an aggregator reads
the level off their tags. A run is a fold of `Node.enter` over the books.
-/

namespace FlowPriority

namespace Node

/-- The flow whose record accounts for a packet, none if it only counts into the totals. -/
def flowOf (node : Node) (packet : Packet) : Option FlowKey :=
  match node with
  | .classifier host => if host.options.isControl packet then none else packet.flow
  | .aggregator _ => packet.flow

def grade (node : Node) (key : FlowKey) (record : FlowRecord) (packet : Packet) :
    Classifier.Scored :=
  match node with
  | .classifier host => Classifier.score host.options key record packet
  | .aggregator _ => { record, packet, level := packet.priority.getD .floor, events := [] }

def levelOf (node : Node) (key : FlowKey) (record : FlowRecord) (arrival : Arrival) : Level :=
  (node.grade key (record.see arrival.packet.size arrival.now) arrival.packet).level

def book (node : Node) (key : FlowKey) (record : FlowRecord) (arrival : Arrival) : FlowRecord :=
  (node.grade key (record.see arrival.packet.size arrival.now) arrival.packet).record.settle
    (node.levelOf key record arrival) arrival.packet.size

/-- Enters a packet into the books: into the totals always, into a record if it has a flow. -/
def enter (node : Node) (ledger : Ledger) (arrival : Arrival) : Ledger :=
  let counted := ledger.recordEgress arrival.packet.size arrival.now
  match node.flowOf arrival.packet with
  | none => counted
  | some key => counted.setFlow key (node.book key (ledger.flow key) arrival)

def withLedger (node : Node) (ledger : Ledger) : Node :=
  match node with
  | .classifier host => .classifier { host with ledger }
  | .aggregator switch => .aggregator { switch with ledger }

@[simp]
theorem ledger_withLedger (node : Node) (ledger : Ledger) :
    (node.withLedger ledger).ledger = ledger := by
  cases node <;> rfl

@[simp]
theorem withLedger_self (node : Node) : node.withLedger node.ledger = node := by
  cases node <;> rfl

@[simp]
theorem withLedger_withLedger (node : Node) (first second : Ledger) :
    (node.withLedger first).withLedger second = node.withLedger second := by
  cases node <;> rfl

@[simp]
theorem flowOf_withLedger (node : Node) (ledger : Ledger) :
    (node.withLedger ledger).flowOf = node.flowOf := by
  cases node <;> rfl

@[simp]
theorem grade_withLedger (node : Node) (ledger : Ledger) :
    (node.withLedger ledger).grade = node.grade := by
  cases node <;> rfl

@[simp]
theorem enter_withLedger (node : Node) (ledger : Ledger) :
    (node.withLedger ledger).enter = node.enter := by
  funext current arrival
  simp only [enter, book, levelOf, flowOf_withLedger, grade_withLedger]

theorem pass_node (node : Node) (arrival : Arrival) :
    (node.pass arrival).node = node.withLedger (node.enter node.ledger arrival) := by
  obtain ⟨packet, now⟩ := arrival
  cases node with
  | classifier host =>
      cases flow : packet.flow with
      | none => simp [pass, Classifier.classify, enter, flowOf, withLedger, ledger, flow]
      | some key =>
          by_cases gated : host.options.isControl packet = true
          · simp [pass, Classifier.classify, enter, flowOf, withLedger, ledger, flow, gated]
          · simp only [pass, Classifier.classify, enter, flowOf, withLedger, ledger, flow, gated]
            rfl
  | aggregator switch =>
      cases flow : packet.flow with
      | none => simp [pass, Aggregator.observe, enter, flowOf, withLedger, ledger, flow]
      | some key =>
          simp only [pass, Aggregator.observe, enter, flowOf, withLedger, ledger, flow]
          rfl

theorem pass_level {node : Node} {arrival : Arrival} {key : FlowKey}
    (booked : node.flowOf arrival.packet = some key) :
    (node.pass arrival).level = node.levelOf key (node.ledger.flow key) arrival := by
  obtain ⟨packet, now⟩ := arrival
  cases node with
  | classifier host =>
      by_cases gated : host.options.isControl packet = true
      · simp [flowOf, gated] at booked
      · have flow : packet.flow = some key := by simpa [flowOf, gated] using booked
        simp only [pass, Classifier.classify, flow, gated]
        rfl
  | aggregator switch =>
      have flow : packet.flow = some key := booked
      simp only [pass, Aggregator.observe, flow]
      rfl

theorem replay_pass (node : Node) (trace : List Arrival) :
    replay Node.pass node trace = node.withLedger (trace.foldl node.enter node.ledger) := by
  induction trace generalizing node with
  | nil => simp [replay]
  | cons arrival rest ih =>
      have step : replay Node.pass node (arrival :: rest) =
          replay Node.pass (node.pass arrival).node rest := rfl
      rw [step, ih, pass_node]
      simp

theorem ledger_replay (node : Node) (trace : List Arrival) :
    (replay Node.pass node trace).ledger = trace.foldl node.enter node.ledger := by
  rw [replay_pass, ledger_withLedger]

theorem ledger_replay_snoc (node : Node) (trace : List Arrival) (arrival : Arrival) :
    (replay Node.pass node (trace ++ [arrival])).ledger =
      node.enter (replay Node.pass node trace).ledger arrival := by
  rw [ledger_replay, ledger_replay, List.foldl_append, List.foldl_cons, List.foldl_nil]

/-- What holds of the books at first, and is kept by every packet, holds after every run. -/
theorem ledger_induction {node : Node} {motive : Ledger → List Arrival → Prop}
    (start : motive node.ledger [])
    (step : ∀ ledger trace arrival, motive ledger trace →
      motive (node.enter ledger arrival) (trace ++ [arrival]))
    (trace : List Arrival) : motive (replay Node.pass node trace).ledger trace := by
  induction trace using List.reverseRecOn with
  | nil => exact start
  | append_singleton trace arrival ih =>
      rw [ledger_replay_snoc]
      exact step _ _ _ ih

theorem level_pass_replay {node : Node} {arrival : Arrival} {key : FlowKey}
    (trace : List Arrival) (booked : node.flowOf arrival.packet = some key) :
    ((replay Node.pass node trace).pass arrival).level =
      node.levelOf key ((replay Node.pass node trace).ledger.flow key) arrival := by
  have later : (replay Node.pass node trace).flowOf arrival.packet = some key := by
    rw [replay_pass, flowOf_withLedger, booked]
  have level := pass_level later
  rw [replay_pass] at level ⊢
  simpa [levelOf] using level

theorem replay_classifier (host : Classifier) (trace : List Arrival) :
    replay Node.pass (.classifier host) trace =
      .classifier (replay Classifier.classify host trace) := by
  induction trace generalizing host with
  | nil => rfl
  | cons arrival rest ih => exact ih (host.classify arrival).node

theorem replay_aggregator (switch : Aggregator) (trace : List Arrival) :
    replay Node.pass (.aggregator switch) trace =
      .aggregator (replay Aggregator.observe switch trace) := by
  induction trace generalizing switch with
  | nil => rfl
  | cons arrival rest ih => exact ih (switch.observe arrival).node

theorem ledger_replay_observe (switch : Aggregator) (trace : List Arrival) :
    (replay Aggregator.observe switch trace).ledger =
      (replay Node.pass (.aggregator switch) trace).ledger := by
  rw [replay_aggregator, ledger]

theorem flow?_enter (node : Node) (ledger : Ledger) (arrival : Arrival) (key : FlowKey) :
    (node.enter ledger arrival).flow? key =
      if node.flowOf arrival.packet = some key then some (node.book key (ledger.flow key) arrival)
      else ledger.flow? key := by
  unfold enter
  cases flow : node.flowOf arrival.packet with
  | none => simp
  | some own =>
      by_cases same : own = key
      · subst own
        simp
      · simp [same]

theorem flow_enter (node : Node) (ledger : Ledger) (arrival : Arrival) (key : FlowKey) :
    (node.enter ledger arrival).flow key =
      if node.flowOf arrival.packet = some key then node.book key (ledger.flow key) arrival
      else ledger.flow key := by
  rw [Ledger.flow, flow?_enter]
  split
  · rfl
  · rfl

/-- A node changes a record beyond its counters in the declared size and the score trace only. -/
theorem book_frame (node : Node) (key : FlowKey) (record : FlowRecord) (arrival : Arrival) :
    ∃ declared scores, node.book key record arrival =
      { record.see arrival.packet.size arrival.now with
        declaredSize := declared, scores := scores }.settle
          (node.levelOf key record arrival) arrival.packet.size := by
  cases node with
  | classifier host =>
      obtain ⟨declared, scores, frame⟩ := Classifier.score_frame host.options key
        (record.see arrival.packet.size arrival.now) arrival.packet
      refine ⟨declared, scores, ?_⟩
      rw [book, grade, frame]
  | aggregator switch => exact ⟨record.declaredSize, record.scores, rfl⟩

theorem book_bytesSent (node : Node) (key : FlowKey) (record : FlowRecord) (arrival : Arrival) :
    (node.book key record arrival).bytesSent =
      record.bytesSent + arrival.packet.size.toUInt64 := by
  obtain ⟨declared, scores, frame⟩ := node.book_frame key record arrival
  rw [frame]
  rfl

theorem book_ageNanos (node : Node) (key : FlowKey) (record : FlowRecord) (arrival : Arrival) :
    (node.book key record arrival).ageNanos =
      (record.see arrival.packet.size arrival.now).ageNanos := by
  obtain ⟨declared, scores, frame⟩ := node.book_frame key record arrival
  rw [frame]
  rfl

end Node

end FlowPriority
