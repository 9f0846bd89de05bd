import FlowPriority.Proofs.Node.Diagnostics

/-!
The watch that a node keeps over its clock.

The time of a packet is held against the packet that came before it in its own flow, and against no
other. So a clock that goes back is told of if it does so within a flow. What it does from one flow
to the next, or at packets that count into no record, goes unnoticed.
-/

namespace FlowPriority

/-- Arrivals at which the clock does not go back from one to the next. -/
def Steady (arrivals : List Arrival) : Prop :=
  arrivals.IsChain fun earlier later => ¬later.now < earlier.now

theorem steady_snoc (arrivals : List Arrival) (arrival : Arrival) :
    Steady (arrivals ++ [arrival]) ↔
      Steady arrivals ∧ ∀ last ∈ arrivals.getLast?, ¬arrival.now < last.now := by
  simp [Steady, List.isChain_append]

namespace Node

/-- A packet comes in before the last one of its flow, which came at the given instant. -/
def ClockBack (node : Node) (trace : List Arrival) (arrival : Arrival) (last : Instant) : Prop :=
  ∃ key previous, node.flowOf arrival.packet = some key ∧
    (node.arrivalsOf key trace).getLast? = some previous ∧
    arrival.now < previous.now ∧ previous.now = last

theorem steady_arrivalsOf_snoc_iff (node : Node) (trace : List Arrival) (arrival : Arrival) :
    (∀ key, Steady (node.arrivalsOf key (trace ++ [arrival]))) ↔
      (∀ key, Steady (node.arrivalsOf key trace)) ∧
        ∀ last, ¬node.ClockBack trace arrival last := by
  simp only [arrivalsOf_snoc]
  constructor
  · intro steady
    constructor
    · intro key
      have longer := steady key
      split at longer
      · exact ((steady_snoc _ _).mp longer).1
      · exact longer
    · rintro last ⟨key, previous, own, isLast, earlier, _⟩
      have longer := steady key
      rw [if_pos own, steady_snoc] at longer
      exact longer.2 previous isLast earlier
  · rintro ⟨steady, forward⟩ key
    split
    · rename_i own
      rw [steady_snoc]
      exact ⟨steady key, fun previous isLast earlier =>
        forward previous.now ⟨key, previous, own, isLast, earlier, rfl⟩⟩
    · exact steady key

section Watch

variable {node : Node} (fresh : node.Fresh) (trace : List Arrival)
include fresh

theorem clockBackwards_mem_events_iff (arrival : Arrival) (now last : Instant) :
    .clockBackwards now last ∈ ((replay Node.pass node trace).pass arrival).events ↔
      now = arrival.now ∧ node.ClockBack trace arrival last := by
  constructor
  · intro told
    cases tells_of_mem_events fresh trace told with
    | clockBackwards own isLast earlier => exact ⟨rfl, _, _, own, isLast, earlier, rfl⟩
  · rintro ⟨rfl, key, previous, own, isLast, earlier, rfl⟩
    rw [← map_event_logOf fresh]
    simp [logOf, own, clockLines, isLast, earlier]

theorem told_steady_iff :
    (∀ now last, .clockBackwards now last ∉ node.told trace) ↔
      ∀ key, Steady (node.arrivalsOf key trace) := by
  induction trace using List.reverseRecOn with
  | nil => simp [told, passages, arrivalsOf, Steady]
  | append_singleton trace arrival ih =>
      rw [steady_arrivalsOf_snoc_iff, ← ih]
      simp only [told_snoc, List.mem_append, clockBackwards_mem_events_iff fresh, not_or]
      constructor
      · intro silent
        exact ⟨fun now last => (silent now last).1,
          fun last back => (silent arrival.now last).2 ⟨rfl, back⟩⟩
      · rintro ⟨silent, forward⟩ now last
        exact ⟨silent now last, fun told => forward last told.2⟩

/--
A packet is told of as coming too early just if the packet before it in its flow came later, so a
run is told of no such packet just if the clock is steady within each of its flows.
-/
theorem clock_watched_within_flows :
    (∀ arrival now last,
      .clockBackwards now last ∈ ((replay Node.pass node trace).pass arrival).events ↔
        now = arrival.now ∧ node.ClockBack trace arrival last) ∧
    ((∀ now last, .clockBackwards now last ∉ node.told trace) ↔
      ∀ key, Steady (node.arrivalsOf key trace)) :=
  ⟨clockBackwards_mem_events_iff fresh trace, told_steady_iff fresh trace⟩

end Watch

/-- The clock goes back from one flow to the other, but not within a flow. -/
def crossedFlows : List Arrival :=
  [⟨.ofFlow ⟨7⟩ 1000, ⟨5000⟩⟩, ⟨.ofFlow ⟨8⟩ 1000, ⟨1000⟩⟩, ⟨.ofFlow ⟨8⟩ 1000, ⟨2000⟩⟩]

theorem clock_watched_within_flows_crossed :
    ∃ host, Classifier.ofOptions {} = .ok host ∧
      (∀ now last, .clockBackwards now last ∉ (Node.classifier host).told crossedFlows) ∧
      .clockBackwards ⟨1500⟩ ⟨2000⟩ ∈ ((replay Node.pass (.classifier host) crossedFlows).pass
        ⟨.ofFlow ⟨8⟩ 1000, ⟨1500⟩⟩).events := by
  have accepted : Classifier.ofOptions {} = .ok (.fresh {} (by decide) (by decide)) := rfl
  obtain ⟨packets, run⟩ := clock_watched_within_flows (.classifier accepted) crossedFlows
  refine ⟨_, accepted, run.mpr ?_, (packets _ _ _).mpr ⟨rfl, ⟨8⟩, _, rfl, rfl, by decide, rfl⟩⟩
  intro key
  by_cases seven : ⟨7⟩ = key
  · subst key
    exact List.IsChain.singleton _
  · by_cases eight : ⟨8⟩ = key
    · subst key
      exact .cons_cons (by decide) (.singleton _)
    · have unseen : (Node.classifier (.fresh {} (by decide) (by decide))).arrivalsOf key
          crossedFlows = [] := by
        simp [arrivalsOf, crossedFlows, flowOf, Packet.ofFlow, seven, eight]
      rw [unseen]
      exact .nil

/-- Neither node notices that the clock goes back at another flow, or at a packet of no flow. -/
theorem backwards_clock_unreported :
    ∃ host switch, Classifier.ofOptions {} = .ok host ∧ Aggregator.ofOptions {} = .ok switch ∧
      ∀ node ∈ [Node.classifier host, .aggregator switch],
        ∀ packet ∈ [Packet.ofFlow ⟨8⟩ 1000, .unrecognized 60], ∀ now last,
          .clockBackwards now last ∉ ((replay Node.pass node [⟨.ofFlow ⟨7⟩ 1000, ⟨5000⟩⟩]).pass
            ⟨packet, ⟨1000⟩⟩).events := by
  have accepted : Classifier.ofOptions {} = .ok (.fresh {} (by decide) (by decide)) := rfl
  have made : Aggregator.ofOptions {} = .ok (.fresh {} (by decide)) := rfl
  refine ⟨_, _, accepted, made, ?_⟩
  intro node either packet foreign now last told
  simp only [List.mem_cons, List.not_mem_nil, or_false] at either foreign
  have fresh : node.Fresh := by
    rcases either with rfl | rfl
    · exact .classifier accepted
    · exact .aggregator made
  rw [clockBackwards_mem_events_iff fresh] at told
  obtain ⟨_, key, previous, own, isLast, _⟩ := told
  have sameFlow : node.flowOf (.ofFlow ⟨7⟩ 1000) = node.flowOf packet := by
    have member := List.mem_of_getLast? isLast
    rw [arrivalsOf, List.mem_filter, List.mem_singleton] at member
    obtain ⟨rfl, first⟩ := member
    exact (of_decide_eq_true first).trans own.symm
  rcases either with rfl | rfl
  · rcases foreign with rfl | rfl
    · revert sameFlow
      decide
    · revert sameFlow
      decide
  · rcases foreign with rfl | rfl
    · revert sameFlow
      decide
    · revert sameFlow
      decide

end Node

end FlowPriority
