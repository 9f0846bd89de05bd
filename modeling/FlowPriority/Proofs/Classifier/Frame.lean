import FlowPriority.Proofs.Classifier.Blindness
import FlowPriority.Proofs.Network.Hints
import FlowPriority.Proofs.Node.Forwarding

/-!
What a classifier leaves alone.

Classifying a packet changes one record at most, that of the flow of the packet, and none if the
packet has no flow or is a control packet. The packet itself gets a new tag, and loses its hint
where the size of its flow was still to be learned.
-/

namespace FlowPriority

theorem ControlFlags.isHandshake_iff (flags : ControlFlags) :
    flags.isHandshake = true ↔ flags.contains syn = true ∨ flags.contains fin = true := by
  obtain ⟨⟨bits⟩⟩ := flags
  revert bits
  decide +kernel

namespace Classifier

/-- Whether a packet goes into no record: it has no flow, or the control gate catches it. -/
def Options.LeavesAside (options : Options) (packet : Packet) : Prop :=
  packet.flow = none ∨
    options.controlGate = true ∧ ∃ header, packet.transport = some header ∧
      (header.flags.contains .syn = true ∨ header.flags.contains .fin = true ∨
        header.sourcePort ∈ options.controlPorts ∨ header.destinationPort ∈ options.controlPorts)

/-- Whether a packet tells a classifier the size of a flow that has declared none so far. -/
structure Declares (host : Classifier) (packet : Packet) (key : FlowKey) (hint : UInt32) :
    Prop where
  scoring : host.options.scoring = true
  mode : host.options.mode = .nonBlind
  flow : packet.flow = some key
  booked : ¬host.options.LeavesAside packet
  undeclared : ∀ record, host.ledger.flow? key = some record → record.declaredSize = none
  sizeHint : packet.sizeHint = some hint

/-- What a passage changes in the classifier and in the packet, and what it does not. -/
structure Frame (before : Classifier) (packet : Packet) (passage : Passage Classifier) :
    Prop where
  options : passage.node.options = before.options
  thresholds : passage.node.thresholds = before.thresholds
  known : ∀ key, before.ledger.flow? key ≠ none → passage.node.ledger.flow? key ≠ none
  others : ∀ key, packet.flow ≠ some key →
    passage.node.ledger.flow? key = before.ledger.flow? key
  aside : before.options.LeavesAside packet →
    passage.node.ledger.flows = before.ledger.flows ∧
      passage.packet.sizeHint = packet.sizeHint ∧ passage.level = .floor
  size : passage.packet.size = packet.size
  flow : passage.packet.flow = packet.flow
  transport : passage.packet.transport = packet.transport
  priority : passage.packet.priority = some passage.level
  sizeHint : passage.packet.sizeHint = none ∨ passage.packet.sizeHint = packet.sizeHint
  taken : packet.sizeHint ≠ none ∧ passage.packet.sizeHint = none ↔
    ∃ key hint, Declares before packet key hint
  learned : ∀ key hint, Declares before packet key hint →
    ∃ record, passage.node.ledger.flow? key = some record ∧
      record.declaredSize = some hint.toUInt64

theorem leavesAside_iff (options : Options) (packet : Packet) :
    options.LeavesAside packet ↔ packet.flow = none ∨ options.isControl packet = true := by
  unfold Options.LeavesAside Options.isControl
  cases packet.transport with
  | none => simp
  | some header =>
      simp [ControlFlags.isHandshake_iff, or_assoc, or_comm (a := header.sourcePort ∈ _)]

theorem Options.isControl_of_not_leavesAside {options : Options} {packet : Packet}
    (booked : ¬options.LeavesAside packet) : options.isControl packet = false := by
  rw [leavesAside_iff, not_or, Bool.not_eq_true] at booked
  exact booked.2

variable (host : Classifier)

theorem undeclared_iff (key : FlowKey) :
    (host.ledger.flow key).declaredSize = none ↔
      ∀ record, host.ledger.flow? key = some record → record.declaredSize = none := by
  unfold Ledger.flow
  cases host.ledger.flow? key with
  | none => simp [FlowRecord.fresh]
  | some record => simp

variable {host}

theorem awaitsSize_of_leavesAside {packet : Packet} (aside : host.options.LeavesAside packet) :
    host.awaitsSize packet = false := by
  rcases (leavesAside_iff _ _).mp aside with unkeyed | gated
  · exact (Node.classifier host).awaitsSize_of_unkeyed unkeyed
  · simp [awaitsSize, gated]

theorem Declares.awaitsSize {packet : Packet} {key : FlowKey} {hint : UInt32}
    (declares : Declares host packet key hint) : host.awaitsSize packet = true := by
  rw [awaitsSize_iff declares.flow (Options.isControl_of_not_leavesAside declares.booked),
    Options.learnsSizes_iff, undeclared_iff]
  exact ⟨⟨declares.scoring, declares.mode⟩, declares.undeclared⟩

theorem declares_of_awaitsSize {packet : Packet} (awaits : host.awaitsSize packet = true)
    {hint : UInt32} (hinted : packet.sizeHint = some hint) :
    ∃ key, Declares host packet key hint := by
  have booked : ¬host.options.LeavesAside packet := by
    intro aside
    rw [awaitsSize_of_leavesAside aside] at awaits
    cases awaits
  cases flow : packet.flow with
  | none => exact absurd (.inl flow) booked
  | some key =>
      rw [awaitsSize_iff flow (Options.isControl_of_not_leavesAside booked),
        Options.learnsSizes_iff, undeclared_iff] at awaits
      obtain ⟨⟨scoring, mode⟩, undeclared⟩ := awaits
      exact ⟨key, scoring, mode, flow, booked, undeclared, hinted⟩

theorem flows_classify_of_leavesAside {arrival : Arrival}
    (aside : host.options.LeavesAside arrival.packet) :
    (host.classify arrival).node.ledger.flows = host.ledger.flows ∧
      (host.classify arrival).level = .floor := by
  have unbooked : (Node.classifier host).flowOf arrival.packet = none := by
    rw [Node.flowOf]
    rcases (leavesAside_iff _ _).mp aside with unkeyed | gated
    · rw [unkeyed, ite_self]
    · rw [if_pos gated]
  refine ⟨?_, classify_level_of_gated unbooked⟩
  rw [classify_node, Node.enter, unbooked]
  rfl

variable (host)

theorem flow?_classify (arrival : Arrival) (key : FlowKey) :
    (host.classify arrival).node.ledger.flow? key =
      if (Node.classifier host).flowOf arrival.packet = some key then
        some ((Node.classifier host).book key (host.ledger.flow key) arrival)
      else host.ledger.flow? key := by
  rw [classify_node, Node.flow?_enter]

theorem sizeHint_classify (arrival : Arrival) :
    (host.classify arrival).packet.sizeHint =
      if host.awaitsSize arrival.packet = true then none else arrival.packet.sizeHint :=
  (Node.classifier host).pass_sizeHint arrival

theorem hint_taken_iff (arrival : Arrival) :
    arrival.packet.sizeHint ≠ none ∧ (host.classify arrival).packet.sizeHint = none ↔
      ∃ key hint, Declares host arrival.packet key hint := by
  rw [sizeHint_classify]
  constructor
  · rintro ⟨hinted, gone⟩
    obtain ⟨hint, hinted⟩ := Option.ne_none_iff_exists'.mp hinted
    split at gone
    · rename_i awaits
      obtain ⟨key, declares⟩ := declares_of_awaitsSize awaits hinted
      exact ⟨key, hint, declares⟩
    · rw [hinted] at gone
      cases gone
  · rintro ⟨key, hint, declares⟩
    rw [declares.sizeHint, if_pos declares.awaitsSize]
    exact ⟨Option.some_ne_none _, rfl⟩

theorem flow?_classify_of_declares {arrival : Arrival} {key : FlowKey} {hint : UInt32}
    (declares : Declares host arrival.packet key hint) :
    ∃ record, (host.classify arrival).node.ledger.flow? key = some record ∧
      record.declaredSize = some hint.toUInt64 := by
  have booked := (flowOf_classifier_eq_some_iff host arrival.packet key).mpr
    ⟨declares.flow, Options.isControl_of_not_leavesAside declares.booked⟩
  have learned := (Node.classifier host).declaredSize_pass arrival key
  rw [if_pos ⟨declares.flow, declares.awaitsSize⟩, declares.sizeHint, Option.map_some] at learned
  have recorded := host.flow?_classify arrival key
  rw [if_pos booked] at recorded
  refine ⟨_, recorded, ?_⟩
  rw [← learned, Node.pass]
  simp only [Node.ledger, Ledger.flow, recorded, Option.getD_some]

theorem frame (arrival : Arrival) : Frame host arrival.packet (host.classify arrival) where
  options := by rw [classify_node]
  thresholds := by
    rw [classify_node]
    rfl
  known key recorded := by
    rw [flow?_classify]
    split
    · exact Option.some_ne_none _
    · exact recorded
  others key other := by
    rw [flow?_classify, if_neg]
    rw [flowOf_classifier_eq_some_iff]
    exact fun booked => other booked.1
  aside aside := by
    obtain ⟨flows, level⟩ := flows_classify_of_leavesAside aside
    refine ⟨flows, ?_, level⟩
    rw [sizeHint_classify, awaitsSize_of_leavesAside aside, if_neg Bool.false_ne_true]
  size := ((Node.classifier host).pass_sameHeader arrival).size
  flow := ((Node.classifier host).pass_sameHeader arrival).flow
  transport := ((Node.classifier host).pass_sameHeader arrival).transport
  priority := host.classify_priority arrival
  sizeHint := by
    rw [sizeHint_classify]
    split
    · exact .inl rfl
    · exact .inr rfl
  taken := host.hint_taken_iff arrival
  learned _ _ declares := host.flow?_classify_of_declares declares

theorem Frame.flow?_eq {before : Classifier} {packet : Packet} {passage : Passage Classifier}
    (frame : Frame before packet passage) {key : FlowKey}
    (spared : packet.flow = some key → before.options.LeavesAside packet) :
    passage.node.ledger.flow? key = before.ledger.flow? key := by
  by_cases own : packet.flow = some key
  · rw [Ledger.flow?, (frame.aside (spared own)).1, Ledger.flow?]
  · exact frame.others key own

/--
Classifying a packet after any run changes what `Frame` says and leaves the rest alone. Over the run
as a whole options stay, no record is lost, and flows without data packets keep theirs as they were.
-/
theorem classify_touches_own_flow (trace : List Arrival) :
    (∀ arrival, Frame (replay classify host trace) arrival.packet
      ((replay classify host trace).classify arrival)) ∧
    (replay classify host trace).options = host.options ∧
    ∀ key,
      (host.ledger.flow? key ≠ none → (replay classify host trace).ledger.flow? key ≠ none) ∧
      ((∀ arrival ∈ trace, arrival.packet.flow = some key →
          host.options.LeavesAside arrival.packet) →
        (replay classify host trace).ledger.flow? key = host.ledger.flow? key) := by
  refine ⟨(replay classify host trace).frame, ?_⟩
  induction trace generalizing host with
  | nil => exact ⟨rfl, fun key => ⟨id, fun _ => rfl⟩⟩
  | cons arrival rest ih =>
      have step := host.frame arrival
      obtain ⟨options, records⟩ := ih (host.classify arrival).node
      refine ⟨options.trans step.options, fun key => ?_⟩
      obtain ⟨known, spared⟩ := records key
      refine ⟨fun before => known (step.known key before), fun aside => ?_⟩
      rw [← step.flow?_eq (aside arrival List.mem_cons_self)]
      apply spared
      rw [step.options]
      exact fun later member => aside later (List.mem_cons_of_mem _ member)

def learningHost : Classifier :=
  .fresh { alpha := 2.0, mode := .nonBlind, controlPorts := [5001] } (by decide) (by decide)

def unhintedOpening : Arrival := ⟨.ofFlow ⟨42⟩ 1000, ⟨0⟩⟩

/-- A hint that comes late, on a packet that has been tagged before. -/
def lateHint : Arrival := ⟨((Packet.ofFlow ⟨42⟩ 1000).withSizeHint 5000).tagged 3, ⟨10⟩⟩

def controlHint : Arrival where
  packet := ((Packet.ofFlow ⟨42⟩ 40).withTransport { destinationPort := 5001 }).withSizeHint 5000
  now := ⟨20⟩

theorem classify_touches_own_flow_lateHint :
    ofOptions learningHost.options = .ok learningHost ∧
      let before := replay classify learningHost [unhintedOpening]
      (before.classify lateHint).packet.sizeHint = none ∧
      (∃ record, (before.classify lateHint).node.ledger.flow? ⟨42⟩ = some record ∧
        record.declaredSize = some 5000) ∧
      (before.classify controlHint).packet.sizeHint = some 5000 ∧
      (before.classify controlHint).node.ledger.flows = before.ledger.flows ∧
      (before.classify controlHint).level = .floor := by
  have step := (classify_touches_own_flow learningHost [unhintedOpening]).1
  refine ⟨rfl, ?_⟩
  intro before
  have undeclared : (before.ledger.flow ⟨42⟩).declaredSize = none := by
    have opened := (Node.classifier learningHost).declaredSize_pass unhintedOpening ⟨42⟩
    exact opened.trans (ite_eq_right_iff.mpr fun _ => rfl)
  have aside : before.options.LeavesAside controlHint.packet := by
    rw [leavesAside_iff]
    decide
  have declares : Declares before lateHint.packet ⟨42⟩ 5000 := by
    refine ⟨rfl, rfl, rfl, ?_, (undeclared_iff _ _).mp undeclared, rfl⟩
    rw [leavesAside_iff]
    decide
  obtain ⟨flows, kept, level⟩ := (step controlHint).aside aside
  have taken := (step lateHint).taken.mpr ⟨_, _, declares⟩
  exact ⟨taken.2, (step lateHint).learned _ _ declares, kept, flows, level⟩

end Classifier

end FlowPriority
