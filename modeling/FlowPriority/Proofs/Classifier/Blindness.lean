import FlowPriority.Proofs.Classifier.Scoring
import FlowPriority.Proofs.Node.Outgoing
import Mathlib.Data.List.Forall2

/-!
What a classifier does not look at.

A blind classifier, and one that does not score, reads neither size hints nor tags: runs that differ
in these alone cannot be told apart, and every hint is left in its place. A classifier that learns
sizes still pays no attention to tags.
-/

namespace FlowPriority

structure Arrival.SameButTag (first second : Arrival) : Prop
    extends SameHeader first second where
  sizeHint : first.packet.sizeHint = second.packet.sizeHint

namespace Classifier

/-- Two arrivals that are alike in everything that classifiers with these options read. -/
structure Alike (options : Options) (first second : Arrival) : Prop
    extends Arrival.SameHeader first second where
  sizeHint : options.learnsSizes = true → first.packet.sizeHint = second.packet.sizeHint

structure Indistinguishable (host : Classifier) (first second : List Arrival) : Prop where
  levels : (passages classify host first).map (·.level) =
    (passages classify host second).map (·.level)
  state : replay classify host first = replay classify host second

theorem isControl_congr (options : Options) {first second : Packet}
    (transport : first.transport = second.transport) :
    options.isControl first = options.isControl second := by
  rw [Options.isControl, Options.isControl, transport]

theorem learn_congr {options : Options} (record : FlowRecord) {first second : Packet}
    (hint : options.learnsSizes = true → first.sizeHint = second.sizeHint) :
    learn options record first = learn options record second := by
  unfold learn
  split
  · rename_i learns
    rw [hint learns]
  · rfl

theorem flowOf_congr (host : Classifier) {first second : Arrival}
    (alike : first.SameHeader second) :
    (Node.classifier host).flowOf first.packet = (Node.classifier host).flowOf second.packet := by
  simp only [Node.flowOf, isControl_congr host.options alike.transport, alike.flow]

theorem levelOf_congr {host : Classifier} {first second : Arrival}
    (alike : Alike host.options first second) (key : FlowKey) (record : FlowRecord) :
    (Node.classifier host).levelOf key record first =
      (Node.classifier host).levelOf key record second := by
  simp only [Node.levelOf, Node.grade, score_level, alike.size, alike.now,
    learn_congr _ alike.sizeHint]

theorem book_congr {host : Classifier} {first second : Arrival}
    (alike : Alike host.options first second) (key : FlowKey) (record : FlowRecord) :
    (Node.classifier host).book key record first =
      (Node.classifier host).book key record second := by
  simp only [Node.book, levelOf_congr alike, Node.grade, score_record, alike.size, alike.now,
    learn_congr _ alike.sizeHint]

theorem enter_congr {host : Classifier} {first second : Arrival}
    (alike : Alike host.options first second) (ledger : Ledger) :
    (Node.classifier host).enter ledger first = (Node.classifier host).enter ledger second := by
  simp only [Node.enter, flowOf_congr host alike.toSameHeader, book_congr alike, alike.size,
    alike.now]

theorem classify_node (host : Classifier) (arrival : Arrival) :
    (host.classify arrival).node =
      { host with ledger := (Node.classifier host).enter host.ledger arrival } :=
  Node.classifier.inj ((Node.classifier host).pass_node arrival)

theorem classify_node_congr {host : Classifier} {first second : Arrival}
    (alike : Alike host.options first second) :
    (host.classify first).node = (host.classify second).node := by
  rw [classify_node, classify_node, enter_congr alike]

theorem classify_level_congr {host : Classifier} {first second : Arrival}
    (alike : Alike host.options first second) :
    (host.classify first).level = (host.classify second).level := by
  have same := flowOf_congr host alike.toSameHeader
  cases booked : (Node.classifier host).flowOf second.packet with
  | none =>
      rw [classify_level_of_gated booked, classify_level_of_gated (same.trans booked)]
  | some key =>
      have firstLevel := Node.pass_level (same.trans booked)
      have secondLevel := Node.pass_level booked
      rw [levelOf_congr alike, ← secondLevel] at firstLevel
      exact firstLevel

theorem classify_packet_congr {host : Classifier} {first second : Arrival}
    (alike : first.SameButTag second) :
    (host.classify first).packet = (host.classify second).packet := by
  have hint : host.options.learnsSizes = true →
      first.packet.sizeHint = second.packet.sizeHint := fun _ => alike.sizeHint
  have level := classify_level_congr ⟨alike.toSameHeader, hint⟩
  have awaits : host.awaitsSize first.packet = host.awaitsSize second.packet := by
    rw [awaitsSize, awaitsSize, isControl_congr host.options alike.transport, alike.flow]
  have retagged (tag : Level) : first.packet.tagged tag = second.packet.tagged tag := by
    simp only [Packet.tagged, alike.size, alike.flow, alike.transport, alike.sizeHint]
  rw [classify_packet, classify_packet, level, awaits]
  split
  · exact congrArg Packet.withoutSizeHint (retagged _)
  · exact retagged _

/-- What every two passages of two traces have in common, the traces have in common. -/
theorem passages_congr {options : Options} {Related : Arrival → Arrival → Prop} {Seen : Type}
    (observe : Passage Classifier → Seen)
    (alike : ∀ first second, Related first second → Alike options first second)
    (step : ∀ (host : Classifier) first second, host.options = options → Related first second →
      observe (host.classify first) = observe (host.classify second))
    {first second : List Arrival} (related : List.Forall₂ Related first second)
    (host : Classifier) (configured : host.options = options) :
    (passages classify host first).map observe = (passages classify host second).map observe ∧
      replay classify host first = replay classify host second := by
  induction related generalizing host with
  | nil => exact ⟨rfl, rfl⟩
  | @cons earliest other rest others same _ ih =>
      -- alike packets leave one and the same classifier behind, so the runs never part
      have node : (host.classify earliest).node = (host.classify other).node := by
        apply classify_node_congr
        rw [configured]
        exact alike _ _ same
      have later := ih (host.classify earliest).node (by rw [classify_node, configured])
      constructor
      · rw [passages, passages, List.map_cons, List.map_cons, later.1, node,
          step host _ _ configured same]
      · change replay classify (host.classify earliest).node rest =
          replay classify (host.classify other).node others
        rw [later.2, node]

theorem indistinguishable_of_alike {host : Classifier} {first second : List Arrival}
    (alike : List.Forall₂ (Alike host.options) first second) :
    Indistinguishable host first second := by
  have step (current : Classifier) (earlier later : Arrival)
      (configured : current.options = host.options) (same : Alike host.options earlier later) :
      (current.classify earlier).level = (current.classify later).level := by
    apply classify_level_congr
    rwa [configured]
  have both := passages_congr (·.level) (fun _ _ same => same) step alike host rfl
  exact ⟨both.1, both.2⟩

theorem map_packet_passages_congr (host : Classifier) {first second : List Arrival}
    (alike : List.Forall₂ Arrival.SameButTag first second) :
    (passages classify host first).map (·.packet) =
      (passages classify host second).map (·.packet) :=
  (passages_congr (·.packet) (fun _ _ same => ⟨same.toSameHeader, fun _ => same.sizeHint⟩)
    (fun _ _ _ _ same => classify_packet_congr same) alike host rfl).1

theorem map_sizeHint_passages {host : Classifier} (learns : host.options.learnsSizes = false)
    (trace : List Arrival) :
    (passages classify host trace).map (·.packet.sizeHint) = trace.map (·.packet.sizeHint) := by
  induction trace generalizing host with
  | nil => rfl
  | cons arrival rest ih =>
      have ignored : host.awaitsSize arrival.packet = false := by
        unfold Options.learnsSizes at learns
        rw [awaitsSize, learns]
        simp
      have kept : (host.classify arrival).packet.sizeHint = arrival.packet.sizeHint := by
        rw [classify_packet, ignored]
        rfl
      have configured : (host.classify arrival).node.options.learnsSizes = false := by
        rw [classify_node]
        exact learns
      rw [passages, List.map_cons, List.map_cons, kept, ih configured]

theorem declaredSize_of_not_learning {options : Options} {host : Classifier}
    (accepted : ofOptions options = .ok host) (learns : host.options.learnsSizes = false)
    {trace : List Arrival} {key : FlowKey} {record : FlowRecord}
    (known : (replay classify host trace).ledger.flow? key = some record) :
    record.declaredSize = none := by
  have declares := declaredSize_replay accepted key trace
  rw [ledger_replay_classify] at known
  have unread : ¬(host.options.scoring = true ∧ host.options.mode = .nonBlind) := by
    rw [← Options.learnsSizes_iff, learns]
    exact Bool.false_ne_true
  rw [Ledger.flow, known, Option.getD_some, declaredBy, if_neg unread] at declares
  exact declares

/--
Where sizes are not learned, hints and tags make no difference to levels and records, and hints go
on as they came. Tags never make a difference, neither to levels and records nor to the packets.
-/
theorem noninterference {options : Options} {host : Classifier}
    (accepted : ofOptions options = .ok host) :
    (options.mode = .blind ∨ options.scoring = false →
      (∀ first second, List.Forall₂ Arrival.SameHeader first second →
        Indistinguishable host first second) ∧
      ∀ trace,
        (∀ key record, (replay classify host trace).ledger.flow? key = some record →
          record.declaredSize = none) ∧
        (passages classify host trace).map (·.packet.sizeHint) =
          trace.map (·.packet.sizeHint)) ∧
    ∀ first second, List.Forall₂ Arrival.SameButTag first second →
      Indistinguishable host first second ∧
      (passages classify host first).map (·.packet) =
        (passages classify host second).map (·.packet) := by
  have configured := options_of_ofOptions accepted
  subst options
  constructor
  · intro unread
    have learns : host.options.learnsSizes = false := by
      rcases unread with blind | silent
      · simp [Options.learnsSizes, blind]
      · simp [Options.learnsSizes, silent]
    refine ⟨?_, ?_⟩
    · intro first second alike
      apply indistinguishable_of_alike
      apply alike.imp
      intro _ _ same
      exact ⟨same, fun reads => absurd (learns.symm.trans reads) Bool.false_ne_true⟩
    · intro trace
      exact ⟨fun _ _ known => declaredSize_of_not_learning accepted learns known,
        map_sizeHint_passages learns trace⟩
  · intro first second alike
    refine ⟨?_, map_packet_passages_congr host alike⟩
    apply indistinguishable_of_alike
    apply alike.imp
    intro _ _ same
    exact ⟨same.toSameHeader, fun _ => same.sizeHint⟩

/-- Two data packets of a flow, with a packet of no flow and a teardown between them. -/
def plainTrace : List Arrival :=
  [⟨.ofFlow ⟨42⟩ 1000, ⟨1000⟩⟩, ⟨.unrecognized 60, ⟨1150⟩⟩,
    ⟨(Packet.ofFlow ⟨42⟩ 40).withFlags .fin, ⟨1100⟩⟩, ⟨.ofFlow ⟨42⟩ 1000, ⟨20000⟩⟩]

/-- The trace with other metadata: a hint on every packet, and a tag in place of any it has. -/
def relabel (flowSize : UInt32) (level : Level) (trace : List Arrival) : List Arrival :=
  trace.map fun arrival =>
    { arrival with packet := (arrival.packet.withSizeHint flowSize).tagged level }

theorem relabel_sameHeader (flowSize : UInt32) (level : Level) (trace : List Arrival) :
    List.Forall₂ Arrival.SameHeader (relabel flowSize level trace) trace := by
  rw [relabel, List.forall₂_map_left_iff, List.forall₂_same]
  intro arrival _
  exact ⟨rfl, rfl, rfl, rfl⟩

theorem relabel_sameButTag (flowSize : UInt32) (first second : Level) (trace : List Arrival) :
    List.Forall₂ Arrival.SameButTag (relabel flowSize first trace)
      (relabel flowSize second trace) := by
  rw [relabel, relabel, List.forall₂_map_left_iff, List.forall₂_map_right_iff, List.forall₂_same]
  intro arrival _
  exact ⟨⟨rfl, rfl, rfl, rfl⟩, rfl⟩

theorem noninterference_plainTrace :
    ∃ blind learning,
      ofOptions { alpha := 10.0 } = .ok blind ∧
      ofOptions { alpha := 10.0, mode := .nonBlind } = .ok learning ∧
      Indistinguishable blind (relabel 10000 7 plainTrace) plainTrace ∧
      (passages classify blind (relabel 10000 7 plainTrace)).map (·.packet.sizeHint) =
        List.replicate 4 (some 10000) ∧
      (passages classify learning (relabel 10000 7 plainTrace)).map (·.packet) =
        (passages classify learning (relabel 10000 1 plainTrace)).map (·.packet) := by
  have blindAccepted : ofOptions { alpha := 10.0 } =
      .ok (.fresh { alpha := 10.0 } (by decide) (by decide)) := rfl
  have learningAccepted : ofOptions { alpha := 10.0, mode := .nonBlind } =
      .ok (.fresh { alpha := 10.0, mode := .nonBlind } (by decide) (by decide)) := rfl
  obtain ⟨alike, left⟩ := (noninterference blindAccepted).1 (.inl rfl)
  have untrusted := (noninterference learningAccepted).2 _ _
    (relabel_sameButTag 10000 7 1 plainTrace)
  refine ⟨_, _, blindAccepted, learningAccepted, ?_, ?_, untrusted.2⟩
  · exact alike _ _ (relabel_sameHeader 10000 7 plainTrace)
  · exact (left _).2

end Classifier

end FlowPriority
